import TruncatedSha.FileTree
import TruncatedSha.Checksum.Entry

/-!
# Inputs and printed lists

An input is a file, or the standard input under the name `-`. The standard input is read to its end or
to a failure, and when it is named again it is read on from there.

A list has one checksum line for each input, in order, up to the first that cannot be hashed. Without
names the standard input is hashed.
-/
namespace TruncatedSha.Checksum

def standardName : String := "-"

/-- What the tools can read. -/
structure World where
  files : String → Except FileError (List Read)
  standardInput : List Read

/-- No file has an empty name, or one with a NUL byte in it. -/
def World.openFile (w : World) (name : String) : Except FileError (List Read) :=
  if name.toList.contains '\x00' then .error .nulByte
  else if name = "" then .error .notFound
  else w.files name

/-- Why an input has no digest. If it is too long for one, no caller goes on. -/
inductive InputError where
  | cannotOpen (name : String) (error : FileError)
  | cannotRead (name : String) (reason : String)
  | cannotReadStandard (reason : String)
  | overflow (error : LengthOverflow)
  deriving DecidableEq

namespace InputError

def ofRead (failed : String → InputError) : Reader.ReadError → InputError
  | .failed reason => failed reason
  | .overflow error => overflow error

def summary : InputError → String
  | cannotOpen name _ => "failed to open " ++ name
  | cannotRead name _ => "failed to read " ++ name
  | cannotReadStandard _ => "failed to read standard input"
  | overflow error => error.message

def cause : InputError → Option String
  | cannotOpen _ error => some error.message
  | cannotRead _ reason | cannotReadStandard reason => some reason
  | overflow _ => none

def message (e : InputError) : String :=
  match e.cause with
  | some cause => e.summary ++ ": " ++ cause
  | none => e.summary

end InputError

/-- The digest of an input, and the world after it has been read. -/
def hashInput (world : World) (name : String) : Except InputError Digest × World :=
  if name = standardName then
    ((Reader.hash .unrolled world.standardInput).mapError (.ofRead .cannotReadStandard),
      { world with standardInput := Reader.rest world.standardInput })
  else
    match world.openFile name with
    | .error e => (.error (.cannotOpen name e), world)
    | .ok reads => ((Reader.hash .unrolled reads).mapError (.ofRead (.cannotRead name)), world)

/-! ## Printing -/

/-- The inputs that are meant by a list of names. -/
def inputs (names : List String) : List String :=
  if names.isEmpty then [standardName] else names

/-- The entries before the first failure, and that failure. -/
def entries (world : World) : List String → List Entry × Option InputError
  | [] => ([], none)
  | name :: rest =>
    match hashInput world name with
    | (.error e, _) => ([], some e)
    | (.ok digest, world) =>
      let (later, failure) := entries world rest
      (⟨digest, name⟩ :: later, failure)

def listing (entries : List Entry) : String :=
  String.join (entries.map fun e => e.format ++ "\n")

/-- What is printed for a list of names, and the failure that ended it. -/
def print (world : World) (names : List String) : String × Option InputError :=
  let (entries, failure) := entries world (inputs names)
  (listing entries, failure)

/-! ## Inputs at their places -/

namespace World

/-- What there is to read under a name. -/
def source (w : World) (name : String) : Except FileError (List Read) :=
  if name = "-" then .ok w.standardInput else w.openFile name

/-- What reading an input comes to, if it is not too long: its digest or a complaint. -/
def reading (w : World) (name : String) : Except LengthOverflow (Except String Digest) :=
  match w.source name with
  | .error error => .ok (.error ("failed to open " ++ name ++ ": " ++ error.message))
  | .ok reads =>
    (hash .unrolled (Reader.contents reads)).map fun digest =>
      match Reader.failure reads with
      | none => .ok digest
      | some reason =>
        let which := if name = "-" then "standard input" else name
        .error ("failed to read " ++ which ++ ": " ++ reason)

/-- The digest of an input, if all of it can be read. -/
def digest? (w : World) (name : String) : Option Digest :=
  match w.source name with
  | .error _ => none
  | .ok reads =>
    if Reader.failure reads = none then (hash .unrolled (Reader.contents reads)).toOption else none

/-- The world in which an input has been read. -/
def after (w : World) (name : String) : World :=
  if name = "-" then { w with standardInput := Reader.behind w.standardInput } else w

/-- The world in which some inputs have been read, one after another. -/
def past (w : World) (names : List String) : World := names.foldl after w

/-- The digests of all inputs, each at its place. -/
def digests (w : World) (names : List String) : List (Option Digest) :=
  names.mapIdx fun i name => (w.past (names.take i)).digest? name

/-- What reading all inputs comes to, each at its place. -/
def readings (w : World) (names : List String) : List (Except LengthOverflow (Except String Digest)) :=
  names.mapIdx fun i name => (w.past (names.take i)).reading name

end World

/-- A name that a line ends with just as it is. -/
def FitsLine (name : String) : Prop := '\n' ∉ name.toList ∧ name.toList.getLast? ≠ some '\r'

instance (name : String) : Decidable (FitsLine name) :=
  inferInstanceAs (Decidable (_ ∧ _))

end TruncatedSha.Checksum
