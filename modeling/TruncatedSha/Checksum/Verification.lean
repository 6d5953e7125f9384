import TruncatedSha.Checksum.Listing
import TruncatedSha.Text.Space
import TruncatedSha.Log

/-!
# Verifying checksums

A list of checksum lines is checked line by line; blank lines count for the line numbers only. A
line that is no checksum line and an input that cannot be read each give a warning. The verdict is
reached at the end, and failed checks weigh more than malformed lines. An input that is too long for a
digest ends the run before there is a verdict.

The loop counts what it comes across. A report says the same without counting: each line has one
finding, which depends on the line and on the inputs that it finds, and the lines in front of it matter
in one way only, which is that they may have read from the standard input.
-/
namespace TruncatedSha.Checksum

/-- Why a list is not accepted. -/
inductive Rejection where
  | mismatches (count : Nat)
  | malformed (count : Nat)
  | noEntries
  deriving DecidableEq

def Rejection.message : Rejection → String
  | mismatches count => toString count ++ " computed checksum(s) did NOT match"
  | malformed count => toString count ++ " line(s) are improperly formatted"
  | noEntries => "no checksum lines found"

/-! ## The loop -/

/-- How far checking has come, what it has counted, and what it has said and logged on the way. -/
structure Tally where
  world : World
  checked : Nat
  failed : Nat
  malformed : Nat
  output : String
  events : List Log.Event

namespace Tally

def start (world : World) : Tally := ⟨world, 0, 0, 0, "", []⟩

@[simp] theorem start_world (world : World) : (start world).world = world := rfl

def verdict (t : Tally) : Except Rejection Unit :=
  if 0 < t.failed then .error (.mismatches t.failed)
  else if 0 < t.malformed then .error (.malformed t.malformed)
  else if t.checked = 0 then .error .noEntries
  else .ok ()

end Tally

/-- Checking may stop in the middle of a list, and what has been said by then stands. -/
abbrev Checking := EStateM LengthOverflow Tally

namespace Checking

def say (text : String) : Checking Unit := modify fun t => { t with output := t.output ++ text }

def warn (message : String) (fields : Log.Fields) : Checking Unit :=
  modify fun t => { t with events := t.events ++ [⟨.warn, "sha512_256sum", message, fields⟩] }

/-- The digest of an input, or why there is none, if the run goes on at all. -/
def digest (name : String) : Checking (Except InputError Digest) := do
  let t ← get
  let (result, world) := hashInput t.world name
  set { t with world := world }
  match result with
  | .error (.overflow error) => throw error
  | result => return result

/-- Whether an input can be read and has the listed digest. -/
def confirm (e : Entry) : Checking Bool := do
  match ← digest e.name with
  | .ok actual => return actual == e.digest
  | .error error =>
    warn error.message []
    return false

def checkEntry (quiet : Bool) (e : Entry) : Checking Unit := do
  modify fun t => { t with checked := t.checked + 1 }
  if ← confirm e then
    if !quiet then say (e.name ++ ": OK\n")
  else
    modify fun t => { t with failed := t.failed + 1 }
    say (e.name ++ ": FAILED\n")

/-- Checks the line with number `number`. -/
def checkLine (quiet : Bool) (number : Nat) (line : String) : Checking Unit :=
  if Text.isBlank line then return
  else
    match Entry.parse line with
    | .ok e => checkEntry quiet e
    | .error error => do
      warn ("malformed checksum line: " ++ error.message) [("line", toString number)]
      modify fun t => { t with malformed := t.malformed + 1 }

/-- Checks lines, of which the first has number `number`. -/
def checkLines (quiet : Bool) (number : Nat) : List String → Checking Unit
  | [] => return
  | line :: rest => do
    checkLine quiet number line
    checkLines quiet (number + 1) rest

end Checking

/-- What has been said and logged of a list, and the verdict on it if there is one. -/
@[ext] structure Checked where
  output : String
  events : List Log.Event
  verdict : Except LengthOverflow (Except Rejection Unit)

def verify (world : World) (quiet : Bool) (contents : String) : Checked :=
  match (Checking.checkLines quiet 1 (Text.lines contents)).run (.start world) with
  | .ok () t => ⟨t.output, t.events, .ok t.verdict⟩
  | .error error t => ⟨t.output, t.events, .error error⟩

/-! ## What the lines come to -/

inductive Finding where
  | blank
  | malformed (error : EntryError)
  | unreadable (name complaint : String)
  | mismatched (name : String)
  | matched (name : String)
  | overflow (error : LengthOverflow)
  deriving DecidableEq

namespace Finding

@[simp] def isBlank : Finding → Bool
  | .blank => true
  | _ => false

@[simp] def isMalformed : Finding → Bool
  | .malformed _ => true
  | _ => false

/-- Whether a line is an entry whose digest is not the one of its input. -/
@[simp] def fails : Finding → Bool
  | .unreadable .. | .mismatched _ => true
  | _ => false

/-- Why the run ends with the line, if it does. -/
@[simp] def overflow? : Finding → Option LengthOverflow
  | .overflow error => some error
  | _ => none

/-- What is logged of the line with number `number`. -/
@[simp] def event (number : Nat) : Finding → Option Log.Event
  | .malformed error => some {
      level := .warn, target := "sha512_256sum",
      message := "malformed checksum line: " ++ error.message, fields := [("line", toString number)] }
  | .unreadable _ complaint => some {
      level := .warn, target := "sha512_256sum", message := complaint, fields := [] }
  | .blank | .mismatched _ | .matched _ | .overflow _ => none

/-- What is printed for the line. -/
@[simp] def status (quiet : Bool) : Finding → Option String
  | .unreadable name _ | .mismatched name => some (name ++ ": FAILED\n")
  | .matched name => if quiet then none else some (name ++ ": OK\n")
  | .blank | .malformed _ | .overflow _ => none

end Finding

/-- The line holds nothing but space. -/
def Blank (line : String) : Prop := ∀ c ∈ line.toList, c.toNat ∈ Text.whiteSpace

instance (line : String) : Decidable (Blank line) :=
  List.decidableBAll (fun c : Char => c.toNat ∈ Text.whiteSpace) line.toList

/-- The world behind a line: if it is an entry, its input has been read. -/
def World.pass (w : World) (line : String) : World :=
  if Blank line then w
  else
    match Entry.parse line with
    | .error _ => w
    | .ok e => w.after e.name

/-- The world that a line finds behind others. -/
def World.behind (w : World) (front : List String) : World := front.foldl World.pass w

namespace Finding

/-- What an entry comes to if reading its input comes to this. -/
@[simp] def ofReading (e : Entry) : Except LengthOverflow (Except String Digest) → Finding
  | .error error => .overflow error
  | .ok (.error complaint) => .unreadable e.name complaint
  | .ok (.ok actual) => if actual = e.digest then .matched e.name else .mismatched e.name

def ofEntry (world : World) (e : Entry) : Finding := ofReading e (world.reading e.name)

def ofLine (world : World) (line : String) : Finding :=
  if Blank line then .blank
  else
    match Entry.parse line with
    | .error error => .malformed error
    | .ok e => ofEntry world e

end Finding

/-- What lines come to, each in the world behind those in front of it. -/
def findings (world : World) : List String → List Finding
  | [] => []
  | line :: rest => Finding.ofLine world line :: findings (world.pass line) rest

/-! ## Reports -/

/-- The findings in front of the line with which the run ends, if it does not get to the last. -/
structure Report where
  findings : List Finding
  stopped : Option LengthOverflow
  deriving DecidableEq

def check (world : World) (contents : String) : Report :=
  let found := findings world (Text.lines contents)
  ⟨found.takeWhile fun f => f.overflow?.isNone, found.findSome? Finding.overflow?⟩

namespace Report

def failures (r : Report) : Nat := r.findings.countP Finding.fails

def malformedLines (r : Report) : Nat := r.findings.countP Finding.isMalformed

def verdict (r : Report) : Except Rejection Unit :=
  if 0 < r.failures then .error (.mismatches r.failures)
  else if 0 < r.malformedLines then .error (.malformed r.malformedLines)
  else if r.findings.all Finding.isBlank then .error .noEntries
  else .ok ()

/-- A line for each entry. A quiet report leaves out the inputs that matched. -/
def output (r : Report) (quiet : Bool) : String :=
  String.join (r.findings.filterMap (Finding.status quiet))

def events (r : Report) : List Log.Event :=
  (r.findings.zipIdx 1).filterMap fun found => found.1.event found.2

end Report

/-! ## List files -/

/-- Why a list file is not accepted. -/
inductive ListError where
  | cannotRead (list : String) (error : FileError)
  | rejected (list : String) (rejection : Rejection)
  deriving DecidableEq

namespace ListError

def summary : ListError → String
  | cannotRead list _ => "failed to read " ++ list
  | rejected list _ => "checking " ++ list ++ " failed"

def cause : ListError → String
  | cannotRead _ error => error.message
  | rejected _ rejection => rejection.message

def message (e : ListError) : String := e.summary ++ ": " ++ e.cause

end ListError

/-- All that reads give, up to the end of the input or the first failure. -/
def contentsOf : List Read → Except FileError Bytes
  | [] => .ok []
  | .interrupted :: rest => contentsOf rest
  | .failed reason :: _ => .error (.other reason)
  | .data bytes :: rest => if bytes.isEmpty then .ok [] else (contentsOf rest).map (bytes ++ ·)

/-- The text in a file. `-` is an ordinary name here. -/
def readText (world : World) (name : String) : Except FileError String := do
  let bytes ← contentsOf (← world.openFile name)
  match String.fromUTF8? ⟨bytes.toArray⟩ with
  | some text => pure text
  | none => throw .notText

/-- The report on the list in a file. -/
def checkFile (world : World) (list : String) : Except ListError Report :=
  match readText world list with
  | .error e => .error (.cannotRead list e)
  | .ok contents => .ok (check world contents)

/-- The verdict on the list in a file. -/
def verdictOn (list : String) (r : Report) : Except ListError Unit :=
  r.verdict.mapError (.rejected list)

/-- Checks the list in a file. -/
def verifyFile (world : World) (quiet : Bool) (list : String) : Except ListError Checked :=
  match readText world list with
  | .error e => .error (.cannotRead list e)
  | .ok contents => .ok (verify world quiet contents)

/-! ## Comparing worlds -/

/-- The outcome for one input: whether its digest is the listed one. -/
structure Outcome where
  name : String
  matched : Bool
  deriving DecidableEq

def Outcome.line (o : Outcome) : String := o.name ++ (if o.matched then ": OK\n" else ": FAILED\n")

def complaint? : Except LengthOverflow (Except String Digest) → Option String
  | .ok (.error complaint) => some complaint
  | .ok (.ok _) | .error _ => none

/-- The outcome for each input: whether it has a digest before, and the same one after. -/
def comparison (before after : World) (names : List String) : List Outcome :=
  List.zipWith Outcome.mk names
    (List.zipWith (fun old new => old.isSome && old == new)
      (before.digests names) (after.digests names))

end TruncatedSha.Checksum
