import TruncatedSha.Completion
import TruncatedSha.Checksum.Listing
import TruncatedSha.Checksum.Verification

/-!
# The checksum tool

Prints checksum lines for the files it is given, or verifies the lines in one file.
-/
namespace TruncatedSha.Checksum

inductive OptionKey where
  | files
  | check
  | quiet
  deriving DecidableEq, Repr

/-- A name must not be empty. -/
def grammar : Arguments.Grammar OptionKey where
  long
    | "check" => some (.valued .check)
    | "quiet" => some (.flag .quiet)
    | "help" => some .help
    | _ => none
  short
    | 'c' => some (.valued .check)
    | 'q' => some (.flag .quiet)
    | 'h' => some .help
    | _ => none
  positional := some .files
  fault _ value := if value = "" then some .invalidValue else none

structure Options where
  files : List String
  check : Option String
  quiet : Bool
  deriving DecidableEq, Repr

namespace Options

def ofGiven (given : List (OptionKey × String)) : Options where
  files := Arguments.valuesOf given .files
  check := (Arguments.valuesOf given .check).head?
  quiet := !(Arguments.valuesOf given .quiet).isEmpty

/-- A list to check and files to hash exclude each other. Being quiet needs a list to check, unless
there are files, which exclude that list. -/
def validate (o : Options) : Except Arguments.UsageError Options :=
  if o.check.isSome && !o.files.isEmpty then .error .argumentConflict
  else if o.quiet && o.check.isNone && o.files.isEmpty then .error .missingRequiredArgument
  else .ok o

/-- Reads the arguments that follow the name of the tool. -/
def parse (arguments : List String) : Except Arguments.UsageError Options := do
  validate (ofGiven (← Arguments.scan grammar arguments))

end Options

def help : String :=
  "Print or check SHA-512/256 checksums\n\n" ++
  "Usage: sha512_256sum [OPTIONS] [FILES]...\n\n" ++
  "Arguments:\n" ++
  "  [FILES]...  Files to hash. Standard input is read when no file or `-` is given\n\n" ++
  "Options:\n" ++
  "  -c, --check <FILE>  Read checksum lines from this file and verify them\n" ++
  "  -q, --quiet         Don't print `OK` for each successfully verified file\n" ++
  "  -h, --help          Print help\n"

/-- Prints checksums. -/
def runPrint (world : World) (files : List String) : Completion :=
  match print world files with
  | (output, none) => .success output ""
  | (output, some (.overflow error)) => .panicked output "" error
  | (output, some e) => .failure output "" e.summary e.cause

/-- Verifies the lines in a file. -/
def runCheck (settings : Log.Settings) (world : World) (list : String) (quiet : Bool) :
    Completion :=
  match verifyFile world quiet list with
  | .error e => .failure "" "" e.summary (some e.cause)
  | .ok checked =>
    let logged := settings.eventLines checked.events
    match checked.verdict with
    | .error error => .panicked checked.output logged error
    | .ok (.ok ()) => .success checked.output logged
    | .ok (.error rejection) =>
      let e := ListError.rejected list rejection
      .failure checked.output logged e.summary (some e.cause)

def run (settings : Log.Settings) (world : World) (arguments : List String) : Completion :=
  match Options.parse arguments with
  | .error e => .usage help e
  | .ok o =>
    match o.check with
    | some list => runCheck settings world list o.quiet
    | none => runPrint world o.files

end TruncatedSha.Checksum
