import TruncatedSha.Arguments
import TruncatedSha.Count
import TruncatedSha.Environment
import TruncatedSha.Log.Filter

/-!
# How a tool ends

A tool writes to its output and to its error output, and leaves a code: 0 for success, 1 for a
failure of its work, 2 for arguments that it does not accept, and 101 if it breaks off in the middle.
-/
namespace TruncatedSha

structure Completion where
  code : UInt32
  output : String
  errors : String
  deriving DecidableEq, Repr

namespace Completion

def success (output errors : String) : Completion := ⟨0, output, errors⟩

/-- A failure is reported behind what was logged, its cause on a line below it. -/
def failure (output logged summary : String) (cause : Option String) : Completion :=
  ⟨1, output,
    logged ++ "Error: " ++ summary ++ "\n" ++
      match cause with
      | none => ""
      | some cause => "\nCaused by:\n    " ++ cause ++ "\n"⟩

/-- A run that breaks off says why; where in the program that was is left out here. -/
def panicked (output logged : String) (error : LengthOverflow) : Completion :=
  ⟨101, output, logged ++ error.message ++ "\n"⟩

/-- Wrong arguments, or the help that was asked for. -/
def usage (help : String) : Arguments.UsageError → Completion
  | .displayHelp => ⟨0, help, ""⟩
  | error => ⟨2, "", "error: " ++ error.name ++ "\n\n" ++ help⟩

end Completion

end TruncatedSha
