/-!
# Log records

What the library reports beside its results: single events, and spans that cover a piece of work.
Each carries a level, the part of the program it comes from, and named values as text.
-/
namespace TruncatedSha

namespace Log

inductive Level where
  | error
  | warn
  | info
  | debug
  | trace
  deriving DecidableEq, Repr

namespace Level

def name : Level → String
  | error => "ERROR"
  | warn => "WARN"
  | info => "INFO"
  | debug => "DEBUG"
  | trace => "TRACE"

/-- From the most urgent, 1, to the most talkative, 5. -/
def verbosity : Level → Nat
  | error => 1
  | warn => 2
  | info => 3
  | debug => 4
  | trace => 5

end Level

abbrev Fields := List (String × String)

structure Event where
  level : Level
  target : String
  message : String
  fields : Fields
  deriving DecidableEq, Repr

structure Span where
  level : Level
  target : String
  name : String
  fields : Fields
  deriving DecidableEq, Repr

end Log

end TruncatedSha
