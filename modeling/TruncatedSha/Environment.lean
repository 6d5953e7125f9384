import TruncatedSha.Log.Filter

/-!
# Switches in the environment

An environment variable switches something on if it holds one of four words. Case does not
matter, and nothing is trimmed. A value that cannot be a variable's, because a NUL byte would end
it early, leaves the variable unset.
-/
namespace TruncatedSha.Environment

/-- The variable that asks for a line whenever a span closes. -/
def spanVariable : String := "SHA512T_LOG_SPANS"

/-- The variable that says what is logged. -/
def filterVariable : String := "RUST_LOG"

def accepted : List String := ["1", "on", "true", "yes"]

/-- Case is that of ASCII letters only. -/
def parseFlag (value : String) : Bool := accepted.any fun word => value.map Char.toLower == word

/-- What a variable set to `value`, or not set at all, holds. -/
def held (value : Option String) : Option String :=
  value.filter fun text => !text.toList.contains '\x00'

/-- Whether a variable is a switch that is on. -/
def isSet (value : Option String) : Bool := (held value).any parseFlag

/-- The environment variables that the tools look at. -/
structure Variables where
  filter : Option String
  spans : Option String

def logSettings (v : Variables) : Log.Settings := ⟨.ofVariable (held v.filter), isSet v.spans⟩

end TruncatedSha.Environment
