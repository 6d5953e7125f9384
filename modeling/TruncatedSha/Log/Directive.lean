import TruncatedSha.Log.Pattern
import TruncatedSha.Text.Number
import TruncatedSha.Text.Space

/-!
# Log directives

A directive lets records through up to a level. It is a level, or a target, a span in brackets, or
both, and a level behind an equals sign; without a level it lets everything through. Between the
brackets stand the name of a span, a field in braces, or both, and behind the field's name there may
be an equals sign and a value.

Space around a directive is passed over when its parts are looked for. The parts are then cut out of
the whole text at the distances found, so that space in front moves all of them forward.

The parts of a directive are cut out by positions that are counted in bytes of the UTF-8 form. A cut
that would divide a character is none.
-/
namespace TruncatedSha.Text

def byteLength : List Char → Nat
  | [] => 0
  | c :: rest => c.utf8Size + byteLength rest

def dropBytes : Nat → List Char → Option (List Char)
  | 0, text => some text
  | _ + 1, [] => none
  | n + 1, c :: text =>
    if c.utf8Size ≤ n + 1 then dropBytes (n + 1 - c.utf8Size) text else none

def takeBytes : Nat → List Char → Option (List Char)
  | 0, _ => some []
  | _ + 1, [] => none
  | n + 1, c :: text =>
    if c.utf8Size ≤ n + 1 then (takeBytes (n + 1 - c.utf8Size) text).map (c :: ·) else none

/-- The part from position `start` to position `stop`. -/
def cut (text : List Char) (start stop : Nat) : Option (List Char) :=
  (dropBytes start text).bind (takeBytes (stop - start))

end TruncatedSha.Text

namespace TruncatedSha.Log

structure FieldFilter where
  name : String
  /-- Whether a value is asked for as well. -/
  valued : Bool
  deriving DecidableEq, Repr

/-- Lets records through up to a verbosity; 0 lets none through. -/
structure Directive where
  target : Option String
  span : Option String
  field : Option FieldFilter
  verbosity : Nat
  deriving DecidableEq, Repr

/-- The names of the levels, in any case, and their numbers. -/
def parseLevel (text : List Char) : Option Nat :=
  match Text.parseNumber 5 (String.ofList text), (String.ofList text).map Char.toLower with
  | some verbosity, _ => some verbosity
  | none, "off" => some 0
  | none, "error" => some 1
  | none, "warn" => some 2
  | none, "info" => some 3
  | none, "debug" => some 4
  | none, "trace" => some 5
  | none, _ => none

namespace FieldFilter

/-- A value is a number or a pattern; a number may have a plus sign, which no pattern begins with. -/
def isValue : List Char → Bool
  | '+' :: text => Text.isDecimal text
  | text => Pattern.isWellFormed text

/-- A second equals sign ends the value, and what follows it is not read. -/
def parse (text : List Char) : Option FieldFilter :=
  let name := String.ofList (text.takeWhile (· ≠ '='))
  match text.dropWhile (· ≠ '=') with
  | [] => some ⟨name, false⟩
  | _ :: value => if isValue (value.takeWhile (· ≠ '=')) then some ⟨name, true⟩ else none

end FieldFilter

namespace Directive

/-- What a target may begin with. -/
def beginsTarget (c : Char) : Bool :=
  Text.isAlphanumeric c || c = '_' || c = ':' || c = '-'

/-- The level that stands in `text` from `position` on; none is written if everything is wanted. -/
def levelFrom (text : List Char) (position : Nat) : Option Nat :=
  match Text.dropBytes position text with
  | none => none
  | some [] => some 5
  | some level => parseLevel level

/-- What follows the bracket that ends the span, at `position`. -/
def parseTail (text : List Char) (target span : Option String) (field : Option FieldFilter)
    (position : Nat) : List Char → Option Directive
  | [] => some ⟨target, span, field, 5⟩
  | '=' :: _ => do return ⟨target, span, field, ← levelFrom text (position + 1)⟩
  | _ => none

/-- What follows the brace that begins the field, at `position`. -/
def parseField (text : List Char) (target span : Option String) (position : Nat)
    (rest : List Char) : Option Directive := do
  let stop := position + Text.byteLength (rest.takeWhile (· ≠ '}'))
  match rest.dropWhile (· ≠ '}') with
  | '}' :: ']' :: tail =>
    if stop = position then none
    else
      let field ← FieldFilter.parse (← Text.cut text position stop)
      parseTail text target span (some field) (stop + 2) tail
  | _ => none

/-- What follows the bracket that begins the span, at `position`. A field may stand without a name
before it. -/
def parseSpan (text : List Char) (target : Option String) (position : Nat) (rest : List Char) :
    Option Directive := do
  let ends (c : Char) : Bool := c = ']' || c = '{'
  let stop := position + Text.byteLength (rest.takeWhile (!ends ·))
  let name := String.ofList (← Text.cut text position stop)
  match rest.dropWhile (!ends ·) with
  | ']' :: tail => parseTail text target (some name) none (stop + 1) tail
  | '{' :: rest =>
    parseField text target (if stop = position then none else some name) (stop + 1) rest
  | _ => none

/-- A text that is neither a span nor has an equals sign is a level, or else a target. -/
def parseWord (text : List Char) : Directive :=
  match parseLevel text with
  | some verbosity => ⟨none, none, none, verbosity⟩
  | none => ⟨some (String.ofList text), none, none, 5⟩

/-- A text that begins with a target, if it has one; `trimmed` is the text without its space. -/
def parseTarget (text trimmed : List Char) : Option Directive := do
  let ends (c : Char) : Bool := c = '=' || c = '['
  let stop := Text.byteLength (trimmed.takeWhile (!ends ·))
  match trimmed.dropWhile (!ends ·) with
  | [] => return parseWord text
  | '[' :: rest => parseSpan text (some (String.ofList (← Text.cut text 0 stop))) (stop + 1) rest
  | _ =>
    return ⟨some (String.ofList (← Text.cut text 0 stop)), none, none, ← levelFrom text (stop + 1)⟩

def parse (text : List Char) : Option Directive :=
  match Text.trim text with
  | [] => none
  | '[' :: rest => parseSpan text none 1 rest
  | c :: trimmed => if beginsTarget c then parseTarget text (c :: trimmed) else none

end Directive

end TruncatedSha.Log
