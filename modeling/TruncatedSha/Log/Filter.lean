import TruncatedSha.Log
import TruncatedSha.Log.Directive

/-!
# Choosing what is logged

A filter is a list of directives between commas. Of the directives that apply to an event or a span,
the one with the longest target decides. Between equal targets a directive with a field goes first,
then the name of the field that is greater, and then the later directive.

A directive with a span or a field also singles spans out: a span with that name and that field is
logged whatever is decided about it, as long as some directive is as talkative as the span. If a
value is asked for, every level is talkative enough, and the value does not matter: it is not known
yet when the decision is made.

An event is logged on a line of its own, and so is a span when it closes, if that is wanted.
-/
namespace TruncatedSha.Log

namespace Directive

/-- Whether records from a target are meant; a directive for all has none. -/
def targets (d : Directive) (target : String) : Bool :=
  d.target.all fun start => start.toList.isPrefixOf target.toList

/-- A directive for a span, or for a value, decides about nothing. -/
def decides (d : Directive) : Bool := d.span.isNone && !d.field.any (·.valued)

/-- Whether it has a say about an event, which must have its field. -/
def appliesToEvent (d : Directive) (e : Event) : Bool :=
  d.decides && d.targets e.target &&
    d.field.all fun field => ("message" :: e.fields.map (·.1)).contains field.name

/-- Whether it has a say about a span, which need not have its field. -/
def appliesToSpan (d : Directive) (s : Span) : Bool := d.decides && d.targets s.target

def singlesOut (d : Directive) (s : Span) : Bool :=
  (d.span.isSome || d.field.isSome) && d.targets s.target && d.span.all (· = s.name) &&
    d.field.all fun field => (s.fields.map (·.1)).contains field.name

/-- A directive for all is less specific than any other. -/
def specificity (d : Directive) : Nat :=
  match d.target with
  | none => 0
  | some start => start.utf8ByteSize + 1

/-- Whether it decides although `later` stands behind it. -/
def outranks (d later : Directive) : Bool :=
  later.specificity < d.specificity ||
    (later.specificity = d.specificity &&
      match d.field, later.field with
      | some field, some other => other.name < field.name
      | some _, none => true
      | none, _ => false)

end Directive

abbrev Filter := List Directive

namespace Filter

/-- One wrong directive spoils the filter. -/
def parse (text : String) : Option Filter :=
  ((text.splitToList (· == ',')).filter (· ≠ "")).mapM (Directive.parse ·.toList)

/-- Without a filter, or with a wrong one, warnings are logged; with an empty one only errors. -/
def ofVariable (value : Option String) : Filter :=
  match value.bind parse with
  | none => [⟨none, none, none, Level.warn.verbosity⟩]
  | some [] => [⟨none, none, none, Level.error.verbosity⟩]
  | some directives => directives

/-- The directive that goes first. -/
def foremost (f : Filter) : Option Directive :=
  f.foldl
    (fun best d =>
      match best with
      | none => some d
      | some b => if b.outranks d then some b else some d)
    none

/-- The most that any directive lets through. -/
def ceiling (f : Filter) : Nat :=
  if f.any fun d => d.field.any (·.valued) then Level.trace.verbosity
  else (f.map (·.verbosity)).foldl max 0

def allowsEvent (f : Filter) (e : Event) : Bool :=
  (foremost (f.filter (·.appliesToEvent e))).any fun d => e.level.verbosity ≤ d.verbosity

def allowsSpan (f : Filter) (s : Span) : Bool :=
  (f.any (·.singlesOut s) && s.level.verbosity ≤ f.ceiling) ||
    (foremost (f.filter (·.appliesToSpan s))).any fun d => s.level.verbosity ≤ d.verbosity

end Filter

/-! ## Lines -/

/-- Terminal controls in a message are shown and not sent. -/
def showControls (text : String) : String :=
  String.join (text.toList.map fun c =>
    if c = '\x1b' then "\\x1b"
    else if c = '\x07' then "\\x07"
    else if c = '\x08' then "\\x08"
    else if c = '\x0c' then "\\x0c"
    else if c = '\x7f' then "\\x7f"
    else if 0x80 ≤ c.toNat ∧ c.toNat ≤ 0x9f then
      "\\u\x7b" ++ String.ofList (Nat.toDigits 16 c.toNat) ++ "\x7d"
    else c.toString)

def fieldsText (fields : Fields) : String :=
  " ".intercalate (fields.map fun field => field.1 ++ "=" ++ field.2)

/-- The line for an event. -/
def Event.line (e : Event) : String :=
  e.level.name ++ " " ++ e.target ++ ": " ++ showControls e.message ++
    (if e.fields.isEmpty then "" else " " ++ fieldsText e.fields) ++ "\n"

/-- The line for a span that closes. -/
def Span.closeLine (s : Span) : String :=
  s.level.name ++ " " ++ s.name ++ "\x7b" ++ fieldsText s.fields ++ "\x7d: " ++ s.target ++
    ": close\n"

/-- What the environment says about logging. -/
structure Settings where
  filter : Filter
  closedSpans : Bool

/-- The lines for events that the filter lets through. -/
def Settings.eventLines (s : Settings) (events : List Event) : String :=
  String.join ((events.filter s.filter.allowsEvent).map Event.line)

/-- The lines for closed spans that the filter lets through, if lines for spans are wanted. -/
def Settings.spanLines (s : Settings) (spans : List Span) : String :=
  if s.closedSpans then String.join ((spans.filter s.filter.allowsSpan).map Span.closeLine)
  else ""

end TruncatedSha.Log
