/-!
# Command-line arguments

Arguments are read from left to right. `--name`, `--name=value`, `-n`, `-nvalue`, `-n=value` and
clusters `-ab` are options; `--` ends them; all else, a lone `-` included, is a value. A value
goes to the option just before it if that still wants one, and is positional otherwise.

An option that wants a value, and a group of positional values, stay open until something else is
recognised. Only then are they settled, and only then do their own faults show. An argument that
cannot be recognised at all is refused at once.
-/
namespace TruncatedSha.Arguments

inductive UsageError where
  | unknownArgument
  | argumentConflict
  | missingRequiredArgument
  | invalidValue
  | tooManyValues
  | valueValidation
  /-- Not a fault: help was asked for. -/
  | displayHelp
  deriving DecidableEq, Repr

def UsageError.name : UsageError → String
  | unknownArgument => "UnknownArgument"
  | argumentConflict => "ArgumentConflict"
  | missingRequiredArgument => "MissingRequiredArgument"
  | invalidValue => "InvalidValue"
  | tooManyValues => "TooManyValues"
  | valueValidation => "ValueValidation"
  | displayHelp => "DisplayHelp"

/-- What an option does, for options that are known by keys `κ`. -/
inductive Option.Role (κ : Type) where
  | help
  | flag (key : κ)
  | valued (key : κ)

/-- The options of a tool. -/
structure Grammar (κ : Type) where
  long : String → Option (Option.Role κ)
  short : Char → Option (Option.Role κ)
  /-- The key of positional values, if there may be any. These alone may be repeated. -/
  positional : Option κ
  /-- What is wrong with a value, if anything is. -/
  fault : κ → String → Option UsageError

/-- What has been read so far: settled values, in order, and what is still open. -/
structure Scan (κ : Type) where
  settled : List (κ × String)
  pending : Option (κ × List String)

namespace Scan

variable {κ : Type} [DecidableEq κ]

def start : Scan κ := ⟨[], none⟩

/-- Settles values for a key. Being there twice is found before a fault in a value is. -/
def record (g : Grammar κ) (s : Scan κ) (key : κ) (values : List String) :
    Except UsageError (Scan κ) :=
  if g.positional ≠ some key ∧ s.settled.any (·.1 = key) then .error .argumentConflict
  else
    match values.findSome? (g.fault key) with
    | some e => .error e
    | none => .ok { s with settled := s.settled ++ values.map (key, ·) }

/-- Settles what is open. -/
def settle (g : Grammar κ) (s : Scan κ) : Except UsageError (Scan κ) :=
  match s.pending with
  | none => .ok s
  | some (_, []) => .error .invalidValue
  | some (key, values) => record g { s with pending := none } key values

/-- A flag has no value; that it was given is what is settled. -/
def takeFlag (g : Grammar κ) (s : Scan κ) (key : κ) : Except UsageError (Scan κ) := do
  let s ← s.settle g
  if s.settled.any (·.1 = key) then throw .argumentConflict
  return { s with settled := s.settled ++ [(key, "")] }

/-- An option that came with its value. -/
def takeValue (g : Grammar κ) (s : Scan κ) (key : κ) (value : String) :
    Except UsageError (Scan κ) := do
  record g (← s.settle g) key [value]

/-- An option whose value is still to come. -/
def await (g : Grammar κ) (s : Scan κ) (key : κ) : Except UsageError (Scan κ) := do
  return { ← s.settle g with pending := some (key, []) }

def takeHelp (g : Grammar κ) (s : Scan κ) : Except UsageError (Scan κ) := do
  discard (s.settle g)
  throw .displayHelp

/-- A long option, without its dashes. -/
def takeLong (g : Grammar κ) (s : Scan κ) (body : List Char) : Except UsageError (Scan κ) :=
  let name := String.ofList (body.takeWhile (· ≠ '='))
  match g.long name, body.dropWhile (· ≠ '=') with
  | none, _ => .error .unknownArgument
  | some .help, [] => s.takeHelp g
  | some (.flag key), [] => s.takeFlag g key
  | some (.valued key), [] => s.await g key
  | some (.valued key), _ :: value => s.takeValue g key (String.ofList value)
  | some _, _ :: _ => .error .tooManyValues

/-- A cluster of short options, without its dash. The first that takes a value takes the rest of the cluster. -/
def takeCluster (g : Grammar κ) (s : Scan κ) : List Char → Except UsageError (Scan κ)
  | [] => .ok s
  | c :: rest =>
    match g.short c with
    | none => .error .unknownArgument
    | some .help => s.takeHelp g
    | some (.flag key) =>
      match s.takeFlag g key with
      | .error e => .error e
      | .ok s => takeCluster g s rest
    | some (.valued key) =>
      match rest with
      | [] => s.await g key
      | c :: value => s.takeValue g key (String.ofList (if c = '=' then value else c :: value))

/-- A positional value joins the group that is open, or opens one. -/
def takePositional (g : Grammar κ) (s : Scan κ) (value : String) : Except UsageError (Scan κ) :=
  match g.positional, s.pending with
  | none, _ => .error .unknownArgument
  | some key, some (opened, values) =>
    if opened = key then .ok { s with pending := some (key, values ++ [value]) }
    else do return { ← s.settle g with pending := some (key, [value]) }
  | some key, none => .ok { s with pending := some (key, [value]) }

/-- A value goes to the option that waits for it. -/
def takeOperand (g : Grammar κ) (s : Scan κ) (value : String) : Except UsageError (Scan κ) :=
  match s.pending with
  | some (key, []) => .ok { s with pending := some (key, [value]) }
  | _ => s.takePositional g value

/-- Reads arguments before `--`, and after it. -/
def read (g : Grammar κ) (s : Scan κ) : List String → Except UsageError (Scan κ)
  | [] => .ok s
  | argument :: rest =>
    match argument.toList with
    | ['-', '-'] => rest.foldlM (takePositional g) s
    | '-' :: '-' :: body =>
      match s.takeLong g body with
      | .error e => .error e
      | .ok s => read g s rest
    | '-' :: c :: cluster =>
      match s.takeCluster g (c :: cluster) with
      | .error e => .error e
      | .ok s => read g s rest
    | _ =>
      match s.takeOperand g argument with
      | .error e => .error e
      | .ok s => read g s rest

end Scan

/-- Everything that was given, in order. -/
def scan {κ : Type} [DecidableEq κ] (g : Grammar κ) (arguments : List String) :
    Except UsageError (List (κ × String)) := do
  let s ← Scan.read g .start arguments
  return (← s.settle g).settled

/-- The values given for a key. -/
def valuesOf {κ : Type} [DecidableEq κ] (given : List (κ × String)) (key : κ) : List String :=
  (given.filter (·.1 = key)).map (·.2)

end TruncatedSha.Arguments
