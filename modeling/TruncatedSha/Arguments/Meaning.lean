import TruncatedSha.Arguments

/-!
# What arguments give

A grammar's argument lists without a scan: every argument is an option, an operand or `--`, and the
values that it gives are read off it alone, or off it and the argument behind it. Which of the keys
may be given together is declared apart from that.
-/
namespace TruncatedSha.Arguments

variable {κ : Type}

/-- The key of an option, unless it asks for help. -/
def Option.Role.key? : Option.Role κ → Option κ
  | help => none
  | flag key | valued key => some key

/-- No option has the key of the positional values. -/
structure Grammar.Apart (g : Grammar κ) : Prop where
  long : ∀ {name role key}, g.long name = some role → role.key? = some key → g.positional ≠ some key
  short : ∀ {c role key}, g.short c = some role → role.key? = some key → g.positional ≠ some key

def IsFlag (g : Grammar κ) (key : κ) : Prop :=
  (∃ name, g.long name = some (.flag key)) ∨ ∃ c, g.short c = some (.flag key)

/-- An argument that is no option. A lone dash is one. -/
def IsOperand (argument : String) : Prop :=
  argument.toList = ['-'] ∨ argument.toList.head? ≠ some '-'

/-- The flags in a row of letters and the value behind them, or else the option that waits for the
next argument. A value that is attached to its letter may have an equals sign in front. -/
inductive ClusterGives (g : Grammar κ) : List Char → List (κ × String) → Option κ → Prop
  | nil : ClusterGives g [] [] none
  | flag {c : Char} {key : κ} {rest : List Char} {given : List (κ × String)} {waiting : Option κ}
      (known : g.short c = some (.flag key)) (others : ClusterGives g rest given waiting) :
      ClusterGives g (c :: rest) ((key, "") :: given) waiting
  | waiting {c : Char} {key : κ} (known : g.short c = some (.valued key)) :
      ClusterGives g [c] [] (some key)
  | attached {c d : Char} {key : κ} {value : List Char} (known : g.short c = some (.valued key))
      (plain : d ≠ '=') (faultless : g.fault key (String.ofList (d :: value)) = none) :
      ClusterGives g (c :: d :: value) [(key, String.ofList (d :: value))] none
  | assigned {c : Char} {key : κ} {value : List Char} (known : g.short c = some (.valued key))
      (faultless : g.fault key (String.ofList value) = none) :
      ClusterGives g (c :: '=' :: value) [(key, String.ofList value)] none

/-- What one option gives, from its characters. -/
inductive OptionGives (g : Grammar κ) : List Char → List (κ × String) → Option κ → Prop
  | flag {name : List Char} {key : κ} (named : name ≠ []) (unassigned : '=' ∉ name)
      (known : g.long (String.ofList name) = some (.flag key)) :
      OptionGives g ('-' :: '-' :: name) [(key, "")] none
  | waiting {name : List Char} {key : κ} (named : name ≠ []) (unassigned : '=' ∉ name)
      (known : g.long (String.ofList name) = some (.valued key)) :
      OptionGives g ('-' :: '-' :: name) [] (some key)
  | assigned {name value : List Char} {key : κ} (unassigned : '=' ∉ name)
      (known : g.long (String.ofList name) = some (.valued key))
      (faultless : g.fault key (String.ofList value) = none) :
      OptionGives g ('-' :: '-' :: (name ++ '=' :: value)) [(key, String.ofList value)] none
  | cluster {c : Char} {rest : List Char} {given : List (κ × String)} {waiting : Option κ}
      (short : c ≠ '-') (letters : ClusterGives g (c :: rest) given waiting) :
      OptionGives g ('-' :: c :: rest) given waiting

/-- What a list of arguments gives, in order, behind an option that may be waiting for its value. An
operand goes to that option, and else it is positional. -/
inductive Gives (g : Grammar κ) : Option κ → List String → List (κ × String) → Prop
  | nil : Gives g none [] []
  | operand {waiting : Option κ} {key : κ} {value : String} {rest : List String}
      {given : List (κ × String)} (known : waiting.or g.positional = some key)
      (operand : IsOperand value) (faultless : g.fault key value = none)
      (others : Gives g none rest given) : Gives g waiting (value :: rest) ((key, value) :: given)
  | option {argument : String} {rest : List String} {given more : List (κ × String)}
      {waiting : Option κ} (spelled : OptionGives g argument.toList given waiting)
      (others : Gives g waiting rest more) : Gives g none (argument :: rest) (given ++ more)
  | stop : Gives g none ["--"] []
  | stopBefore {key : κ} {values : List String} (known : g.positional = some key)
      (faultless : ∀ value ∈ values, g.fault key value = none) :
      Gives g none ("--" :: values) (values.map (key, ·))

/-- Only positional values may be repeated. -/
def Once [DecidableEq κ] (g : Grammar κ) (given : List (κ × String)) : Prop :=
  ∀ key, g.positional ≠ some key → (valuesOf given key).length ≤ 1

def Present (given : List (κ × String)) (key : κ) : Prop := ∃ value, (key, value) ∈ given

/-- What is declared of the keys of a tool: which exclude each other, and which need another. -/
structure Constraints (κ : Type) where
  exclusions : List (κ × κ)
  requirements : List (κ × κ)

namespace Constraints

/-- An exclusion holds both ways. -/
def Excludes (c : Constraints κ) (first second : κ) : Prop :=
  (first, second) ∈ c.exclusions ∨ (second, first) ∈ c.exclusions

/-- A requirement is waived when something that is there excludes what is required. -/
structure Allows (c : Constraints κ) (present : κ → Prop) : Prop where
  apart : ∀ first second, c.Excludes first second → present first → ¬ present second
  complete : ∀ key required, (key, required) ∈ c.requirements → present key →
    present required ∨ ∃ other, present other ∧ c.Excludes required other

end Constraints

end TruncatedSha.Arguments
