import TruncatedSha.Log.Pattern.Bracket
import TruncatedSha.Text.Alphanumeric

/-!
# Patterns

Which texts are regular expressions. Nothing is matched here: a filter accepts a pattern or refuses
it, and `Pattern.isWellFormed` says which.

A pattern is read from its beginning, and only two things are kept of it: how many levels it has,
which are limited, and the names of its groups, which differ. A counted repetition cannot be
written, since the value of a field ends at a closing brace.
-/
namespace TruncatedSha.Log.Pattern

/-- A part of a branch. A change of flags cannot be repeated. -/
structure Part where
  levels : Nat
  repeatable : Bool
  deriving DecidableEq, Repr

/-- How far a group is read: the flags in force, the levels of the branches that have ended, and the
parts of the branch that has not, the last part first. -/
structure Group where
  flags : Flags
  branches : List Nat
  parts : List Part
  deriving DecidableEq, Repr

namespace Group

def opened (flags : Flags) : Group := ⟨flags, [], []⟩

def insert (group : Group) (levels : Nat) : Group :=
  { group with parts := ⟨levels, true⟩ :: group.parts }

/-- Flags change up to the end of the group, also in the branches that follow. -/
def changeFlags (group : Group) (flags : Flags) : Group :=
  { group with flags, parts := ⟨0, false⟩ :: group.parts }

/-- Repeats the last part; there has to be one. -/
def repeatLast (group : Group) : Option Group :=
  match group.parts with
  | ⟨levels, true⟩ :: parts => some { group with parts := ⟨levels + 1, true⟩ :: parts }
  | _ => none

/-- The levels of the branch that is being read. -/
def branchLevels (group : Group) : Nat := beside (group.parts.map Part.levels)

def endBranch (group : Group) : Group :=
  { group with branches := group.branchLevels :: group.branches, parts := [] }

def levels (group : Group) : Nat := beside (group.branchLevels :: group.branches)

end Group

/-- What a parenthesis opens. -/
inductive Opening where
  /-- Nothing: it only changes the flags. -/
  | flags (flags : Flags)
  | group (flags : Flags) (name : Option (List Char))
  deriving DecidableEq, Repr

/-- The name of a group begins with a letter or an underscore. -/
def isGroupName : List Char → Bool
  | [] => false
  | first :: name =>
    (first = '_' || Text.isAlphabetic first) &&
      name.all fun c => "_.[]".toList.contains c || Text.isAlphanumeric c

/-- Reads the name of a group, to the angle bracket behind it. -/
def readGroupName (flags : Flags) (text : List Char) : Option (Opening × List Char) :=
  let name := text.takeWhile (· ≠ '>')
  match text.dropWhile (· ≠ '>') with
  | _ :: rest => if isGroupName name then some (.group flags name, rest) else none
  | [] => none

/-- Reads the letters of flags, to a colon that begins their group or a parenthesis that leaves them
in force. Only before a colon may there be none. -/
def readFlags (flags : Flags) (text : List Char) : Option (Opening × List Char) := do
  let ends (c : Char) : Bool := c = ':' || c = ')'
  let letters := text.takeWhile (!ends ·)
  let changed ← flags.change letters
  match text.dropWhile (!ends ·) with
  | ':' :: rest => some (.group changed none, rest)
  | ')' :: rest => if letters.isEmpty then none else some (.flags changed, rest)
  | _ => none

/-- Reads what follows a parenthesis that opens. -/
def readOpened (flags : Flags) (text : List Char) : Option (Opening × List Char) :=
  match flags.skip text with
  | '?' :: 'P' :: '<' :: rest | '?' :: '<' :: rest => readGroupName flags rest
  | '?' :: rest => readFlags flags rest
  | rest => some (.group flags none, rest)

/-- A question mark right behind a repetition belongs to it. -/
def dropLazy : List Char → List Char
  | '?' :: rest => rest
  | rest => rest

/-- Reads a group to the parenthesis that closes it, which is left over, or to the end. The names of
the groups before it are given, and those of all groups answered beside the levels. -/
def readGroup : Nat → List (List Char) → Group → List Char →
    Option (Nat × List (List Char) × List Char)
  | 0, _, _, _ => none
  | fuel + 1, names, group, text =>
    match group.flags.skip text with
    | [] => some (group.levels, names, [])
    | ')' :: rest => some (group.levels, names, ')' :: rest)
    | '|' :: rest => readGroup fuel names group.endBranch rest
    | '(' :: rest => do
      match ← readOpened group.flags rest with
      | (.flags flags, rest) => readGroup fuel names (group.changeFlags flags) rest
      | (.group flags name, rest) =>
        if name.any names.contains then none
        else
          match ← readGroup fuel (name.toList ++ names) (.opened flags) rest with
          | (levels, names, ')' :: rest) => readGroup fuel names (group.insert (levels + 1)) rest
          | _ => none
    | '[' :: rest => do
      let (levels, rest) ← readClass group.flags fuel rest
      readGroup fuel names (group.insert levels) rest
    | '*' :: rest | '+' :: rest | '?' :: rest => do
      readGroup fuel names (← group.repeatLast) (dropLazy rest)
    | '{' :: _ => none
    | text => do
      let (atom, rest) ← readAtom group.flags text
      if group.flags.allows atom then readGroup fuel names (group.insert 0) rest else none

def isWellFormed (pattern : List Char) : Bool :=
  match readGroup (pattern.length + 1) [] (.opened .initial) pattern with
  | some (levels, _, []) => levels ≤ levelLimit
  | _ => false

end TruncatedSha.Log.Pattern
