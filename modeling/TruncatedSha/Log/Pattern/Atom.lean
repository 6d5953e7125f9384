import TruncatedSha.Text.Space

/-!
# Flags and atoms of a pattern

Flags change how the rest of a group is read. Of the flags there are, three matter to whether a
pattern is accepted: letters of either case match each other, characters are those of Unicode, and
space and comments are passed over.

An atom is what a single character stands for, or a backslash and what follows it. Which atoms are
accepted depends on the flags: no table of Unicode's properties is kept, so what would need one is
refused, and so is what would match a part of a character.
-/
namespace TruncatedSha.Log.Pattern

/-! ## Flags -/

structure Flags where
  caseless : Bool
  unicode : Bool
  spaced : Bool
  deriving DecidableEq, Repr

/-- Drops the space and the comments that a text begins with, inside of a comment if it is
`commented`. A comment ends with its line. -/
def dropComments (commented : Bool) : List Char → List Char
  | [] => []
  | c :: text =>
    if commented then dropComments (c ≠ '\n') text
    else if Text.isSpace c then dropComments false text
    else if c = '#' then dropComments true text
    else c :: text

namespace Flags

/-- What a pattern begins with. -/
def initial : Flags := ⟨false, true, false⟩

/-- Changes the flags that `letters` name. A minus sign turns off the flags behind it and does not
come last, and nothing is written twice. -/
def change (flags : Flags) (letters : List Char) : Option Flags :=
  if letters.all "imsUuRx-".toList.contains && letters.Nodup && letters.getLast? ≠ some '-' then
    let turn (letter : Char) (before : Bool) : Bool :=
      if letters.contains letter then (letters.takeWhile (· ≠ '-')).contains letter else before
    some ⟨turn 'i' flags.caseless, turn 'u' flags.unicode, turn 'x' flags.spaced⟩
  else none

/-- What is left of `text` when that is dropped which the flags pass over. -/
def skip (flags : Flags) (text : List Char) : List Char :=
  if flags.spaced then dropComments false text else text

/-- The character that decides what a dash in front of `text` means. The mark of a comment is passed
over like space, but not what the comment says. -/
def ahead (flags : Flags) (text : List Char) : Option Char :=
  if flags.spaced then
    match text.dropWhile Text.isSpace with
    | '#' :: comment => (comment.dropWhile Text.isSpace).head?
    | rest => rest.head?
  else text.head?

end Flags

/-! ## Atoms -/

inductive Atom where
  /-- A character; whether it is written as a byte with two hexadecimal digits. -/
  | literal (c : Char) (byte : Bool)
  /-- Every character but a line feed. -/
  | any
  /-- The digits, the spaces or the characters of words, or all characters but those. -/
  | property (negated : Bool)
  /-- The beginning or the end of the text or of a line. -/
  | edge
  /-- A place between a character of a word and one that is not, or any other place. -/
  | boundary
  deriving DecidableEq, Repr

namespace Flags

/-- A character that stands for itself has to be compared without regard to case if `caseless` is
on. For Unicode that needs a table. -/
def allowsLiteral (flags : Flags) : Bool := !(flags.unicode && flags.caseless)

/-- Whether an atom may stand outside of brackets. -/
def allows (flags : Flags) : Atom → Bool
  | .literal c byte => flags.allowsLiteral && (flags.unicode || !byte || c.toNat < 0x80)
  | .any => flags.unicode
  | .property negated => !flags.unicode && !negated
  | .edge => true
  | .boundary => !flags.unicode

/-- Whether an atom may stand in brackets. A class holds either characters or bytes. -/
def allowsMember (flags : Flags) : Atom → Bool
  | .literal c _ => flags.allowsLiteral && (flags.unicode || c.toNat < 0x80)
  | .property negated => !flags.unicode && !negated
  | .any | .edge | .boundary => false

end Flags

def hexDigit? (c : Char) : Option Nat :=
  if c.isDigit then some (c.toNat - 48)
  else if 'a' ≤ c ∧ c ≤ 'f' then some (c.toNat - 87)
  else if 'A' ≤ c ∧ c ≤ 'F' then some (c.toNat - 55)
  else none

/-- Reads `count` hexadecimal digits behind `value`, with what the flags pass over before each. -/
def readHex (flags : Flags) : Nat → Nat → List Char → Option (Nat × List Char)
  | 0, value, text => some (value, text)
  | count + 1, value, text =>
    match flags.skip text with
    | [] => none
    | c :: rest => do readHex flags count (value * 16 + (← hexDigit? c)) rest

/-- The character with a code point of `count` hexadecimal digits. -/
def readCodePoint (flags : Flags) (count : Nat) (text : List Char) :
    Option (Atom × List Char) := do
  let (code, rest) ← readHex flags count 0 text
  if code.isValidChar then return (.literal (Char.ofNat code) (count = 2), rest) else none

/-- What a character behind a backslash stands for, if nothing more belongs to it. Other letters and
digits are refused, also `p`, which would name a property of Unicode; other characters of ASCII
stand for themselves. -/
def escaped? (c : Char) : Option Atom :=
  if "dsw".toList.contains c then some (.property false)
  else if "DSW".toList.contains c then some (.property true)
  else if "Az".toList.contains c then some .edge
  else if "bB<>".toList.contains c then some .boundary
  else if c = 'a' then some (.literal '\x07' false)
  else if c = 'f' then some (.literal '\x0c' false)
  else if c = 'n' then some (.literal '\n' false)
  else if c = 'r' then some (.literal '\r' false)
  else if c = 't' then some (.literal '\t' false)
  else if c = 'v' then some (.literal '\x0b' false)
  else if c.isAlphanum ∨ 0x80 ≤ c.toNat then none
  else some (.literal c false)

/-- Reads what stands behind a backslash. -/
def readEscape (flags : Flags) : List Char → Option (Atom × List Char)
  | [] => none
  | 'x' :: rest => readCodePoint flags 2 rest
  | 'u' :: rest => readCodePoint flags 4 rest
  | 'U' :: rest => readCodePoint flags 8 rest
  | c :: rest => (escaped? c).map (·, rest)

/-- Reads an atom outside of brackets. -/
def readAtom (flags : Flags) : List Char → Option (Atom × List Char)
  | [] => none
  | '\\' :: rest => readEscape flags rest
  | '.' :: rest => some (.any, rest)
  | '^' :: rest | '$' :: rest => some (.edge, rest)
  | c :: rest => some (.literal c false, rest)

/-- Reads an atom in brackets, where only a backslash has a meaning of its own. -/
def readMember (flags : Flags) : List Char → Option (Atom × List Char)
  | [] => none
  | '\\' :: rest => readEscape flags rest
  | c :: rest => some (.literal c false, rest)

end TruncatedSha.Log.Pattern
