import TruncatedSha.Log.Pattern.Atom

/-!
# Classes in brackets

A class lists characters, ranges of them, named classes and classes within it. Two ampersands,
dashes or tildes combine the class that stands before them with the one behind. Each step of a
reading takes a character at least, so that one step more than the text has characters is enough.

How deep a pattern is nested is counted in levels. What holds nothing else has no level. A group, a
repetition and a class in brackets are one level around what they hold, and so is a row of things that
stand beside each other, if there are at least two of them.
-/
namespace TruncatedSha.Log.Pattern

/-- The most levels that a pattern may have. -/
def levelLimit : Nat := 250

/-- The levels of things that stand beside each other, from the levels of each. -/
def beside : List Nat → Nat
  | [] => 0
  | [levels] => levels
  | row => row.foldl max 0 + 1

/-- Reads a single member of a class, or two with a dash between them that make a range. A dash in
front of the closing bracket or of another dash makes no range. -/
def readRange (flags : Flags) (text : List Char) : Option (List Char) := do
  let (first, rest) ← readMember flags text
  if !flags.allowsMember first then none
  else
    match flags.skip rest with
    | '-' :: behind =>
      if flags.ahead behind = some ']' ∨ flags.ahead behind = some '-' then some ('-' :: behind)
      else
        match first, ← readMember flags (flags.skip behind) with
        | .literal low _, (.literal high byte, rest) =>
          if low ≤ high ∧ flags.allowsMember (.literal high byte) then some rest else none
        | _, _ => none
    | rest => some rest

def classNames : List String :=
  ["alnum", "alpha", "ascii", "blank", "cntrl", "digit", "graph", "lower", "print", "punct",
    "space", "upper", "word", "xdigit"]

/-- Reads the name of a class between colons and the bracket behind it, and says whether a caret
negates it. What is no such name is not refused: it may list characters. -/
def readName? : List Char → Option (Bool × List Char)
  | ':' :: text =>
    let (negated, text) := match text with
      | '^' :: text => (true, text)
      | text => (false, text)
    match text.dropWhile (· ≠ ':') with
    | ':' :: ']' :: rest =>
      if classNames.contains (String.ofList (text.takeWhile (· ≠ ':'))) then some (negated, rest)
      else none
    | _ => none
  | _ => none

/-- A named class is a set of characters, to which the case matters, or of bytes, of which it has to
leave out those beyond ASCII. -/
def Flags.allowsName (flags : Flags) (negated : Bool) : Bool :=
  if flags.unicode then !flags.caseless else !negated

/-- What is known of a class while it is read: the levels of what stands before the last operator,
and those of the members behind it. -/
structure Listing where
  left : Option Nat
  members : List Nat
  deriving DecidableEq, Repr

namespace Listing

def empty : Listing := ⟨none, []⟩

def insert (listing : Listing) (levels : Nat) : Listing :=
  { listing with members := levels :: listing.members }

/-- An operator and the two classes that it combines are one level. -/
def levels (listing : Listing) : Nat :=
  match listing.left with
  | none => beside listing.members
  | some left => beside [left, beside listing.members]

end Listing

/-- Reads the dashes that a class begins with. They stand for themselves. -/
def readDashes (flags : Flags) : Nat → Listing → List Char → Listing × List Char
  | fuel + 1, listing, '-' :: rest => readDashes flags fuel (listing.insert 0) (flags.skip rest)
  | _, listing, text => (listing, text)

/-- Reads what a class begins with, behind its opening bracket: a caret that negates it, and dashes
or else a closing bracket, which stand for themselves. -/
def readOpening (flags : Flags) (fuel : Nat) (text : List Char) :
    Option (Listing × List Char) := do
  let (negated, text) := match flags.skip text with
    | '^' :: rest => (true, flags.skip rest)
    | text => (false, text)
  let (listing, text) := match text with
    | ']' :: rest => (Listing.empty.insert 0, rest)
    | text => readDashes flags fuel .empty text
  if (negated && !flags.unicode) || (!listing.members.isEmpty && !flags.allowsLiteral) then none
  else some (listing, text)

/-- Reads a class behind its opening, to its closing bracket. -/
def readListing (flags : Flags) : Nat → Listing → List Char → Option (Nat × List Char)
  | 0, _, _ => none
  | fuel + 1, listing, text =>
    match flags.skip text with
    | ']' :: rest => some (listing.levels + 1, rest)
    | '&' :: '&' :: rest | '-' :: '-' :: rest | '~' :: '~' :: rest =>
      readListing flags fuel ⟨some listing.levels, []⟩ rest
    | '[' :: rest =>
      match readName? rest with
      | some (negated, rest) =>
        if flags.allowsName negated then readListing flags fuel (listing.insert 0) rest else none
      | none => do
        let (inner, rest) ← readOpening flags fuel rest
        let (levels, rest) ← readListing flags fuel inner rest
        readListing flags fuel (listing.insert levels) rest
    | text => do readListing flags fuel (listing.insert 0) (← readRange flags text)

/-- Reads a class behind its opening bracket. Of the levels in the answer the brackets are one. -/
def readClass (flags : Flags) (fuel : Nat) (text : List Char) : Option (Nat × List Char) := do
  let (listing, rest) ← readOpening flags fuel text
  readListing flags fuel listing rest

end TruncatedSha.Log.Pattern
