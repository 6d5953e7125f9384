/-!
# Characters, space and lines

A large set of characters is kept as ranges of code points, both ends included. Space is Unicode's
`White_Space`: what separates words, and what is trimmed from a text. A line ends at a line feed, and
a carriage return in front of it belongs to the end. The end of the text ends the last line, and there
a lone carriage return belongs to the line.
-/
namespace TruncatedSha.Text

abbrev CharRanges := List (Nat × Nat)

def CharRanges.contains (ranges : CharRanges) (c : Char) : Bool :=
  ranges.any fun range => range.1 ≤ c.toNat && c.toNat ≤ range.2

def isSpace (c : Char) : Bool :=
  let code := c.toNat
  (0x9 ≤ code && code ≤ 0xd) || code == 0x20 || code == 0x85 || code == 0xa0 || code == 0x1680 ||
    (0x2000 ≤ code && code ≤ 0x200a) || code == 0x2028 || code == 0x2029 || code == 0x202f ||
    code == 0x205f || code == 0x3000

/-- Drops the space at both ends. -/
def trim (text : List Char) : List Char :=
  ((text.dropWhile isSpace).reverse.dropWhile isSpace).reverse

def isBlank (line : String) : Bool := (trim line.toList).isEmpty

/-- The code points that are space, one by one. -/
def whiteSpace : List Nat :=
  [0x9, 0xa, 0xb, 0xc, 0xd, 0x20, 0x85, 0xa0, 0x1680, 0x2000, 0x2001, 0x2002, 0x2003, 0x2004, 0x2005,
    0x2006, 0x2007, 0x2008, 0x2009, 0x200a, 0x2028, 0x2029, 0x202f, 0x205f, 0x3000]

/-- Drops the carriage return before a line feed; `line` is read backwards. -/
def closeLine : List Char → List Char
  | '\r' :: line => line.reverse
  | line => line.reverse

/-- The lines of a text, after the characters `line` of the first, backwards. -/
def linesFrom (line : List Char) : List Char → List (List Char)
  | [] => if line.isEmpty then [] else [line.reverse]
  | c :: rest => if c = '\n' then closeLine line :: linesFrom [] rest else linesFrom (c :: line) rest

def lines (text : String) : List String := (linesFrom [] text.toList).map String.ofList

/-- What the lines of a text are. Each ends in a line feed, or in a carriage return and a line feed,
and the last one may end where the text does. -/
inductive Lines : List Char → List (List Char) → Prop
  | nil : Lines [] []
  | last {line : List Char} (present : line ≠ []) (unbroken : '\n' ∉ line) : Lines line [line]
  | fed {line rest : List Char} {others : List (List Char)} (unbroken : '\n' ∉ line)
      (kept : line.getLast? ≠ some '\r') (behind : Lines rest others) :
      Lines (line ++ '\n' :: rest) (line :: others)
  | returned {line rest : List Char} {others : List (List Char)} (unbroken : '\n' ∉ line)
      (behind : Lines rest others) : Lines (line ++ '\r' :: '\n' :: rest) (line :: others)

end TruncatedSha.Text
