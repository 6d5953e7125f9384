/-!
# Numbers in a text

Whole numbers and decimals as they are given on a command line or in a setting. Digits are those of
ASCII.
-/
namespace TruncatedSha.Text

/-- A decimal number of at most `largest`, with an optional plus sign. -/
def parseNumber (largest : Nat) (text : String) : Option Nat :=
  let digits := match text.toList with
    | '+' :: rest => rest
    | chars => chars
  if digits.isEmpty || !digits.all Char.isDigit then none
  else
    let value := digits.foldl (fun value c => value * 10 + (c.toNat - 48)) 0
    if value ≤ largest then some value else none

/-- What may follow the digits of a decimal. -/
def isExponent : List Char → Bool
  | [] => true
  | mark :: rest =>
    let digits := match rest with
      | '+' :: digits | '-' :: digits => digits
      | digits => digits
    mark.toLower = 'e' && !digits.isEmpty && digits.all Char.isDigit

/-- A decimal without a sign: digits, of which a point may stand before, between or behind, and an
exponent; or one of the names of what is no finite number. -/
def isDecimal (text : List Char) : Bool :=
  let whole := text.takeWhile Char.isDigit
  let (fraction, rest) := match text.dropWhile Char.isDigit with
    | '.' :: rest => (rest.takeWhile Char.isDigit, rest.dropWhile Char.isDigit)
    | rest => ([], rest)
  (!(whole ++ fraction).isEmpty && isExponent rest) ||
    ["inf", "infinity", "nan"].contains ((String.ofList text).map Char.toLower)

end TruncatedSha.Text
