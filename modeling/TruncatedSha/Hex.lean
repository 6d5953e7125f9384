import TruncatedSha.State
import TruncatedSha.Text.Quoted

/-!
# Hexadecimal digests

A byte is written as two digits in lower case. Reading takes either case, looks at the bytes of
the text, and reports the first thing that is wrong with it.
-/
namespace TruncatedSha.Hex

def digit (n : Nat) : Char := if n < 10 then Char.ofNat (48 + n) else Char.ofNat (87 + n)

def encode (bytes : Bytes) : List Char :=
  bytes.flatMap fun byte => [digit (byte.toNat / 16), digit (byte.toNat % 16)]

/-- The value of a digit, given as its ASCII code. -/
def value? (code : UInt8) : Option Nat :=
  let n := code.toNat
  if 48 ≤ n ∧ n ≤ 57 then some (n - 48)
  else if 97 ≤ n ∧ n ≤ 102 then some (n - 87)
  else if 65 ≤ n ∧ n ≤ 70 then some (n - 55)
  else none

inductive HexError where
  | oddLength
  | wrongLength
  | badDigit (code : UInt8) (position : Nat)
  deriving DecidableEq, Repr

/-- A byte that is no digit is shown as the character with its number. -/
def HexError.message : HexError → String
  | oddLength => "Odd number of digits"
  | wrongLength => "Invalid string length"
  | badDigit code position =>
    "Invalid character " ++ Text.quotedChar (Char.ofNat code.toNat) ++ " at position " ++
      toString position

/-- Reads digits two by two; the first stands at `position`. -/
def decodePairs (position : Nat) : Bytes → Except HexError Bytes
  | high :: low :: rest =>
    match value? high with
    | none => .error (.badDigit high position)
    | some h =>
      match value? low with
      | none => .error (.badDigit low (position + 1))
      | some l =>
        match decodePairs (position + 2) rest with
        | .error e => .error e
        | .ok bytes => .ok (UInt8.ofNat (16 * h + l) :: bytes)
  | [_] => .error .oddLength
  | [] => .ok []

theorem length_decodePairs {position : Nat} {codes bytes : Bytes}
    (read : decodePairs position codes = .ok bytes) : 2 * bytes.length = codes.length := by
  fun_induction decodePairs position codes generalizing bytes with
  | case1 | case2 | case3 | case5 => simp at read
  | case4 position high low rest h _ l _ bytes' found ih =>
    cases read
    simp [← ih found]
    omega
  | case6 => cases read; rfl

/-- Reads a digest: the number of digits is looked at before the digits are. -/
def decode (text : List Char) : Except HexError Digest :=
  let codes := text.flatMap String.utf8EncodeChar
  if codes.length % 2 ≠ 0 then .error .oddLength
  else if whole : codes.length / 2 ≠ 32 then .error .wrongLength
  else
    match read : decodePairs 0 codes with
    | .error e => .error e
    | .ok bytes => .ok ⟨bytes.toArray, by have := length_decodePairs read; simp; omega⟩

/-! ## Spelled digests

What it means that a text spells a digest, without reading it: there are sixty-four digits, and the
number that they stand for is the number that stands in the bytes.
-/

def digits : List Char :=
  ['0', '1', '2', '3', '4', '5', '6', '7', '8', '9', 'a', 'b', 'c', 'd', 'e', 'f']

/-- Both cases count as digits. -/
def IsDigit (c : Char) : Prop := c.toLower ∈ digits

instance (c : Char) : Decidable (IsDigit c) := inferInstanceAs (Decidable (c.toLower ∈ digits))

/-- The value of a digit is its place among the digits. -/
def valueOf (c : Char) : Nat := digits.idxOf c.toLower

def number (text : List Char) : Nat := text.foldl (fun value c => value * 16 + valueOf c) 0

structure Spells (text : List Char) (digest : Digest) : Prop where
  length : text.length = 64
  digits : ∀ c ∈ text, IsDigit c
  number : number text = bigEndianValue digest.toList

end TruncatedSha.Hex
