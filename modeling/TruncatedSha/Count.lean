/-!
# Message length counters

A counter holds a number of bytes in 128 bits. A message may be so long that its length in bits
still fits the 128 bits of the length field, and no longer.
-/
namespace TruncatedSha

abbrev Count := BitVec 128

/-- The one way in which hashing more data can fail. -/
inductive LengthOverflow where
  | messageTooLong
  deriving DecidableEq, Repr

def LengthOverflow.message : LengthOverflow → String
  | messageTooLong => "Overflow on message length"

namespace Count

/-- The number of values that a counter can have, `2 ^ 128`. -/
def size : Nat := 1 <<< 128

/-- The longest message, in bytes. -/
def longest : Count := BitVec.allOnes 128 >>> 3

/-- The counter after so many more bytes, unless 128 bits or the longest message are exceeded. -/
def advance? (count : Count) (bytes : Nat) : Option Count :=
  if count.toNat + bytes < size then
    some (count + BitVec.ofNat 128 bytes) |>.filter (· ≤ longest)
  else none

/-- How many more bytes there is room for: none if the counter is past the longest message. -/
def left (count : Count) : Nat := longest.toNat - count.toNat

/-- The length in bits, as the sixteen bytes that end the last block. The top three bits of the
counter fall out. -/
def bitLength (count : Count) : BitVec 128 := count <<< 3

end Count

end TruncatedSha
