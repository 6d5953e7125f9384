/-!
# Byte strings and blocks

Messages, digests and padding are lists of bytes. Numbers stand in them big-endian, most significant
byte first. A block is 128 bytes. It can be filled piece by piece, each piece with a proof that it
fits, and a byte string is cut into whole blocks from its front.
-/
namespace TruncatedSha

abbrev Bytes := List UInt8

/-- The last `width` base-256 digits of `value`, most significant first. -/
def bigEndian : (width value : Nat) → Bytes
  | 0, _ => []
  | width + 1, value => bigEndian width (value / 256) ++ [UInt8.ofNat value]

@[simp] theorem length_bigEndian (width value : Nat) : (bigEndian width value).length = width := by
  induction width generalizing value with
  | zero => rfl
  | succ width ih => simp [bigEndian, ih]

/-- The number whose base-256 digits are `bytes`. -/
def bigEndianValue (bytes : Bytes) : Nat :=
  bytes.foldl (fun value byte => value * 256 + byte.toNat) 0

def zeros (count : Nat) : Bytes := List.replicate count 0

@[simp] theorem length_zeros (count : Nat) : (zeros count).length = count := by
  simp [zeros]

abbrev Block := Vector UInt8 128

namespace Block

def zero : Block := Vector.replicate 128 0

/-- Overwrites the bytes from `start` on with `bytes`. -/
def write (block : Block) (start : Nat) (bytes : Bytes) (fits : start + bytes.length ≤ 128) :
    Block :=
  ⟨(block.toList.take start ++ bytes ++ block.toList.drop (start + bytes.length)).toArray,
    by simp; omega⟩

@[simp] theorem toList_write (block : Block) (start : Nat) (bytes : Bytes)
    (fits : start + bytes.length ≤ 128) :
    (block.write start bytes fits).toList =
      block.toList.take start ++ bytes ++ block.toList.drop (start + bytes.length) := rfl

/-- The first block of `bytes` and what follows it, if there is a whole one. -/
def split? (bytes : Bytes) : Option (Block × Bytes) :=
  let head := bytes.take 128
  if whole : head.length = 128 then
    some (⟨head.toArray, by simpa using whole⟩, bytes.drop 128)
  else none

theorem length_of_split? {bytes rest : Bytes} {block : Block}
    (found : split? bytes = some (block, rest)) : rest.length + 128 = bytes.length := by
  simp only [split?] at found
  split at found
  next whole =>
    simp only [Option.some.injEq, Prod.mk.injEq] at found
    rw [← found.2]
    simp at whole ⊢
    omega
  · simp at found

/-- All whole blocks of `bytes`, from the front. -/
def chunks (bytes : Bytes) : List Block :=
  match _found : split? bytes with
  | none => []
  | some (block, rest) => block :: chunks rest
termination_by bytes.length
decreasing_by have := length_of_split? _found; omega

/-- What is left of `bytes` behind its last whole block. -/
def remainder (bytes : Bytes) : Bytes := bytes.drop (bytes.length / 128 * 128)

@[simp] theorem length_remainder (bytes : Bytes) :
    (remainder bytes).length = bytes.length % 128 := by
  simp only [remainder, List.length_drop]
  omega

theorem zero_add_length_remainder_le (bytes : Bytes) : 0 + (remainder bytes).length ≤ 128 := by
  rw [length_remainder]
  omega

/-- The big-endian word at position `i` of sixteen. -/
def word (block : Block) (i : Fin 16) : UInt64 :=
  Fin.foldl 8 (fun value j => value * 256 + (block.get ⟨8 * i + j, by omega⟩).toUInt64) 0

end Block

end TruncatedSha
