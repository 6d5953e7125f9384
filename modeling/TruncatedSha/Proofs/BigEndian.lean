import Mathlib.Algebra.Order.Ring.Nat
import Mathlib.Data.List.Induction
import TruncatedSha.Block

/-!
# Big-endian numbers

Reading undoes writing, and the words of a block are the numbers that its bytes spell, eight by
eight.
-/
namespace TruncatedSha

/-- The bytes of a number spell it, if there are enough of them. -/
theorem bigEndianValue_bigEndian (width value : Nat) (fits : value < 256 ^ width) :
    bigEndianValue (bigEndian width value) = value := by
  induction width generalizing value with
  | zero =>
    have zero : value = 0 := by simpa using fits
    rw [zero]
    rfl
  | succ width ih =>
    have upper : value / 256 < 256 ^ width := by
      rw [Nat.pow_succ] at fits
      exact Nat.div_lt_of_lt_mul (by rwa [Nat.mul_comm])
    -- The lowest byte stands last, and the induction is on the number without it.
    have last : bigEndianValue (bigEndian (width + 1) value) =
        bigEndianValue (bigEndian width (value / 256)) * 256 + value % 256 := by
      simp [bigEndian, bigEndianValue, List.foldl_append]
    rw [last, ih _ upper]
    omega

/-- Eight bytes are enough for a word. -/
theorem bigEndianValue_word (word : UInt64) :
    bigEndianValue (bigEndian 8 word.toNat) = word.toNat :=
  bigEndianValue_bigEndian 8 _ word.toNat_lt

theorem bigEndian_inj {width value other : Nat} (fits : value < 256 ^ width)
    (otherFits : other < 256 ^ width) (same : bigEndian width value = bigEndian width other) :
    value = other := by
  rw [← bigEndianValue_bigEndian width value fits, same,
    bigEndianValue_bigEndian width other otherFits]

/-- As many digits as there are bytes, and they are the bytes. -/
theorem bigEndian_bigEndianValue (bytes : Bytes) :
    bigEndian bytes.length (bigEndianValue bytes) = bytes := by
  induction bytes using List.reverseRecOn with
  | nil => rfl
  | append_singleton front last ih =>
    have small := last.toNat_lt
    have value : bigEndianValue (front ++ [last]) = bigEndianValue front * 256 + last.toNat := by
      rw [bigEndianValue, List.foldl_append, ← bigEndianValue, List.foldl_cons, List.foldl_nil]
    have upper : bigEndianValue (front ++ [last]) / 256 = bigEndianValue front := by omega
    have digit : UInt8.ofNat (bigEndianValue (front ++ [last])) = last := by
      apply UInt8.toNat_inj.mp
      rw [UInt8.toNat_ofNat']
      omega
    rw [List.length_append, List.length_singleton, bigEndian, upper, digit, ih]

/-- Reading bytes into a 64-bit word is reading a number, as long as the word has room for all of
them behind what it holds already. -/
private theorem toNat_foldl_bytes (bytes : Bytes) (start : UInt64)
    (room : (start.toNat + 1) * 256 ^ bytes.length ≤ 2 ^ 64) :
    (bytes.foldl (fun value byte => value * 256 + byte.toUInt64) start).toNat =
      bytes.foldl (fun value byte => value * 256 + byte.toNat) start.toNat := by
  induction bytes generalizing start with
  | nil => rfl
  | cons byte rest ih =>
    have small := byte.toNat_lt
    have positive : 0 < 256 ^ rest.length := Nat.pow_pos (by decide)
    rw [List.length_cons, Nat.pow_succ', ← Nat.mul_assoc] at room
    -- Even with all bits of the next byte set, neither the product nor the sum wraps.
    have fits : (start.toNat + 1) * 256 ≤ 2 ^ 64 :=
      Nat.le_trans (Nat.le_mul_of_pos_right _ positive) room
    have next : (start * 256 + byte.toUInt64).toNat = start.toNat * 256 + byte.toNat := by
      simp only [UInt64.toNat_add, UInt64.toNat_mul, UInt64.toNat_ofNat, UInt8.toNat_toUInt64]
      omega
    have shifted : (start.toNat * 256 + byte.toNat + 1) * 256 ^ rest.length ≤ 2 ^ 64 :=
      Nat.le_trans (Nat.mul_le_mul_right _ (by omega)) room
    rw [List.foldl_cons, List.foldl_cons, ← next]
    exact ih _ (by rwa [next])

/-- Word `i` of a block stands in the bytes from `8 * i` on, most significant first. -/
theorem Block.toNat_word (block : Block) (i : Fin 16) :
    (block.word i).toNat = bigEndianValue ((block.toList.drop (8 * i)).take 8) := by
  -- The loop over eight places is a fold over the eight bytes that stand there.
  have bytes : (block.toList.drop (8 * i)).take 8 =
      (List.finRange 8).map fun j : Fin 8 => block.get ⟨8 * i + j, by omega⟩ := by
    apply List.ext_getElem
    · simp only [List.length_take, List.length_drop, Vector.length_toList, List.length_map,
        List.length_finRange]
      omega
    · intro j _ _
      simp [Vector.get]
  have fold : block.word i = ((block.toList.drop (8 * i)).take 8).foldl
      (fun value byte => value * 256 + byte.toUInt64) 0 := by
    rw [bytes, List.foldl_map, Block.word, Fin.foldl_eq_finRange_foldl]
  have eight : ((block.toList.drop (8 * i)).take 8).length = 8 := by simp [bytes]
  rw [fold, bigEndianValue]
  exact toNat_foldl_bytes _ 0 (by rw [eight]; decide)

end TruncatedSha
