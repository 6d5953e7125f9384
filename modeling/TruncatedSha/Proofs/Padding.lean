import Mathlib.Order.Bounds.Basic
import TruncatedSha.Standard
import TruncatedSha.Proofs.BigEndian
import TruncatedSha.Proofs.Block.Chunks

/-!
# What padding adds

The suffix completes the last block, with no more zeros than that takes, and it depends on the
length only through the bytes that the last block still lacks. It ends in the length, which makes
the blocks of a message the end of no other message's blocks.
-/
namespace TruncatedSha

theorem zeros_add (first second : Nat) : zeros (first + second) = zeros first ++ zeros second :=
  (List.replicate_append_replicate ..).symm

namespace Padding

/-- Mark and length field fit behind the pending bytes. -/
theorem zeroCount_of_le {filled : Nat} (room : filled ≤ 111) : zeroCount filled = 111 - filled := by
  simp only [zeroCount]
  omega

/-- They do not fit: the zeros go on up to the length field of the next block. -/
theorem zeroCount_of_gt {filled : Nat} (spills : 111 < filled) (inside : filled < 128) :
    zeroCount filled = 127 - filled + 112 := by
  simp only [zeroCount]
  omega

@[simp] theorem zeroCount_mod (length : Nat) : zeroCount (length % 128) = zeroCount length := by
  simp only [zeroCount, Nat.mod_mod]

@[simp] theorem suffix_mod (length : Nat) (field : BitVec 128) :
    suffix (length % 128) field = suffix length field := by
  simp only [suffix, zeroCount_mod]

@[simp] theorem length_suffix (length : Nat) (field : BitVec 128) :
    (suffix length field).length = 1 + zeroCount length + 16 := by
  simp only [suffix, List.length_cons, List.length_append, length_zeros, length_bigEndian]
  omega

/-- No smaller number of zeros completes a block. -/
theorem isLeast_zeroCount (length : Nat) :
    IsLeast {z | 128 ∣ length + 1 + z + 16} (zeroCount length) := by
  constructor
  · change 128 ∣ length + 1 + (239 - length % 128) % 128 + 16
    omega
  · intro z whole
    change 128 ∣ length + 1 + z + 16 at whole
    change (239 - length % 128) % 128 ≤ z
    omega

example : zeroCount 111 = 0 ∧ zeroCount 112 = 127 := by decide

/-- The blocks are the padded message, whole. -/
theorem flatMap_blocks (message : Bytes) :
    (blocks message).flatMap Vector.toList = pad message := by
  apply Block.flatMap_chunks
  have whole := (isLeast_zeroCount message.length).1
  rw [pad, List.length_append, length_suffix, ← Nat.add_assoc, ← Nat.add_assoc]
  exact whole

/-! ## Reading a padded message from its end -/

theorem length_pad (message : Bytes) :
    (pad message).length = message.length + (1 + zeroCount message.length + 16) := by
  rw [pad, List.length_append, length_suffix]

/-- The last sixteen bytes are the length in bits. -/
theorem pad_eq_append (message : Bytes) (fits : message.length ≤ 2 ^ 125 - 1) :
    pad message = message ++ 0x80 :: zeros (zeroCount message.length) ++
      bigEndian 16 (8 * message.length) := by
  have inside : 8 * message.length < 2 ^ 128 := by omega
  rw [pad, suffix, BitVec.toNat_ofNat, Nat.mod_eq_of_lt inside, List.append_assoc, List.cons_append]

/-- A padded message that ends in another one has its length. -/
theorem length_eq_of_pad_suffix {first second : Bytes} (firstFits : first.length ≤ 2 ^ 125 - 1)
    (secondFits : second.length ≤ 2 ^ 125 - 1) (ends : pad first <:+ pad second) :
    first.length = second.length := by
  obtain ⟨front, joined⟩ := ends
  rw [pad_eq_append first firstFits, pad_eq_append second secondFits, ← List.append_assoc] at joined
  have fields : bigEndian 16 (8 * first.length) = bigEndian 16 (8 * second.length) :=
    (List.append_inj' joined (by simp)).2
  have bits : 8 * first.length = 8 * second.length := bigEndian_inj (by omega) (by omega) fields
  omega

/-- No message's blocks are the last blocks of another message. -/
theorem eq_of_blocks_suffix {first second : Bytes} (firstFits : first.length ≤ 2 ^ 125 - 1)
    (secondFits : second.length ≤ 2 ^ 125 - 1) (ends : blocks first <:+ blocks second) :
    first = second := by
  obtain ⟨front, joined⟩ := ends
  have spelled : front.flatMap Vector.toList ++ pad first = pad second := by
    rw [← flatMap_blocks first, ← flatMap_blocks second, ← joined, List.flatMap_append]
  have sameLength := length_eq_of_pad_suffix firstFits secondFits ⟨_, spelled⟩
  -- Padding adds as much to both, so nothing stands in front of the first.
  have nothing : front.flatMap Vector.toList = [] := by
    apply List.eq_nil_of_length_eq_zero
    have sizes := congrArg List.length spelled
    rw [List.length_append, length_pad, length_pad, sameLength] at sizes
    omega
  rw [nothing, List.nil_append, pad, pad] at spelled
  exact (List.append_inj spelled sameLength).1

end Padding

/-- The words that hashing starts from are those that the standard generates. -/
theorem State.initial_eq_standard : State.initial = Padding.initial := by decide +kernel

end TruncatedSha
