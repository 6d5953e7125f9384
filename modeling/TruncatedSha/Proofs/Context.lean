import TruncatedSha.Context
import TruncatedSha.Proofs.BigEndian
import TruncatedSha.Proofs.Stream.Closing

/-!
# Hashing in pieces and at once

Absorbing pieces is absorbing their concatenation, from any context. A fresh context that absorbs
a message and finishes has folded the compression function over the blocks of the padded message.
-/
namespace TruncatedSha

namespace Context

theorem toNat_count_init : init.count.toNat = 0 := rfl

/-- A fresh context has room for every message that is not too long. -/
theorem exists_ofPrefix_eq (how : Strategy) {message : Bytes}
    (fits : message.length ≤ 2 ^ 125 - 1) :
    ∃ c, ofPrefix how message = .ok c ∧ Stream.Takes how.compress init message c := by
  apply Stream.absorb_takes
  rw [toNat_count_init, Nat.zero_add]
  exact fits

theorem finish_eq_of_agree (how : Strategy) {c d : Context} (same : Stream.Agree c d) :
    c.finish how = d.finish how := by
  rw [finish, finish, same.close_eq]

/-- Piece by piece or all at once, the data is taken in, and the two contexts agree on all but dead
bytes of their buffers. -/
theorem absorbAll_agrees_flatten (how : Strategy) (c : Context) (pieces : List Bytes)
    (room : c.count.toNat + pieces.flatten.length ≤ 2 ^ 125 - 1) :
    ∃ many once, c.absorbAll how pieces = .ok many ∧ c.absorb how pieces.flatten = .ok once ∧
      Stream.Agree many once ∧ many.finish how = once.finish how ∧
      Stream.Takes how.compress c pieces.flatten once := by
  obtain ⟨many, absorbedMany, takenMany⟩ := Stream.absorbAll_takes how.compress c pieces room
  obtain ⟨once, absorbedOnce, takenOnce⟩ :=
    Stream.absorb_takes how.compress c pieces.flatten room
  have same := takenMany.agree takenOnce
  exact ⟨many, once, absorbedMany, absorbedOnce, same, finish_eq_of_agree how same, takenOnce⟩

/-- Two bytes are pending in front of stale ones. The pieces complete the block, are empty, and
leave two bytes pending again. -/
theorem absorbAll_agrees_flatten_stale :
    (130 : Count).toNat + [zeros 126, [], [1, 2]].flatten.length ≤ 2 ^ 125 - 1 ∧
      ∃ many once,
        absorbAll .unrolled ⟨.zero, .replicate 128 0xff, 130⟩ [zeros 126, [], [1, 2]] = .ok many ∧
        absorb .unrolled ⟨.zero, .replicate 128 0xff, 130⟩ [zeros 126, [], [1, 2]].flatten =
          .ok once ∧
        Stream.Agree many once ∧ many.finish .unrolled = once.finish .unrolled ∧
        Stream.Takes Rotating.compress ⟨.zero, .replicate 128 0xff, 130⟩
          [zeros 126, [], [1, 2]].flatten once :=
  ⟨by simp, absorbAll_agrees_flatten .unrolled ⟨.zero, .replicate 128 0xff, 130⟩
    [zeros 126, [], [1, 2]] (by simp)⟩

/-- Half of the words gives half of the bytes. -/
theorem digest_eq_truncate (s : State) : s.digest = Padding.truncate s := by
  apply Vector.toList_inj.mp
  have words : [s.a, s.b, s.c, s.d, s.e, s.f, s.g, s.h] =
      [s.a, s.b, s.c, s.d] ++ [s.e, s.f, s.g, s.h] := rfl
  have half : ([s.a, s.b, s.c, s.d].flatMap fun word => bigEndian 8 word.toNat).length = 32 := by
    simp
  change _ = (Padding.output s).take 32
  rw [Padding.output, words, List.flatMap_append, List.take_left' half]
  rfl

/-- A context that has taken in a message from the start finishes with the digest of the padded
message. -/
theorem finish_of_takes_init (how : Strategy) {c : Context} {message : Bytes}
    (taken : Stream.Takes how.compress init message c) :
    c.finish how = Padding.digest how.compress message := by
  rw [finish, taken.close_start, digest_eq_truncate]
  rfl

end Context

theorem hash_eq_digest (how : Strategy) (message : Bytes) (fits : message.length ≤ 2 ^ 125 - 1) :
    hash how message = .ok (Padding.digest how.compress message) := by
  obtain ⟨c, absorbed, taken⟩ := Context.exists_ofPrefix_eq how fits
  rw [hash, ← Context.ofPrefix, absorbed, ← Context.finish_of_takes_init how taken]
  rfl

/-- Hashing succeeds, with the digest of the standard's construction. The blocks spell the message, the
mark, the fewest zeros that complete a block, and the length in bits; the digest spells the first
four of the eight words that are left of them; and the words that hashing starts from are those that
the standard generates. -/
theorem hash_eq_digest_padded (how : Strategy) (message : Bytes)
    (fits : message.length ≤ 2 ^ 125 - 1) :
    let blocks := Padding.blocks message
    let last := blocks.foldl how.compress .initial
    ∃ digest, hash how message = .ok digest ∧ digest = Padding.digest how.compress message ∧
      digest.toList =
        [last.a, last.b, last.c, last.d].flatMap (fun word => bigEndian 8 word.toNat) ∧
      blocks.flatMap Vector.toList =
        message ++ 0x80 :: (List.replicate (Padding.zeroCount message.length) 0 ++
          bigEndian 16 (8 * message.length)) ∧
      IsLeast {z | 128 ∣ message.length + 1 + z + 16} (Padding.zeroCount message.length) ∧
      bigEndianValue (bigEndian 16 (8 * message.length)) = 8 * message.length ∧
      (∀ word : UInt64, bigEndianValue (bigEndian 8 word.toNat) = word.toNat) ∧
      State.initial = Padding.initial := by
  intro blocks last
  have inside : 8 * message.length < 2 ^ 128 := by omega
  refine ⟨_, hash_eq_digest how message fits, rfl, ?_, ?_, Padding.isLeast_zeroCount message.length,
    bigEndianValue_bigEndian 16 _ inside, bigEndianValue_word, State.initial_eq_standard⟩
  · rw [Padding.digest, ← Context.digest_eq_truncate]
    rfl
  · rw [Padding.flatMap_blocks, Padding.pad, Padding.suffix, BitVec.toNat_ofNat,
      Nat.mod_eq_of_lt inside]
    rfl

/-- After 112 bytes the length field no longer fits, and a block of its own follows. -/
theorem hash_eq_digest_padded_spill :
    (zeros 112).length ≤ 2 ^ 125 - 1 ∧
      ∃ digest, hash .looped (zeros 112) = .ok digest ∧
        digest = Padding.digest Shifting.compress (zeros 112) ∧
        (Padding.blocks (zeros 112)).flatMap Vector.toList =
          zeros 112 ++ 0x80 :: (List.replicate 127 0 ++ bigEndian 16 896) ∧
        IsLeast {z | 128 ∣ 112 + 1 + z + 16} 127 ∧ bigEndianValue (bigEndian 16 896) = 896 := by
  have fits : (zeros 112).length ≤ 2 ^ 125 - 1 := by simp
  obtain ⟨digest, hashed, folded, -, spelled, least, value, -⟩ :=
    hash_eq_digest_padded .looped (zeros 112) fits
  exact ⟨fits, digest, hashed, folded, spelled, least, value⟩

end TruncatedSha
