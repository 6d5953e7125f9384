import TruncatedSha.Stream.Finishing
import TruncatedSha.Proofs.Stream.Closing

/-!
# Finishing in place stays in range

Whatever the state, the buffer and the counter of a context hold, each part that the padding is
written to is there. The digest is that of the pending bytes and their suffix, cut into one block
or two.
-/
namespace TruncatedSha.Finishing

variable {σ : Type} (step : σ → Block → σ)

theorem run_overwrite (s : Stream σ) {start stop : Nat} {bytes : Bytes}
    (ends : start + bytes.length = stop) (inside : stop ≤ 128) :
    (overwrite start stop bytes).run s =
      .ok () { s with buffer := s.buffer.write start bytes (by omega) } := by
  rw [overwrite, dif_pos ⟨ends, inside⟩]
  rfl

example (s : Stream σ) : (clear 113 112).run s = .error (.part 113 112) s := rfl

theorem run_clear (s : Stream σ) {start stop : Nat} (early : start ≤ stop) (inside : stop ≤ 128) :
    (clear start stop).run s = .ok () { s with
      buffer := s.buffer.write start (zeros (stop - start)) (by rw [length_zeros]; omega) } :=
  run_overwrite s (by rw [length_zeros]; omega) inside

theorem run_makeRoom_of_spills (s : Stream σ) {filled : Nat} (inside : filled ≤ 128)
    (spills : 128 - filled < 16) :
    ∃ t, (makeRoom step filled).run s = .ok 0 t ∧
      t.buffer = s.buffer.write filled (zeros (128 - filled)) (by rw [length_zeros]; omega) ∧
      t.chain = step s.chain t.buffer := by
  rw [makeRoom, if_pos spills, EStateM.run_bind, run_clear s inside (Nat.le_refl 128)]
  exact ⟨_, rfl, rfl, rfl⟩

theorem run_makeRoom_of_room (s : Stream σ) {filled : Nat} (room : ¬ 128 - filled < 16) :
    (makeRoom step filled).run s = .ok filled s := by
  rw [makeRoom, if_neg room]
  rfl

theorem run_complete (s : Stream σ) {filled : Nat} (early : filled ≤ 112) (count : Count) :
    ∃ t, (complete step filled count).run s = .ok () t ∧
      t.chain = step s.chain (Stream.stamp (s.buffer.write filled (zeros (112 - filled))
        (by rw [length_zeros]; omega)) count) := by
  rw [complete, EStateM.run_bind, run_clear s early (by decide)]
  dsimp only
  rw [EStateM.run_bind, run_overwrite _ (by simp) (Nat.le_refl 128)]
  exact ⟨_, rfl, rfl⟩

/-- Nothing is refused, and the chaining value is the one that closing gives. -/
theorem run_pad (s : Stream σ) :
    ∃ t, (pad step).run s = .ok () t ∧ t.chain = Stream.close step s := by
  -- One byte is free for the mark, because a full block never waits in the buffer.
  have bound : s.filled + 1 ≤ 128 := s.filled_lt
  have marked : s.filled + [0x80].length = s.filled + 1 := rfl
  rw [pad, EStateM.run_bind, EStateM.run_get]
  dsimp only
  rw [EStateM.run_bind, run_overwrite s marked bound]
  dsimp only
  rw [EStateM.run_bind, Stream.close]
  dsimp only
  by_cases spills : 128 - (s.filled + 1) < 16
  · -- The last block starts over at the front, and what is left in it is overwritten.
    obtain ⟨t, made, buffer, chain⟩ := run_makeRoom_of_spills step _ bound spills
    obtain ⟨u, completed, closed⟩ := run_complete step t (Nat.zero_le 112) s.count
    refine ⟨u, ?_, ?_⟩
    · rw [made]
      exact completed
    · simp only [dif_pos spills, closed, chain, buffer, Nat.sub_zero]
  · rw [run_makeRoom_of_room step _ spills, dif_neg spills]
    exact run_complete step _ (by omega) s.count

/-- The pending bytes and their suffix are one block, or two if the suffix spills over. -/
theorem length_closing_blocks (s : Stream σ) :
    (Block.chunks (s.pending ++ Padding.suffix s.filled s.count.bitLength)).length =
      if s.filled ≤ 111 then 1 else 2 := by
  have bound := s.filled_lt
  rw [Block.length_chunks, List.length_append, Stream.length_pending, Padding.length_suffix]
  -- With 111 bytes pending the mark and the length field just fit.
  split
  next room =>
    rw [Padding.zeroCount_of_le room]
    omega
  next spills =>
    rw [Padding.zeroCount_of_gt (by omega) bound]
    omega

/-- The blocks spell the pending bytes, the mark, zeros and the length in bits as far as the field
holds it. -/
theorem flatMap_closing_blocks (s : Stream σ) :
    (Block.chunks (s.pending ++ Padding.suffix s.filled s.count.bitLength)).flatMap Vector.toList =
      s.pending ++ 0x80 :: (zeros (Padding.zeroCount s.filled) ++
        bigEndian 16 (8 * s.count.toNat % 2 ^ 128)) := by
  have whole := (Padding.isLeast_zeroCount s.filled).1
  rw [Block.flatMap_chunks, Padding.suffix, Count.bitLength_eq, BitVec.toNat_ofNat]
  rw [List.length_append, Stream.length_pending, Padding.length_suffix, ← Nat.add_assoc,
    ← Nat.add_assoc]
  exact whole

/-- Finishing never leaves the buffer, whatever the context holds. It compresses the pending bytes
with the mark, the fewest zeros that complete a block, and the length in bits, of which the field
keeps the last 128: one block if there is room in it, and two otherwise. It gives the first four
words, and leaves zeros everywhere. Numbers are written big-endian. -/
theorem run_finish_padded (how : Strategy) (c : Context) :
    let r := c.count.toNat % 128
    ∃ (zeroCount : Nat) (blocks : List Block) (digest : Digest) (after : Context),
      (finish how).run c = .ok digest after ∧ c.finishErasing how = (digest, after) ∧
      digest.toList = ((blocks.foldl how.compress c.chain).words.take 4).flatMap
        (fun word => bigEndian 8 word.toNat) ∧
      (∀ word : UInt64, bigEndianValue (bigEndian 8 word.toNat) = word.toNat) ∧
      blocks.flatMap Vector.toList =
        c.buffer.toList.take r ++ 0x80 :: (List.replicate zeroCount 0 ++
          bigEndian 16 (8 * c.count.toNat % 2 ^ 128)) ∧
      bigEndianValue (bigEndian 16 (8 * c.count.toNat % 2 ^ 128)) =
        8 * c.count.toNat % 2 ^ 128 ∧
      IsLeast {z | 128 ∣ r + 1 + z + 16} zeroCount ∧
      blocks.length = (if r ≤ 111 then 1 else 2) ∧
      after.chain.words = List.replicate 8 0 ∧ after.buffer.toList = List.replicate 128 0 ∧
      after.count = 0 := by
  intro r
  refine ⟨Padding.zeroCount r, _, c.finish how, .erased, ?_, rfl, ?_, bigEndianValue_word,
    flatMap_closing_blocks c, bigEndianValue_bigEndian 16 _ (Nat.mod_lt _ (by decide)),
    Padding.isLeast_zeroCount r, length_closing_blocks c, rfl, ?_, rfl⟩
  · -- The run goes through, and gives what finishing at once gives.
    obtain ⟨t, padded, closed⟩ := run_pad how.compress c
    rw [finish, EStateM.run_bind, padded, Context.finish, ← closed]
    rfl
  · rw [← Stream.close_eq]
    rfl
  · exact Vector.toList_replicate

end TruncatedSha.Finishing
