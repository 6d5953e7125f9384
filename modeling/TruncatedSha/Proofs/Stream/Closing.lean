import TruncatedSha.Proofs.Padding
import TruncatedSha.Proofs.Stream.Absorption

/-!
# What closing a stream compresses

The in-place padding amounts to the pending bytes followed by the suffix of padded messages, cut
into one block or two. No byte of the buffer behind the pending ones is left to be seen.
-/
namespace TruncatedSha.Stream

variable {σ : Type} {step : σ → Block → σ}

/-- The length field stands behind the first 112 bytes of the block that it is stamped on. -/
theorem toList_stamp (block : Block) (count : Count) :
    (stamp block count).toList = block.toList.take 112 ++ bigEndian 16 count.bitLength.toNat :=
  Block.toList_write_of_end block 112 _ (by simp) (by simp)

/-- Of a last block, only what stands before the zeros comes from the buffer. -/
theorem toList_stamp_zeros (block : Block) (start : Nat) (count : Count) (early : start ≤ 112)
    (fits : start + (zeros (112 - start)).length ≤ 128) :
    (stamp (block.write start (zeros (112 - start)) fits) count).toList =
      block.toList.take start ++ zeros (112 - start) ++ bigEndian 16 count.bitLength.toNat := by
  have ends : start + (zeros (112 - start)).length = 112 := by
    rw [length_zeros]
    omega
  rw [toList_stamp, Block.take_write block start 112 _ fits ends]

theorem drop_stamp (block : Block) (count : Count) :
    (stamp block count).toList.drop 112 = bigEndian 16 count.bitLength.toNat := by
  rw [toList_stamp]
  exact List.drop_left' (by simp)

/-- Whether the padding spills over or not, the last block is one with a length field. -/
theorem exists_close_eq_stamp (step : σ → Block → σ) (s : Stream σ) :
    ∃ chain block, close step s = step chain (stamp block s.count) := by
  unfold close
  dsimp only
  split
  next => exact ⟨_, _, rfl⟩
  next => exact ⟨_, _, rfl⟩

/-- Closing compresses the pending bytes and the suffix that completes them. -/
theorem close_eq (step : σ → Block → σ) (s : Stream σ) :
    close step s =
      (Block.chunks (s.pending ++ Padding.suffix s.filled s.count.bitLength)).foldl step s.chain := by
  have bound := s.filled_lt
  have marked : (s.buffer.write s.filled [0x80] bound).toList.take (s.filled + 1) =
      s.pending ++ [0x80] := Block.take_write s.buffer s.filled _ [0x80] bound rfl
  unfold close
  dsimp only
  split
  next spills =>
    -- The first block ends in zeros, and the second has nothing else before its length field.
    have ends : s.filled + 1 + (zeros (128 - (s.filled + 1))).length = 128 := by
      rw [length_zeros]
      omega
    have first := Block.toList_write_of_end (s.buffer.write s.filled [0x80] bound) (s.filled + 1)
      (zeros (128 - (s.filled + 1))) (Nat.le_of_eq ends) ends
    have cut : s.pending ++ Padding.suffix s.filled s.count.bitLength =
        (s.pending ++ [0x80] ++ zeros (128 - (s.filled + 1))) ++
          (zeros 112 ++ bigEndian 16 s.count.bitLength.toNat) := by
      rw [Padding.suffix, Padding.zeroCount_of_gt (by omega) bound, zeros_add]
      simp
    have second := toList_stamp_zeros ((s.buffer.write s.filled [0x80] bound).write (s.filled + 1)
      (zeros (128 - (s.filled + 1))) (Nat.le_of_eq ends)) 0 s.count (Nat.zero_le 112) (by simp)
    rw [List.take_zero, List.nil_append] at second
    rw [cut, ← marked, ← first, ← second, Block.chunks_block_append, Block.chunks_toList]
    rfl
  next =>
    -- Mark, zeros and length field end the block that was being filled.
    have only := toList_stamp_zeros (s.buffer.write s.filled [0x80] bound) (s.filled + 1) s.count
      (by omega) (by simp; omega)
    have cut : s.pending ++ Padding.suffix s.filled s.count.bitLength =
        s.pending ++ [0x80] ++ zeros (112 - (s.filled + 1)) ++
          bigEndian 16 s.count.bitLength.toNat := by
      rw [Padding.suffix, Padding.zeroCount_of_le (by omega)]
      simp
    rw [cut, ← marked, ← only, Block.chunks_toList]
    rfl

/-- Dead bytes do not show in what closing gives. -/
theorem Agree.close_eq {s t : Stream σ} (same : Agree s t) : close step s = close step t := by
  rw [Stream.close_eq, Stream.close_eq, same.chain, same.pending, filled, filled, same.count]

/-- What was taken in and what completes it are cut as one string. -/
theorem Takes.close_eq {s t : Stream σ} {data : Bytes} (taken : Takes step s data t) :
    close step t = (Block.chunks (s.pending ++ data ++
      Padding.suffix t.filled t.count.bitLength)).foldl step s.chain := by
  rw [Stream.close_eq, taken.chain, taken.pending, ← List.foldl_append, ← Block.chunks_append]

/-- A stream that has taken in a message from its start closes over the blocks of the padded
message. -/
theorem Takes.close_start {chain : σ} {message : Bytes} {s : Stream σ}
    (taken : Takes step (start chain) message s) :
    close step s = (Padding.blocks message).foldl step chain := by
  have nothing : (start chain).pending = [] := rfl
  have counted : s.count.toNat = message.length := taken.count.trans (Nat.zero_add _)
  -- The counter is the message's length, so it gives both the zeros and the length field.
  rw [taken.close_eq, nothing, List.nil_append, Count.bitLength_eq, filled, counted,
    Padding.suffix_mod]
  rfl

end TruncatedSha.Stream
