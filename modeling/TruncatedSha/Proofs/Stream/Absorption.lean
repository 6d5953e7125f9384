import TruncatedSha.Stream
import TruncatedSha.Proofs.Block.Chunks
import TruncatedSha.Proofs.Count

/-!
# What a stream takes in

Whichever way the data goes, through the buffer or past it, a stream ends up as if the pending bytes
and the data had been one string that is cut into blocks. Only the pending bytes, the chaining value
and the counter are determined by this; the rest of the buffer is dead.
-/
namespace TruncatedSha.Stream

variable {σ : Type} {step : σ → Block → σ}

@[simp] theorem length_pending (s : Stream σ) : s.pending.length = s.filled := by
  have := s.filled_lt
  simp only [pending, List.length_take, Vector.length_toList]
  omega

/-- Two streams with the same future: they differ in dead bytes at most. -/
structure Agree (s t : Stream σ) : Prop where
  chain : s.chain = t.chain
  count : s.count = t.count
  pending : s.pending = t.pending

/-- What `s` becomes by taking in `data`, up to dead bytes. -/
structure Takes (step : σ → Block → σ) (s : Stream σ) (data : Bytes) (t : Stream σ) : Prop where
  chain : t.chain = (Block.chunks (s.pending ++ data)).foldl step s.chain
  count : t.count.toNat = s.count.toNat + data.length
  pending : t.pending = Block.remainder (s.pending ++ data)

/-! ## One piece -/

private theorem take_bulk (step : σ → Block → σ) (s : Stream σ) (data : Bytes) :
    (bulk step s data).buffer.toList.take (Block.remainder data).length = Block.remainder data := by
  have written := Block.take_write s.buffer 0 _ (Block.remainder data) (by simp; omega)
    (Nat.zero_add _)
  simpa only [bulk, List.take_zero, List.nil_append] using written

/-- The buffer holds what is left over, with the live bytes counted from the pending ones. -/
theorem accept_eq (step : σ → Block → σ) (s : Stream σ) (data : Bytes) :
    (accept step s data).chain = (Block.chunks (s.pending ++ data)).foldl step s.chain ∧
      (accept step s data).buffer.toList.take (Block.remainder (s.pending ++ data)).length =
        Block.remainder (s.pending ++ data) := by
  have bound := s.filled_lt
  unfold accept
  split
  next none =>
    -- Nothing waits, so the data is cut as it is.
    have nothing : s.pending = [] := List.eq_nil_of_length_eq_zero (by simp [none])
    rw [nothing, List.nil_append]
    exact ⟨rfl, take_bulk step s data⟩
  next =>
    dsimp only
    split
    next short =>
      -- The data ends before the block is full.
      have all : data.take (128 - s.filled) = data := by
        apply List.take_of_length_le
        rw [List.length_take] at short
        omega
      have size : (s.pending ++ data).length < 128 := by
        rw [all] at short
        simpa using short
      rw [Block.chunks_of_lt size, Block.remainder_of_lt size]
      refine ⟨rfl, ?_⟩
      have fits : s.filled + data.length ≤ 128 := by rw [all] at short; omega
      have written : _ = s.pending ++ data := Block.take_write s.buffer s.filled _ data fits rfl
      simpa only [all, List.length_append, length_pending] using written
    next full =>
      -- The topped-up buffer is the first block of the joined bytes.
      have size : s.filled + (data.take (128 - s.filled)).length = 128 := by
        rw [List.length_take] at full ⊢
        omega
      have joined := Block.toList_write_of_end s.buffer s.filled (data.take (128 - s.filled))
        (Nat.le_of_eq size) size
      have cut : s.pending ++ data =
          (s.buffer.write s.filled (data.take (128 - s.filled)) (Nat.le_of_eq size)).toList ++
            data.drop (128 - s.filled) := by
        rw [joined, List.append_assoc, List.take_append_drop, pending]
      rw [cut, Block.chunks_block_append, Block.remainder_block_append]
      exact ⟨rfl, take_bulk step _ _⟩

/-! ## Absorbing -/

theorem Takes.nil (step : σ → Block → σ) (s : Stream σ) : Takes step s [] s := by
  have short : s.pending.length < 128 := by
    rw [length_pending]
    exact s.filled_lt
  constructor
  · rw [List.append_nil, Block.chunks_of_lt short, List.foldl_nil]
  · rfl
  · rw [List.append_nil, Block.remainder_of_lt short]

theorem Takes.append {s t u : Stream σ} {first second : Bytes}
    (before : Takes step s first t) (after : Takes step t second u) :
    Takes step s (first ++ second) u := by
  -- Both sides cut the pending bytes and all the data; the right one pauses behind `first`.
  constructor
  · rw [after.chain, before.chain, before.pending, ← List.append_assoc,
      Block.chunks_append (s.pending ++ first) second, List.foldl_append]
  · rw [after.count, before.count, List.length_append, Nat.add_assoc]
  · rw [after.pending, before.pending, ← List.append_assoc, ← Block.remainder_append]

theorem Agree.refl (s : Stream σ) : Agree s s := ⟨rfl, rfl, rfl⟩

/-- What is alive decides with the data, and with nothing else, what is alive afterwards. -/
theorem Agree.takes {s t s' t' : Stream σ} {data : Bytes} (same : Agree s t)
    (left : Takes step s data s') (right : Takes step t data t') : Agree s' t' := by
  constructor
  · rw [left.chain, right.chain, same.chain, same.pending]
  · apply BitVec.eq_of_toNat_eq
    rw [left.count, right.count, same.count]
  · rw [left.pending, right.pending, same.pending]

theorem Takes.agree {s t u : Stream σ} {data : Bytes} (left : Takes step s data t)
    (right : Takes step s data u) : Agree t u :=
  (Agree.refl s).takes left right

/-- Data is taken in if the counter allows it, and is refused otherwise. Empty data is taken in
whatever the counter says. -/
theorem absorb_cases (step : σ → Block → σ) (s : Stream σ) (data : Bytes) :
    ((data = [] ∨ s.count.toNat + data.length ≤ 2 ^ 125 - 1) ∧
      ∃ t, absorb step s data = .ok t ∧ Takes step s data t) ∨
    ((data ≠ [] ∧ 2 ^ 125 - 1 < s.count.toNat + data.length) ∧
      absorb step s data = .error .messageTooLong) := by
  cases data with
  | nil => exact .inl ⟨.inl rfl, s, rfl, .nil step s⟩
  | cons byte rest =>
    simp only [absorb, List.isEmpty_cons, Bool.false_eq_true, if_false]
    cases moved : s.count.advance? (byte :: rest).length with
    | none =>
      have above := (Count.advance?_eq_none_iff s.count _).mp moved
      exact .inr ⟨⟨List.cons_ne_nil byte rest, above⟩, rfl⟩
    | some next =>
      obtain ⟨counted, bound⟩ := (Count.advance?_eq_some_iff s.count next _).mp moved
      obtain ⟨chain, live⟩ := accept_eq step s (byte :: rest)
      refine .inl ⟨.inr bound, _, rfl, chain, counted, ?_⟩
      -- The new counter says how many bytes of the buffer are alive.
      have filled : next.toNat % 128 = (Block.remainder (s.pending ++ byte :: rest)).length := by
        rw [Block.length_remainder, List.length_append, length_pending, counted, Stream.filled]
        omega
      simpa only [pending, Stream.filled, filled] using live

theorem absorb_of_fits (step : σ → Block → σ) (s : Stream σ) (data : Bytes)
    (fits : data.length ≤ s.count.left) :
    ∃ t, absorb step s data = .ok t ∧ Takes step s data t := by
  rcases absorb_cases step s data with ⟨-, taken⟩ | ⟨⟨present, above⟩, -⟩
  · exact taken
  · have positive := List.length_pos_iff.mpr present
    rw [Count.left_eq] at fits
    omega

theorem absorb_refuses (step : σ → Block → σ) (s : Stream σ) (data : Bytes)
    (long : s.count.left < data.length) : absorb step s data = .error .messageTooLong := by
  rcases absorb_cases step s data with ⟨rfl | room, -⟩ | ⟨-, refused⟩
  · simp at long
  · rw [Count.left_eq] at long
    omega
  · exact refused

/-- Streams that agree take data in or refuse it together. -/
theorem Agree.absorb {s t : Stream σ} (same : Agree s t) (step : σ → Block → σ) (data : Bytes) :
    (∃ s' t', Stream.absorb step s data = .ok s' ∧ Stream.absorb step t data = .ok t' ∧
      Agree s' t') ∨
    (Stream.absorb step s data = .error .messageTooLong ∧
      Stream.absorb step t data = .error .messageTooLong) := by
  by_cases fits : data.length ≤ s.count.left
  · obtain ⟨s', left, leftTaken⟩ := absorb_of_fits step s data fits
    rw [same.count] at fits
    obtain ⟨t', right, rightTaken⟩ := absorb_of_fits step t data fits
    exact .inl ⟨s', t', left, right, same.takes leftTaken rightTaken⟩
  · have long := Nat.lt_of_not_le fits
    have left := absorb_refuses step s data long
    rw [same.count] at long
    exact .inr ⟨left, absorb_refuses step t data long⟩

theorem absorb_takes (step : σ → Block → σ) (s : Stream σ) (data : Bytes)
    (room : s.count.toNat + data.length ≤ 2 ^ 125 - 1) :
    ∃ t, absorb step s data = .ok t ∧ Takes step s data t := by
  apply absorb_of_fits
  rw [Count.left_eq]
  omega

/-- Data uses up room. -/
theorem Takes.left {s t : Stream σ} {data : Bytes} (taken : Takes step s data t) :
    t.count.left = s.count.left - data.length := by
  rw [Count.left_eq, Count.left_eq, taken.count]
  omega

/-- Two pieces are taken in one after the other, as one piece would be, or they are refused as one
would be, of which the first may have been taken in before. -/
theorem absorb_append_cases (step : σ → Block → σ) (s : Stream σ) (first second : Bytes) :
    (∃ t u v, absorb step s first = .ok t ∧ absorb step t second = .ok u ∧
      absorb step s (first ++ second) = .ok v ∧ Agree u v) ∨
    ((absorb step s first = .error .messageTooLong ∨
      ∃ t, absorb step s first = .ok t ∧ absorb step t second = .error .messageTooLong) ∧
      absorb step s (first ++ second) = .error .messageTooLong) := by
  by_cases alone : first.length ≤ s.count.left
  · obtain ⟨t, absorbed, taken⟩ := absorb_of_fits step s first alone
    -- Whether there is room for both is decided by the room behind the first.
    have rest := taken.left
    by_cases fits : second.length ≤ t.count.left
    · obtain ⟨u, others, takenOthers⟩ := absorb_of_fits step t second fits
      obtain ⟨v, once, takenOnce⟩ := absorb_of_fits step s (first ++ second)
        (by rw [List.length_append]; omega)
      exact .inl ⟨t, u, v, absorbed, others, once, (taken.append takenOthers).agree takenOnce⟩
    · right
      refine ⟨.inr ⟨t, absorbed, absorb_refuses step t second (Nat.lt_of_not_le fits)⟩, ?_⟩
      apply absorb_refuses
      rw [List.length_append]
      omega
  · right
    refine ⟨.inl (absorb_refuses step s first (Nat.lt_of_not_le alone)), ?_⟩
    apply absorb_refuses
    rw [List.length_append]
    omega

/-- Several pieces are taken in as their concatenation. -/
theorem absorbAll_takes (step : σ → Block → σ) (s : Stream σ) (pieces : List Bytes)
    (room : s.count.toNat + pieces.flatten.length ≤ 2 ^ 125 - 1) :
    ∃ t, absorbAll step s pieces = .ok t ∧ Takes step s pieces.flatten t := by
  induction pieces generalizing s with
  | nil => exact ⟨s, rfl, .nil step s⟩
  | cons piece rest ih =>
    rw [List.flatten_cons, List.length_append] at room
    obtain ⟨t, absorbed, taken⟩ := absorb_takes step s piece (by omega)
    obtain ⟨u, others, restTaken⟩ := ih t (by rw [taken.count]; omega)
    refine ⟨u, ?_, ?_⟩
    · rw [absorbAll, List.foldlM_cons, absorbed]
      exact others
    · rw [List.flatten_cons]
      exact taken.append restTaken

end TruncatedSha.Stream
