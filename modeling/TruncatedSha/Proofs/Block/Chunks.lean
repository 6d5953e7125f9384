import TruncatedSha.Block

/-!
# Cutting into blocks

`chunks` and `remainder` together lose nothing, and they can be taken piecewise: what is left over
from a first piece stands in front of the second.
-/
namespace TruncatedSha.Block

/-! ## Writing into a block -/

/-- Up to where a write ends, there is what was before it and what was written. -/
theorem take_write (block : Block) (start stop : Nat) (bytes : Bytes)
    (fits : start + bytes.length ≤ 128) (ends : start + bytes.length = stop) :
    (block.write start bytes fits).toList.take stop = block.toList.take start ++ bytes := by
  have size : (block.toList.take start ++ bytes).length = stop := by
    simp only [List.length_append, List.length_take, Vector.length_toList]
    omega
  rw [toList_write]
  exact List.take_left' size

/-- A write that reaches the end leaves nothing of the old bytes behind it. -/
theorem toList_write_of_end (block : Block) (start : Nat) (bytes : Bytes)
    (fits : start + bytes.length ≤ 128) (ends : start + bytes.length = 128) :
    (block.write start bytes fits).toList = block.toList.take start ++ bytes := by
  have whole : (block.write start bytes fits).toList.length ≤ 128 :=
    Nat.le_of_eq Vector.length_toList
  rw [← take_write block start 128 bytes fits ends, List.take_of_length_le whole]

/-! ## Cutting -/

theorem split?_eq_some_iff (bytes : Bytes) (block : Block) (rest : Bytes) :
    split? bytes = some (block, rest) ↔ bytes = block.toList ++ rest := by
  constructor
  · intro found
    simp only [split?] at found
    split at found
    · simp only [Option.some.injEq, Prod.mk.injEq] at found
      obtain ⟨rfl, rfl⟩ := found
      exact (List.take_append_drop 128 bytes).symm
    · simp at found
  · rintro rfl
    have front : (block.toList ++ rest).take 128 = block.toList :=
      List.take_left' block.length_toList
    have back : (block.toList ++ rest).drop 128 = rest := List.drop_left' block.length_toList
    simp only [split?, front, back, Vector.length_toList, dite_true, Option.some.injEq,
      Prod.mk.injEq, and_true]
    exact Vector.toArray_inj.mp Vector.toArray_toList

theorem split?_eq_none_iff (bytes : Bytes) : split? bytes = none ↔ bytes.length < 128 := by
  simp only [split?, List.length_take, dite_eq_right_iff, reduceCtorEq, imp_false]
  omega

theorem chunks_of_lt {bytes : Bytes} (short : bytes.length < 128) : chunks bytes = [] := by
  have none := (split?_eq_none_iff bytes).mpr short
  rw [chunks]
  split
  · rfl
  next found => simp [none] at found

theorem remainder_of_lt {bytes : Bytes} (short : bytes.length < 128) :
    remainder bytes = bytes := by
  simp [remainder, Nat.div_eq_of_lt short]

theorem chunks_block_append (block : Block) (rest : Bytes) :
    chunks (block.toList ++ rest) = block :: chunks rest := by
  have cut := (split?_eq_some_iff _ block rest).mpr rfl
  rw [chunks]
  split
  next missing => simp [cut] at missing
  next found =>
    rw [cut] at found
    cases found
    rfl

theorem chunks_toList (block : Block) : chunks block.toList = [block] := by
  rw [← List.append_nil block.toList, chunks_block_append, chunks_of_lt (by simp)]

theorem remainder_block_append (block : Block) (rest : Bytes) :
    remainder (block.toList ++ rest) = remainder rest := by
  have count : (block.toList ++ rest).length / 128 * 128 = 128 + rest.length / 128 * 128 := by
    simp only [List.length_append, Vector.length_toList]
    omega
  rw [remainder, remainder, count, ← List.drop_drop, List.drop_left' block.length_toList]

/-- Nothing is lost and nothing moves. -/
theorem flatMap_chunks_append_remainder (bytes : Bytes) :
    (chunks bytes).flatMap Vector.toList ++ remainder bytes = bytes := by
  fun_induction chunks bytes with
  | case1 bytes none =>
    rw [List.flatMap_nil, List.nil_append]
    exact remainder_of_lt ((split?_eq_none_iff bytes).mp none)
  | case2 bytes block rest found ih =>
    rw [(split?_eq_some_iff bytes block rest).mp found, remainder_block_append,
      List.flatMap_cons, List.append_assoc, ih]

/-- A whole number of blocks leaves no remainder. -/
theorem flatMap_chunks {bytes : Bytes} (whole : 128 ∣ bytes.length) :
    (chunks bytes).flatMap Vector.toList = bytes := by
  have nothing : remainder bytes = [] := by
    apply List.eq_nil_of_length_eq_zero
    rw [length_remainder]
    omega
  simpa [nothing] using flatMap_chunks_append_remainder bytes

theorem length_chunks (bytes : Bytes) : (chunks bytes).length = bytes.length / 128 := by
  fun_induction chunks bytes with
  | case1 bytes none =>
    have short := (split?_eq_none_iff bytes).mp none
    rw [List.length_nil, Nat.div_eq_of_lt short]
  | case2 bytes block rest found ih =>
    have size := length_of_split? found
    rw [List.length_cons, ih]
    omega

/-- The second piece is cut behind what the first one left over. -/
theorem chunks_append (first second : Bytes) :
    chunks (first ++ second) = chunks first ++ chunks (remainder first ++ second) := by
  -- Along the blocks of the first piece, until what is left of it is shorter than a block.
  fun_induction chunks first with
  | case1 first none =>
    rw [remainder_of_lt ((split?_eq_none_iff first).mp none), List.nil_append]
  | case2 first block rest found ih =>
    rw [(split?_eq_some_iff first block rest).mp found, List.append_assoc, chunks_block_append,
      remainder_block_append, ih, List.cons_append]

theorem remainder_append (first second : Bytes) :
    remainder (first ++ second) = remainder (remainder first ++ second) := by
  fun_induction chunks first with
  | case1 first none => rw [remainder_of_lt ((split?_eq_none_iff first).mp none)]
  | case2 first block rest found ih =>
    rw [(split?_eq_some_iff first block rest).mp found, List.append_assoc,
      remainder_block_append, remainder_block_append, ih]

end TruncatedSha.Block
