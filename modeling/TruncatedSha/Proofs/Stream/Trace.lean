import TruncatedSha.Proofs.Context

/-!
# Which blocks a run compresses

A stream does with its blocks whatever its chaining function does. One that writes down all that it
is given goes on as before, and leaves the list of its calls behind.

A run that writes down its calls compresses the blocks of the padded message, whatever pieces the
message comes in. They end in its length, so that the blocks of one message are not the last blocks
of another one.
-/
namespace TruncatedSha

/-! ## Calls -/

namespace Stream

variable {σ : Type}

/-- What a chaining function is called with. -/
abbrev Call (σ : Type) := σ × Block

/-- Goes on as `step` does, and adds the call to those before it. -/
def record (step : σ → Block → σ) (run : σ × List (Call σ)) (block : Block) :
    σ × List (Call σ) :=
  (step run.1 block, run.2 ++ [(run.1, block)])

/-- The calls that folding `step` over some blocks makes. -/
def calls (step : σ → Block → σ) (chain : σ) : List Block → List (Call σ)
  | [] => []
  | block :: rest => (chain, block) :: calls step (step chain block) rest

/-- Equally far from their ends, two runs make different calls that `step` does not tell apart: it
gives the same chaining value or, if these are the last calls, the same first four words. -/
def Collide (step : State → Block → State) (left right : List (Call State)) : Prop :=
  ∃ (i : Nat) (x y : Call State), left.reverse[i]? = some x ∧ right.reverse[i]? = some y ∧ x ≠ y ∧
    (step x.1 x.2 = step y.1 y.2 ∨
      i = 0 ∧ (step x.1 x.2).words.take 4 = (step y.1 y.2).words.take 4)

end Stream

/-- Hashes a message with `step` in the place of the compression function: the last chaining value,
and all calls in their order. -/
def traced (step : State → Block → State) (message : Bytes) :
    Except LengthOverflow (State × List (Stream.Call State)) :=
  (Stream.absorb (Stream.record step) (.start (.initial, [])) message).map
    (Stream.close (Stream.record step))

/-- The blocks that `step` is called with when a message is hashed in pieces. -/
def compressed (step : State → Block → State) (pieces : List Bytes) :
    Except LengthOverflow (List Block) :=
  (Stream.absorbAll (Stream.record step) (.start (.initial, [])) pieces).map fun s =>
    (Stream.close (Stream.record step) s).2.map Prod.snd

/-! ## The calls of a run -/

namespace Stream

variable {σ : Type} {step : σ → Block → σ}

theorem foldl_record (step : σ → Block → σ) (chain : σ) (log : List (Call σ))
    (blocks : List Block) :
    blocks.foldl (record step) (chain, log) =
      (blocks.foldl step chain, log ++ calls step chain blocks) := by
  induction blocks generalizing chain log with
  | nil => simp [calls]
  | cons block rest ih =>
    rw [List.foldl_cons, record, ih, List.foldl_cons, calls, List.append_assoc,
      List.singleton_append]

theorem map_snd_calls (step : σ → Block → σ) (chain : σ) (blocks : List Block) :
    (calls step chain blocks).map Prod.snd = blocks := by
  induction blocks generalizing chain with
  | nil => rfl
  | cons block rest ih => rw [calls, List.map_cons, ih]

end Stream

/-- However the pieces are cut, the blocks are those of the whole message. -/
theorem compressed_eq (step : State → Block → State) {pieces : List Bytes}
    (fits : pieces.flatten.length ≤ 2 ^ 125 - 1) :
    compressed step pieces = .ok (Padding.blocks pieces.flatten) := by
  -- Recording is a chaining function too, so what holds of absorbing with any of them holds here.
  obtain ⟨s, absorbed, taken⟩ := Stream.absorbAll_takes (Stream.record step)
    (.start (.initial, [])) pieces (by simpa [Stream.start] using fits)
  rw [compressed, absorbed, Except.map, taken.close_start, Stream.foldl_record, List.nil_append,
    Stream.map_snd_calls]

/-- Hashing in pieces succeeds, and folds the compression function over these blocks. -/
theorem Context.finish_absorbAll_init (how : Strategy) {pieces : List Bytes}
    (fits : pieces.flatten.length ≤ 2 ^ 125 - 1) :
    (init.absorbAll how pieces).map (finish how) =
      .ok ((Padding.blocks pieces.flatten).foldl how.compress .initial).digest := by
  obtain ⟨c, absorbed, taken⟩ := Stream.absorbAll_takes how.compress init pieces
    (by simpa [toNat_count_init] using fits)
  rw [absorbAll, absorbed, Except.map, finish_of_takes_init how taken]
  rfl

/-- The blocks that are compressed for a message are not the last blocks of another message, and two
messages have not the same blocks, in whatever pieces they come. -/
theorem compressed_suffix_free (how how' : Strategy) {pieces pieces' : List Bytes}
    (fits : pieces.flatten.length ≤ 2 ^ 125 - 1) (fits' : pieces'.flatten.length ≤ 2 ^ 125 - 1) :
    ∃ blocks blocks', compressed how.compress pieces = .ok blocks ∧
      compressed how'.compress pieces' = .ok blocks' ∧
      (Context.init.absorbAll how pieces).map (Context.finish how) =
        .ok (blocks.foldl how.compress .initial).digest ∧
      (blocks <:+ blocks' → pieces.flatten = pieces'.flatten) := by
  have left := compressed_eq how.compress fits
  have right := compressed_eq how'.compress fits'
  refine ⟨_, _, left, right, Context.finish_absorbAll_init how fits, ?_⟩
  -- The last block ends in the length, and equally long messages are padded alike.
  intro ends
  exact Padding.eq_of_blocks_suffix fits fits' ends

/-- A message may spell the padding of the empty one. Its blocks then begin with those of the empty
message, but do not end in them. -/
theorem compressed_suffix_free_padding :
    [Padding.pad []].flatten.length ≤ 2 ^ 125 - 1 ∧
      ∃ blocks blocks', compressed Rotating.compress [[], []] = .ok blocks ∧
        compressed Shifting.compress [Padding.pad []] = .ok blocks' ∧
        blocks <+: blocks' ∧ ¬ blocks <:+ blocks' := by
  have fits : ([[], []] : List Bytes).flatten.length ≤ 2 ^ 125 - 1 := Nat.zero_le _
  have fits' : [Padding.pad []].flatten.length ≤ 2 ^ 125 - 1 := by
    rw [List.flatten_singleton, Padding.length_pad]
    decide
  obtain ⟨blocks, blocks', left, right, -, apart⟩ :=
    compressed_suffix_free .unrolled .looped fits fits'
  refine ⟨fits', blocks, blocks', left, right, ?_, ?_⟩
  · have whole := compressed_eq Rotating.compress fits
    have padded := compressed_eq Shifting.compress fits'
    -- Cutting the longer message gives the blocks of its first part, and then the others.
    cases left.symm.trans whole
    cases right.symm.trans padded
    rw [List.flatten_singleton]
    exact ⟨_, (Block.chunks_append (Padding.pad []) _).symm⟩
  · intro ends
    have same := apart ends
    simp [Padding.pad, Padding.suffix] at same

end TruncatedSha
