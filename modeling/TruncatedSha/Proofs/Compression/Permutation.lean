import Mathlib.Logic.Equiv.Defs
import TruncatedSha.Compression
import TruncatedSha.Proofs.Compression.Rotation
import TruncatedSha.Proofs.Compression.Conformance

/-!
# The rounds permute the states

Every round can be taken back, and its schedule word depends on the block alone. So for each block
the rounds are one permutation of the chaining states, whichever way they are computed.
-/
namespace TruncatedSha

/-- Wordwise subtraction modulo `2 ^ 64`. -/
def State.sub (s t : State) : State :=
  ⟨s.a - t.a, s.b - t.b, s.c - t.c, s.d - t.d, s.e - t.e, s.f - t.f, s.g - t.g, s.h - t.h⟩

/-- The working variables after the last round. -/
def Strategy.working : Strategy → State → Block → State
  | .unrolled, s, block => (Rotating.progress block s 10).working
  | .looped, s, block => (Shifting.progress block s 80).working

/-- The variables before a round, from those after it. Six of them have only moved, and these give
both sums that went into the other two. -/
def Shifting.unround (constant word : UInt64) (v : State) : State :=
  let t2 := Word.bigSigma0 v.b + Word.majority v.b v.c v.d
  let t1 := v.a - t2
  let h := t1 - (Word.bigSigma1 v.f + Word.choose v.f v.g v.h + constant + word)
  ⟨v.b, v.c, v.d, v.e - t1, v.f, v.g, v.h, h⟩

theorem State.add_sub_cancel_left (s t : State) : (s.add t).sub s = t := by
  have word (x y : UInt64) : x + y - x = y := by
    rw [UInt64.add_comm, UInt64.add_sub_cancel]
  simp only [State.add, State.sub, word]

namespace Shifting

theorem unround_round (constant word : UInt64) (v : State) :
    unround constant word (round constant word v) = v := by
  have first (h x y : UInt64) : h + x + y + constant + word - (x + y + constant + word) = h := by
    grind
  simp only [unround, round, UInt64.add_sub_cancel, first]

theorem round_unround (constant word : UInt64) (v : State) :
    round constant word (unround constant word v) = v := by
  have first (t x y : UInt64) : t - (x + y + constant + word) + x + y + constant + word = t := by
    grind
  simp only [unround, round, UInt64.sub_add_cancel, first]

/-- A round as a permutation of the working variables. -/
def roundEquiv (constant word : UInt64) : State ≃ State where
  toFun := round constant word
  invFun := unround constant word
  left_inv := unround_round constant word
  right_inv := round_unround constant word

/-- The first rounds over a block, one behind the other. -/
def roundsEquiv (block : Block) : (rounds : Nat) → State ≃ State
  | 0 => .refl State
  | t + 1 => (roundsEquiv block t).trans (roundEquiv (roundConstant t) (Standard.word block t))

/-- What a round is given does not depend on the variables, so the rounds compose. -/
theorem working_progress_eq (block : Block) (s : State) (t : Nat) :
    (progress block s t).working = roundsEquiv block t s := by
  induction t with
  | zero => rfl
  | succ t ih =>
    -- The window moves along with the variables, but its slot holds the word of the block.
    rw [progress, step]
    dsimp only
    rw [slot_progress, ih]
    rfl

end Shifting

theorem Strategy.compress_eq_add (how : Strategy) (s : State) (block : Block) :
    how.compress s block = s.add (how.working s block) := by
  cases how <;> rfl

theorem Strategy.working_eq (how : Strategy) (s : State) (block : Block) :
    how.working s block = Shifting.roundsEquiv block 80 s := by
  rw [← Shifting.working_progress_eq]
  cases how with
  | unrolled => exact congrArg Progress.working (Rotating.progress_eq_shifting block s 10)
  | looped => rfl

/-- What compression adds to a chaining state are the variables after the last round. For each block
they are a permutation of the states, so that no two states are merged before they are added. -/
theorem rounds_bijective (how : Strategy) (block : Block) :
    (∀ s, (how.compress s block).sub s = how.working s block) ∧
      Function.Bijective fun s => (how.compress s block).sub s := by
  have added (s : State) : (how.compress s block).sub s = how.working s block := by
    rw [how.compress_eq_add, State.add_sub_cancel_left]
  refine ⟨added, ?_⟩
  simp only [added, how.working_eq]
  exact (Shifting.roundsEquiv block 80).bijective

end TruncatedSha
