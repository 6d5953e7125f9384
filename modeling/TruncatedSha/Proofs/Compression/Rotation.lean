import TruncatedSha.Compression

/-!
# Standing variables and moving ones

Giving the variables to the next round in an order rotated by one is the same as moving them. Over
eight rounds the order comes back to where it was, so whole groups of rounds can be compared.
-/
namespace TruncatedSha

namespace Rotating

/-- A round of the loop, from the two variables that change where they stand. -/
theorem step_eq_round (t : Nat) (w : Window) (a b c d e f g h : UInt64) :
    Shifting.step t ⟨w, ⟨a, b, c, d, e, f, g, h⟩⟩ =
      let changed := round (roundConstant t) ((w.advance t).slot t) a b c d e f g h
      ⟨w.advance t, ⟨changed.2, a, b, c, changed.1, e, f, g⟩⟩ := by
  simp only [Shifting.step, Shifting.round, round, UInt64.add_assoc]

theorem eightRounds_eq_steps (t : Nat) (p : Progress) :
    eightRounds t p = (List.range' t 8).foldl (fun p t => Shifting.step t p) p := by
  obtain ⟨w, a, b, c, d, e, f, g, h⟩ := p
  -- Written out from left to right, the eight moves give every variable its own name back.
  simp only [List.range', List.foldl_cons, List.foldl_nil, step_eq_round]
  rfl

theorem foldl_steps (block : Block) (s : State) (t n : Nat) :
    (List.range' t n).foldl (fun p t => Shifting.step t p) (Shifting.progress block s t) =
      Shifting.progress block s (t + n) := by
  induction n with
  | zero => rfl
  | succ n ih =>
    rw [List.range'_concat, List.foldl_append, ih, Nat.one_mul]
    rfl

/-- Group by group, both ways make the same progress. -/
theorem progress_eq_shifting (block : Block) (s : State) (groups : Nat) :
    progress block s groups = Shifting.progress block s (8 * groups) := by
  induction groups with
  | zero => rfl
  | succ groups ih =>
    rw [progress, ih, eightRounds_eq_steps, foldl_steps, Nat.mul_succ]

end Rotating

/-- The two strategies are one function. -/
theorem unrolled_compress_eq_looped (s : State) (block : Block) :
    Strategy.unrolled.compress s block = Strategy.looped.compress s block := by
  change s.add (Rotating.progress block s 10).working = s.add (Shifting.progress block s 80).working
  rw [Rotating.progress_eq_shifting]

end TruncatedSha
