import TruncatedSha.Stream.InPlace
import TruncatedSha.Proofs.Stream.Absorption

/-!
# Absorbing in place changes all or nothing

The order of the single changes does not show: data that is refused leaves the stream untouched, and
data that is taken in leaves the stream that absorbing at once gives. Of several pieces, those in
front of the first that does not fit are taken in.
-/
namespace TruncatedSha.InPlace

variable {σ : Type} (step : σ → Block → σ)

theorem run_advance_of_none {s : Stream σ} {bytes : Nat}
    (stopped : s.count.advance? bytes = none) :
    (advance bytes).run s = .error .messageTooLong s := by
  simp only [advance, EStateM.run_bind, EStateM.run_get, stopped]
  rfl

theorem run_advance_of_some {s : Stream σ} {bytes : Nat} {count : Count}
    (moved : s.count.advance? bytes = some count) :
    (advance bytes).run s = .ok () { s with count } := by
  simp only [advance, EStateM.run_bind, EStateM.run_get, moved]
  rfl

theorem run_forM_chain (blocks : List Block) (s : Stream σ) :
    (blocks.forM (chain step)).run s = .ok () { s with chain := blocks.foldl step s.chain } := by
  induction blocks generalizing s with
  | nil => rfl
  | cons block rest ih => exact ih { s with chain := step s.chain block }

theorem run_bulk (data : Bytes) (s : Stream σ) :
    (bulk step data).run s = .ok () (Stream.bulk step s data) := by
  rw [bulk, EStateM.run_bind, run_forM_chain]
  rfl

/-- One piece, whichever way it goes: a failure leaves the stream as it was. -/
theorem run_absorb (data : Bytes) (s : Stream σ) :
    (absorb step data).run s =
      match Stream.absorb step s data with
      | .ok t => .ok () t
      | .error error => .error error s := by
  unfold absorb Stream.absorb
  split
  next empty => rfl
  next present =>
    rw [EStateM.run_bind, EStateM.run_get]
    dsimp only
    rw [EStateM.run_bind]
    cases moved : s.count.advance? data.length with
    | none => rw [run_advance_of_none moved]
    | some count =>
      rw [run_advance_of_some moved]
      dsimp only [Stream.accept]
      -- From here on the new counter is there already, and nothing looks at it.
      split
      next => exact run_bulk step data _
      next =>
        split
        next => rfl
        next => exact run_bulk step _ _

/-! ## Several pieces -/

theorem run_absorbAll_of_ok {piece : Bytes} {s t : Stream σ}
    (first : (absorb step piece).run s = .ok () t) (rest : List Bytes) :
    (absorbAll step (piece :: rest)).run s = (absorbAll step rest).run t := by
  change (absorb step piece >>= fun _ => absorbAll step rest).run s = _
  rw [EStateM.run_bind, first]

theorem run_absorbAll_of_error {piece : Bytes} {s t : Stream σ} {error : LengthOverflow}
    (first : (absorb step piece).run s = .error error t) (rest : List Bytes) :
    (absorbAll step (piece :: rest)).run s = .error error t := by
  change (absorb step piece >>= fun _ => absorbAll step rest).run s = _
  rw [EStateM.run_bind, first]

/-- Either all pieces fit, or there is a first that exceeds the limit: those in front of it are
taken in, it fails, and nothing behind it is looked at. -/
theorem absorbAll_cases (s : Stream σ) (bounded : s.count.toNat ≤ 2 ^ 125 - 1)
    (pieces : List Bytes) :
    (s.count.toNat + pieces.flatten.length ≤ 2 ^ 125 - 1 ∧
      ∃ t, (absorbAll step pieces).run s = .ok () t ∧ Stream.Takes step s pieces.flatten t) ∨
    ∃ front piece rest t, pieces = front ++ piece :: rest ∧
      s.count.toNat + front.flatten.length ≤ 2 ^ 125 - 1 ∧
      2 ^ 125 - 1 < s.count.toNat + front.flatten.length + piece.length ∧
      (absorbAll step front).run s = .ok () t ∧
      (absorb step piece).run t = .error .messageTooLong t ∧
      (absorbAll step pieces).run s = .error .messageTooLong t := by
  induction pieces generalizing s with
  | nil => exact .inl ⟨bounded, s, rfl, .nil step s⟩
  | cons piece rest ih =>
    have first := run_absorb step piece s
    by_cases fits : s.count.toNat + piece.length ≤ 2 ^ 125 - 1
    · -- The piece is taken, and the first failure, if there is one, is among the others.
      obtain ⟨t, absorbed, taken⟩ := Stream.absorb_takes step s piece fits
      rw [absorbed] at first
      have counted := taken.count
      rcases ih t (by omega) with ⟨room, u, others, restTaken⟩ |
        ⟨front, next, behind, u, rfl, room, above, before, refused, failed⟩
      · left
        rw [List.flatten_cons, List.length_append]
        refine ⟨by omega, u, ?_, taken.append restTaken⟩
        rw [run_absorbAll_of_ok step first]
        exact others
      · right
        refine ⟨piece :: front, next, behind, u, rfl, ?_, ?_, ?_, refused, ?_⟩
        · rw [List.flatten_cons, List.length_append]
          omega
        · rw [List.flatten_cons, List.length_append]
          omega
        · rw [run_absorbAll_of_ok step first]
          exact before
        · rw [run_absorbAll_of_ok step first]
          exact failed
    · -- This piece is the first failure, and leaves the stream as it finds it.
      have long : s.count.left < piece.length := by
        rw [Count.left_eq]
        omega
      rw [Stream.absorb_refuses step s piece long] at first
      have failed := run_absorbAll_of_error step first rest
      exact .inr ⟨[], piece, rest, s, rfl, bounded, Nat.lt_of_not_le fits, rfl, first, failed⟩

section Bounded

variable {s : Stream σ} (bounded : s.count.toNat ≤ 2 ^ 125 - 1) (pieces : List Bytes)

include bounded

theorem exists_run_absorbAll_eq_error_iff :
    (∃ t, (absorbAll step pieces).run s = .error .messageTooLong t) ↔
      2 ^ 125 - 1 < s.count.toNat + pieces.flatten.length := by
  rcases absorbAll_cases step s bounded pieces with
    ⟨room, t, absorbed, -⟩ | ⟨front, piece, rest, t, split, -, above, -, -, failed⟩
  · constructor
    · rintro ⟨u, wrong⟩
      cases absorbed.symm.trans wrong
    · omega
  · refine ⟨fun _ => ?_, fun _ => ⟨t, failed⟩⟩
    rw [split, List.flatten_append, List.flatten_cons, List.length_append, List.length_append]
    omega

/-- What fails is the first piece that goes over the limit, and it has bytes. -/
theorem split_of_run_absorbAll_eq_error {t : Stream σ}
    (failed : (absorbAll step pieces).run s = .error .messageTooLong t) :
    ∃ front piece rest, pieces = front ++ piece :: rest ∧ piece ≠ [] ∧
      s.count.toNat + front.flatten.length ≤ 2 ^ 125 - 1 ∧
      2 ^ 125 - 1 < s.count.toNat + front.flatten.length + piece.length ∧
      (absorbAll step front).run s = .ok () t ∧
      (absorb step piece).run t = .error .messageTooLong t := by
  rcases absorbAll_cases step s bounded pieces with
    ⟨-, u, absorbed, -⟩ | ⟨front, piece, rest, u, split, room, above, before, refused, stopped⟩
  · cases absorbed.symm.trans failed
  · cases stopped.symm.trans failed
    have present : piece ≠ [] := by
      rintro rfl
      rw [List.length_nil] at above
      omega
    exact ⟨front, piece, rest, split, present, room, above, before, refused⟩

end Bounded

end TruncatedSha.InPlace
