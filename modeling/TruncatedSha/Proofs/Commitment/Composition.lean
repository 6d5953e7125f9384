import TruncatedSha.Proofs.Commitment.Verdict
import TruncatedSha.Proofs.Overflow
import TruncatedSha.Stream.InPlace

/-!
# Updates one after another

From whatever fields, two updates do what one update with all the data does. What is left of the
commitment and the counter both stop at a bound, but the bytes that are accepted add up all the same.
An update that the context refuses changes nothing.
-/
namespace TruncatedSha.Committed

/-! ## In place -/

/-- Work on a hasher. It ends with the hasher as it then is, in a failure as well. -/
abbrev Updating := EStateM LengthOverflow Committed

namespace Updating

/-- Work on the context of a hasher, which keeps its other fields. -/
def onInner (work : InPlace State Unit) : Updating Unit := fun h =>
  match work.run h.inner with
  | .ok () inner => .ok () { h with inner }
  | .error error inner => .error error { h with inner }

def update (how : Strategy) (data : Bytes) : Updating Unit := do
  let accepted := data.take (← get).remaining.toNat
  onInner (InPlace.absorb how.compress accepted)
  modify fun h => { h with received := countBytes h.received data.length }

end Updating

/-! ## One update -/

theorem update_eq (how : Strategy) (h : Committed) (data : Bytes) :
    h.update how data = (h.inner.absorb how (data.take h.remaining.toNat)).map fun inner =>
      { h with inner, received := countBytes h.received data.length } := by
  unfold update
  cases h.inner.absorb how (data.take h.remaining.toNat) <;> rfl

theorem update_eq_error_iff (how : Strategy) (h : Committed) (data : Bytes) :
    h.update how data = .error .messageTooLong ↔
      0 < min h.remaining.toNat data.length ∧
        2 ^ 125 - 1 < h.inner.count.toNat + min h.remaining.toNat data.length := by
  have refused : h.update how data = .error .messageTooLong ↔
      h.inner.absorb how (data.take h.remaining.toNat) = .error .messageTooLong := by
    rw [update_eq]
    cases h.inner.absorb how (data.take h.remaining.toNat) <;> simp [Except.map]
  rw [refused, Context.absorb_eq_error_iff, ← List.length_pos_iff, List.length_take]

theorem Updating.run_onInner_absorb (how : Strategy) (h : Committed) (data : Bytes) :
    (onInner (InPlace.absorb how.compress data)).run h =
      match h.inner.absorb how data with
      | .ok inner => .ok () { h with inner }
      | .error error => .error error h := by
  have inner := InPlace.run_absorb how.compress data h.inner
  simp only [EStateM.run, onInner, Context.absorb] at inner ⊢
  rw [inner]
  cases Stream.absorb how.compress h.inner data <;> rfl

/-- In place, everything changes or nothing. -/
theorem Updating.run_update (how : Strategy) (h : Committed) (data : Bytes) :
    (Updating.update how data).run h =
      match h.update how data with
      | .ok next => .ok () next
      | .error error => .error error h := by
  rw [Updating.update, EStateM.run_bind, EStateM.run_get]
  dsimp only
  rw [EStateM.run_bind, run_onInner_absorb, update_eq]
  cases h.inner.absorb how (data.take h.remaining.toNat) <;> rfl

/-! ## Two updates -/

theorem countBytes_countBytes (received : UInt64) (first second : Nat) :
    countBytes (countBytes received first) second = countBytes received (first + second) := by
  apply UInt64.toNat_inj.mp
  -- A bound that is met once is met for good.
  simp only [toNat_countBytes]
  omega

/-- Once the counter stops, nothing is left of any commitment. -/
theorem toNat_remaining_countBytes (h : Committed) (inner : Context) (bytes : Nat) :
    ({ h with inner, received := countBytes h.received bytes } : Committed).remaining.toNat =
      h.remaining.toNat - bytes := by
  have top := toNat_le_largest h.committed
  simp only [toNat_remaining, toNat_countBytes]
  omega

/-- The second update accepts what the first has left of the commitment, and counts on. -/
theorem update_behind (how : Strategy) (h : Committed) (inner : Context) (first second : Bytes) :
    ({ h with inner, received := countBytes h.received first.length } : Committed).update how second =
      (inner.absorb how (second.take (h.remaining.toNat - first.length))).map fun inner =>
        { h with inner, received := countBytes h.received (first ++ second).length } := by
  rw [update_eq, toNat_remaining_countBytes]
  simp only [countBytes_countBytes, List.length_append]

theorem updateAll_pair (how : Strategy) (h : Committed) (first second : Bytes) :
    h.updateAll how [first, second] = h.update how first >>= fun t => t.update how second := by
  simp [updateAll]

/-- Two updates and one with all the data are taken in or refused together. -/
theorem update_append_cases (how : Strategy) (h : Committed) (first second : Bytes) :
    (∃ t u, h.updateAll how [first, second] = .ok t ∧ h.update how (first ++ second) = .ok u ∧
      t.committed = u.committed ∧ t.received = u.received ∧ Stream.Agree t.inner u.inner) ∨
    (h.updateAll how [first, second] = .error .messageTooLong ∧
      h.update how (first ++ second) = .error .messageTooLong) := by
  have behind := fun inner => update_behind how h inner first second
  rw [updateAll_pair, update_eq how h first, update_eq how h (first ++ second), List.take_append]
  unfold Context.absorb at behind ⊢
  -- The bytes accepted of both pieces are one stream to the context: it takes them or refuses.
  rcases Stream.absorb_append_cases how.compress h.inner (first.take h.remaining.toNat)
      (second.take (h.remaining.toNat - first.length)) with
    ⟨t, u, v, taken, others, once, agree⟩ | ⟨refused | ⟨t, taken, refused⟩, both⟩
  · -- The second update is the one behind the first, and the counters add up.
    left
    have last := behind t
    rw [others] at last
    rw [taken, once]
    exact ⟨_, _, last, rfl, rfl, rfl, agree⟩
  · right
    rw [refused, both]
    exact ⟨rfl, rfl⟩
  · right
    have last := behind t
    rw [refused] at last
    rw [taken, both]
    exact ⟨last, rfl⟩

/-- An update is refused exactly if the bytes that it accepts are too many for the context, and then
it changes nothing. Whatever the fields are, two updates go through exactly if one with all the data
does, and they end with the same fields and a context that differs in dead bytes at most. -/
theorem update_composes (how : Strategy) (h : Committed) (first second : Bytes) :
    (h.update how first = .error .messageTooLong ↔
      0 < min h.remaining.toNat first.length ∧
        2 ^ 125 - 1 < h.inner.count.toNat + min h.remaining.toNat first.length) ∧
    (∀ error, h.update how first = .error error →
      (Updating.update how first).run h = .error error h) ∧
    (∀ next, h.update how first = .ok next →
      (Updating.update how first).run h = .ok () next) ∧
    ((∃ t, h.updateAll how [first, second] = .ok t) ↔
      ∃ u, h.update how (first ++ second) = .ok u) ∧
    ∀ t u, h.updateAll how [first, second] = .ok t → h.update how (first ++ second) = .ok u →
      t.committed = u.committed ∧ t.received = u.received ∧ Stream.Agree t.inner u.inner := by
  have changed := Updating.run_update how h first
  refine ⟨update_eq_error_iff how h first, ?_, ?_, ?_⟩
  · intro error refused
    rw [changed, refused]
  · intro next updated
    rw [changed, updated]
  · rcases update_append_cases how h first second with
      ⟨t, u, pair, once, fields⟩ | ⟨pair, once⟩
    · refine ⟨⟨fun _ => ⟨u, once⟩, fun _ => ⟨t, pair⟩⟩, ?_⟩
      intro t' u' left right
      cases pair.symm.trans left
      cases once.symm.trans right
      exact fields
    · refine ⟨?_, ?_⟩
      · rw [pair, once]
      · intro t u left
        cases pair.symm.trans left

/-- Two bytes are still to come. A full context refuses them; one with room for two takes them in, of
pieces that bring twice as many, and nothing of the second piece. -/
theorem update_composes_at_limits :
    let full : Committed := ⟨⟨.zero, .replicate 128 0xff, Count.longest⟩, 5, 3⟩
    let almost : Committed := ⟨⟨.zero, .replicate 128 0xff, Count.longest - 2⟩, 5, 3⟩
    (full.update .unrolled [1] = .error .messageTooLong ∧
      (Updating.update .unrolled [1]).run full = .error .messageTooLong full) ∧
    ∃ t u, almost.updateAll .looped [[1, 2, 3], [4]] = .ok t ∧
      almost.update .looped ([1, 2, 3] ++ [4]) = .ok u ∧
      t.received = u.received ∧ Stream.Agree t.inner u.inner := by
  intro full almost
  obtain ⟨refuses, keeps, -⟩ := update_composes .unrolled full [1] []
  have refused := refuses.mpr (by decide)
  refine ⟨⟨refused, keeps _ refused⟩, ?_⟩
  obtain ⟨-, -, -, together, same⟩ := update_composes .looped almost [1, 2, 3] [4]
  -- Only two of the four bytes are accepted, and for these there is room.
  have fits : ¬ almost.update .looped ([1, 2, 3] ++ [4]) = .error .messageTooLong := by
    rw [update_eq_error_iff]
    decide
  cases once : almost.update .looped ([1, 2, 3] ++ [4]) with
  | error error => exact absurd once fits
  | ok u =>
    obtain ⟨t, pair⟩ := together.mpr ⟨u, once⟩
    obtain ⟨-, received, agree⟩ := same t u pair once
    exact ⟨t, u, pair, rfl, received, agree⟩

end TruncatedSha.Committed
