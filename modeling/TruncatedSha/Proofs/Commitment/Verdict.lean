import TruncatedSha.Commitment
import TruncatedSha.Proofs.Context

/-!
# The verdict on a committed length

Whatever pieces a message comes in, the hasher takes in the committed number of its bytes and counts
all of them, as far as 64 bits go. The counter stops at its largest value. Every other commitment
tells a message that is too long from one that is not; a commitment to the largest value does not.
-/
namespace TruncatedSha.Committed

/-! ## The counter -/

/-- The largest value of a counter. -/
def largest : Nat := 2 ^ 64 - 1

theorem toNat_le_largest (value : UInt64) : value.toNat ≤ largest :=
  Nat.le_sub_one_of_lt value.toNat_lt

theorem toNat_countBytes (received : UInt64) (bytes : Nat) :
    (countBytes received bytes).toNat = min (received.toNat + bytes) largest := by
  have small := received.toNat_lt
  -- Either the sum is a 64-bit number, or the counter stops at the largest.
  unfold countBytes largest
  split
  next inside =>
    rw [UInt64.toNat_add, UInt64.toNat_ofNat']
    rw [show UInt64.size = 2 ^ 64 from rfl] at inside
    omega
  next stopped =>
    rw [show UInt64.size = 2 ^ 64 from rfl] at stopped ⊢
    rw [UInt64.toNat_ofNat']
    omega

theorem toNat_remaining (h : Committed) :
    h.remaining.toNat = h.committed.toNat - h.received.toNat := by
  unfold remaining
  split
  next expected => exact UInt64.toNat_sub_of_le _ _ expected
  next past =>
    rw [UInt64.le_iff_toNat_le] at past
    rw [UInt64.toNat_zero]
    omega

/-! ## The state after a message -/

/-- A hasher that has been given `message` where `expected` bytes were announced. -/
structure Given (how : Strategy) (expected : UInt64) (message : Bytes) (h : Committed) : Prop where
  committed : h.committed = expected
  received : h.received.toNat = min message.length largest
  inner : Stream.Takes how.compress Context.init (message.take expected.toNat) h.inner

variable {how : Strategy} {expected : UInt64} {message : Bytes} {h : Committed}

theorem new_given (how : Strategy) (expected : UInt64) : Given how expected [] (new expected) where
  committed := rfl
  received := rfl
  inner := by
    rw [List.take_nil]
    exact .nil how.compress Context.init

/-- An update never fails, and the hasher goes on as if it had been given one longer message. -/
theorem Given.update (given : Given how expected message h) (data : Bytes) :
    ∃ next, h.update how data = .ok next ∧ Given how expected (message ++ data) next := by
  have small := expected.toNat_lt
  -- What is still to come is what the message has left of the commitment.
  have left : h.remaining.toNat = expected.toNat - message.length := by
    rw [toNat_remaining, given.committed, given.received, largest]
    omega
  have room : h.inner.count.toNat + (data.take h.remaining.toNat).length ≤ 2 ^ 125 - 1 := by
    have counted : h.inner.count.toNat = 0 + (message.take expected.toNat).length :=
      given.inner.count
    rw [counted, left, List.length_take, List.length_take]
    omega
  obtain ⟨inner, absorbed, taken⟩ :=
    Stream.absorb_takes how.compress h.inner (data.take h.remaining.toNat) room
  refine ⟨{ h with inner, received := countBytes h.received data.length }, ?_, ?_⟩
  · rw [Committed.update, Context.absorb, absorbed]
  · constructor
    · exact given.committed
    · rw [toNat_countBytes, given.received, List.length_append]
      omega
    · rw [List.take_append, ← left]
      exact given.inner.append taken

theorem Given.updateAll (given : Given how expected message h) (pieces : List Bytes) :
    ∃ next, h.updateAll how pieces = .ok next ∧
      Given how expected (message ++ pieces.flatten) next := by
  induction pieces generalizing message h with
  | nil =>
    refine ⟨h, rfl, ?_⟩
    rw [List.flatten_nil, List.append_nil]
    exact given
  | cons piece rest ih =>
    obtain ⟨between, updated, givenPiece⟩ := given.update piece
    obtain ⟨next, others, givenAll⟩ := ih givenPiece
    refine ⟨next, ?_, ?_⟩
    · rw [Committed.updateAll, List.foldlM_cons, updated]
      exact others
    · rw [List.flatten_cons, ← List.append_assoc]
      exact givenAll

/-! ## The verdict -/

/-- The counter is compared, so a message counts for as much as the counter can hold. -/
theorem Given.finish_eq (given : Given how expected message h) :
    h.finish how =
      if message.length < expected.toNat then
        .error (.notEnoughData expected (.ofNat message.length))
      else if expected.toNat < min message.length largest then
        .error (.tooMuchData expected h.received)
      else .ok (Padding.digest how.compress (message.take expected.toNat)) := by
  -- The counter is short of the commitment where the message is, but it cannot pass the largest.
  have top := toNat_le_largest expected
  have below : h.received < h.committed ↔ message.length < expected.toNat := by
    rw [UInt64.lt_iff_toNat_lt, given.committed, given.received]
    omega
  have above : h.committed < h.received ↔ expected.toNat < min message.length largest := by
    rw [UInt64.lt_iff_toNat_lt, given.committed, given.received]
  unfold finish
  simp only [below, above]
  rw [given.committed, Context.finish_of_takes_init how given.inner]
  split
  next short =>
    have received : h.received = .ofNat message.length := by
      have inside : message.length < 2 ^ 64 := Nat.lt_trans short expected.toNat_lt
      apply UInt64.toNat_inj.mp
      rw [given.received, UInt64.toNat_ofNat', Nat.mod_eq_of_lt inside]
      omega
    rw [received]
  next => rfl

theorem Given.finish_eq_notEnoughData_iff (given : Given how expected message h) :
    h.finish how = .error (.notEnoughData expected (.ofNat message.length)) ↔
      message.length < expected.toNat := by
  rw [given.finish_eq]
  split
  next short => simp [short]
  next enough => split <;> simp [enough]

theorem Given.finish_eq_tooMuchData_iff (given : Given how expected message h) :
    (∃ received, h.finish how = .error (.tooMuchData expected received)) ↔
      expected.toNat < min message.length largest := by
  rw [given.finish_eq]
  split
  next short =>
    have notLong : ¬ expected.toNat < min message.length largest := by omega
    simp [notLong]
  next => split <;> simp [*]

theorem Given.finish_eq_ok_iff (given : Given how expected message h) (digest : Digest) :
    h.finish how = .ok digest ↔ min message.length largest = expected.toNat ∧
      hash how (message.take expected.toNat) = .ok digest := by
  have top := toNat_le_largest expected
  -- No commitment comes near the longest message that can be hashed.
  have fits : (message.take expected.toNat).length ≤ 2 ^ 125 - 1 := by
    rw [List.length_take]
    unfold largest at top
    omega
  rw [given.finish_eq, hash_eq_digest how _ fits]
  split
  next short =>
    have differ : min message.length largest ≠ expected.toNat := by omega
    simp [differ]
  next enough =>
    split
    next long =>
      have differ : min message.length largest ≠ expected.toNat := by omega
      simp [differ]
    next notLong =>
      have equal : min message.length largest = expected.toNat := by omega
      simp [equal]

/-- Below the largest commitment the verdict is exact: the digest of the message comes for the
committed number of bytes and for no other, and once there are more, no further data brings it back.
Under the largest commitment a message that is too long is taken for its beginning. -/
theorem finish_verdict (how : Strategy) (expected : UInt64) (pieces : List Bytes) :
    ∃ h, (new expected).updateAll how pieces = .ok h ∧
      (h.finish how = .error (.notEnoughData expected (.ofNat pieces.flatten.length)) ↔
        pieces.flatten.length < expected.toNat) ∧
      (expected.toNat < largest →
        (∀ digest, h.finish how = .ok digest ↔
          pieces.flatten.length = expected.toNat ∧ hash how pieces.flatten = .ok digest) ∧
        ((∃ received, h.finish how = .error (.tooMuchData expected received)) ↔
          expected.toNat < pieces.flatten.length) ∧
        (expected.toNat < pieces.flatten.length → ∀ more, ∃ next,
          h.updateAll how more = .ok next ∧ ∀ digest, next.finish how ≠ .ok digest)) ∧
      (expected.toNat = largest → ∀ digest, h.finish how = .ok digest ↔
        largest ≤ pieces.flatten.length ∧ hash how (pieces.flatten.take largest) = .ok digest) := by
  obtain ⟨h, updated, given⟩ := (new_given how expected).updateAll pieces
  rw [List.nil_append] at given
  refine ⟨h, updated, given.finish_eq_notEnoughData_iff, ?_, ?_⟩
  · intro below
    refine ⟨?_, ?_, ?_⟩
    · intro digest
      rw [given.finish_eq_ok_iff]
      constructor
      · rintro ⟨counted, digested⟩
        have exact : pieces.flatten.length = expected.toNat := by omega
        rw [List.take_of_length_le (Nat.le_of_eq exact)] at digested
        exact ⟨exact, digested⟩
      · rintro ⟨exact, digested⟩
        rw [List.take_of_length_le (Nat.le_of_eq exact)]
        exact ⟨by omega, digested⟩
    · rw [given.finish_eq_tooMuchData_iff]
      omega
    · -- More data makes the message longer still, and it stays too long.
      intro long more
      obtain ⟨next, continued, givenMore⟩ := given.updateAll more
      refine ⟨next, continued, ?_⟩
      intro digest accepted
      have counted := ((givenMore.finish_eq_ok_iff digest).mp accepted).1
      rw [List.length_append] at counted
      omega
  · -- The counter has stopped at the commitment, so that all longer messages look alike.
    intro top digest
    rw [given.finish_eq_ok_iff, top]
    have counted :
        min pieces.flatten.length largest = largest ↔ largest ≤ pieces.flatten.length := by
      omega
    rw [counted]

/-- One byte more than the largest commitment is accepted. -/
theorem finish_accepts_past_largest :
    ∃ h digest,
      (new (.ofNat largest)).updateAll .unrolled (.replicate 4 (zeros (2 ^ 62))) = .ok h ∧
      (List.replicate 4 (zeros (2 ^ 62))).flatten.length = (UInt64.ofNat largest).toNat + 1 ∧
      h.finish .unrolled = .ok digest := by
  have total : (List.replicate 4 (zeros (2 ^ 62))).flatten.length = 2 ^ 64 := by simp
  have top : (UInt64.ofNat largest).toNat = largest := by decide
  obtain ⟨h, updated, given⟩ :=
    (new_given .unrolled (.ofNat largest)).updateAll (.replicate 4 (zeros (2 ^ 62)))
  rw [List.nil_append] at given
  -- The counter stands at the commitment, neither below it nor above it.
  have notBelow : ¬ 2 ^ 64 < largest := by decide
  have notAbove : ¬ largest < min (2 ^ 64) largest := by decide
  have accepted := given.finish_eq
  rw [total, top, if_neg notBelow, if_neg notAbove] at accepted
  exact ⟨h, _, updated, by rw [total, top]; rfl, accepted⟩

end TruncatedSha.Committed
