import Mathlib.Algebra.Order.Ring.Nat
import TruncatedSha.Count

/-!
# Counting without a wrap

The checks on a 128-bit counter amount to one bound on numbers.
-/
namespace TruncatedSha.Count

theorem size_eq : size = 2 ^ 128 := by decide

theorem toNat_longest : longest.toNat = 2 ^ 125 - 1 := by decide

theorem left_eq (count : Count) : count.left = 2 ^ 125 - 1 - count.toNat := by
  rw [left, toNat_longest]

/-- A counter that moves on has counted exactly, and stays within the longest message. -/
theorem advance?_eq_some_iff (count next : Count) (bytes : Nat) :
    count.advance? bytes = some next ↔
      next.toNat = count.toNat + bytes ∧ count.toNat + bytes ≤ 2 ^ 125 - 1 := by
  -- The addition wraps only where the first check has failed already.
  have sum (inside : count.toNat + bytes < size) :
      (count + BitVec.ofNat 128 bytes).toNat = count.toNat + bytes := by
    rw [size_eq] at inside
    rw [BitVec.toNat_add, BitVec.toNat_ofNat, Nat.add_mod_mod, Nat.mod_eq_of_lt inside]
  constructor
  · intro moved
    simp only [advance?] at moved
    split at moved
    next inside =>
      simp only [Option.filter_eq_some_iff, Option.some.injEq, decide_eq_true_eq, BitVec.le_def,
        toNat_longest] at moved
      obtain ⟨rfl, bound⟩ := moved
      rw [sum inside] at bound ⊢
      exact ⟨rfl, bound⟩
    next => cases moved
  · rintro ⟨counted, bound⟩
    have inside : count.toNat + bytes < size := by
      rw [size_eq]
      omega
    have equal : count + BitVec.ofNat 128 bytes = next :=
      BitVec.eq_of_toNat_eq ((sum inside).trans counted.symm)
    have fits : next ≤ longest := by
      rw [BitVec.le_def, counted, toNat_longest]
      exact bound
    rw [advance?, if_pos inside, equal]
    exact Option.filter_eq_some_iff.mpr ⟨rfl, decide_eq_true fits⟩

theorem advance?_eq_none_iff (count : Count) (bytes : Nat) :
    count.advance? bytes = none ↔ 2 ^ 125 - 1 < count.toNat + bytes := by
  constructor
  · intro stopped
    apply Nat.lt_of_not_le
    intro bound
    have counted : (BitVec.ofNat 128 (count.toNat + bytes)).toNat = count.toNat + bytes := by
      rw [BitVec.toNat_ofNat]
      omega
    have moved := (advance?_eq_some_iff count _ bytes).mpr ⟨counted, bound⟩
    simp [stopped] at moved
  · intro above
    cases moved : count.advance? bytes with
    | none => rfl
    | some next =>
      have bound := ((advance?_eq_some_iff count next bytes).mp moved).2
      omega

theorem bitLength_eq (count : Count) : count.bitLength = BitVec.ofNat 128 (8 * count.toNat) := by
  apply BitVec.eq_of_toNat_eq
  rw [bitLength, BitVec.toNat_shiftLeft, BitVec.toNat_ofNat, Nat.shiftLeft_eq, Nat.mul_comm]

/-- No bit of the length falls out as long as the message is not too long. -/
theorem toNat_bitLength {count : Count} (bounded : count.toNat ≤ 2 ^ 125 - 1) :
    count.bitLength.toNat = 8 * count.toNat := by
  rw [bitLength_eq, BitVec.toNat_ofNat]
  omega

end TruncatedSha.Count
