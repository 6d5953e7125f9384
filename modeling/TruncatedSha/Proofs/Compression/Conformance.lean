import TruncatedSha.Compression
import TruncatedSha.Standard
import TruncatedSha.Proofs.BigEndian

/-!
# Compression as the standard has it

The standard lays out all schedule words at once. The window has room for sixteen, and before each
round it holds the latest sixteen of them, every word in the slot of its number. So round by round the
loop does what FIPS 180-4 section 6.4.2 does with its table of eighty words.
-/
namespace TruncatedSha

/-! ## Logical functions -/

namespace Word

/-- Bit by bit, both forms give `y` where `x` is set and `z` elsewhere. -/
theorem choose_eq_standard (x y z : UInt64) : choose x y z = Standard.choose x y z := by
  apply UInt64.toBitVec_inj.mp
  ext i inside
  simp only [choose, Standard.choose, UInt64.toBitVec_xor, UInt64.toBitVec_and,
    UInt64.toBitVec_not, BitVec.getElem_xor, BitVec.getElem_and, BitVec.getElem_not]
  cases x.toBitVec[i] <;> cases y.toBitVec[i] <;> cases z.toBitVec[i] <;> rfl

theorem majority_eq_standard (x y z : UInt64) : majority x y z = Standard.majority x y z := by
  apply UInt64.toBitVec_inj.mp
  ext i inside
  simp only [majority, Standard.majority, UInt64.toBitVec_xor, UInt64.toBitVec_and,
    BitVec.getElem_xor, BitVec.getElem_and]
  cases x.toBitVec[i] <;> cases y.toBitVec[i] <;> cases z.toBitVec[i] <;> rfl

/-- Two shifts are a rotation, unless they are by no bits or by all of them. -/
theorem rotateRight_eq_standard (x amount : UInt64) (positive : 0 < amount.toNat)
    (proper : amount.toNat < 64) :
    rotateRight x amount = Standard.rotateRight amount.toNat x := by
  -- The amount of the shift to the left is computed in a word too, and taken modulo 64.
  have rest : (2 ^ 64 - amount.toNat) % 64 = 64 - amount.toNat := by omega
  apply UInt64.toBitVec_inj.mp
  simpa [rotateRight, Standard.rotateRight, BitVec.rotateRight_def, Nat.mod_eq_of_lt proper]
    using congrArg (x.toBitVec >>> amount.toNat ||| x.toBitVec <<< ·) rest

theorem bigSigma0_eq_standard (x : UInt64) : bigSigma0 x = Standard.bigSigma0 x := by
  simp (disch := decide) only [bigSigma0, rotateRight_eq_standard]
  rfl

theorem bigSigma1_eq_standard (x : UInt64) : bigSigma1 x = Standard.bigSigma1 x := by
  simp (disch := decide) only [bigSigma1, rotateRight_eq_standard]
  rfl

theorem smallSigma0_eq_standard (x : UInt64) : smallSigma0 x = Standard.smallSigma0 x := by
  simp (disch := decide) only [smallSigma0, rotateRight_eq_standard]
  rfl

theorem smallSigma1_eq_standard (x : UInt64) : smallSigma1 x = Standard.smallSigma1 x := by
  simp (disch := decide) only [smallSigma1, rotateRight_eq_standard]
  rfl

end Word

/-! ## The schedule -/

namespace Standard

private theorem scheduleTo_stable (block : Block) (n more t : Nat) (inside : t < 16 + n) :
    (scheduleTo block (n + more))[t] = (scheduleTo block n)[t] := by
  induction more with
  | zero => rfl
  | succ more ih =>
    have earlier : t < 16 + (n + more) := by omega
    rw [← ih]
    exact Vector.getElem_push_lt earlier

private theorem lt_sixteen_add (t : Nat) : t < 16 + t := by omega

/-- Schedule word `t`. There is one for every `t`, and compression uses the first eighty. -/
def word (block : Block) (t : Nat) : UInt64 :=
  (scheduleTo block t).get ⟨t, lt_sixteen_add t⟩

/-- Words that are laid out stay what they are when more are laid out behind them. -/
theorem scheduleTo_get (block : Block) (n t : Nat) (inside : t < 16 + n) :
    (scheduleTo block n)[t] = word block t := by
  -- Either table may be the longer one; it extends the other.
  rcases Nat.le_total n t with below | above
  · obtain ⟨more, rfl⟩ := Nat.exists_eq_add_of_le below
    exact (scheduleTo_stable block n more (n + more) inside).symm
  · obtain ⟨more, rfl⟩ := Nat.exists_eq_add_of_le above
    exact scheduleTo_stable block t more t (by omega)

theorem schedule_get (block : Block) (t : Nat) (inside : t < 80) :
    (schedule block)[t] = word block t :=
  scheduleTo_get block 64 t inside

theorem word_of_lt (block : Block) (t : Nat) (first : t < 16) :
    word block t = block.word ⟨t, first⟩ := by
  rw [← scheduleTo_get block 0 t (by omega)]
  exact Vector.getElem_ofFn _

/-- The recurrence, with `t` counted from the oldest word that it reads. -/
theorem word_add_sixteen (block : Block) (t : Nat) :
    word block (t + 16) = smallSigma1 (word block (t + 14)) + word block (t + 9) +
      smallSigma0 (word block (t + 1)) + word block t := by
  -- All four older words are read from the table that word `t + 16` is pushed onto.
  have latest (k : Fin 16) : (scheduleTo block t).get (k.addNat t) = word block (t + k) := by
    rw [← scheduleTo_get block t (t + k) (by omega)]
    simp only [Nat.add_comm t k]
    rfl
  have last : word block (t + 16) = (scheduleTo block (t + 1))[t + 16] :=
    (scheduleTo_get block (t + 1) (t + 16) (by omega)).symm
  rw [last]
  simp only [scheduleTo, Nat.add_comm t 16, Vector.getElem_push_eq, latest]
  rfl

end Standard

namespace Window

/-- The window holds the sixteen schedule words before word `t`, each in its own slot. -/
def Holds (window : Window) (block : Block) (t : Nat) : Prop :=
  ∀ i, i < t → t ≤ i + 16 → window.slot i = Standard.word block i

theorem load_holds (block : Block) : (load block).Holds block 16 := by
  intro i below _
  rw [Standard.word_of_lt block i below]
  simp [slot, load, Nat.mod_eq_of_lt below]

/-- All four words that the recurrence reads are still in the window. -/
theorem next_eq_word {window : Window} {block : Block} {t : Nat} (late : 16 ≤ t)
    (held : window.Holds block t) : window.next t = Standard.word block t := by
  obtain ⟨n, rfl⟩ := Nat.exists_eq_add_of_le' late
  have oldest := held (n + 16 - 16) (by omega) (by omega)
  have second := held (n + 16 - 15) (by omega) (by omega)
  have tenth := held (n + 16 - 7) (by omega) (by omega)
  have newest := held (n + 16 - 2) (by omega) (by omega)
  rw [next, oldest, second, tenth, newest, Standard.word_add_sixteen, Word.smallSigma0_eq_standard,
    Word.smallSigma1_eq_standard]
  simp only [Nat.add_sub_cancel, Nat.reduceSubDiff]
  ac_rfl

theorem slot_set_self (window : Window) (t : Nat) (word : UInt64) :
    slot (window.set (t % 16) word (Nat.mod_lt t (by decide))) t = word :=
  Vector.getElem_set_self _

theorem slot_set_of_ne (window : Window) (t i : Nat) (word : UInt64) (apart : t % 16 ≠ i % 16) :
    slot (window.set (t % 16) word (Nat.mod_lt t (by decide))) i = window.slot i :=
  Vector.getElem_set_ne _ _ apart

/-- Word `t` takes the place of word `t - 16`; the fifteen words between them stay. -/
theorem advance_holds {window : Window} {block : Block} {t : Nat}
    (held : window.Holds block (max 16 t)) : (window.advance t).Holds block (max 16 (t + 1)) := by
  by_cases late : 16 ≤ t
  · -- The window moves on by one word, and only that word's slot changes.
    rw [Nat.max_eq_right late] at held
    rw [Nat.max_eq_right (by omega), advance, if_pos late, next_eq_word late held]
    intro i below recent
    by_cases own : i = t
    · rw [own, slot_set_self]
    · rw [slot_set_of_ne window t i _ (by omega)]
      exact held i (by omega) (by omega)
  · -- The first sixteen words are in place from the start.
    rw [Nat.max_eq_left (by omega)] at held
    rw [Nat.max_eq_left (by omega), advance, if_neg late]
    exact held

end Window

namespace Shifting

/-- The window invariant over any number of rounds. -/
theorem progress_holds (block : Block) (s : State) (t : Nat) :
    (progress block s t).window.Holds block (max 16 t) := by
  induction t with
  | zero => exact Window.load_holds block
  | succ t ih => exact Window.advance_holds ih

/-- Round `t` is given schedule word `t`. -/
theorem slot_progress (block : Block) (s : State) (t : Nat) :
    ((progress block s t).window.advance t).slot t = Standard.word block t :=
  progress_holds block s (t + 1) t (by omega) (by omega)

end Shifting

/-! ## Rounds -/

namespace Shifting

theorem round_eq_standard (constant word : UInt64) (v : State) :
    round constant word v = Standard.round v constant word := by
  simp only [round, Standard.round, Word.choose_eq_standard, Word.majority_eq_standard,
    Word.bigSigma0_eq_standard, Word.bigSigma1_eq_standard]

/-- After `n` rounds the variables are those of the standard after its first `n` rounds. -/
theorem working_progress (block : Block) (s : State) (n : Nat) (within : n ≤ 80) :
    (progress block s n).working =
      ((roundConstants.toList.zip (Standard.schedule block).toList).take n).foldl
        (fun v (constant, word) => Standard.round v constant word) s := by
  induction n with
  | zero => rfl
  | succ n ih =>
    have inside : n < 80 := within
    -- What the fold reads at place `n` is what the loop is given in round `n`.
    have pair : (roundConstants.toList.zip (Standard.schedule block).toList)[n]? =
        some (roundConstant n, Standard.word block n) := by
      rw [← Standard.schedule_get block n inside]
      simp [roundConstant, inside]
    rw [List.take_add_one, pair, List.foldl_append, ← ih (by omega), progress, step]
    simp only [slot_progress, round_eq_standard, Option.toList_some, List.foldl_cons,
      List.foldl_nil]

end Shifting

/-- The loop is the standard's compression function. In every round the window supplies the
standard's schedule word, and the first sixteen of these are the block read big-endian. The constants
are those that the standard derives from primes. -/
theorem shifting_compress_eq_standard (s : State) (block : Block) :
    Shifting.compress s block = Standard.compress s block ∧
      (∀ t : Fin 80, ((Shifting.progress block s t).window.advance t).slot t =
        (Standard.schedule block)[t]) ∧
      (∀ i : Fin 16, (Standard.schedule block)[i].toNat =
        bigEndianValue ((block.toList.drop (8 * i)).take 8)) ∧
      ∀ t : Fin 80, Standard.CubeRootFraction Standard.primes[t] roundConstants[t] := by
  refine ⟨?_, ?_, ?_, ?_⟩
  · have all : (roundConstants.toList.zip (Standard.schedule block).toList).length ≤ 80 := by simp
    rw [Shifting.compress, Shifting.working_progress block s 80 (Nat.le_refl 80),
      List.take_of_length_le all]
    rfl
  · intro t
    rw [Shifting.slot_progress]
    exact (Standard.schedule_get block t t.isLt).symm
  · intro i
    have first : (Standard.schedule block)[i] = block.word i :=
      (Standard.schedule_get block i (by omega)).trans (Standard.word_of_lt block i i.isLt)
    rw [first]
    exact block.toNat_word i
  · decide +kernel

end TruncatedSha
