import Mathlib.Data.List.Basic
import Mathlib.Data.List.Induction
import Mathlib.Data.Nat.Digits.Defs
import TruncatedSha.Hex
import TruncatedSha.Proofs.Hex

/-!
# Reading what is spelled

A digest is read from a text exactly if the text spells it. Characters that take several bytes are no
digits, and so are none of their bytes.
-/
namespace TruncatedSha.Hex

/-! ## Single characters -/

theorem toNat_lt_of_isDigit {c : Char} (digit : IsDigit c) : c.toNat < 128 := by
  by_contra large
  -- Only capital letters have another lower case, and they are below 128 themselves.
  have notUpper : ¬ (c.val ≥ 'A'.val ∧ c.val ≤ 'Z'.val) := by
    rintro ⟨-, upper⟩
    have bound : c.toNat ≤ 90 := UInt32.le_iff_toNat_le.mp upper
    omega
  have same : c.toLower = c := dif_neg notUpper
  have ascii : ∀ d ∈ digits, d.toNat < 128 := by simp [digits]
  exact large (ascii c (same ▸ digit))

theorem value?_of_ascii {c : Char} (ascii : c.toNat < 128) :
    value? (UInt8.ofNat c.toNat) = if IsDigit c then some (valueOf c) else none := by
  have all : ∀ n < 128, value? (UInt8.ofNat n) =
      if IsDigit (Char.ofNat n) then some (valueOf (Char.ofNat n)) else none := by decide
  have own := all c.toNat ascii
  rwa [Char.ofNat_toNat] at own

theorem utf8EncodeChar_of_ascii {c : Char} (ascii : c.toNat < 128) :
    String.utf8EncodeChar c = [UInt8.ofNat c.toNat] :=
  if_pos (Nat.le_of_lt_succ ascii)

theorem value?_of_high {code : UInt8} (high : 128 ≤ code.toNat) : value? code = none := by
  unfold value?
  dsimp only
  rw [if_neg (by omega), if_neg (by omega), if_neg (by omega)]

/-- What is no digit has a byte that is none: it is the byte itself, or the first of several. -/
theorem exists_value?_eq_none {c : Char} (other : ¬ IsDigit c) :
    ∃ code ∈ String.utf8EncodeChar c, value? code = none := by
  by_cases ascii : c.toNat < 128
  · refine ⟨_, by rw [utf8EncodeChar_of_ascii ascii]; exact List.mem_singleton_self _, ?_⟩
    rw [value?_of_ascii ascii, if_neg other]
  · have several : ¬ c.val.toNat ≤ 127 := fun few => ascii (Nat.lt_succ_of_le few)
    -- In two, three or four bytes, the first is at least 128.
    unfold String.utf8EncodeChar
    rw [if_neg several]
    split
    next => exact ⟨_, List.mem_cons_self, value?_of_high (by simp; omega)⟩
    next =>
      split
      next => exact ⟨_, List.mem_cons_self, value?_of_high (by simp; omega)⟩
      next => exact ⟨_, List.mem_cons_self, value?_of_high (by simp; omega)⟩

theorem valueOf_lt {c : Char} (digit : IsDigit c) : valueOf c < 16 :=
  List.idxOf_lt_length_of_mem digit

theorem digit_valueOf {c : Char} (isDigit : IsDigit c) : digit (valueOf c) = c.toLower := by
  have all : ∀ i : Fin digits.length, digit i = digits[i] := by decide
  rw [all ⟨valueOf c, valueOf_lt isDigit⟩]
  exact List.getElem_idxOf (valueOf_lt isDigit)

/-! ## Numbers -/

theorem foldl_eq_ofDigits (values : List Nat) :
    values.foldl (fun number value => number * 16 + value) 0 = Nat.ofDigits 16 values.reverse := by
  induction values using List.reverseRecOn with
  | nil => rfl
  | append_singleton front last ih =>
    rw [List.foldl_append, ih, List.reverse_append, List.reverse_singleton, List.singleton_append,
      Nat.ofDigits_cons, List.foldl_cons, List.foldl_nil]
    omega

theorem number_eq (text : List Char) :
    number text = Nat.ofDigits 16 (text.map valueOf).reverse := by
  rw [← foldl_eq_ofDigits, List.foldl_map]
  rfl

theorem bigEndianValue_eq (bytes : Bytes) :
    bigEndianValue bytes = Nat.ofDigits 16 (halves bytes).reverse := by
  have joined (start : Nat) : bytes.foldl (fun value byte => value * 256 + byte.toNat) start =
      (halves bytes).foldl (fun number value => number * 16 + value) start := by
    induction bytes generalizing start with
    | nil => rfl
    | cons byte rest ih =>
      have two : (start * 16 + byte.toNat / 16) * 16 + byte.toNat % 16 =
          start * 256 + byte.toNat := by omega
      rw [halves_cons, List.foldl_cons, List.foldl_cons, List.foldl_cons, two, ih]
  rw [bigEndianValue, joined, foldl_eq_ofDigits]

/-! ## Spelling -/

/-- What stands for a digest has the values of its halves, digit by digit: as many digits can stand
for a number in one way only. -/
theorem spells_iff (text : List Char) (digest : Digest) :
    Spells text digest ↔ (∀ c ∈ text, IsDigit c) ∧ text.map valueOf = halves digest.toList := by
  have size : (halves digest.toList).length = 64 := by rw [length_halves, Vector.length_toList]
  constructor
  · intro spelled
    -- Both sides are the digits of one number to base 16, and as many of them.
    refine ⟨spelled.digits, List.reverse_injective ?_⟩
    have same := spelled.number
    rw [number_eq, bigEndianValue_eq] at same
    apply Nat.ofDigits_inj_of_len_eq (by decide) _ _ _ same
    · simp [spelled.length, size]
    · intro value member
      simp only [List.mem_reverse, List.mem_map] at member
      obtain ⟨c, inside, rfl⟩ := member
      exact valueOf_lt (spelled.digits c inside)
    · intro half member
      exact lt_of_mem_halves _ half (List.mem_reverse.mp member)
  · rintro ⟨digits, values⟩
    refine ⟨?_, digits, ?_⟩
    · rw [← size, ← values, List.length_map]
    · rw [number_eq, bigEndianValue_eq, values]

theorem map_value?_of_digits {text : List Char} (digits : ∀ c ∈ text, IsDigit c) :
    (text.flatMap String.utf8EncodeChar).map value? = (text.map valueOf).map some := by
  induction text with
  | nil => rfl
  | cons c rest ih =>
    obtain ⟨first, others⟩ := List.forall_mem_cons.mp digits
    have ascii := toNat_lt_of_isDigit first
    rw [List.flatMap_cons, utf8EncodeChar_of_ascii ascii, List.singleton_append, List.map_cons,
      value?_of_ascii ascii, if_pos first, ih others]
    rfl

theorem digits_of_map_value? {text : List Char} {values : List Nat}
    (read : (text.flatMap String.utf8EncodeChar).map value? = values.map some) :
    ∀ c ∈ text, IsDigit c := by
  intro c member
  by_contra other
  obtain ⟨code, inside, none⟩ := exists_value?_eq_none other
  have present : Option.none ∈ values.map some := by
    rw [← read, ← none]
    exact List.mem_map_of_mem (List.mem_flatMap.mpr ⟨c, member, inside⟩)
  simp at present

/-- Reading is exact. -/
theorem decode_eq_ok_iff_spells (text : List Char) (digest : Digest) :
    decode text = .ok digest ↔ Spells text digest := by
  rw [decode_eq_ok_iff, decodePairs_eq_ok_iff, spells_iff]
  constructor
  · intro read
    have digits := digits_of_map_value? read
    rw [map_value?_of_digits digits] at read
    exact ⟨digits, List.map_injective_iff.mpr (Option.some_injective _) read⟩
  · rintro ⟨digits, values⟩
    rw [map_value?_of_digits digits, values]

theorem spells_encode (digest : Digest) : Spells (encode digest.toList) digest :=
  (decode_eq_ok_iff_spells _ digest).mp (decode_encode digest)

/-- Up to case, there is one spelling. -/
theorem Spells.map_toLower {text : List Char} {digest : Digest} (spelled : Spells text digest) :
    text.map Char.toLower = encode digest.toList := by
  obtain ⟨digits, values⟩ := (spells_iff text digest).mp spelled
  rw [encode_eq_map_halves, ← values, List.map_map]
  apply List.map_congr_left
  intro c member
  exact (digit_valueOf (digits c member)).symm

theorem Spells.unspaced {text : List Char} {digest : Digest} (spelled : Spells text digest) :
    ' ' ∉ text := by
  intro member
  exact absurd (spelled.digits ' ' member) (by decide)

end TruncatedSha.Hex
