import Mathlib.Algebra.Order.Ring.Nat
import Mathlib.Data.List.Basic
import TruncatedSha.Hex

/-!
# Reading back hexadecimal digits

What is written for a digest reads back as that digest. A digit is a single byte of the text, so that
the bytes that are read are as many as the digits.
-/
namespace TruncatedSha.Hex

/-- The ASCII code of a digit, as it stands in a text. -/
def code (n : Nat) : UInt8 := UInt8.ofNat (digit n).toNat

theorem utf8EncodeChar_digit {n : Nat} (small : n < 16) :
    String.utf8EncodeChar (digit n) = [code n] := by
  have all : ∀ i : Fin 16, String.utf8EncodeChar (digit i) = [code i] := by decide
  exact all ⟨n, small⟩

theorem value?_code {n : Nat} (small : n < 16) : value? (code n) = some n := by
  have all : ∀ i : Fin 16, value? (code i) = some i.val := by decide
  exact all ⟨n, small⟩

theorem digit_ne_space {n : Nat} (small : n < 16) : digit n ≠ ' ' := by
  have all : ∀ i : Fin 16, digit i ≠ ' ' := by decide
  exact all ⟨n, small⟩

theorem digit_ne_newline {n : Nat} (small : n < 16) : digit n ≠ '\n' := by
  have all : ∀ i : Fin 16, digit i ≠ '\n' := by decide
  exact all ⟨n, small⟩

/-! ## Digits in pairs -/

/-- The values of the digits that some bytes are written with. -/
def halves (bytes : Bytes) : List Nat :=
  bytes.flatMap fun byte => [byte.toNat / 16, byte.toNat % 16]

theorem halves_cons (byte : UInt8) (rest : Bytes) :
    halves (byte :: rest) = byte.toNat / 16 :: byte.toNat % 16 :: halves rest := rfl

theorem length_halves (bytes : Bytes) : (halves bytes).length = 2 * bytes.length := by
  induction bytes with
  | nil => rfl
  | cons byte rest ih =>
    rw [halves_cons, List.length_cons, List.length_cons, ih, List.length_cons]
    omega

theorem lt_of_mem_halves (bytes : Bytes) : ∀ half ∈ halves bytes, half < 16 := by
  intro half member
  obtain ⟨byte, -, own⟩ := List.mem_flatMap.mp member
  have bound := byte.toNat_lt
  simp only [List.mem_cons, List.not_mem_nil, or_false] at own
  rcases own with rfl | rfl
  · omega
  · omega

theorem encode_cons (byte : UInt8) (rest : Bytes) :
    encode (byte :: rest) = digit (byte.toNat / 16) :: digit (byte.toNat % 16) :: encode rest := rfl

theorem encode_eq_map_halves (bytes : Bytes) : encode bytes = (halves bytes).map digit := by
  simp [encode, halves, List.map_flatMap]

/-- All digits pass the check of single digits. -/
theorem forall_mem_encode {P : Char → Prop} (each : ∀ n < 16, P (digit n)) (bytes : Bytes) :
    ∀ c ∈ encode bytes, P c := by
  intro c member
  rw [encode_eq_map_halves] at member
  obtain ⟨half, inside, rfl⟩ := List.mem_map.mp member
  exact each half (lt_of_mem_halves bytes half inside)

theorem value?_lt {code : UInt8} {n : Nat} (found : value? code = some n) : n < 16 := by
  unfold value? at found
  dsimp only at found
  split at found
  next => cases found; omega
  next =>
    split at found
    next => cases found; omega
    next =>
      split at found
      next => cases found; omega
      next => cases found

theorem ofNat_eq_iff {h l : Nat} (high : h < 16) (low : l < 16) (byte : UInt8) :
    UInt8.ofNat (16 * h + l) = byte ↔ h = byte.toNat / 16 ∧ l = byte.toNat % 16 := by
  rw [← UInt8.toNat_inj, UInt8.toNat_ofNat']
  omega

/-- Bytes are read exactly from the digits that stand for their halves. -/
theorem decodePairs_eq_ok_iff (position : Nat) (codes bytes : Bytes) :
    decodePairs position codes = .ok bytes ↔ codes.map value? = (halves bytes).map some := by
  fun_induction decodePairs position codes generalizing bytes with
  | case1 position high low rest other => cases bytes <;> simp [halves, other]
  | case2 position high low rest h first other => cases bytes <;> simp [halves, other]
  | case3 position high low rest h first l second error failed ih =>
    cases bytes with
    | nil => simp [halves]
    | cons byte others =>
      have unread : ¬ rest.map value? = (halves others).map some := by
        rw [← ih others, failed]
        simp
      simp [halves_cons, unread]
  | case4 position high low rest h first l second read found ih =>
    cases bytes with
    | nil => simp [halves]
    | cons byte others =>
      have pair := ofNat_eq_iff (value?_lt first) (value?_lt second) byte
      have behind : read = others ↔ rest.map value? = (halves others).map some := by
        rw [← ih others, found, Except.ok.injEq]
      simp only [halves_cons, List.map_cons, first, second, Except.ok.injEq, List.cons.injEq,
        Option.some.injEq, pair, behind, and_assoc]
  | case5 => cases bytes <;> simp [halves]
  | case6 => cases bytes <;> simp [halves]

/-- Each digit that is written is one byte, which has its value. -/
theorem map_value?_encode (bytes : Bytes) :
    ((encode bytes).flatMap String.utf8EncodeChar).map value? = (halves bytes).map some := by
  rw [encode_eq_map_halves, List.flatMap_map, List.map_flatMap, List.map_eq_flatMap]
  apply List.flatMap_congr
  intro half member
  have small := lt_of_mem_halves bytes half member
  rw [utf8EncodeChar_digit small, List.map_singleton, value?_code small]

theorem decodePairs_encode (position : Nat) (bytes : Bytes) :
    decodePairs position ((encode bytes).flatMap String.utf8EncodeChar) = .ok bytes :=
  (decodePairs_eq_ok_iff _ _ _).mpr (map_value?_encode bytes)

/-- A digest is read from the bytes of a text, if they are as many as it takes. -/
theorem decode_eq_ok_iff (text : List Char) (digest : Digest) :
    decode text = .ok digest ↔
      decodePairs 0 (text.flatMap String.utf8EncodeChar) = .ok digest.toList := by
  unfold decode
  dsimp only
  constructor
  · intro found
    split at found
    next => cases found
    next =>
      split at found
      next => cases found
      next =>
        split at found
        next => cases found
        next bytes read =>
          cases found
          exact read
  · intro read
    -- The digits of 32 bytes are neither odd in number nor too many or too few.
    have size := length_decodePairs read
    rw [Vector.length_toList] at size
    rw [if_neg (by omega), dif_neg (by omega)]
    split
    next error failed => cases read.symm.trans failed
    next bytes again =>
      cases read.symm.trans again
      rfl

theorem decode_encode (digest : Digest) : decode (encode digest.toList) = .ok digest :=
  (decode_eq_ok_iff _ digest).mpr (decodePairs_encode 0 digest.toList)

end TruncatedSha.Hex
