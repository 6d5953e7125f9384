import Mathlib.Data.List.TakeWhile
import TruncatedSha.Checksum.Entry
import TruncatedSha.Proofs.Checksum.Entry
import TruncatedSha.Proofs.Hex.Spelling

/-!
# Exactly the checksum lines are read

Cutting a line at its first space loses nothing: digits hold no space, so that a line can be taken
apart in one way only, and what the parser reports is the first check that fails.
-/
namespace TruncatedSha.Checksum

theorem parseName_of_marked (digest : Digest) {mark : Char} (marked : IsMark mark)
    (name : List Char) :
    Entry.parseName digest (mark :: name) =
      if name.isEmpty then .error .noName else .ok ⟨digest, String.ofList name⟩ := by
  rw [Entry.parseName]
  exact if_pos marked

theorem parseName_of_unmarked (digest : Digest) {rest : List Char}
    (unmarked : ∀ c ∈ rest.head?, ¬ IsMark c) :
    Entry.parseName digest rest = .error .noMark := by
  cases rest with
  | nil => rfl
  | cons c name =>
    rw [Entry.parseName]
    exact if_neg (unmarked c rfl)

theorem parseChars_of_spells {text : List Char} {digest : Digest} (digits : Hex.Spells text digest)
    (rest : List Char) :
    Entry.parseChars (text ++ ' ' :: rest) = Entry.parseName digest rest := by
  rw [Entry.parseChars_of_unspaced digits.unspaced, (Hex.decode_eq_ok_iff_spells _ _).mpr digits]

/-! ## Reading is parsing -/

theorem Reading.parseChars_eq {line : List Char} {result : Except EntryError Entry}
    (reading : Reading line result) : Entry.parseChars line = result := by
  cases reading with
  | noSpace unspaced =>
    have nothing : line.dropWhile (· ≠ ' ') = [] := by
      apply List.dropWhile_eq_nil_iff.mpr
      intro c member
      exact decide_eq_true fun space => unspaced (space ▸ member)
    rw [Entry.parseChars, nothing]
  | badDigest unspaced _ found => rw [Entry.parseChars_of_unspaced unspaced, found]
  | noMark digits unmarked =>
    rw [parseChars_of_spells digits, parseName_of_unmarked _ unmarked]
  | noName digits marked =>
    rw [parseChars_of_spells digits, parseName_of_marked _ marked]
    rfl
  | @entry p e said =>
    have named : ¬ p.name.isEmpty := fun empty => said.present (List.isEmpty_iff.mp empty)
    rw [Parts.chars, parseChars_of_spells said.digits, parseName_of_marked _ said.mark,
      if_neg named, said.name]

/-- Every line comes to something. -/
theorem exists_reading (line : List Char) : ∃ result, Reading line result := by
  -- The cases are the checks in the order in which they are made.
  by_cases spaced : ' ' ∈ line
  · obtain ⟨text, rest, rfl, unspaced⟩ := List.eq_append_cons_of_mem spaced
    cases read : Hex.decode text with
    | error error =>
      have unspelled : ∀ digest, ¬ Hex.Spells text digest := by
        intro digest spelled
        cases read.symm.trans ((Hex.decode_eq_ok_iff_spells _ _).mpr spelled)
      exact ⟨_, .badDigest unspaced unspelled read⟩
    | ok digest =>
      have digits := (Hex.decode_eq_ok_iff_spells _ _).mp read
      cases rest with
      | nil => exact ⟨_, .noMark digits (by simp)⟩
      | cons mark name =>
        by_cases marked : IsMark mark
        · cases name with
          | nil => exact ⟨_, .noName digits marked⟩
          | cons c others =>
            have said : (Parts.mk text mark (c :: others)).Say
                ⟨digest, String.ofList (c :: others)⟩ :=
              ⟨digits, marked, List.cons_ne_nil c others, rfl⟩
            exact ⟨_, .entry said⟩
        · refine ⟨_, .noMark digits ?_⟩
          simpa using marked
  · exact ⟨_, .noSpace spaced⟩

theorem parse_eq_iff (line : String) (result : Except EntryError Entry) :
    Entry.parse line = result ↔ Reading line.toList result := by
  constructor
  · rintro rfl
    obtain ⟨result, reading⟩ := exists_reading line.toList
    rw [Entry.parse, reading.parseChars_eq]
    exact reading
  · exact fun reading => reading.parseChars_eq

/-! ## The parts of a line -/

/-- All digits of a digest are needed, so two lines that are equal have equal parts. -/
theorem Parts.eq_of_chars_eq {p q : Parts} {e e' : Entry} (left : p.Say e) (right : q.Say e')
    (same : p.chars = q.chars) : p = q := by
  have size : p.digits.length = q.digits.length := by
    rw [left.digits.length, right.digits.length]
  obtain ⟨digits, rest⟩ := List.append_inj same size
  obtain ⟨pDigits, pMark, pName⟩ := p
  simp_all

theorem Parts.toList_line (p : Parts) : p.line.toList = p.chars := String.toList_ofList

theorem Parts.Say.parse_line {p : Parts} {e : Entry} (said : p.Say e) :
    Entry.parse p.line = .ok e := by
  rw [parse_eq_iff, Parts.toList_line]
  exact .entry said

theorem parse_eq_ok_iff (line : String) (e : Entry) :
    Entry.parse line = .ok e ↔ ∃! p : Parts, p.line = line ∧ p.Say e := by
  constructor
  · intro parsed
    have reading := (parse_eq_iff line (.ok e)).mp parsed
    generalize chars : line.toList = cs at reading
    -- Of the readings only one ends in an entry, and it comes with the parts.
    cases reading with
    | @entry p _ said =>
      refine ⟨p, ⟨String.toList_inj.mp (p.toList_line.trans chars.symm), said⟩, ?_⟩
      rintro q ⟨rfl, again⟩
      rw [Parts.toList_line] at chars
      exact Parts.eq_of_chars_eq again said chars
  · rintro ⟨p, ⟨rfl, said⟩, -⟩
    exact said.parse_line

/-- Printed, an entry has its digits in lower case and a space for its mark. -/
theorem Parts.Say.format_eq {p : Parts} {e : Entry} (said : p.Say e) :
    e.format = ({ p with digits := p.digits.map Char.toLower, mark := ' ' } : Parts).line := by
  apply String.toList_inj.mp
  rw [Entry.toList_format, Parts.toList_line, Parts.chars, said.digits.map_toLower, ← said.name,
    String.toList_ofList]

/-- An entry with a name, as it is written in lower case with either mark. -/
theorem Entry.parse_encode {e : Entry} (named : e.name ≠ "") {mark : Char} (marked : IsMark mark) :
    Entry.parse (String.ofList (Hex.encode e.digest.toList) ++ String.ofList [' ', mark] ++ e.name) =
      .ok e := by
  have said : (Parts.mk (Hex.encode e.digest.toList) mark e.name.toList).Say e :=
    { digits := Hex.spells_encode e.digest
      mark := marked
      present := fun empty => named (String.toList_eq_nil_iff.mp empty)
      name := String.ofList_toList }
  rw [parse_eq_iff]
  simpa [Parts.chars] using Reading.entry said

/-- Parsing finds what a line says, and of a line that says nothing it reports the first check that
fails. A line that is accepted has its parts in one way only. An entry with a name is read from both of
its written forms, and is printed as it was read up to the case of the digits and the mark. -/
theorem parse_exact :
    (∀ line result, Entry.parse line = result ↔ Reading line.toList result) ∧
    (∀ line e, Entry.parse line = .ok e ↔ ∃! p : Parts, p.line = line ∧ p.Say e) ∧
    (∀ e : Entry, e.name ≠ "" →
      Entry.parse (String.ofList (Hex.encode e.digest.toList) ++ "  " ++ e.name) = .ok e ∧
      Entry.parse (String.ofList (Hex.encode e.digest.toList) ++ " *" ++ e.name) = .ok e) ∧
    ∀ (p : Parts) (e : Entry), p.Say e → Entry.parse p.line = .ok e ∧
      e.format = ({ p with digits := p.digits.map Char.toLower, mark := ' ' } : Parts).line := by
  refine ⟨parse_eq_iff, parse_eq_ok_iff, ?_, ?_⟩
  · intro e named
    exact ⟨Entry.parse_encode named (.inl rfl), Entry.parse_encode named (.inr rfl)⟩
  · intro p e said
    exact ⟨said.parse_line, said.format_eq⟩

/-- The digits are in upper case, and the name begins with a space and a star. -/
theorem parse_exact_upper :
    let e : Entry := ⟨.replicate 32 0xbb, " *x"⟩
    let p : Parts := ⟨List.replicate 64 'B', '*', [' ', '*', 'x']⟩
    e.name ≠ "" ∧ p.Say e ∧ Entry.parse e.format = .ok e ∧ Entry.parse p.line = .ok e := by
  intro e p
  obtain ⟨-, -, written, spoken⟩ := parse_exact
  have named : e.name ≠ "" := by decide
  have digits : Hex.Spells p.digits e.digest :=
    { length := by decide
      digits := List.forall_mem_replicate.mpr (.inr (by decide))
      number := by decide +kernel }
  have said : p.Say e := ⟨digits, .inr rfl, by decide, by decide⟩
  exact ⟨named, said, (written e named).1, (spoken p e said).1⟩

end TruncatedSha.Checksum
