import TruncatedSha.Checksum.Verification
import TruncatedSha.Proofs.Hex
import TruncatedSha.Proofs.Text.Lines

/-!
# Reading back a checksum line

A written entry reads back as it was, unless its name is empty. As a line of a text it may have lost
a carriage return at its end, and then it does not.
-/
namespace TruncatedSha.Checksum.Entry

theorem toList_format (e : Entry) :
    e.format.toList = Hex.encode e.digest.toList ++ ' ' :: ' ' :: e.name.toList := by
  simp [format]

/-- The line is cut at its first space. -/
theorem parseChars_of_unspaced {text : List Char} (unspaced : ' ' ∉ text) (rest : List Char) :
    parseChars (text ++ ' ' :: rest) =
      match Hex.decode text with
      | .error error => .error (.badDigest text error)
      | .ok digest => parseName digest rest := by
  have front : ∀ c ∈ text, decide (c ≠ ' ') = true := by
    intro c member
    exact decide_eq_true fun space => unspaced (space ▸ member)
  have behind : (text ++ ' ' :: rest).dropWhile (· ≠ ' ') = ' ' :: rest := by
    rw [List.dropWhile_append_of_pos front]
    rfl
  have before : (text ++ ' ' :: rest).takeWhile (· ≠ ' ') = text := by
    rw [List.takeWhile_append_of_pos front, List.takeWhile_cons_of_neg (by decide), List.append_nil]
  cases read : Hex.decode text <;> simp only [parseChars, behind, before, read]

/-- No digit is a space, so the digest ends where its digits end. -/
theorem parseChars_encode (digest : Digest) (rest : List Char) :
    parseChars (Hex.encode digest.toList ++ ' ' :: rest) = parseName digest rest := by
  have digits : ∀ c ∈ Hex.encode digest.toList, c ≠ ' ' :=
    Hex.forall_mem_encode (fun n small => Hex.digit_ne_space small) digest.toList
  rw [parseChars_of_unspaced (fun member => digits ' ' member rfl), Hex.decode_encode]

theorem parseChars_written (digest : Digest) (name : List Char) :
    parseChars (Hex.encode digest.toList ++ ' ' :: ' ' :: name) =
      if name = [] then .error .noName else .ok ⟨digest, String.ofList name⟩ := by
  rw [parseChars_encode, parseName, if_pos (.inl rfl)]
  simp only [List.isEmpty_iff]

theorem parse_format (e : Entry) :
    Entry.parse e.format = if e.name = "" then .error .noName else .ok e := by
  rw [parse, toList_format, parseChars_written, String.ofList_toList]
  simp only [String.toList_eq_nil_iff]

theorem newline_mem_format_iff (e : Entry) : '\n' ∈ e.format.toList ↔ '\n' ∈ e.name.toList := by
  have digits : ∀ c ∈ Hex.encode e.digest.toList, c ≠ '\n' :=
    Hex.forall_mem_encode (fun n small => Hex.digit_ne_newline small) e.digest.toList
  rw [toList_format, List.mem_append]
  constructor
  · rintro (digit | others)
    · exact absurd rfl (digits _ digit)
    · simpa using others
  · intro member
    exact .inr (by simp [member])

theorem closeLine_format {e : Entry} (kept : e.name.toList.getLast? ≠ some '\r') :
    Text.closeLine e.format.toList.reverse = e.format.toList := by
  apply Text.closeLine_of_getLast?_ne
  rw [toList_format]
  cases chars : e.name.toList with
  | nil => simp
  | cons c rest =>
    rw [chars] at kept
    simpa using kept

/-- As a line, an entry reads back as it was if there is a name and it keeps its end. -/
theorem parseChars_closeLine_eq_ok_iff (e : Entry) :
    parseChars (Text.closeLine e.format.toList.reverse) = .ok e ↔
      e.name ≠ "" ∧ e.name.toList.getLast? ≠ some '\r' := by
  by_cases cut : e.name.toList.getLast? = some '\r'
  · -- The name that is read lacks the carriage return, if there is anything left of it.
    obtain ⟨front, split⟩ := List.getLast?_eq_some_iff.mp cut
    have line : e.format.toList =
        (Hex.encode e.digest.toList ++ ' ' :: ' ' :: front) ++ ['\r'] := by
      rw [toList_format, split, List.append_assoc, List.cons_append, List.cons_append]
    rw [line, Text.closeLine_concat_return, parseChars_written]
    refine iff_of_false ?_ (fun kept => kept.2 cut)
    split
    next => simp
    next =>
      intro same
      have shorter : String.ofList front = e.name := congrArg Entry.name (Except.ok.inj same)
      rw [← shorter, String.toList_ofList] at split
      simp at split
  · rw [closeLine_format cut, ← parse, parse_format]
    by_cases empty : e.name = ""
    · simp [empty]
    · simp [empty, cut]

end TruncatedSha.Checksum.Entry
