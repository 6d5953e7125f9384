import Mathlib.Data.List.Basic
import TruncatedSha.Text.Space

/-!
# Texts and their lines

A text is cut at its line feeds, and what is said of its lines holds of these parts only. Parts that
each end in a line feed are the lines of the text, if there is no line feed within them.
A carriage return at the end of a part is lost. Otherwise there are as many lines more as there are
line feeds within the parts.
-/
namespace TruncatedSha.Text

theorem closeLine_concat_return (line : List Char) : closeLine (line ++ ['\r']).reverse = line := by
  rw [List.reverse_append, List.reverse_singleton, List.singleton_append, closeLine,
    List.reverse_reverse]

theorem closeLine_of_getLast?_ne {line : List Char} (kept : line.getLast? ≠ some '\r') :
    closeLine line.reverse = line := by
  rcases List.eq_nil_or_concat' line with rfl | ⟨front, last, rfl⟩
  · rfl
  · rw [List.getLast?_concat] at kept
    rw [List.reverse_append, List.reverse_singleton, List.singleton_append]
    unfold closeLine
    split
    next same => cases same; exact absurd rfl kept
    next => simp

theorem linesFrom_append {part : List Char} (unbroken : '\n' ∉ part) (line rest : List Char) :
    linesFrom line (part ++ '\n' :: rest) =
      closeLine (part.reverse ++ line) :: linesFrom [] rest := by
  -- The line so far is kept with its last character first.
  induction part generalizing line with
  | nil => rfl
  | cons c part ih =>
    rw [List.mem_cons, not_or] at unbroken
    rw [List.cons_append, linesFrom, if_neg (Ne.symm unbroken.1), ih unbroken.2,
      List.reverse_cons, List.append_assoc, List.singleton_append]

/-- The lines of a text whose parts hold no line feed. -/
theorem linesFrom_flatMap {parts : List (List Char)} (unbroken : ∀ part ∈ parts, '\n' ∉ part) :
    linesFrom [] (parts.flatMap (· ++ ['\n'])) = parts.map fun part => closeLine part.reverse := by
  induction parts with
  | nil => rfl
  | cons part rest ih =>
    rw [List.forall_mem_cons] at unbroken
    rw [List.flatMap_cons, List.append_assoc, List.singleton_append,
      linesFrom_append unbroken.1, List.append_nil, ih unbroken.2, List.map_cons]

theorem length_linesFrom_append (line part rest : List Char) :
    (linesFrom line (part ++ '\n' :: rest)).length =
      part.count '\n' + 1 + (linesFrom [] rest).length := by
  induction part generalizing line with
  | nil =>
    rw [List.nil_append, linesFrom, if_pos rfl, List.length_cons, List.count_nil]
    omega
  | cons c part ih =>
    rw [List.cons_append, linesFrom]
    split
    next feed =>
      rw [List.length_cons, ih, feed, List.count_cons_self]
      omega
    next other => rw [ih, List.count_cons_of_ne other]

theorem length_linesFrom_flatMap (parts : List (List Char)) :
    (linesFrom [] (parts.flatMap (· ++ ['\n']))).length =
      parts.length + parts.flatten.count '\n' := by
  induction parts with
  | nil => rfl
  | cons part rest ih =>
    rw [List.flatMap_cons, List.append_assoc, List.singleton_append, length_linesFrom_append, ih,
      List.length_cons, List.flatten_cons, List.count_append]
    omega

/-- If there are no more lines than parts, no part holds a line feed. -/
theorem unbroken_of_length_eq {parts : List (List Char)}
    (same : (linesFrom [] (parts.flatMap (· ++ ['\n']))).length = parts.length) :
    ∀ part ∈ parts, '\n' ∉ part := by
  intro part member feed
  rw [length_linesFrom_flatMap] at same
  have none : parts.flatten.count '\n' = 0 := by omega
  exact List.count_eq_zero.mp none (List.mem_flatten.mpr ⟨part, member, feed⟩)

end TruncatedSha.Text
