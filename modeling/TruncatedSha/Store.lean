/-!
# Named values

A store keeps one value per name; putting a value under a name replaces the one before. Two
stores are related if they have values under the same names, and related ones.
-/
namespace TruncatedSha

structure Store (α : Type) where
  entries : List (String × α)

namespace Store

variable {α : Type}

def empty : Store α := ⟨[]⟩

def get? (s : Store α) (name : String) : Option α := s.entries.lookup name

def erase (s : Store α) (name : String) : Store α :=
  ⟨s.entries.filter fun entry => name != entry.1⟩

def put (s : Store α) (name : String) (value : α) : Store α :=
  ⟨(name, value) :: (s.erase name).entries⟩

@[simp] theorem get?_empty (name : String) : (empty : Store α).get? name = none := rfl

private theorem lookup_cons_eq (key name : String) (value : α) (rest : List (String × α)) :
    List.lookup name ((key, value) :: rest) =
      if name = key then some value else rest.lookup name := by
  by_cases same : name = key
  · simp [same]
  · simp [List.lookup_cons, beq_false_of_ne same, same]

theorem get?_erase (s : Store α) (name other : String) :
    (s.erase name).get? other = if other = name then none else s.get? other := by
  obtain ⟨entries⟩ := s
  simp only [get?, erase]
  induction entries with
  | nil => simp
  | cons entry rest ih =>
    obtain ⟨key, value⟩ := entry
    rw [List.filter_cons, lookup_cons_eq]
    by_cases dropped : name = key
    · subst dropped
      simp only [bne_self_eq_false, Bool.false_eq_true, if_false, ih]
      split <;> rfl
    · simp only [bne_iff_ne, ne_eq, dropped, not_false_eq_true, if_true, lookup_cons_eq, ih]
      by_cases same : other = key
      · simp [same, Ne.symm dropped]
      · simp [same]

theorem get?_put (s : Store α) (name other : String) (value : α) :
    (s.put name value).get? other = if other = name then some value else s.get? other := by
  have erased := get?_erase s name other
  simp only [get?, put, lookup_cons_eq] at erased ⊢
  split <;> simp_all

/-! ## Stores side by side -/

section

variable {β : Type} {R : α → β → Prop}

def Related (R : α → β → Prop) (s : Store α) (t : Store β) : Prop :=
  ∀ name, Option.Rel R (s.get? name) (t.get? name)

theorem Related.empty (R : α → β → Prop) : Related R .empty .empty := fun _ => .none

/-- Under any name there is nothing on both sides, or something on both. -/
theorem Related.get? {s : Store α} {t : Store β} (related : Related R s t) (name : String) :
    (s.get? name = none ∧ t.get? name = none) ∨
      ∃ left right, s.get? name = some left ∧ t.get? name = some right ∧ R left right := by
  have there := related name
  generalize s.get? name = left at there ⊢
  generalize t.get? name = right at there ⊢
  cases there with
  | none => exact .inl ⟨rfl, rfl⟩
  | some values => exact .inr ⟨_, _, rfl, rfl, values⟩

theorem Related.imp {Q : α → β → Prop} {s : Store α} {t : Store β} (related : Related R s t)
    (weaker : ∀ left right, R left right → Q left right) : Related Q s t := by
  intro name
  rcases related.get? name with ⟨left, right⟩ | ⟨value, other, left, right, values⟩
  · rw [left, right]
    exact .none
  · rw [left, right]
    exact .some (weaker value other values)

theorem Related.put {s : Store α} {t : Store β} (related : Related R s t) (name : String)
    {left : α} {right : β} (values : R left right) :
    Related R (s.put name left) (t.put name right) := by
  intro other
  rw [get?_put, get?_put]
  split
  · exact .some values
  · exact related other

theorem Related.erase {s : Store α} {t : Store β} (related : Related R s t) (name : String) :
    Related R (s.erase name) (t.erase name) := by
  intro other
  rw [get?_erase, get?_erase]
  split
  · exact .none
  · exact related other

end

end Store

end TruncatedSha
