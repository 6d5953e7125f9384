import TruncatedSha.Arguments.Meaning

/-!
# Settling what is open

A value that is still open counts as given from the moment it is read, and a fault in it as one that
is still to be found. Settling then changes nothing but this: it finds the faults, and that no option
was given twice.
-/
namespace TruncatedSha.Arguments

variable {κ : Type}

theorem bind_eq_ok_iff {α β : Type} {x : Except UsageError α} {f : α → Except UsageError β} {b : β} :
    (x >>= f) = .ok b ↔ ∃ a, x = .ok a ∧ f a = .ok b := by
  cases x <;> simp [bind, Except.bind]

/-! ## What is open -/

namespace Scan

/-- The option that waits for its value. -/
def waiting (s : Scan κ) : Option κ :=
  match s.pending with
  | some (key, []) => some key
  | _ => none

/-- The values that are not settled yet. -/
def unsettled (s : Scan κ) : List (κ × String) :=
  match s.pending with
  | some (key, values) => values.map (key, ·)
  | none => []

/-- All that was given so far. -/
def given (s : Scan κ) : List (κ × String) := s.settled ++ s.unsettled

def Faultless (g : Grammar κ) (s : Scan κ) : Prop :=
  ∀ pair ∈ s.unsettled, g.fault pair.1 pair.2 = none

/-- What is open can be settled. -/
structure Ready (g : Grammar κ) (s : Scan κ) : Prop where
  idle : s.waiting = none
  faultless : s.Faultless g

theorem given_settled (settled : List (κ × String)) : (⟨settled, none⟩ : Scan κ).given = settled :=
  List.append_nil settled

theorem ready_settled (g : Grammar κ) (settled : List (κ × String)) : Ready g ⟨settled, none⟩ where
  idle := rfl
  faultless _ member := by cases member

end Scan

/-! ## Given once -/

variable [DecidableEq κ] {g : Grammar κ}

theorem valuesOf_append (first second : List (κ × String)) (key : κ) :
    valuesOf (first ++ second) key = valuesOf first key ++ valuesOf second key := by
  simp [valuesOf]

theorem valuesOf_eq_nil_iff (given : List (κ × String)) (key : κ) :
    valuesOf given key = [] ↔ ∀ pair ∈ given, pair.1 ≠ key := by
  simp [valuesOf]

theorem valuesOf_ne_nil_iff (given : List (κ × String)) (key : κ) :
    valuesOf given key ≠ [] ↔ Present given key := by
  simp [valuesOf_eq_nil_iff, Present]

theorem valuesOf_map_self (values : List String) (key : κ) :
    valuesOf (values.map (key, ·)) key = values := by
  simp [valuesOf, List.filter_map, Function.comp_def]

theorem valuesOf_map_of_ne (values : List String) {first key : κ} (apart : first ≠ key) :
    valuesOf (values.map (first, ·)) key = [] := by
  simp [valuesOf_eq_nil_iff, apart]

theorem any_key_iff (given : List (κ × String)) (key : κ) :
    given.any (·.1 = key) ↔ ¬ ∀ pair ∈ given, pair.1 ≠ key := by
  simp only [List.any_eq_true, decide_eq_true_eq, ne_eq, Classical.not_forall, Classical.not_not,
    exists_prop]

theorem Once.left {first second : List (κ × String)} (once : Once g (first ++ second)) :
    Once g first := by
  intro key option
  have both := once key option
  rw [valuesOf_append, List.length_append] at both
  omega

/-- There is still room for a key beside what is settled. -/
def Free (g : Grammar κ) (settled : List (κ × String)) (key : κ) : Prop :=
  g.positional = some key ∨ ∀ pair ∈ settled, pair.1 ≠ key

theorem once_append_map_iff {settled : List (κ × String)} {key : κ} {values : List String}
    (once : Once g settled) (single : g.positional = some key ∨ values.length = 1) :
    Once g (settled ++ values.map (key, ·)) ↔ Free g settled key := by
  constructor
  · -- An option that was there already would be there twice.
    intro both
    by_cases positional : g.positional = some key
    · exact .inl positional
    · have size := single.resolve_left positional
      have twice := both key positional
      rw [valuesOf_append, valuesOf_map_self, List.length_append, size] at twice
      have none : (valuesOf settled key).length = 0 := by omega
      exact .inr ((valuesOf_eq_nil_iff settled key).mp (List.eq_nil_of_length_eq_zero none))
  · intro free other option
    rw [valuesOf_append]
    by_cases same : key = other
    · subst same
      have size := single.resolve_left option
      rw [(valuesOf_eq_nil_iff settled key).mpr (free.resolve_left option), valuesOf_map_self,
        List.nil_append]
      omega
    · rw [valuesOf_map_of_ne values same, List.append_nil]
      exact once other option

/-- An option is given once if it was not given before. -/
theorem once_concat_iff {settled : List (κ × String)} {key : κ} {value : String}
    (option : g.positional ≠ some key) : Once g (settled ++ [(key, value)]) ↔
      Once g settled ∧ ∀ pair ∈ settled, pair.1 ≠ key := by
  have last (once : Once g settled) :
      Once g (settled ++ [value].map (key, ·)) ↔ Free g settled key :=
    once_append_map_iff once (.inr rfl)
  constructor
  · intro once
    exact ⟨once.left, ((last once.left).mp once).resolve_left option⟩
  · rintro ⟨once, fresh⟩
    exact (last once).mpr (.inr fresh)

namespace Scan

variable {s s' : Scan κ} {settled : List (κ × String)} {key : κ}

/-- The scans that reading goes through. -/
structure Tidy (g : Grammar κ) (s : Scan κ) : Prop where
  once : Once g s.settled
  waits : ∀ key, s.pending = some (key, []) → g.positional ≠ some key
  single : ∀ key values, s.pending = some (key, values) →
    g.positional = some key ∨ values.length ≤ 1

theorem tidy_settled (once : Once g settled) : Tidy g ⟨settled, none⟩ where
  once := once
  waits _ opened := by cases opened
  single _ _ opened := by cases opened

/-! ## Settling -/

theorem record_eq_ok_iff {values : List String} :
    s.record g key values = .ok s' ↔ Free g s.settled key ∧
      (∀ value ∈ values, g.fault key value = none) ∧
      s' = { s with settled := s.settled ++ values.map (key, ·) } := by
  have free_iff : Free g s.settled key ↔
      ¬ (g.positional ≠ some key ∧ s.settled.any (·.1 = key)) := by
    rw [any_key_iff, Free, Classical.not_and_iff_not_or_not, Classical.not_not, Classical.not_not]
  rw [free_iff, record]
  split
  next twice => simp [twice]
  next free =>
    split
    next fault found =>
      obtain ⟨value, member, own⟩ := List.exists_of_findSome?_eq_some found
      have faulty : ¬ ∀ value ∈ values, g.fault key value = none := by
        intro faultless
        simp [faultless value member] at own
      simp [faulty]
    next found =>
      have faultless : ∀ value ∈ values, g.fault key value = none := by
        simpa using found
      simp only [free, not_false_eq_true, true_and, Except.ok.injEq]
      exact ⟨fun same => ⟨faultless, same.symm⟩, fun same => same.2.symm⟩

theorem settle_of_waiting (waits : s.waiting = some key) : s.settle g = .error .invalidValue := by
  obtain ⟨settled, pending⟩ := s
  match pending, waits with
  | some (_, []), _ => rfl

theorem settle_eq_ok_iff (tidy : s.Tidy g) (idle : s.waiting = none) :
    s.settle g = .ok s' ↔ s.Faultless g ∧ Once g s.given ∧ s' = ⟨s.given, none⟩ := by
  obtain ⟨settled, pending⟩ := s
  match pending, idle with
  | none, _ =>
    have once : Once g settled := tidy.once
    simp [settle, Faultless, unsettled, given, once, eq_comm]
  | some (key, value :: values), _ =>
    -- More than one value is open only for the positional key, which may be repeated.
    have single : g.positional = some key ∨ (value :: values).length = 1 :=
      (tidy.single key (value :: values) rfl).imp_right fun few => Nat.le_antisymm few (by simp)
    rw [settle, record_eq_ok_iff, ← once_append_map_iff tidy.once single]
    simp only [Faultless, unsettled, given, List.forall_mem_map]
    exact and_left_comm

/-- Whatever settles first goes on from all that was given, with nothing open. -/
theorem settle_bind_eq_ok_iff {α : Type} {next : Scan κ → Except UsageError α} {a : α}
    (tidy : s.Tidy g) : (s.settle g >>= next) = .ok a ↔
      s.Ready g ∧ Once g s.given ∧ next ⟨s.given, none⟩ = .ok a := by
  rw [bind_eq_ok_iff]
  cases waits : s.waiting with
  | some key =>
    constructor
    · rintro ⟨_, settled, _⟩
      -- An option without its value cannot be settled, and such a scan is not ready.
      rw [settle_of_waiting waits] at settled
      cases settled
    · rintro ⟨ready, _⟩
      cases waits.symm.trans ready.idle
  | none =>
    simp only [settle_eq_ok_iff tidy waits]
    constructor
    · rintro ⟨_, ⟨faultless, once, rfl⟩, ended⟩
      exact ⟨⟨waits, faultless⟩, once, ended⟩
    · rintro ⟨ready, once, ended⟩
      exact ⟨_, ⟨ready.faultless, once, rfl⟩, ended⟩

end Scan

end TruncatedSha.Arguments
