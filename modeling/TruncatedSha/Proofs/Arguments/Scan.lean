import TruncatedSha.Proofs.Arguments.Options

/-!
# The scan finds what arguments give

From argument to argument the scan carries along what was given, so that it accepts exactly the
arguments that give something without a fault and no option twice.
-/
namespace TruncatedSha.Arguments

variable {κ : Type} {g : Grammar κ}

/-- Of what was given only flags may hold a text that would be a faulty value. -/
theorem Gives.faultless {waiting : Option κ} {arguments : List String} {given : List (κ × String)}
    (gives : Gives g waiting arguments given) :
    ∀ pair ∈ given, IsFlag g pair.1 ∨ g.fault pair.1 pair.2 = none := by
  induction gives with
  | nil | stop => simp
  | operand _ _ faultless _ ih => exact List.forall_mem_cons.mpr ⟨.inr faultless, ih⟩
  | option spelled _ ih => exact List.forall_mem_append.mpr ⟨spelled.faultless, ih⟩
  | stopBefore _ faultless =>
    exact List.forall_mem_map.mpr fun value member => .inr (faultless value member)

variable [DecidableEq κ]

namespace Scan

variable {s s' : Scan κ} {settled : List (κ × String)} {key : κ}

/-! ## Operands -/

/-- One more value is open, and if it has a fault, that is still to be found. -/
structure Opens (g : Grammar κ) (s : Scan κ) (key : κ) (value : String) (s' : Scan κ) : Prop where
  tidy : s'.Tidy g
  idle : s'.waiting = none
  given : s'.given = s.given ++ [(key, value)]
  faultless : s'.Faultless g ↔ s.Faultless g ∧ g.fault key value = none

theorem Opens.ready_iff {value : String} (opens : Opens g s key value s') (idle : s.waiting = none) :
    s'.Ready g ↔ s.Ready g ∧ g.fault key value = none := by
  constructor
  · intro ready
    obtain ⟨faultless, fault⟩ := opens.faultless.mp ready.faultless
    exact ⟨⟨idle, faultless⟩, fault⟩
  · rintro ⟨ready, fault⟩
    exact ⟨opens.idle, opens.faultless.mpr ⟨ready.faultless, fault⟩⟩

theorem opens_of_values {values : List String} {value : String} (once : Once g settled)
    (present : values ≠ []) (single : g.positional = some key ∨ values.length ≤ 1)
    (all : settled ++ values.map (key, ·) = s.given ++ [(key, value)])
    (faultless : (∀ value ∈ values, g.fault key value = none) ↔
      s.Faultless g ∧ g.fault key value = none) :
    Opens g s key value ⟨settled, some (key, values)⟩ where
  tidy :=
    { once := once
      waits := fun _ opened => by
        cases opened
        exact absurd rfl present
      single := fun _ _ opened => by
        cases opened
        exact single }
  idle := by
    cases values with
    | nil => exact absurd rfl present
    | cons => rfl
  given := all
  faultless := by
    rw [← faultless, Faultless, unsettled, List.forall_mem_map]

theorem takeOperand_of_waiting (tidy : s.Tidy g) (waits : s.waiting = some key) (value : String) :
    ∃ s', s.takeOperand g value = .ok s' ∧ Opens g s key value s' := by
  obtain ⟨settled, pending⟩ := s
  match pending, waits with
  | some (_, []), rfl =>
    refine ⟨⟨settled, some (key, [value])⟩, rfl, opens_of_values tidy.once (List.cons_ne_nil _ _)
      (.inr (Nat.le_refl 1)) ?_ ?_⟩
    · simp [given, unsettled]
    · simp [Faultless, unsettled]

theorem takeOperand_of_idle (idle : s.waiting = none) (value : String) :
    s.takeOperand g value = s.takePositional g value := by
  obtain ⟨settled, pending⟩ := s
  match pending, idle with
  | none, _ => rfl
  | some (_, _ :: _), _ => rfl

theorem takePositional_of_waiting (tidy : s.Tidy g) (waits : s.waiting = some key) (value : String) :
    s.takePositional g value ≠ .ok s' := by
  have failed := settle_of_waiting (g := g) waits
  obtain ⟨settled, pending⟩ := s
  match pending, waits with
  | some (_, []), rfl =>
    have option := tidy.waits key rfl
    intro taken
    rw [takePositional] at taken
    split at taken
    next => cases taken
    next own _ _ known opened =>
      cases opened
      -- The key that waits is not the positional one, so it would have to be settled first.
      have apart : key ≠ own := fun same => option (same ▸ known)
      rw [if_neg apart, failed] at taken
      cases taken
    next opened => cases opened

/-- A positional value joins the group that is open, or it settles what is open and begins one. -/
theorem takePositional_opens (tidy : s.Tidy g) {value : String}
    (taken : s.takePositional g value = .ok s') :
    ∃ key, g.positional = some key ∧ Opens g s key value s' := by
  obtain ⟨settled, pending⟩ := s
  rw [takePositional] at taken
  split at taken
  next => cases taken
  next key opened values known pending =>
    cases pending
    refine ⟨key, known, ?_⟩
    split at taken
    next own =>
      -- The open group is the positional one, and the value joins it.
      subst own
      cases taken
      refine opens_of_values tidy.once (by simp) (.inl known) ?_ ?_
      · simp [given, unsettled]
      · simp [Faultless, unsettled, or_imp, forall_and]
    next apart =>
      -- Another group is open, and has been settled without a fault.
      obtain ⟨ready, once, opens⟩ := (settle_bind_eq_ok_iff tidy).mp taken
      cases opens
      refine opens_of_values once (List.cons_ne_nil _ _) (.inl known) rfl ?_
      simp [ready.faultless]
  next key known pending =>
    cases pending
    cases taken
    refine ⟨key, known, opens_of_values tidy.once (List.cons_ne_nil _ _) (.inl known) ?_ ?_⟩
    · simp [given, unsettled]
    · simp [Faultless, unsettled]

theorem exists_takePositional_opens (tidy : s.Tidy g) (ready : s.Ready g) (once : Once g s.given)
    (known : g.positional = some key) (value : String) :
    ∃ s', s.takePositional g value = .ok s' ∧ Opens g s key value s' := by
  have calm := (settle_eq_ok_iff tidy ready.idle).mpr ⟨ready.faultless, once, rfl⟩
  -- It is enough that the value is taken: what it opens is known then.
  have accepted : ∃ s', s.takePositional g value = .ok s' := by
    rw [takePositional, known]
    cases s.pending with
    | none => exact ⟨_, rfl⟩
    | some opened =>
      by_cases own : opened.1 = key
      · exact ⟨_, if_pos own⟩
      · simp only [if_neg own, calm]
        exact ⟨_, rfl⟩
  obtain ⟨s', taken⟩ := accepted
  obtain ⟨own, again, opens⟩ := takePositional_opens tidy taken
  obtain rfl : key = own := Option.some.inj (known.symm.trans again)
  exact ⟨s', taken, opens⟩

/-- An operand is a value for the option that waits, or else for the positional key. -/
theorem takeOperand_opens (tidy : s.Tidy g) {value : String}
    (taken : s.takeOperand g value = .ok s') :
    ∃ key, s.waiting.or g.positional = some key ∧ Opens g s key value s' := by
  cases waits : s.waiting with
  | some key =>
    obtain ⟨_, again, opens⟩ := takeOperand_of_waiting tidy waits value
    obtain rfl := Except.ok.inj (again.symm.trans taken)
    exact ⟨key, rfl, opens⟩
  | none =>
    rw [takeOperand_of_idle waits] at taken
    exact takePositional_opens tidy taken

theorem exists_takeOperand_opens (tidy : s.Tidy g) (faultless : s.Faultless g)
    (once : Once g s.given) (known : s.waiting.or g.positional = some key) (value : String) :
    ∃ s', s.takeOperand g value = .ok s' ∧ Opens g s key value s' := by
  cases waits : s.waiting with
  | some option =>
    rw [waits, Option.some_or] at known
    obtain rfl := Option.some.inj known
    exact takeOperand_of_waiting tidy waits value
  | none =>
    rw [waits, Option.none_or] at known
    rw [takeOperand_of_idle waits]
    exact exists_takePositional_opens tidy ⟨waits, faultless⟩ once known value

/-! ## Single arguments -/

theorem read_stop (s : Scan κ) (rest : List String) :
    s.read g ("--" :: rest) = rest.foldlM (takePositional g) s := rfl

theorem read_operand {argument : String} (operand : IsOperand argument) (s : Scan κ)
    (rest : List String) :
    s.read g (argument :: rest) = s.takeOperand g argument >>= (read g · rest) := by
  rw [read]
  split
  next chars => simp [IsOperand, chars] at operand
  next chars => simp [IsOperand, chars] at operand
  next chars => simp [IsOperand, chars] at operand
  next => cases s.takeOperand g argument <;> rfl

theorem read_option {argument : String} (option : ¬ IsOperand argument) (more : argument ≠ "--")
    (s : Scan κ) (rest : List String) :
    s.read g (argument :: rest) = s.takeOption g argument.toList >>= (read g · rest) := by
  rw [read]
  split
  next chars => exact absurd (String.toList_inj.mp chars) more
  next body _ chars =>
    rw [chars, takeOption]
    cases s.takeLong g body <;> rfl
  next c cluster _ short chars =>
    rw [chars, takeOption]
    · cases s.takeCluster g (c :: cluster) <;> rfl
    · intro body same
      exact short (List.cons.inj same).1
  next _ _ letters =>
    -- All that begins with a dash has been read already, but for a lone one.
    exfalso
    apply option
    cases chars : argument.toList with
    | nil => simp [IsOperand, chars]
    | cons c cluster =>
      by_cases dash : c = '-'
      · subst dash
        cases cluster with
        | nil => exact .inl chars
        | cons d cluster => exact (letters d cluster chars).elim
      · simp [IsOperand, chars, dash]

/-! ## All arguments -/

/-- Settles what is open at the end. -/
def finish (g : Grammar κ) (s : Scan κ) : Except UsageError (List (κ × String)) := do
  return (← s.settle g).settled

theorem finish_eq_ok_iff (tidy : s.Tidy g) (all : List (κ × String)) :
    s.finish g = .ok all ↔ s.Ready g ∧ Once g s.given ∧ all = s.given := by
  rw [finish, settle_bind_eq_ok_iff tidy]
  simp only [pure, Except.pure, Except.ok.injEq, eq_comm]

/-- Behind `--` all values are positional. -/
theorem finish_positionals_iff (known : g.positional = some key) (tidy : s.Tidy g)
    (values : List String) (all : List (κ × String)) :
    (values.foldlM (takePositional g) s >>= finish g) = .ok all ↔
      s.Ready g ∧ (∀ value ∈ values, g.fault key value = none) ∧
        Once g (s.given ++ values.map (key, ·)) ∧ all = s.given ++ values.map (key, ·) := by
  induction values generalizing s with
  | nil =>
    have nothing : s.given ++ [].map (key, ·) = s.given := List.append_nil _
    rw [nothing, List.foldlM_nil, pure_bind, finish_eq_ok_iff tidy]
    simp
  | cons value rest ih =>
    have split : s.given ++ (value :: rest).map (key, ·) =
        s.given ++ [(key, value)] ++ rest.map (key, ·) := by simp
    rw [List.foldlM_cons, bind_assoc, bind_eq_ok_iff, split, List.forall_mem_cons]
    constructor
    · rintro ⟨s', taken, finished⟩
      -- Behind `--` no value goes to an option, so that one that still waits is a fault.
      cases waits : s.waiting with
      | some option => exact absurd taken (takePositional_of_waiting tidy waits value)
      | none =>
        obtain ⟨own, again, opens⟩ := takePositional_opens tidy taken
        obtain rfl : key = own := Option.some.inj (known.symm.trans again)
        obtain ⟨ready, faultless, once, rfl⟩ := (ih opens.tidy).mp finished
        obtain ⟨ready, fault⟩ := (opens.ready_iff waits).mp ready
        rw [opens.given] at once ⊢
        exact ⟨ready, ⟨fault, faultless⟩, once, rfl⟩
    · rintro ⟨ready, ⟨fault, faultless⟩, once, rfl⟩
      obtain ⟨s', taken, opens⟩ := exists_takePositional_opens tidy ready once.left.left known value
      have readyNext := (opens.ready_iff ready.idle).mpr ⟨ready, fault⟩
      refine ⟨s', taken, (ih opens.tidy).mpr ⟨readyNext, faultless, ?_⟩⟩
      rw [opens.given]
      exact ⟨once, rfl⟩

theorem gives_of_finish_positionals (tidy : s.Tidy g) {values : List String}
    {all : List (κ × String)} (done : (values.foldlM (takePositional g) s >>= finish g) = .ok all) :
    s.Ready g ∧ ∃ more, Gives g none ("--" :: values) more ∧ Once g (s.given ++ more) ∧
      all = s.given ++ more := by
  cases known : g.positional with
  | some key =>
    obtain ⟨ready, faultless, once, rfl⟩ := (finish_positionals_iff known tidy values all).mp done
    exact ⟨ready, _, .stopBefore known faultless, once, rfl⟩
  | none =>
    cases values with
    | nil =>
      obtain ⟨ready, once, rfl⟩ := (finish_eq_ok_iff tidy all).mp done
      exact ⟨ready, [], .stop, by rwa [List.append_nil], (List.append_nil _).symm⟩
    | cons value rest =>
      -- Without a positional key there is nowhere to put a value.
      rw [List.foldlM_cons, takePositional, known] at done
      cases done

/-- What a scan accepts gives what comes out. Open values are carried along as given, and their
faults as faults that are still to be found. -/
theorem gives_of_read (apart : g.Apart) {arguments : List String} {all : List (κ × String)}
    (tidy : s.Tidy g) (done : (s.read g arguments >>= finish g) = .ok all) :
    s.Faultless g ∧ ∃ more, Gives g s.waiting arguments more ∧ Once g (s.given ++ more) ∧
      all = s.given ++ more := by
  induction arguments generalizing s with
  | nil =>
    obtain ⟨ready, once, rfl⟩ := (finish_eq_ok_iff tidy all).mp done
    rw [ready.idle]
    exact ⟨ready.faultless, [], .nil, by rwa [List.append_nil], (List.append_nil _).symm⟩
  | cons argument rest ih =>
    by_cases stop : argument = "--"
    · subst stop
      rw [read_stop] at done
      obtain ⟨ready, more, gives, once, rfl⟩ := gives_of_finish_positionals tidy done
      rw [ready.idle]
      exact ⟨ready.faultless, more, gives, once, rfl⟩
    · by_cases operand : IsOperand argument
      · rw [read_operand operand, bind_assoc] at done
        obtain ⟨s', taken, done⟩ := bind_eq_ok_iff.mp done
        obtain ⟨key, known, opens⟩ := takeOperand_opens tidy taken
        -- The value is open, so the rest of the run has found it without a fault.
        obtain ⟨found, more, gives, once, rfl⟩ := ih opens.tidy done
        obtain ⟨faultless, fault⟩ := opens.faultless.mp found
        rw [opens.idle] at gives
        rw [opens.given, List.append_assoc] at once ⊢
        exact ⟨faultless, _, .operand known operand fault gives, once, rfl⟩
      · rw [read_option operand stop, bind_assoc] at done
        obtain ⟨s', taken, done⟩ := bind_eq_ok_iff.mp done
        -- The option has settled what was open before; the rest starts behind it.
        obtain ⟨ready, piece, waiting, gives, once, rfl⟩ :=
          takeOption_gives apart tidy operand stop taken
        obtain ⟨_, more, others, onceAll, rfl⟩ :=
          ih (tidy_behind once (gives.waits_option apart)) done
        rw [waiting_behind] at others
        rw [given_behind, List.append_assoc] at onceAll ⊢
        rw [ready.idle]
        exact ⟨ready.faultless, _, .option gives others, onceAll, rfl⟩

/-- Arguments that give something without a fault are accepted behind whatever is open. -/
theorem read_of_gives (apart : g.Apart) {waiting : Option κ} {arguments : List String}
    {more : List (κ × String)} (gives : Gives g waiting arguments more) (tidy : s.Tidy g)
    (waits : s.waiting = waiting) (faultless : s.Faultless g) (once : Once g (s.given ++ more)) :
    (s.read g arguments >>= finish g) = .ok (s.given ++ more) := by
  induction gives generalizing s with
  | nil | stop =>
    rw [List.append_nil] at once ⊢
    exact (finish_eq_ok_iff tidy _).mpr ⟨⟨waits, faultless⟩, once, rfl⟩
  | @operand _ key value rest given known operand fault _ ih =>
    subst waits
    rw [List.append_cons] at once ⊢
    -- The value stays open, and that it has no fault is carried along.
    obtain ⟨s', taken, opens⟩ := exists_takeOperand_opens tidy faultless once.left.left known value
    rw [read_operand operand, taken, ← opens.given]
    rw [← opens.given] at once
    exact ih opens.tidy opens.idle (opens.faultless.mpr ⟨faultless, fault⟩) once
  | @option argument rest piece more waiting spelled _ ih =>
    rw [← List.append_assoc] at once ⊢
    obtain ⟨option, stop⟩ := spelled.not_isOperand
    have taken := takeOption_of_gives apart spelled tidy ⟨waits, faultless⟩ once.left
    have tidyBehind := tidy_behind once.left (spelled.waits_option apart)
    rw [read_option option stop, taken, ← given_behind s piece waiting]
    rw [← given_behind s piece waiting] at once
    exact ih tidyBehind (waiting_behind s piece waiting) (faultless_behind s piece waiting) once
  | stopBefore known fits =>
    exact (finish_positionals_iff known tidy _ _).mpr ⟨⟨waits, faultless⟩, fits, once, rfl⟩

end Scan

/-- A scan accepts exactly the arguments that give something, with no fault and no option twice. -/
theorem scan_eq_ok_iff (apart : g.Apart) (arguments : List String) (given : List (κ × String)) :
    scan g arguments = .ok given ↔ Gives g none arguments given ∧ Once g given := by
  have tidy : Scan.start.Tidy g := Scan.tidy_settled fun _ _ => Nat.zero_le 1
  constructor
  · intro scanned
    obtain ⟨_, more, gives, once, rfl⟩ := Scan.gives_of_read apart tidy scanned
    exact ⟨gives, once⟩
  · rintro ⟨gives, once⟩
    exact Scan.read_of_gives apart gives tidy rfl (Scan.ready_settled g []).faultless once

end TruncatedSha.Arguments
