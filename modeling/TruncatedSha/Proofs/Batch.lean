import Mathlib.Data.List.Forall2
import Mathlib.Data.List.Nodup
import TruncatedSha.Batch.Rounds
import TruncatedSha.Proofs.Context

/-!
# Batches under every schedule

A task looks at the shared context and at what is its own. So what has become of a task depends on
how often it had its turn and not on the turns of the others, and whatever the schedule, every slot
receives the digest that hashing the messages one after another gives.
-/
namespace TruncatedSha.Batch

variable {how : Strategy}

/-! ## Cells -/

/-- What belongs to one task: its own state, its slot, and how often this was written. -/
structure Cell where
  task : Task
  slot : Digest
  writes : Nat

/-- A turn of the task, as far as its own cell goes. -/
def Cell.turn (how : Strategy) (shared : Context) (c : Cell) : Cell :=
  match c.task with
  | .waiting message => { c with task := .cloned message shared }
  | .cloned message own =>
    match own.absorb how message with
    | .ok own => { c with task := .fed own }
    | .error error => { c with task := .stopped error }
  | .fed own => ⟨.stored, own.finish how, c.writes + 1⟩
  | .stored | .stopped _ => c

theorem Cell.turn_iterate {shared own : Context} {message : Bytes}
    (absorbed : shared.absorb how message = .ok own) (slot : Digest) (writes : Nat) {turns : Nat}
    (enough : 3 ≤ turns) :
    (turn how shared)^[turns] ⟨.waiting message, slot, writes⟩ =
      ⟨.stored, own.finish how, writes + 1⟩ := by
  obtain ⟨more, rfl⟩ := Nat.exists_eq_add_of_le' enough
  have three : (turn how shared)^[3] ⟨.waiting message, slot, writes⟩ =
      ⟨.stored, own.finish how, writes + 1⟩ := by
    simp only [Function.iterate_succ_apply, Function.iterate_zero_apply, turn, absorbed]
  -- A stored cell stays as it is, so all further turns are idle.
  rw [Function.iterate_add_apply, three]
  exact Function.iterate_fixed rfl more

namespace Floor

structure Holds (f : Floor) (i : Nat) (c : Cell) : Prop where
  task : f.tasks[i]? = some c.task
  slot : f.slots[i]? = some c.slot
  writes : f.written.count i = c.writes

/-- What a turn does not touch. -/
structure Keeps (f g : Floor) : Prop where
  shared : g.shared = f.shared
  tasks : g.tasks.length = f.tasks.length
  slots : g.slots.length = f.slots.length
  written : ∀ i ∈ g.written, i ∈ f.written ∨ i < f.tasks.length

theorem Keeps.refl (f : Floor) : Keeps f f := ⟨rfl, rfl, rfl, fun _ => .inl⟩

theorem Keeps.trans {f g h : Floor} (first : Keeps f g) (second : Keeps g h) : Keeps f h where
  shared := second.shared.trans first.shared
  tasks := second.tasks.trans first.tasks
  slots := second.slots.trans first.slots
  written := by
    intro i member
    rcases second.written i member with earlier | inside
    · exact first.written i earlier
    · exact .inr (first.tasks ▸ inside)

theorem step_keeps (how : Strategy) (f : Floor) (i : Nat) : Keeps f (f.step how i) := by
  -- One case a kind of task: waiting, cloned, fed, and those that do nothing any more.
  unfold step
  split
  next => exact ⟨rfl, List.length_set, rfl, fun _ => .inl⟩
  next =>
    split
    next => exact ⟨rfl, List.length_set, rfl, fun _ => .inl⟩
    next => exact ⟨rfl, List.length_set, rfl, fun _ => .inl⟩
  next found =>
    refine ⟨rfl, List.length_set, List.length_set, ?_⟩
    intro j member
    rcases List.mem_cons.mp member with rfl | earlier
    · exact .inr (List.getElem?_eq_some_iff.mp found).1
    · exact .inl earlier
  next => exact .refl f

theorem Holds.step {f : Floor} {i : Nat} {c : Cell} (holds : Holds f i c) (how : Strategy) :
    Holds (f.step how i) i (c.turn how f.shared) := by
  obtain ⟨task, slot, writes⟩ := c
  obtain ⟨found, there, counted⟩ := holds
  have inside := (List.getElem?_eq_some_iff.mp found).1
  unfold Floor.step
  rw [found]
  -- Task and slot are there, so what is put into their places is found again.
  cases task with
  | waiting message => exact ⟨List.getElem?_set_self inside, there, counted⟩
  | cloned message own =>
    dsimp only [Cell.turn]
    cases own.absorb how message with
    | ok next => exact ⟨List.getElem?_set_self inside, there, counted⟩
    | error error => exact ⟨List.getElem?_set_self inside, there, counted⟩
  | fed own =>
    have room := (List.getElem?_eq_some_iff.mp there).1
    refine ⟨List.getElem?_set_self inside, List.getElem?_set_self room, ?_⟩
    rw [List.count_cons_self, counted]
    rfl
  | stored | stopped => exact ⟨found, there, counted⟩

theorem Holds.step_of_ne {f : Floor} {i j : Nat} {c : Cell} (holds : Holds f j c)
    (how : Strategy) (others : i ≠ j) : Holds (f.step how i) j c := by
  obtain ⟨found, there, counted⟩ := holds
  have task (new : Task) : (f.tasks.set i new)[j]? = some c.task := by
    rw [List.getElem?_set_ne others, found]
  -- Whatever state task `i` is in, it writes to its own places only.
  unfold Floor.step
  split
  next => exact ⟨task _, there, counted⟩
  next =>
    split
    next => exact ⟨task _, there, counted⟩
    next => exact ⟨task _, there, counted⟩
  next own _ =>
    refine ⟨task _, ?_, ?_⟩
    · rw [List.getElem?_set_ne others, there]
    · rw [List.count_cons_of_ne others, counted]
  next => exact ⟨found, there, counted⟩

/-- What a task holds after a schedule depends on nothing but how often it was its turn. -/
theorem Holds.run {f : Floor} {i : Nat} {c : Cell} (holds : Holds f i c) (how : Strategy)
    (schedule : List Nat) :
    Holds (f.run how schedule) i ((Cell.turn how f.shared)^[schedule.count i] c) := by
  -- The cell moves on in the turns of its own task and is carried over the others. The shared
  -- context is the same all the time, so every turn of the task is one function of its cell.
  induction schedule generalizing f c with
  | nil => exact holds
  | cons first rest ih =>
    change Holds ((f.step how first).run how rest) i _
    rw [← (step_keeps how f first).shared]
    by_cases mine : first = i
    · subst mine
      rw [List.count_cons_self, Function.iterate_succ_apply]
      apply ih
      rw [(step_keeps how f first).shared]
      exact holds.step how
    · rw [List.count_cons_of_ne mine]
      exact ih (holds.step_of_ne how mine)

theorem run_keeps (how : Strategy) (schedule : List Nat) (f : Floor) :
    Keeps f (f.run how schedule) := by
  induction schedule generalizing f with
  | nil => exact .refl f
  | cons first rest ih => exact (step_keeps how f first).trans (ih (f.step how first))

/-! ## Complete schedules -/

section Complete

variable {shared : Context} {messages : List Bytes} {slots : List Digest} {schedule : List Nat}

/-- A complete schedule finishes every task, whoever has the other turns. -/
theorem run_finishes (complete : Complete schedule messages.length) {i : Nat} {message : Bytes}
    {slot : Digest} {own : Context} (asked : messages[i]? = some message)
    (there : slots[i]? = some slot) (absorbed : shared.absorb how message = .ok own) :
    Holds ((start shared messages slots).run how schedule) i ⟨.stored, own.finish how, 1⟩ := by
  have inside := (List.getElem?_eq_some_iff.mp asked).1
  have opened : Holds (start shared messages slots) i ⟨.waiting message, slot, 0⟩ := by
    refine ⟨?_, there, rfl⟩
    simp only [start, List.getElem?_map, asked, Option.map_some]
  rw [← Nat.zero_add 1, ← Cell.turn_iterate absorbed slot 0 (complete i inside)]
  exact opened.run how schedule

theorem exists_holds_run (complete : Complete schedule messages.length)
    (paired : messages.length = slots.length)
    (room : ∀ message ∈ messages, ∃ own, shared.absorb how message = .ok own)
    (i : Nat) (inside : i < messages.length) :
    ∃ own, shared.absorb how messages[i] = .ok own ∧
      Holds ((start shared messages slots).run how schedule) i ⟨.stored, own.finish how, 1⟩ := by
  obtain ⟨own, absorbed⟩ := room messages[i] (List.getElem_mem inside)
  have asked := List.getElem?_eq_getElem inside
  have there := List.getElem?_eq_getElem (paired ▸ inside : i < slots.length)
  exact ⟨own, absorbed, run_finishes complete asked there absorbed⟩

/-- Side by side the tasks come to what they come to one after another. -/
theorem run_slots_eq (complete : Complete schedule messages.length)
    (paired : messages.length = slots.length)
    (room : ∀ message ∈ messages, ∃ own, shared.absorb how message = .ok own) :
    ((start shared messages slots).run how schedule).slots.map .ok =
      messages.map (digestOf how shared) := by
  have kept := run_keeps how schedule (start shared messages slots)
  apply List.ext_getElem
  · rw [List.length_map, List.length_map, kept.slots, paired]
    rfl
  · intro i _ inside
    rw [List.length_map] at inside
    obtain ⟨own, absorbed, holds⟩ := exists_holds_run complete paired room i inside
    rw [List.getElem_map, List.getElem_map, digestOf, absorbed,
      (List.getElem?_eq_some_iff.mp holds.slot).2]
    rfl

theorem run_written_perm (complete : Complete schedule messages.length)
    (paired : messages.length = slots.length)
    (room : ∀ message ∈ messages, ∃ own, shared.absorb how message = .ok own) :
    ((start shared messages slots).run how schedule).written.Perm
      (List.range messages.length) := by
  have kept := run_keeps how schedule (start shared messages slots)
  -- Only tasks write, and each of them did it once.
  have inside (i : Nat)
      (member : i ∈ ((start shared messages slots).run how schedule).written) :
      i < messages.length := by
    rcases kept.written i member with before | bound
    · cases before
    · simpa only [start, List.length_map] using bound
  have once (i : Nat) (bound : i < messages.length) :
      ((start shared messages slots).run how schedule).written.count i = 1 := by
    obtain ⟨own, -, holds⟩ := exists_holds_run complete paired room i bound
    exact holds.writes
  have distinct := List.nodup_iff_count_eq_one.mpr fun i member => once i (inside i member)
  rw [List.perm_ext_iff_of_nodup distinct List.nodup_range]
  intro i
  rw [List.mem_range]
  refine ⟨inside i, fun bound => ?_⟩
  rw [← List.count_pos_iff, once i bound]
  exact Nat.one_pos

end Complete

end Floor

/-! ## Rounds -/

variable {beginning : Bytes} {shared : Context}

theorem digests_eq_ok {messages : List Bytes} {slots results : List Digest}
    (paired : messages.length = slots.length)
    (each : results.map .ok = messages.map (digestOf how shared)) :
    digests how shared messages slots = .ok results := by
  -- The old contents of the slots are paired with the messages and never looked at.
  have firsts : (messages.zip slots).map Prod.fst = messages :=
    List.map_fst_zip (Nat.le_of_eq paired)
  have all : (messages.zip slots).mapM (fun pair => digestOf how shared pair.1) = .ok results :=
    calc (messages.zip slots).mapM (fun pair => digestOf how shared pair.1)
      _ = (messages.map (digestOf how shared)).mapM id := by
        rw [← firsts, List.map_map, List.mapM_map, firsts]
        rfl
      _ = results.mapM (pure : Digest → Except LengthOverflow Digest) := by
        rw [← each, List.mapM_map]
        rfl
      _ = .ok results := by
        rw [List.mapM_pure, List.map_id']
        rfl
  rw [digests, if_pos paired, all]
  rfl

theorem exists_absorb_eq (made : Stream.Takes how.compress Context.init beginning shared)
    {message : Bytes} (fits : beginning.length + message.length ≤ 2 ^ 125 - 1) :
    (∃ own, shared.absorb how message = .ok own) ∧
      digestOf how shared message = hash how (beginning ++ message) := by
  -- The counter of the shared context is how many bytes of the room are gone already.
  have counted : shared.count.toNat = beginning.length := by
    rw [made.count, Context.toNat_count_init, Nat.zero_add]
  obtain ⟨own, absorbed, taken⟩ :=
    Stream.absorb_takes how.compress shared message (by rw [counted]; exact fits)
  have whole : (beginning ++ message).length ≤ 2 ^ 125 - 1 := by
    rw [List.length_append]
    exact fits
  refine ⟨⟨own, absorbed⟩, ?_⟩
  -- Taking in `beginning` and then the message is taking in both at once.
  rw [hash_eq_digest how _ whole, ← Context.finish_of_takes_init how (made.append taken), digestOf,
    Context.absorb, absorbed]
  rfl

theorem run_forM_turn (schedule : List Nat) (f : Floor) :
    (schedule.forM (turn how)).run f = .ok () (f.run how schedule) := by
  induction schedule generalizing f with
  | nil => rfl
  | cons first rest ih => exact ih (f.step how first)

/-- Turn by turn on the owner's slots, a round comes to what a run on its own floor comes to. -/
theorem Round.run_serve (how : Strategy) (shared : Context) (r : Round) :
    (serve how r.schedule).run (r.opening shared) =
      match interleaved how shared r.messages r.slots r.schedule with
      | .ok f => .ok () f
      | .error error => .error error (r.opening shared) := by
  have tasks : (r.opening shared).tasks.length = r.messages.length := List.length_map _
  have slots : (r.opening shared).slots.length = r.slots.length := rfl
  unfold serve interleaved
  rw [EStateM.run_bind, EStateM.run_get]
  dsimp only
  rw [tasks, slots]
  by_cases paired : r.messages.length = r.slots.length
  · rw [if_neg (not_not.mpr paired), if_pos paired]
    exact run_forM_turn r.schedule (r.opening shared)
  · rw [if_pos paired, if_neg paired]
    rfl

/-- What a round that has a slot for every message leaves behind: every slot written once, with the
digest of its message behind `beginning`, and the digests that one task after another gives. -/
structure Served (how : Strategy) (beginning : Bytes) (c : Context) (r : Round)
    (f : Floor) : Prop where
  shared : f.shared = c
  slots : f.slots.map .ok = r.messages.map fun message => hash how (beginning ++ message)
  written : f.written.Perm (List.range r.messages.length)
  serial : digests how c r.messages r.slots = .ok f.slots

theorem Round.served (r : Round)
    (made : Stream.Takes how.compress Context.init beginning shared)
    (paired : r.messages.length = r.slots.length) (fits : r.Fits beginning) :
    Served how beginning shared r ((r.opening shared).run how r.schedule) := by
  obtain ⟨complete, room⟩ := fits paired
  have behind (message : Bytes) (member : message ∈ r.messages) :=
    exists_absorb_eq made (room message member)
  have ready (message : Bytes) (member : message ∈ r.messages) := (behind message member).1
  have slots := Floor.run_slots_eq complete paired ready
  constructor
  · exact (Floor.run_keeps how r.schedule (r.opening shared)).shared
  · rw [opening, slots]
    exact List.map_congr_left fun message member => (behind message member).2
  · exact Floor.run_written_perm complete paired ready
  · exact digests_eq_ok paired slots

structure Round.Ends (how : Strategy) (beginning : Bytes) (c : Context) (r : Round)
    (outcome : Outcome) : Prop where
  paired : r.messages.length = r.slots.length →
    ∃ f, outcome = .ok () f ∧ Served how beginning c r f
  unpaired : r.messages.length ≠ r.slots.length →
    outcome = .error (.slotMismatch r.messages.length r.slots.length) (r.opening c)

theorem Round.visit_ends (made : Stream.Takes how.compress Context.init beginning shared)
    (r : Round) (fits : r.Fits beginning) :
    (r.visit how shared).1 = shared ∧ r.Ends how beginning shared (r.visit how shared).2 := by
  have ran := r.run_serve how shared
  unfold interleaved at ran
  by_cases paired : r.messages.length = r.slots.length
  · rw [if_pos paired] at ran
    have served := r.served made paired fits
    simp only [visit, ran]
    exact ⟨served.shared, fun _ => ⟨_, rfl, served⟩, fun differ => absurd paired differ⟩
  · rw [if_neg paired] at ran
    simp only [visit, ran]
    exact ⟨rfl, fun same => absurd same paired, fun _ => rfl⟩

/-- A machine whose states keep an invariant answers each input as a step from such a state does. -/
theorem replay_invariant {σ ι ο : Type} {f : σ → ι → σ × ο} {I : σ → Prop} {P : ι → ο → Prop}
    {inputs : List ι}
    (preserved : ∀ input ∈ inputs, ∀ s, I s → I (f s input).1 ∧ P input (f s input).2)
    {s : σ} (start : I s) :
    I (replay f s inputs).1 ∧ List.Forall₂ P inputs (replay f s inputs).2 := by
  induction inputs generalizing s with
  | nil => exact ⟨start, .nil⟩
  | cons input rest ih =>
    obtain ⟨kept, output⟩ := preserved input List.mem_cons_self s start
    have later := ih (fun input member => preserved input (List.mem_cons_of_mem _ member)) kept
    exact ⟨later.1, .cons output later.2⟩

/-- Round after round the slots receive the digests of `beginning` followed by the messages, under
every schedule, and the shared context stays as it was made. A round that has too few or too many
slots fails and touches none of them. -/
theorem rounds_hash_each (how : Strategy) (beginning : Bytes)
    (fits : beginning.length ≤ 2 ^ 125 - 1) :
    ∃ shared, Context.ofPrefix how beginning = .ok shared ∧
      ∀ planned : List Round, (∀ r ∈ planned, r.Fits beginning) →
        (rounds how shared planned).1 = shared ∧
          List.Forall₂ (Round.Ends how beginning shared) planned (rounds how shared planned).2 := by
  obtain ⟨shared, made, taken⟩ := Context.exists_ofPrefix_eq how fits
  refine ⟨shared, made, fun planned ready => ?_⟩
  refine replay_invariant (I := (· = shared)) ?_ rfl
  rintro r member c rfl
  exact r.visit_ends taken (ready r member)

/-- Two tasks take turns on slots with old contents; then a slot is missing; then a task has more
turns than it needs. -/
theorem rounds_hash_each_mixed :
    let planned : List Round :=
      [⟨[[], [1, 2, 3]], [.replicate 32 7, .replicate 32 8], [1, 0, 0, 1, 1, 0]⟩,
        ⟨[[4], [5]], freshSlots 1, [0, 1]⟩, ⟨[[6]], freshSlots 1, [0, 0, 9, 0, 0]⟩]
    (zeros 130).length ≤ 2 ^ 125 - 1 ∧ (∀ r ∈ planned, r.Fits (zeros 130)) ∧
      ∃ shared, Context.ofPrefix .unrolled (zeros 130) = .ok shared ∧
        (rounds .unrolled shared planned).1 = shared ∧
          List.Forall₂ (Round.Ends .unrolled (zeros 130) shared) planned
            (rounds .unrolled shared planned).2 := by
  intro planned
  have ready : ∀ r ∈ planned, r.Fits (zeros 130) := by
    simp only [planned, List.forall_mem_cons, Round.Fits, Floor.Complete, length_zeros]
    decide
  obtain ⟨shared, made, served⟩ := rounds_hash_each .unrolled (zeros 130) (by simp)
  exact ⟨by simp, ready, shared, made, served planned ready⟩

end TruncatedSha.Batch
