import Mathlib.Data.List.TakeWhile
import TruncatedSha.Checksum.Command
import TruncatedSha.Proofs.Reader
import TruncatedSha.Proofs.Text.Lines

/-!
# The verdict on a list

Checking goes through a list once, counts what it comes across and hands the inputs on from line to
line. What it says is, all the same, a matter of each line and its place, and the verdict follows from
how often each finding comes up.
-/
namespace TruncatedSha

theorem Text.isSpace_iff (c : Char) : Text.isSpace c ↔ c.toNat ∈ Text.whiteSpace := by
  simp only [Text.isSpace, Text.whiteSpace, Bool.or_eq_true, Bool.and_eq_true, decide_eq_true_eq,
    beq_iff_eq, List.mem_cons, List.not_mem_nil, or_false]
  omega

theorem Text.trim_eq_nil_iff (text : List Char) : Text.trim text = [] ↔ text.all Text.isSpace := by
  rw [Text.trim, List.reverse_eq_nil_iff, List.dropWhile_eq_nil_iff, List.all_eq_true]
  constructor
  · intro rest c member
    -- What the first cut leaves begins with a character that is no space, or is nothing.
    cases left : text.dropWhile Text.isSpace with
    | nil => exact List.dropWhile_eq_nil_iff.mp left c member
    | cons first others =>
      have space := rest first (by rw [left]; simp)
      have cut := List.head_dropWhile_not Text.isSpace (l := text) (by rw [left]; simp)
      simp [left, space] at cut
  · intro space c member
    rw [List.dropWhile_eq_nil_iff.mpr space] at member
    cases member

namespace Checksum

theorem isBlank_iff (line : String) : Text.isBlank line ↔ Blank line := by
  rw [Text.isBlank, List.isEmpty_iff, Text.trim_eq_nil_iff, List.all_eq_true]
  simp only [Text.isSpace_iff]
  rfl

/-! ## Inputs -/

theorem hashInput_snd (world : World) (name : String) :
    (hashInput world name).2 = world.after name := by
  unfold hashInput World.after standardName
  split
  next => rw [Reader.rest_eq]
  next => split <;> rfl

/-- An input is too long, or cannot be read and this is complained of, or has a digest. -/
theorem hashInput_fst_cases (world : World) (name : String) :
    (∃ error, world.reading name = .error error ∧
      (hashInput world name).1 = .error (.overflow error)) ∨
    (∃ error, world.reading name = .ok (.error error.message) ∧
      (hashInput world name).1 = .error error ∧ ∀ long, error ≠ .overflow long) ∨
    ∃ digest, world.reading name = .ok (.ok digest) ∧ (hashInput world name).1 = .ok digest := by
  unfold hashInput World.reading World.source standardName
  -- What is too long is refused before the reader gets to its end, whatever that is.
  by_cases standard : name = "-"
  · simp only [if_pos standard, Reader.hash_eq]
    cases hash .unrolled (Reader.contents world.standardInput) with
    | error error => exact .inl ⟨error, rfl, rfl⟩
    | ok digest =>
      cases Reader.failure world.standardInput with
      | none => exact .inr (.inr ⟨digest, rfl, rfl⟩)
      | some reason => exact .inr (.inl ⟨.cannotReadStandard reason, rfl, rfl, by simp⟩)
  · simp only [if_neg standard]
    cases world.openFile name with
    | error error => exact .inr (.inl ⟨.cannotOpen name error, rfl, rfl, by simp⟩)
    | ok reads =>
      simp only [Reader.hash_eq]
      cases hash .unrolled (Reader.contents reads) with
      | error error => exact .inl ⟨error, rfl, rfl⟩
      | ok digest =>
        cases Reader.failure reads with
        | none => exact .inr (.inr ⟨digest, rfl, rfl⟩)
        | some reason => exact .inr (.inl ⟨.cannotRead name reason, rfl, rfl, by simp⟩)

@[simp] def Finding.isEntry : Finding → Bool
  | .unreadable .. | .mismatched _ | .matched _ => true
  | .blank | .malformed _ | .overflow _ => false

/-- The tally when some more findings are noted, of which the first is that of line `number`. -/
def Tally.noting (t : Tally) (quiet : Bool) (number : Nat) (found : List Finding) : Tally where
  world := t.world
  checked := t.checked + found.countP Finding.isEntry
  failed := t.failed + found.countP Finding.fails
  malformed := t.malformed + found.countP Finding.isMalformed
  output := t.output ++ String.join (found.filterMap (Finding.status quiet))
  events := t.events ++ (found.zipIdx number).filterMap fun found => found.1.event found.2

namespace Checking

variable (quiet : Bool)

/-- What a single finding is noted for. -/
theorem noting_singleton (t : Tally) (number : Nat) (f : Finding) :
    t.noting quiet number [f] = ⟨t.world, t.checked + (if f.isEntry then 1 else 0),
      t.failed + (if f.fails then 1 else 0), t.malformed + (if f.isMalformed then 1 else 0),
      t.output ++ (f.status quiet).getD "", t.events ++ (f.event number).toList⟩ := by
  cases f <;> cases quiet <;> simp [Tally.noting, List.filterMap_cons]

theorem run_confirm (e : Entry) (t : Tally) :
    (confirm e).run t =
      match t.world.reading e.name with
      | .error error => .error error { t with world := t.world.after e.name }
      | .ok (.error complaint) => .ok false { t with
          world := t.world.after e.name
          events := t.events ++ [⟨.warn, "sha512_256sum", complaint, []⟩] }
      | .ok (.ok actual) => .ok (actual == e.digest) { t with world := t.world.after e.name } := by
  have paired {result : Except InputError Digest} (first : (hashInput t.world e.name).1 = result) :
      hashInput t.world e.name = (result, t.world.after e.name) :=
    Prod.ext first (hashInput_snd t.world e.name)
  -- Whatever comes of the input, it has been read.
  rw [confirm, EStateM.run_bind, digest, EStateM.run_bind, EStateM.run_get]
  rcases hashInput_fst_cases t.world e.name with ⟨error, found, first⟩ | ⟨error, found, first, named⟩ |
    ⟨actual, found, first⟩
  · simp only [found, paired first]
    rfl
  · simp only [found, paired first]
    -- Every other error is complained of, and the run goes on.
    cases error with
    | overflow long => exact absurd rfl (named long)
    | _ => rfl
  · simp only [found, paired first]
    rfl

theorem run_checkEntry (number : Nat) (e : Entry) (t : Tally) :
    (checkEntry quiet e).run t =
      match (Finding.ofEntry t.world e).overflow? with
      | some error => .error error { t with
          world := t.world.after e.name
          checked := t.checked + 1 }
      | none => .ok () { t.noting quiet number [Finding.ofEntry t.world e] with
          world := t.world.after e.name } := by
  -- The entry is counted before its input is read, also if that ends the run.
  rw [checkEntry, EStateM.run_bind, EStateM.run_modify]
  dsimp only
  rw [EStateM.run_bind, run_confirm, Finding.ofEntry]
  cases t.world.reading e.name with
  | error error => rfl
  | ok result =>
    cases result with
    | error complaint => simp [Finding.overflow?, noting_singleton, say]
    | ok actual =>
      dsimp only
      by_cases same : actual = e.digest
      · cases quiet <;> simp [same, Finding.overflow?, noting_singleton, say]
      · simp [same, Finding.overflow?, noting_singleton, say]

theorem run_checkLine (number : Nat) (line : String) (t : Tally) :
    (checkLine quiet number line).run t =
      match (Finding.ofLine t.world line).overflow? with
      | some error => .error error { t with
          world := t.world.pass line
          checked := t.checked + 1 }
      | none => .ok () { t.noting quiet number [Finding.ofLine t.world line] with
          world := t.world.pass line } := by
  simp only [checkLine, Finding.ofLine, World.pass, isBlank_iff]
  by_cases blank : Blank line
  · simp only [if_pos blank]
    simp [Finding.overflow?, noting_singleton]
  · simp only [if_neg blank]
    cases Entry.parse line with
    | error error => simp [Finding.overflow?, noting_singleton, warn]
    | ok e => exact run_checkEntry quiet number e t

@[simp] theorem noting_nil (t : Tally) (number : Nat) : t.noting quiet number [] = t := by
  simp [Tally.noting]

/-- Findings are noted one after the other. -/
theorem noting_cons (t : Tally) (number : Nat) (f : Finding) (rest : List Finding) (world : World) :
    { t.noting quiet number [f] with world := world }.noting quiet (number + 1) rest =
      { t.noting quiet number (f :: rest) with world := world } := by
  -- Counts and texts of a list are those of its parts, one behind the other.
  have split : f :: rest = [f] ++ rest := rfl
  rw [split]
  simp only [Tally.noting, List.countP_append, List.filterMap_append, List.zipIdx_append,
    List.length_singleton, String.join_append, Nat.add_assoc, String.append_assoc,
    List.append_assoc]

/-- The lines come to their findings, up to the first that ends the run. -/
theorem run_checkLines (number : Nat) (lines : List String) (t : Tally) :
    let found := findings t.world lines
    let told := t.noting quiet number (found.takeWhile fun f => f.overflow?.isNone)
    match found.findSome? Finding.overflow? with
    | some error => ∃ world checked, (checkLines quiet number lines).run t =
        .error error { told with world := world, checked := checked }
    | none => (checkLines quiet number lines).run t =
        .ok () { told with world := t.world.behind lines } := by
  induction lines generalizing number t with
  | nil => simp [findings, checkLines, World.behind]
  | cons line rest ih =>
    simp only [checkLines, EStateM.run_bind, run_checkLine, findings, List.findSome?_cons,
      List.takeWhile_cons]
    cases exceeds : (Finding.ofLine t.world line).overflow? with
    | some error => simp
    | none =>
      -- The others are checked in the world behind this line, from what has been counted so far.
      have later := ih (number + 1) { t.noting quiet number [Finding.ofLine t.world line] with
        world := t.world.pass line }
      simp only [noting_cons] at later
      exact later

end Checking

/-! ## Single findings -/

namespace Finding

end Finding

theorem Finding.countP_isEntry_eq_zero_iff {found : List Finding}
    (fine : ∀ f ∈ found, f.overflow? = none) (formed : found.countP isMalformed = 0) :
    found.countP isEntry = 0 ↔ found.all isBlank := by
  rw [List.countP_eq_zero] at formed ⊢
  rw [List.all_eq_true]
  -- A line that is neither malformed nor too much is an entry or blank.
  have either (f : Finding) (member : f ∈ found) : ¬ f.isEntry ↔ f.isBlank := by
    have goesOn := fine f member
    have sound := formed f member
    cases f <;> simp_all
  exact forall₂_congr either

/-- The report on lines of which none ends the run. -/
theorem check_of_fine {world : World} {contents : String}
    (fine : ∀ f ∈ findings world (Text.lines contents), f.overflow? = none) :
    check world contents = ⟨findings world (Text.lines contents), none⟩ := by
  have all : (findings world (Text.lines contents)).takeWhile (fun f => f.overflow?.isNone) =
      findings world (Text.lines contents) := by
    rw [List.takeWhile_eq_self_iff]
    intro f member
    rw [fine f member]
    rfl
  rw [check, all, List.findSome?_eq_none_iff.mpr fine]

section

variable (world : World) (quiet : Bool)

/-- The counts of the loop give the verdict of the report. -/
theorem verdict_noting {found : List Finding} (fine : ∀ f ∈ found, f.overflow? = none)
    (last : World) :
    { (Tally.start world).noting quiet 1 found with world := last }.verdict =
      (Report.mk found none).verdict := by
  have failed : ((Tally.start world).noting quiet 1 found).failed =
    (Report.mk found none).failures := Nat.zero_add _
  have malformed : ((Tally.start world).noting quiet 1 found).malformed =
    (Report.mk found none).malformedLines := Nat.zero_add _
  have checked : ((Tally.start world).noting quiet 1 found).checked = found.countP Finding.isEntry :=
    Nat.zero_add _
  rw [Tally.verdict, Report.verdict, failed, malformed, checked]
  split
  next => rfl
  next =>
    split
    next => rfl
    next formed =>
      -- The loop counts entries, where the report looks for a line that is not blank.
      have blank := Finding.countP_isEntry_eq_zero_iff fine (Nat.eq_zero_of_not_pos formed)
      simp only [blank]

/-- What is said of a list is its report. -/
theorem verify_eq (contents : String) :
    let report := check world contents
    verify world quiet contents = ⟨report.output quiet, report.events,
      match report.stopped with
      | some error => .error error
      | none => .ok report.verdict⟩ := by
  have said (found : List Finding) :
      ((Tally.start world).noting quiet 1 found).output =
        String.join (found.filterMap (Finding.status quiet)) := String.empty_append
  have ran := Checking.run_checkLines quiet 1 (Text.lines contents) (.start world)
  simp only [Tally.start_world] at ran
  cases stopped : (findings world (Text.lines contents)).findSome? Finding.overflow? with
  | some error =>
    -- The counts are lost, but what has been said and logged by then is not.
    rw [stopped] at ran
    obtain ⟨last, checked, ran⟩ := ran
    simp only [verify, check, stopped, ran, said]
    rfl
  | none =>
    have fine := List.findSome?_eq_none_iff.mp stopped
    have told := congrArg Report.findings (check_of_fine fine)
    dsimp only [check] at told
    rw [stopped, told] at ran
    simp only [verify, check_of_fine fine, ran]
    rw [verdict_noting world quiet fine, said]
    rfl

end

theorem World.after_of_empty {w : World} (empty : w.standardInput = []) (name : String) :
    w.after name = w := by
  obtain ⟨files, standardInput⟩ := w
  cases empty
  exact ite_self _

end Checksum

end TruncatedSha
