import Mathlib.Data.List.TakeWhile
import TruncatedSha.Proofs.Arguments.Settling

/-!
# Options, one by one

An option settles what is open before it does anything else. It is accepted exactly if it is spelled
as the grammar has it, and then what it gives stands behind all that was given before.
-/
namespace TruncatedSha.Arguments

variable {κ : Type} {g : Grammar κ}

/-! ## How options are spelled -/

theorem ClusterGives.faultless {letters : List Char} {given : List (κ × String)}
    {waiting : Option κ} (gives : ClusterGives g letters given waiting) :
    ∀ pair ∈ given, IsFlag g pair.1 ∨ g.fault pair.1 pair.2 = none := by
  induction gives with
  | nil | waiting => simp
  | flag known _ ih => exact List.forall_mem_cons.mpr ⟨.inl (.inr ⟨_, known⟩), ih⟩
  | attached _ _ faultless | assigned _ faultless =>
    exact List.forall_mem_singleton.mpr (.inr faultless)

theorem ClusterGives.waits_option (apart : g.Apart) {letters : List Char}
    {piece : List (κ × String)} {waiting : Option κ} (gives : ClusterGives g letters piece waiting) :
    ∀ key, waiting = some key → g.positional ≠ some key := by
  induction gives with
  | nil | attached | assigned => simp
  | flag _ _ ih => exact ih
  | waiting known =>
    rintro _ ⟨⟩
    exact apart.short known rfl

namespace OptionGives

variable {chars : List Char} {piece : List (κ × String)} {waiting : Option κ}

theorem waits_option (apart : g.Apart) (gives : OptionGives g chars piece waiting) :
    ∀ key, waiting = some key → g.positional ≠ some key := by
  cases gives with
  | flag | assigned => simp
  | waiting _ _ known =>
    rintro _ ⟨⟩
    exact apart.long known rfl
  | cluster _ letters => exact letters.waits_option apart

theorem faultless (gives : OptionGives g chars piece waiting) :
    ∀ pair ∈ piece, IsFlag g pair.1 ∨ g.fault pair.1 pair.2 = none := by
  cases gives with
  | flag _ _ known => exact List.forall_mem_singleton.mpr (.inl (.inl ⟨_, known⟩))
  | waiting => simp
  | assigned _ _ faultless => exact List.forall_mem_singleton.mpr (.inr faultless)
  | cluster _ letters => exact letters.faultless

theorem dashed (gives : OptionGives g chars piece waiting) :
    chars.head? = some '-' ∧ chars ≠ ['-'] ∧ chars ≠ ['-', '-'] := by
  cases gives with
  | flag named | waiting named => simp [named]
  | assigned => simp
  | cluster short => simp [short]

theorem not_isOperand {argument : String}
    (gives : OptionGives g argument.toList piece waiting) : ¬ IsOperand argument ∧ argument ≠ "--" := by
  obtain ⟨dash, notLone, notStop⟩ := gives.dashed
  constructor
  · rintro (lone | plain)
    · exact notLone lone
    · exact plain dash
  · rintro rfl
    exact notStop rfl

end OptionGives

namespace Scan

/-! ## Behind an option -/

/-- A scan behind an option: nothing is open, but for the option itself if it waits. -/
def behind (s : Scan κ) (piece : List (κ × String)) (waiting : Option κ) : Scan κ :=
  ⟨s.given ++ piece, waiting.map (·, [])⟩

theorem waiting_behind (s : Scan κ) (piece : List (κ × String)) (waiting : Option κ) :
    (s.behind piece waiting).waiting = waiting := by
  cases waiting <;> rfl

theorem unsettled_behind (s : Scan κ) (piece : List (κ × String)) (waiting : Option κ) :
    (s.behind piece waiting).unsettled = [] := by
  cases waiting <;> rfl

theorem given_behind (s : Scan κ) (piece : List (κ × String)) (waiting : Option κ) :
    (s.behind piece waiting).given = s.given ++ piece := by
  rw [given, unsettled_behind, List.append_nil, behind]

theorem faultless_behind (s : Scan κ) (piece : List (κ × String)) (waiting : Option κ) :
    (s.behind piece waiting).Faultless g := by
  intro pair member
  rw [unsettled_behind] at member
  cases member

theorem behind_behind (s : Scan κ) (piece more : List (κ × String)) (waiting : Option κ) :
    (s.behind piece none).behind more waiting = s.behind (piece ++ more) waiting := by
  rw [behind, given_behind, List.append_assoc, behind]

theorem behind_nil_settled (settled : List (κ × String)) :
    (⟨settled, none⟩ : Scan κ).behind [] none = ⟨settled, none⟩ := by
  rw [behind, List.append_nil, given_settled, Option.map_none]

variable [DecidableEq κ] {s s' : Scan κ} {key : κ}

theorem tidy_behind {piece : List (κ × String)} {waiting : Option κ}
    (once : Once g (s.given ++ piece))
    (option : ∀ key, waiting = some key → g.positional ≠ some key) :
    (s.behind piece waiting).Tidy g where
  once := once
  waits key opened := by
    obtain ⟨_, waits, ⟨⟩⟩ := Option.map_eq_some_iff.mp opened
    exact option key waits
  single key values opened := by
    obtain ⟨_, _, ⟨⟩⟩ := Option.map_eq_some_iff.mp opened
    exact .inr (Nat.zero_le 1)

/-! ## Taking an option -/

theorem takeFlag_eq_ok_iff (tidy : s.Tidy g) (option : g.positional ≠ some key) :
    s.takeFlag g key = .ok s' ↔
      s.Ready g ∧ Once g (s.given ++ [(key, "")]) ∧ s' = s.behind [(key, "")] none := by
  -- What was open is settled on both sides; what is left to say is that the flag is new.
  rw [takeFlag, settle_bind_eq_ok_iff tidy, once_concat_iff option, and_assoc]
  refine and_congr_right fun _ => and_congr_right fun _ => ?_
  by_cases fresh : ∀ pair ∈ s.given, pair.1 ≠ key
  · have room : ¬ s.given.any (·.1 = key) := mt (any_key_iff s.given key).mp (not_not_intro fresh)
    rw [if_neg room]
    constructor
    · intro taken
      cases taken
      exact ⟨fresh, rfl⟩
    · rintro ⟨_, rfl⟩
      rfl
  · rw [if_pos ((any_key_iff s.given key).mpr fresh)]
    constructor
    · intro thrown
      cases thrown
    · rintro ⟨same, _⟩
      exact absurd same fresh

theorem takeValue_eq_ok_iff (tidy : s.Tidy g) (option : g.positional ≠ some key) (value : String) :
    s.takeValue g key value = .ok s' ↔
      s.Ready g ∧ g.fault key value = none ∧ Once g (s.given ++ [(key, value)]) ∧
        s' = s.behind [(key, value)] none := by
  rw [takeValue, settle_bind_eq_ok_iff tidy, record_eq_ok_iff, once_concat_iff option]
  refine and_congr_right fun _ => ?_
  simp only [Free, option, false_or, List.mem_singleton, forall_eq]
  constructor
  · rintro ⟨once, fresh, faultless, rfl⟩
    exact ⟨faultless, ⟨once, fresh⟩, rfl⟩
  · rintro ⟨faultless, ⟨once, fresh⟩, rfl⟩
    exact ⟨once, fresh, faultless, rfl⟩

theorem await_eq_ok_iff (tidy : s.Tidy g) :
    s.await g key = .ok s' ↔ s.Ready g ∧ Once g s.given ∧ s' = s.behind [] (some key) := by
  rw [await, settle_bind_eq_ok_iff tidy]
  simp [behind, pure, Except.pure, eq_comm]

theorem takeHelp_ne_ok : s.takeHelp g ≠ .ok s' := by
  intro taken
  obtain ⟨_, _, thrown⟩ := bind_eq_ok_iff.mp taken
  cases thrown

/-! ## Letters -/

/-- The letters are taken one by one; behind the first of them nothing is open. -/
theorem takeCluster_gives (apart : g.Apart) {letters : List Char} (tidy : s.Tidy g)
    (begun : s.pending = none ∨ letters ≠ []) (taken : takeCluster g s letters = .ok s') :
    s.Ready g ∧ ∃ piece waiting, ClusterGives g letters piece waiting ∧
      Once g (s.given ++ piece) ∧ s' = s.behind piece waiting := by
  induction letters generalizing s with
  | nil =>
    obtain ⟨settled, pending⟩ := s
    obtain rfl : pending = none := begun.resolve_right (not_not_intro rfl)
    cases taken
    refine ⟨ready_settled g settled, [], none, .nil, ?_, (behind_nil_settled settled).symm⟩
    rw [List.append_nil, given_settled]
    exact tidy.once
  | cons c rest ih =>
    rw [takeCluster] at taken
    split at taken
    next => cases taken
    next => exact absurd taken takeHelp_ne_ok
    next key known =>
      split at taken
      next => cases taken
      next flagged =>
        -- Only the first flag finds anything open: the others start behind a flag.
        obtain ⟨ready, once, rfl⟩ := (takeFlag_eq_ok_iff tidy (apart.short known rfl)).mp flagged
        have tidyBehind : (s.behind [(key, "")] none).Tidy g := tidy_behind once (by simp)
        obtain ⟨_, piece, waiting, gives, onceAll, rfl⟩ := ih tidyBehind (.inl rfl) taken
        rw [given_behind, List.append_assoc] at onceAll
        exact ⟨ready, _, waiting, .flag known gives, onceAll, behind_behind s _ piece waiting⟩
    next key known =>
      split at taken
      next =>
        obtain ⟨ready, once, rfl⟩ := (await_eq_ok_iff tidy).mp taken
        exact ⟨ready, [], some key, .waiting known, by rwa [List.append_nil], rfl⟩
      next d value =>
        -- One equals sign in front of an attached value is dropped, a second one is part of it.
        obtain ⟨ready, faultless, once, rfl⟩ :=
          (takeValue_eq_ok_iff tidy (apart.short known rfl) _).mp taken
        refine ⟨ready, _, none, ?_, once, rfl⟩
        split
        next assigned =>
          rw [if_pos assigned] at faultless
          rw [assigned]
          exact .assigned known faultless
        next plain =>
          rw [if_neg plain] at faultless
          exact .attached known plain faultless

theorem takeCluster_of_gives (apart : g.Apart) {letters : List Char}
    {piece : List (κ × String)} {waiting : Option κ} (gives : ClusterGives g letters piece waiting)
    (tidy : s.Tidy g) (ready : s.Ready g) (begun : s.pending = none ∨ letters ≠ [])
    (once : Once g (s.given ++ piece)) : takeCluster g s letters = .ok (s.behind piece waiting) := by
  induction gives generalizing s with
  | nil =>
    obtain ⟨settled, pending⟩ := s
    obtain rfl : pending = none := begun.resolve_right (not_not_intro rfl)
    rw [takeCluster, behind_nil_settled]
  | @flag c key rest given waiting known others ih =>
    rw [List.append_cons] at once
    -- The first flag settles what was open, so the other letters start with nothing open.
    have flagged : s.takeFlag g key = .ok (s.behind [(key, "")] none) :=
      (takeFlag_eq_ok_iff tidy (apart.short known rfl)).mpr ⟨ready, once.left, rfl⟩
    have tidyBehind : (s.behind [(key, "")] none).Tidy g := tidy_behind once.left (by simp)
    rw [takeCluster, known, ← List.singleton_append, ← behind_behind]
    simp only [flagged]
    apply ih tidyBehind (ready_settled g _) (.inl rfl)
    rwa [given_behind]
  | waiting known =>
    rw [List.append_nil] at once
    rw [takeCluster, known]
    exact (await_eq_ok_iff tidy).mpr ⟨ready, once, rfl⟩
  | attached known plain faultless =>
    rw [takeCluster, known]
    simp only [if_neg plain]
    exact (takeValue_eq_ok_iff tidy (apart.short known rfl) _).mpr ⟨ready, faultless, once, rfl⟩
  | assigned known faultless =>
    rw [takeCluster, known]
    simp only [if_true]
    exact (takeValue_eq_ok_iff tidy (apart.short known rfl) _).mpr ⟨ready, faultless, once, rfl⟩

/-! ## Names -/

theorem takeLong_of_unassigned {name : List Char} (unassigned : '=' ∉ name) :
    s.takeLong g name =
      match g.long (String.ofList name) with
      | none => .error .unknownArgument
      | some .help => s.takeHelp g
      | some (.flag key) => s.takeFlag g key
      | some (.valued key) => s.await g key := by
  have plain : ∀ c ∈ name, decide (c ≠ '=') = true :=
    fun c member => decide_eq_true fun same => unassigned (same ▸ member)
  rw [takeLong, List.takeWhile_eq_self_iff.mpr plain, List.dropWhile_eq_nil_iff.mpr plain]
  rcases g.long (String.ofList name) with _ | _ | _ | _ <;> rfl

theorem takeLong_of_assigned {name : List Char} (unassigned : '=' ∉ name) (value : List Char) :
    s.takeLong g (name ++ '=' :: value) =
      match g.long (String.ofList name) with
      | none => .error .unknownArgument
      | some (.valued key) => s.takeValue g key (String.ofList value)
      | some _ => .error .tooManyValues := by
  have plain : ∀ c ∈ name, decide (c ≠ '=') = true :=
    fun c member => decide_eq_true fun same => unassigned (same ▸ member)
  rw [takeLong, List.takeWhile_append_of_pos plain, List.dropWhile_append_of_pos plain,
    List.takeWhile_cons_of_neg (by decide), List.dropWhile_cons_of_neg (by decide), List.append_nil]
  rcases g.long (String.ofList name) with _ | _ | _ | _ <;> rfl

/-- The name ends at the first equals sign, if there is one. -/
theorem takeLong_gives (apart : g.Apart) {body : List Char} (tidy : s.Tidy g) (named : body ≠ [])
    (taken : s.takeLong g body = .ok s') :
    s.Ready g ∧ ∃ piece waiting, OptionGives g ('-' :: '-' :: body) piece waiting ∧
      Once g (s.given ++ piece) ∧ s' = s.behind piece waiting := by
  by_cases assigned : '=' ∈ body
  · -- The name is what stands in front of the first equals sign.
    obtain ⟨name, value, rfl, unassigned⟩ := List.eq_append_cons_of_mem assigned
    rw [takeLong_of_assigned unassigned] at taken
    split at taken
    next => cases taken
    next key known =>
      obtain ⟨ready, faultless, once, rfl⟩ :=
        (takeValue_eq_ok_iff tidy (apart.long known rfl) _).mp taken
      exact ⟨ready, _, none, .assigned unassigned known faultless, once, rfl⟩
    next => cases taken
  · rw [takeLong_of_unassigned assigned] at taken
    split at taken
    next => cases taken
    next => exact absurd taken takeHelp_ne_ok
    next key known =>
      obtain ⟨ready, once, rfl⟩ := (takeFlag_eq_ok_iff tidy (apart.long known rfl)).mp taken
      exact ⟨ready, _, none, .flag named assigned known, once, rfl⟩
    next key known =>
      obtain ⟨ready, once, rfl⟩ := (await_eq_ok_iff tidy).mp taken
      exact ⟨ready, [], some key, .waiting named assigned known, by rwa [List.append_nil], rfl⟩

/-! ## Either way -/

/-- An option with its dashes. -/
def takeOption (g : Grammar κ) (s : Scan κ) : List Char → Except UsageError (Scan κ)
  | '-' :: '-' :: body => s.takeLong g body
  | '-' :: letters => s.takeCluster g letters
  | _ => .error .unknownArgument

theorem takeOption_gives (apart : g.Apart) {argument : String} (tidy : s.Tidy g)
    (option : ¬ IsOperand argument) (more : argument ≠ "--")
    (taken : s.takeOption g argument.toList = .ok s') :
    s.Ready g ∧ ∃ piece waiting, OptionGives g argument.toList piece waiting ∧
      Once g (s.given ++ piece) ∧ s' = s.behind piece waiting := by
  generalize chars : argument.toList = cs at taken
  rw [takeOption.eq_def] at taken
  split at taken
  next body =>
    -- Two dashes alone end the options, and a lone dash is an operand.
    have named : body ≠ [] := by
      rintro rfl
      exact more (String.toList_inj.mp chars)
    exact takeLong_gives apart tidy named taken
  next letters notLong =>
    have present : letters ≠ [] := by
      rintro rfl
      exact option (.inl chars)
    obtain ⟨c, cluster, rfl⟩ := List.exists_cons_of_ne_nil present
    have short : c ≠ '-' := fun dash => notLong cluster (by rw [dash])
    obtain ⟨ready, piece, waiting, gives, landed⟩ :=
      takeCluster_gives apart tidy (.inr present) taken
    exact ⟨ready, piece, waiting, .cluster short gives, landed⟩
  next => cases taken

theorem takeOption_of_gives (apart : g.Apart) {chars : List Char} {piece : List (κ × String)}
    {waiting : Option κ} (gives : OptionGives g chars piece waiting) (tidy : s.Tidy g)
    (ready : s.Ready g) (once : Once g (s.given ++ piece)) :
    s.takeOption g chars = .ok (s.behind piece waiting) := by
  cases gives with
  | flag named unassigned known =>
    rw [takeOption, takeLong_of_unassigned unassigned, known]
    exact (takeFlag_eq_ok_iff tidy (apart.long known rfl)).mpr ⟨ready, once, rfl⟩
  | waiting named unassigned known =>
    rw [List.append_nil] at once
    rw [takeOption, takeLong_of_unassigned unassigned, known]
    exact (await_eq_ok_iff tidy).mpr ⟨ready, once, rfl⟩
  | assigned unassigned known faultless =>
    rw [takeOption, takeLong_of_assigned unassigned, known]
    exact (takeValue_eq_ok_iff tidy (apart.long known rfl) _).mpr ⟨ready, faultless, once, rfl⟩
  | cluster short letters =>
    rw [takeOption]
    · exact takeCluster_of_gives apart letters tidy ready (.inr (List.cons_ne_nil _ _)) once
    · intro body same
      exact short (List.cons.inj same).1

end Scan

end TruncatedSha.Arguments
