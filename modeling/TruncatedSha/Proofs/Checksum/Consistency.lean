import TruncatedSha.Checksum.Command
import TruncatedSha.Proofs.Arguments.Scan

/-!
# Which options are accepted

A list to check always comes without files. Being quiet is declared to need such a list, but
the need is waived when there are files, and then being quiet changes nothing.
-/
namespace TruncatedSha

namespace Checksum

open Arguments

/-- A list to check and files to hash exclude each other, and being quiet needs a list to check. -/
def constraints : Arguments.Constraints OptionKey where
  exclusions := [(.check, .files)]
  requirements := [(.quiet, .check)]

namespace Options

/-- What the declarations leave of the ways in which options can be set. Files exclude the list that
being quiet needs, so they stand in for it. -/
structure Consistent (o : Options) : Prop where
  exclusive : o.check ≠ none → o.files = []
  quiet : o.quiet = true → o.check ≠ none ∨ o.files ≠ []

structure Named (o : Options) : Prop where
  files : ∀ name ∈ o.files, name ≠ ""
  check : ∀ list, o.check = some list → list ≠ ""

/-- Arguments for options. Whatever the names are, they are not taken for options again. -/
def arguments (o : Options) : List String :=
  (if o.quiet then ["-q"] else []) ++ (o.check.toList.map ("--check=" ++ ·)) ++ "--" :: o.files

end Options

theorem grammar_long_cases {name : String} {role : Option.Role OptionKey}
    (known : grammar.long name = some role) :
    role = .help ∨ role = .flag .quiet ∨ role = .valued .check := by
  unfold grammar at known
  dsimp only at known
  split at known <;> simp_all

theorem grammar_short_cases {c : Char} {role : Option.Role OptionKey}
    (known : grammar.short c = some role) :
    role = .help ∨ role = .flag .quiet ∨ role = .valued .check := by
  unfold grammar at known
  dsimp only at known
  split at known <;> simp_all

theorem grammar_apart : grammar.Apart where
  long known own := by
    rcases grammar_long_cases known with rfl | rfl | rfl <;> cases own <;> decide
  short known own := by
    rcases grammar_short_cases known with rfl | rfl | rfl <;> cases own <;> decide

theorem eq_quiet_of_isFlag {key : OptionKey} (flag : IsFlag grammar key) : key = .quiet := by
  rcases flag with ⟨_, known⟩ | ⟨_, known⟩
  · simpa using grammar_long_cases known
  · simpa using grammar_short_cases known

theorem grammar_fault_eq_none_iff (key : OptionKey) (value : String) :
    grammar.fault key value = none ↔ value ≠ "" := by
  simp [grammar]

theorem excludes_iff (first second : OptionKey) : constraints.Excludes first second ↔
    (first = .check ∧ second = .files) ∨ (second = .check ∧ first = .files) := by
  simp [Constraints.Excludes, constraints]

/-- The list that being quiet needs is excluded by files, and then it is not needed. -/
theorem constraints_allows_iff (present : OptionKey → Prop) : constraints.Allows present ↔
    (present .check → ¬ present .files) ∧ (present .quiet → present .check ∨ present .files) := by
  constructor
  · intro allows
    refine ⟨allows.apart .check .files ((excludes_iff _ _).mpr (.inl ⟨rfl, rfl⟩)), ?_⟩
    intro quiet
    rcases allows.complete .quiet .check (List.mem_singleton.mpr rfl) quiet with
      listed | ⟨other, there, excludes⟩
    · exact .inl listed
    · -- Only files can have waived the need: nothing else excludes the list.
      rcases (excludes_iff _ _).mp excludes with ⟨-, rfl⟩ | ⟨-, impossible⟩
      · exact .inr there
      · cases impossible
  · -- Conversely, there is one exclusion and one need to look at.
    rintro ⟨exclusive, quiet⟩
    constructor
    · intro first second excludes one other
      rcases (excludes_iff _ _).mp excludes with ⟨rfl, rfl⟩ | ⟨rfl, rfl⟩
      · exact exclusive one other
      · exact exclusive other one
    · intro key required declared there
      obtain ⟨rfl, rfl⟩ := Prod.mk.inj (List.mem_singleton.mp declared)
      exact (quiet there).imp_right fun files =>
        ⟨.files, files, (excludes_iff _ _).mpr (.inl ⟨rfl, rfl⟩)⟩

namespace Options

theorem check_ofGiven_ne_none_iff (given : List (OptionKey × String)) :
    (ofGiven given).check ≠ none ↔ Present given .check := by
  rw [← valuesOf_ne_nil_iff, ne_eq, ne_eq, ofGiven, List.head?_eq_none_iff]

theorem files_ofGiven_ne_nil_iff (given : List (OptionKey × String)) :
    (ofGiven given).files ≠ [] ↔ Present given .files :=
  valuesOf_ne_nil_iff given .files

theorem quiet_ofGiven_iff (given : List (OptionKey × String)) :
    (ofGiven given).quiet = true ↔ Present given .quiet := by
  rw [← valuesOf_ne_nil_iff, ofGiven, Bool.not_eq_true', List.isEmpty_eq_false_iff]

theorem consistent_ofGiven_iff (given : List (OptionKey × String)) :
    (ofGiven given).Consistent ↔ constraints.Allows (Present given) := by
  rw [constraints_allows_iff, ← check_ofGiven_ne_none_iff, ← files_ofGiven_ne_nil_iff,
    ← quiet_ofGiven_iff]
  constructor
  · intro consistent
    exact ⟨fun listed => not_not_intro (consistent.exclusive listed), consistent.quiet⟩
  · rintro ⟨exclusive, quiet⟩
    exact ⟨fun listed => Classical.not_not.mp (exclusive listed), quiet⟩

theorem validate_eq_ok_iff (o o' : Options) : o.validate = .ok o' ↔ o.Consistent ∧ o' = o := by
  obtain ⟨files, check, quiet⟩ := o
  constructor
  · intro valid
    rw [validate] at valid
    split at valid
    next => cases valid
    next apart =>
      split at valid
      next => cases valid
      next complete =>
        cases valid
        refine ⟨⟨?_, ?_⟩, rfl⟩
        · intro listed
          cases check <;> simp_all
        · rintro rfl
          cases check <;> simp_all
  · rintro ⟨⟨exclusive, complete⟩, rfl⟩
    rw [validate]
    cases check <;> cases files <;> simp_all

theorem parse_eq_ok_iff (arguments : List String) (o : Options) :
    Options.parse arguments = .ok o ↔
      ∃ given, Gives grammar none arguments given ∧ Once grammar given ∧
        constraints.Allows (Present given) ∧ o = ofGiven given := by
  rw [Options.parse, bind_eq_ok_iff]
  simp only [scan_eq_ok_iff grammar_apart, validate_eq_ok_iff, consistent_ofGiven_iff, and_assoc]

/-! ## Writing options down -/

theorem gives_quiet : OptionGives grammar "-q".toList [(.quiet, "")] none :=
  .cluster (by decide) (.flag rfl .nil)

theorem gives_check {list : String} (named : list ≠ "") :
    OptionGives grammar ("--check=" ++ list).toList [(.check, list)] none := by
  have chars : ("--check=" ++ list).toList = '-' :: '-' :: ("check".toList ++ '=' :: list.toList) :=
    String.toList_append
  -- The list is all that stands behind the first equals sign.
  have faultless : grammar.fault .check (String.ofList list.toList) = none := by
    rw [String.ofList_toList]
    exact (grammar_fault_eq_none_iff .check list).mpr named
  have gives : OptionGives grammar ('-' :: '-' :: ("check".toList ++ '=' :: list.toList))
      [(.check, String.ofList list.toList)] none :=
    .assigned (by decide) rfl faultless
  rw [String.ofList_toList] at gives
  rw [chars]
  exact gives

/-- What the arguments that are written for options give. -/
def written (o : Options) : List (OptionKey × String) :=
  (if o.quiet then [""] else []).map (.quiet, ·) ++ o.check.toList.map (.check, ·) ++
    o.files.map (.files, ·)

theorem gives_arguments {o : Options} (named : o.Named) :
    Gives grammar none o.arguments o.written := by
  obtain ⟨files, check, quiet⟩ := o
  -- From the end: the files are behind `--`, so that their names may start with a dash.
  have behind : Gives grammar none ("--" :: files) (files.map (.files, ·)) :=
    .stopBefore rfl fun name member =>
      (grammar_fault_eq_none_iff .files name).mpr (named.files name member)
  have listed : Gives grammar none (check.toList.map ("--check=" ++ ·) ++ "--" :: files)
      (check.toList.map (.check, ·) ++ files.map (.files, ·)) := by
    cases check with
    | none => exact behind
    | some list => exact .option (gives_check (named.check list rfl)) behind
  rw [arguments, written, List.append_assoc, List.append_assoc]
  cases quiet with
  | false => exact listed
  | true => exact .option gives_quiet listed

theorem valuesOf_written_files (o : Options) : valuesOf o.written .files = o.files := by
  rw [written, valuesOf_append, valuesOf_append, valuesOf_map_self,
    valuesOf_map_of_ne _ (by decide), valuesOf_map_of_ne _ (by decide)]
  rfl

theorem valuesOf_written_check (o : Options) : valuesOf o.written .check = o.check.toList := by
  rw [written, valuesOf_append, valuesOf_append, valuesOf_map_self,
    valuesOf_map_of_ne _ (by decide), valuesOf_map_of_ne _ (by decide), List.append_nil]
  rfl

theorem valuesOf_written_quiet (o : Options) :
    valuesOf o.written .quiet = if o.quiet then [""] else [] := by
  rw [written, valuesOf_append, valuesOf_append, valuesOf_map_self,
    valuesOf_map_of_ne _ (by decide), valuesOf_map_of_ne _ (by decide), List.append_nil,
    List.append_nil]

theorem ofGiven_written (o : Options) : ofGiven o.written = o := by
  obtain ⟨files, check, quiet⟩ := o
  rw [ofGiven, valuesOf_written_files, valuesOf_written_check, valuesOf_written_quiet]
  cases check <;> cases quiet <;> rfl

theorem once_written (o : Options) : Once grammar o.written := by
  intro key option
  cases key with
  | files => exact absurd rfl option
  | check =>
    rw [valuesOf_written_check]
    cases o.check <;> simp
  | quiet =>
    rw [valuesOf_written_quiet]
    cases o.quiet <;> decide

/-- Options that go together are read back from the arguments that are written for them. -/
theorem parse_arguments {o : Options} (consistent : o.Consistent) (named : o.Named) :
    Options.parse o.arguments = .ok o := by
  refine (parse_eq_ok_iff o.arguments o).mpr
    ⟨o.written, gives_arguments named, once_written o, ?_, (ofGiven_written o).symm⟩
  rw [← consistent_ofGiven_iff, ofGiven_written]
  exact consistent

/-! ## What is accepted -/

theorem Consistent.listed_iff {o : Options} (consistent : o.Consistent) :
    (o.quiet = true → o.check ≠ none) ↔ ¬ (o.quiet = true ∧ o.files ≠ []) := by
  constructor
  · rintro listed ⟨quiet, files⟩
    exact files (consistent.exclusive (listed quiet))
  · intro apart quiet
    exact (consistent.quiet quiet).resolve_right fun files => apart ⟨quiet, files⟩

theorem consistent_of_parse {arguments : List String} {o : Options}
    (parsed : Options.parse arguments = .ok o) : o.Consistent := by
  obtain ⟨given, _, _, allows, rfl⟩ := (parse_eq_ok_iff arguments o).mp parsed
  exact (consistent_ofGiven_iff given).mpr allows

theorem ne_empty_of_gives {arguments : List String} {given : List (OptionKey × String)}
    (gives : Gives grammar none arguments given) {key : OptionKey} (valued : key ≠ .quiet) :
    ∀ value ∈ valuesOf given key, value ≠ "" := by
  intro value member
  have own : (key, value) ∈ given := by
    simpa [valuesOf] using member
  have faultless := (gives.faultless _ own).resolve_left fun flag => valued (eq_quiet_of_isFlag flag)
  exact (grammar_fault_eq_none_iff key value).mp faultless

theorem named_of_parse {arguments : List String} {o : Options}
    (parsed : Options.parse arguments = .ok o) : o.Named := by
  obtain ⟨given, gives, _, _, rfl⟩ := (parse_eq_ok_iff arguments o).mp parsed
  constructor
  · exact ne_empty_of_gives gives (by decide)
  · intro list listed
    exact ne_empty_of_gives gives (by decide) list (List.mem_of_head? listed)

/-- Without a list to check, a run goes as if it had not been told to be quiet. -/
theorem run_unlisted {arguments : List String} {o : Options}
    (parsed : Options.parse arguments = .ok o) (unlisted : o.check = none)
    (settings : Log.Settings) (world : World) :
    run settings world arguments = run settings world ("--" :: o.files) := by
  obtain ⟨files, check, quiet⟩ := o
  subst unlisted
  have named := named_of_parse parsed
  have loud : Options.parse (Options.arguments ⟨files, none, false⟩) = .ok ⟨files, none, false⟩ :=
    parse_arguments ⟨fun listed => absurd rfl listed, nofun⟩ ⟨named.files, named.check⟩
  have plain : Options.arguments ⟨files, none, false⟩ = "--" :: files := rfl
  rw [run, run, parsed, ← plain, loud]

end Options

/-- Accepted are the arguments that give something, no option twice, within the declarations, and
all options that go together are accepted from some arguments. A list to check then comes without
files. Being quiet comes with a list just where it does not come with files, and where there is no
list it changes nothing. -/
theorem accepted_options_exact (arguments : List String) (o : Options) :
    (Options.parse arguments = .ok o ↔
      ∃ given, Gives grammar none arguments given ∧ Once grammar given ∧
        constraints.Allows (Present given) ∧ o = .ofGiven given) ∧
    ((∃ spelled, Options.parse spelled = .ok o) ↔ o.Consistent ∧ o.Named) ∧
    (Options.parse arguments = .ok o →
      (o.check ≠ none → o.files = []) ∧
      ((o.quiet = true → o.check ≠ none) ↔ ¬ (o.quiet = true ∧ o.files ≠ [])) ∧
      (o.check = none →
        ∀ settings world, run settings world arguments = run settings world ("--" :: o.files))) := by
  refine ⟨Options.parse_eq_ok_iff arguments o, ?_, ?_⟩
  · constructor
    · rintro ⟨spelled, parsed⟩
      exact ⟨Options.consistent_of_parse parsed, Options.named_of_parse parsed⟩
    · rintro ⟨consistent, named⟩
      exact ⟨o.arguments, Options.parse_arguments consistent named⟩
  · intro parsed
    have consistent := Options.consistent_of_parse parsed
    exact ⟨consistent.exclusive, consistent.listed_iff, Options.run_unlisted parsed⟩

/-- The file has the name of an option. -/
theorem accepted_options_exact_dashes :
    let settings : Log.Settings := ⟨.ofVariable none, false⟩
    let world : World := ⟨fun _ => .ok [], []⟩
    let o : Options := ⟨["-q"], none, true⟩
    Options.parse ["-q", "--", "-q"] = .ok o ∧ o.Consistent ∧ o.check = none ∧
      run settings world ["-q", "--", "-q"] = run settings world ["--", "-q"] := by
  intro settings world o
  obtain ⟨spoken, possible, accepted⟩ := accepted_options_exact ["-q", "--", "-q"] o
  have once : Once grammar [(.quiet, ""), (.files, "-q")] := by
    intro key option
    cases key with
    | files => exact absurd rfl option
    | check | quiet => decide
  have allows : constraints.Allows (Present [(.quiet, ""), (.files, "-q")]) :=
    (constraints_allows_iff _).mpr
      ⟨by simp [Present], fun _ => .inr ⟨"-q", by simp⟩⟩
  have parsed : Options.parse ["-q", "--", "-q"] = .ok o :=
    spoken.mpr ⟨_, .option Options.gives_quiet
      (.stopBefore rfl (List.forall_mem_singleton.mpr rfl)), once, allows, rfl⟩
  obtain ⟨_, _, unlisted⟩ := accepted parsed
  exact ⟨parsed, (possible.mp ⟨_, parsed⟩).1, rfl, unlisted rfl settings world⟩

/-- Being quiet is accepted without a list to check, and does nothing. -/
theorem quiet_accepted_without_list :
    Options.parse ["-q", "x"] = .ok ⟨["x"], none, true⟩ ∧
      ¬ ∀ arguments o, Options.parse arguments = .ok o → o.quiet = true → o.check.isSome := by
  have accepted : Options.parse ["-q", "x"] = .ok ⟨["x"], none, true⟩ := by decide
  refine ⟨accepted, ?_⟩
  intro needed
  cases needed _ _ accepted rfl

end Checksum

end TruncatedSha
