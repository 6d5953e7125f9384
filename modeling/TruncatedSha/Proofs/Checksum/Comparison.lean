import TruncatedSha.Proofs.Checksum.Listing

/-!
# Checking what was printed

A printed list is checked entry by entry, with the inputs at the same places as when it was printed.
So it tells which of them still have the digest that they had, and complains of nothing else.
-/
namespace TruncatedSha.Checksum

/-! ## One entry -/

theorem not_blank_format (e : Entry) : ¬ Blank e.format := by
  have digits : ∀ i : Fin 16, (Hex.digit i).toNat ∉ Text.whiteSpace := by decide
  intro blank
  rw [Blank, Entry.toList_format] at blank
  -- A digest has digits, and the first of them is no space.
  cases bytes : e.digest.toList with
  | nil =>
    have size := e.digest.length_toList
    simp [bytes] at size
  | cons byte rest =>
    have bound := byte.toNat_lt
    have first := blank (Hex.digit (byte.toNat / 16)) (by simp [bytes, Hex.encode_cons])
    exact digits ⟨byte.toNat / 16, by omega⟩ first

theorem ofLine_format (world : World) {e : Entry} (named : e.name ≠ "") :
    Finding.ofLine world e.format = Finding.ofEntry world e := by
  rw [Finding.ofLine, if_neg (not_blank_format e), Entry.parse_format, if_neg named]

/-- The line of an entry leaves the inputs as reading its input does. -/
theorem pass_format (world : World) {e : Entry} (named : e.name ≠ "") :
    world.pass e.format = world.after e.name := by
  rw [World.pass, if_neg (not_blank_format e), Entry.parse_format, if_neg named]

theorem findings_format (world : World) {es : List Entry} (named : ∀ e ∈ es, e.name ≠ "") :
    findings world (es.map Entry.format) =
      List.zipWith Finding.ofReading es (world.readings (es.map Entry.name)) := by
  induction es generalizing world with
  | nil => rfl
  | cons e rest ih =>
    rw [List.forall_mem_cons] at named
    rw [List.map_cons, findings, ofLine_format world named.1, pass_format world named.1,
      ih _ named.2, List.map_cons, World.readings_cons, List.zipWith_cons_cons]
    rfl

/-! ## Outcomes -/

namespace Finding

@[simp] def outcome : Finding → Option Outcome
  | .unreadable name _ | .mismatched name => some ⟨name, false⟩
  | .matched name => some ⟨name, true⟩
  | .blank | .malformed _ | .overflow _ => none

end Finding

theorem filterMap_status (found : List Finding) (quiet : Bool) :
    found.filterMap (Finding.status quiet) =
      ((found.filterMap Finding.outcome).filter fun o => !(quiet && o.matched)).map
        Outcome.line := by
  rw [← List.filterMap_eq_filter, ← List.filterMap_eq_map, List.filterMap_filterMap,
    List.filterMap_filterMap]
  congr 1
  funext f
  cases f <;> cases quiet <;> rfl

theorem countP_fails (found : List Finding) :
    found.countP Finding.fails =
      (found.filterMap Finding.outcome).countP fun outcome => !outcome.matched := by
  rw [List.countP_filterMap]
  apply List.countP_congr
  intro f _
  cases f <;> simp

section

variable (e : Entry) (result : Except LengthOverflow (Except String Digest))

/-- An entry is matched, mismatched or cannot be read, or its input is too long. -/
theorem ofReading_cases :
    (∃ error, result = .error error ∧ Finding.ofReading e result = .overflow error) ∨
    (∃ complaint, result = .ok (.error complaint) ∧
      Finding.ofReading e result = .unreadable e.name complaint) ∨
    ∃ actual, result = .ok (.ok actual) ∧
      (actual = e.digest ∧ Finding.ofReading e result = .matched e.name ∨
        actual ≠ e.digest ∧ Finding.ofReading e result = .mismatched e.name) := by
  rcases result with error | complaint | actual
  · exact .inl ⟨error, rfl, rfl⟩
  · exact .inr (.inl ⟨complaint, rfl, rfl⟩)
  · refine .inr (.inr ⟨actual, rfl, ?_⟩)
    by_cases same : actual = e.digest
    · exact .inl ⟨same, if_pos same⟩
    · exact .inr ⟨same, if_neg same⟩

theorem isMalformed_ofReading : (Finding.ofReading e result).isMalformed = false := by
  rcases ofReading_cases e result with ⟨_, -, found⟩ | ⟨_, -, found⟩ | ⟨_, -, ⟨-, found⟩ | ⟨-, found⟩⟩
  all_goals rw [found]; rfl

theorem event_ofReading (number : Nat) :
    (Finding.ofReading e result).event number =
      (complaint? result).map fun complaint => ⟨.warn, "sha512_256sum", complaint, []⟩ := by
  rcases ofReading_cases e result with ⟨_, rfl, found⟩ | ⟨_, rfl, found⟩ |
    ⟨_, rfl, ⟨-, found⟩ | ⟨-, found⟩⟩
  all_goals rw [found]; rfl

theorem overflow_ofReading_iff (error : LengthOverflow) :
    (Finding.ofReading e result).overflow? = some error ↔ .error error = result := by
  rcases ofReading_cases e result with ⟨_, rfl, found⟩ | ⟨_, rfl, found⟩ |
    ⟨_, rfl, ⟨-, found⟩ | ⟨-, found⟩⟩
  all_goals rw [found]; simp

end

theorem outcome_ofReading (e : Entry) (result : Except String Digest) :
    (Finding.ofReading e (.ok result)).outcome = some ⟨e.name, result.toOption == some e.digest⟩ := by
  rcases result with complaint | actual
  · rfl
  · by_cases same : actual = e.digest <;> simp [same, Except.toOption]

theorem comparison_cons (before after : World) (name : String) (rest : List String) :
    comparison before after (name :: rest) =
      ⟨name, (before.digest? name).isSome && before.digest? name == after.digest? name⟩ ::
        comparison (before.after name) (after.after name) rest := by
  simp only [comparison, World.digests_cons, List.zipWith_cons_cons]

/-! ## All entries -/

section Listed

variable {es : List Entry} {results : List (Except LengthOverflow (Except String Digest))}

theorem not_isMalformed_zipWith :
    ∀ f ∈ List.zipWith Finding.ofReading es results, f.isMalformed = false := by
  intro f member
  rw [← List.map_uncurry_zip_eq_zipWith] at member
  obtain ⟨⟨e, result⟩, -, rfl⟩ := List.mem_map.mp member
  exact isMalformed_ofReading e result

variable (same : es.length = results.length)

include same

/-- What is logged is what is complained of, wherever the entries begin. -/
theorem events_zipWith (number : Nat) :
    ((List.zipWith Finding.ofReading es results).zipIdx number).filterMap
        (fun found => found.1.event found.2) =
      (results.filterMap complaint?).map fun complaint =>
        ⟨.warn, "sha512_256sum", complaint, []⟩ := by
  induction es generalizing results number with
  | nil =>
    rw [List.eq_nil_of_length_eq_zero same.symm]
    rfl
  | cons e rest ih =>
    cases results with
    | nil => cases same
    | cons result later =>
      -- What an entry logs does not mention its number, so the others may begin anywhere.
      rw [List.zipWith_cons_cons, List.zipIdx_cons, List.filterMap_cons, List.filterMap_cons,
        event_ofReading, ih (Nat.succ.inj same)]
      cases complaint? result <;> rfl

theorem exists_overflow_zipWith_iff (error : LengthOverflow) :
    (∃ f ∈ List.zipWith Finding.ofReading es results, f.overflow? = some error) ↔
      .error error ∈ results := by
  induction es generalizing results with
  | nil =>
    rw [List.eq_nil_of_length_eq_zero same.symm]
    simp
  | cons e rest ih =>
    cases results with
    | nil => cases same
    | cons result later =>
      rw [List.zipWith_cons_cons, List.exists_mem_cons_iff, List.mem_cons, overflow_ofReading_iff,
        ih (Nat.succ.inj same)]

end Listed

section Hashed

variable {before : World} {names : List String} {digests : List Digest}
  (hashed : before.digests names = digests.map some)

include hashed

theorem comparison_self : comparison before before names = names.map fun name => ⟨name, true⟩ := by
  induction names generalizing before digests with
  | nil => rfl
  | cons name rest ih =>
    rw [World.digests_cons] at hashed
    obtain ⟨digest, others, rfl, found, later⟩ := List.map_eq_cons_iff.mp hashed.symm
    rw [comparison_cons, ih later.symm, ← found, List.map_cons, beq_self_eq_true]
    rfl

/-- The entries come to what comparing the inputs comes to, if none of these is too long. -/
theorem filterMap_outcome_zipWith {after : World}
    (fine : ∀ error, .error error ∉ after.readings names) :
    (List.zipWith Finding.ofReading (List.zipWith Entry.mk digests names)
        (after.readings names)).filterMap Finding.outcome = comparison before after names := by
  -- The induction goes on in the two worlds that the first input leaves.
  induction names generalizing before after digests with
  | nil =>
    rw [List.zipWith_nil_right]
    rfl
  | cons name rest ih =>
    rw [World.digests_cons] at hashed
    obtain ⟨digest, others, rfl, found, later⟩ := List.map_eq_cons_iff.mp hashed.symm
    rw [World.readings_cons] at fine ⊢
    cases read : after.reading name with
    | error error =>
      rw [read] at fine
      exact absurd (List.mem_cons_self) (fine error)
    | ok result =>
      have others := ih later.symm fun error member => fine error (List.mem_cons_of_mem _ member)
      have matched : (result.toOption == some digest) =
          ((some digest).isSome && some digest == result.toOption) := by
        rw [Option.isSome_some, Bool.true_and, Bool.beq_comm]
      rw [List.zipWith_cons_cons, List.zipWith_cons_cons,
        List.filterMap_cons_some (outcome_ofReading _ result), others, comparison_cons, ← found,
        World.digest?_of_reading read, matched]

end Hashed

theorem lines_listing_of_fits {es : List Entry} (fits : ∀ e ∈ es, FitsLine e.name) :
    Text.lines (listing es) = es.map Entry.format := by
  rw [lines_listing fun e listed => (fits e listed).1, List.map_inj_left]
  intro e listed
  rw [Entry.closeLine_format (fits e listed).2, String.ofList_toList]

/-! ## Whole lists -/

theorem inputs_eq (names : List String) : inputs names = if names = [] then ["-"] else names := by
  cases names <;> rfl

theorem comparison_inputs_ne_nil (before after : World) (names : List String) :
    comparison before after (inputs names) ≠ [] := by
  cases names with
  | nil => exact List.cons_ne_nil _ _
  | cons name rest =>
    rw [inputs, List.isEmpty_cons, if_neg Bool.false_ne_true, comparison_cons]
    exact List.cons_ne_nil _ _

/-- What is said of a list if it compares inputs between two worlds. -/
structure Compares (before after : World) (names : List String) (quiet : Bool) (r : Checked) :
    Prop where
  printed : r.output = String.join
    (((comparison before after names).filter fun outcome => !(quiet && outcome.matched)).map
      Outcome.line)
  logged : r.events = ((after.readings names).filterMap complaint?).map fun complaint =>
    ⟨.warn, "sha512_256sum", complaint, []⟩
  accepted : r.verdict = .ok (.ok ()) ↔ ∀ outcome ∈ comparison before after names, outcome.matched
  rejected : ¬ (∀ outcome ∈ comparison before after names, outcome.matched) →
    r.verdict = .ok (.error (.mismatches
      ((comparison before after names).countP fun outcome => !outcome.matched)))

/-- Without malformed lines the verdict is about mismatches, if there is an outcome at all. -/
theorem Report.verdict_of_outcomes {found : List Finding} {outcomes : List Outcome}
    (formed : ∀ f ∈ found, f.isMalformed = false)
    (come : found.filterMap Finding.outcome = outcomes) (some : outcomes ≠ []) :
    (Report.mk found none).verdict =
      if 0 < outcomes.countP (fun outcome => !outcome.matched) then
        .error (.mismatches (outcomes.countP fun outcome => !outcome.matched))
      else .ok () := by
  have failures : (Report.mk found none).failures =
      outcomes.countP fun outcome => !outcome.matched := by
    rw [← come, ← countP_fails]
    rfl
  have malformed : (Report.mk found none).malformedLines = 0 :=
    List.countP_eq_zero.mpr fun f member => Bool.not_eq_true _ ▸ formed f member
  -- Where there is an outcome there is an entry, and an entry is not blank.
  have written : found.all Finding.isBlank = false := by
    rw [List.all_eq_false]
    subst come
    obtain ⟨outcome, member⟩ := List.exists_mem_of_ne_nil _ some
    obtain ⟨f, there, found⟩ := List.mem_filterMap.mp member
    refine ⟨f, there, ?_⟩
    cases f <;> simp_all
  rw [Report.verdict, failures, malformed, if_neg (Nat.lt_irrefl 0), written,
    if_neg Bool.false_ne_true]

theorem findings_listing (world : World) {es : List Entry} (fits : ∀ e ∈ es, FitsLine e.name)
    (named : ∀ e ∈ es, e.name ≠ "") :
    findings world (Text.lines (listing es)) =
      List.zipWith Finding.ofReading es (world.readings (es.map Entry.name)) := by
  rw [lines_listing_of_fits fits, findings_format world named]

section Printed

variable {before : World} {names : List String} {digests : List Digest}
  (hashed : before.digests names = digests.map some) (fits : ∀ name ∈ names, FitsLine name)

include hashed fits

theorem findings_printed (after : World) :
    findings after (Text.lines (listing (List.zipWith Entry.mk digests names))) =
      List.zipWith Finding.ofReading (List.zipWith Entry.mk digests names)
        (after.readings names) := by
  -- What is known of the names holds of the entries' names, which are the same.
  have listed := map_name_zipWith (length_of_digests hashed)
  have named := name_ne_empty_of_digests hashed
  rw [← listed, List.forall_mem_map] at fits named
  rw [findings_listing after fits named, listed]

omit fits in
theorem length_entries (after : World) :
    (List.zipWith Entry.mk digests names).length = (after.readings names).length := by
  rw [List.length_zipWith, length_of_digests hashed, Nat.min_self, World.length_readings]

theorem check_printed_of_fine {after : World} (fine : ∀ error, .error error ∉ after.readings names) :
    check after (listing (List.zipWith Entry.mk digests names)) =
      ⟨List.zipWith Finding.ofReading (List.zipWith Entry.mk digests names)
        (after.readings names), none⟩ := by
  rw [← findings_printed hashed fits after]
  -- A finding that ends the run would come from an input that is too long.
  apply check_of_fine
  intro f member
  rw [findings_printed hashed fits after] at member
  cases long : f.overflow? with
  | none => rfl
  | some error =>
    have there := (exists_overflow_zipWith_iff (length_entries hashed after) error).mp
      ⟨f, member, long⟩
    exact absurd there (fine error)

theorem compares_printed {after : World} (quiet : Bool) (some : comparison before after names ≠ [])
    (fine : ∀ error, .error error ∉ after.readings names) :
    Compares before after names quiet
      (verify after quiet (listing (List.zipWith Entry.mk digests names))) := by
  have come := filterMap_outcome_zipWith hashed fine
  have verdict := Report.verdict_of_outcomes not_isMalformed_zipWith come some
  have passed : (comparison before after names).countP (fun outcome => !outcome.matched) = 0 ↔
      ∀ outcome ∈ comparison before after names, outcome.matched := by
    simp [List.countP_eq_zero]
  rw [verify_eq, check_printed_of_fine hashed fits fine]
  constructor
  · simp only [Report.output, filterMap_status, come]
  · exact events_zipWith (length_entries hashed after) 1
  · rw [← passed]
    simp only [verdict]
    split
    next failed => exact iff_of_false (by simp) (Nat.ne_of_gt failed)
    next passed => exact iff_of_true rfl (Nat.eq_zero_of_not_pos passed)
  · intro failed
    rw [← passed] at failed
    simp only [verdict, if_pos (Nat.pos_of_ne_zero failed)]

theorem verdict_printed_of_long {after : World} (quiet : Bool) {error : LengthOverflow}
    (long : .error error ∈ after.readings names) :
    (verify after quiet (listing (List.zipWith Entry.mk digests names))).verdict = .error error := by
  obtain ⟨f, member, exceeds⟩ :=
    (exists_overflow_zipWith_iff (length_entries hashed after) error).mpr long
  rw [← findings_printed hashed fits after] at member
  rw [verify_eq]
  -- There is only one way of being too long.
  cases stopped : (check after (listing (List.zipWith Entry.mk digests names))).stopped with
  | none =>
    have fine := List.findSome?_eq_none_iff.mp stopped f member
    rw [fine] at exceeds
    cases exceeds
  | some other =>
    cases other
    cases error
    rfl

omit fits in
/-- Where the inputs were printed they all have their digests. -/
theorem readings_of_digests : before.readings names = digests.map fun digest => .ok (.ok digest) := by
  induction names generalizing before digests with
  | nil =>
    cases digests with
    | nil => rfl
    | cons digest rest => cases hashed
  | cons name rest ih =>
    rw [World.digests_cons] at hashed
    obtain ⟨digest, others, rfl, found, later⟩ := List.map_eq_cons_iff.mp hashed.symm
    rw [World.readings_cons, ih later.symm,
      (World.digest?_eq_some_iff before name digest).mp found.symm, List.map_cons]

/-- A list is accepted in the world in which it was printed. -/
theorem verify_printed (quiet : Bool) (some : comparison before before names ≠ []) :
    verify before quiet (listing (List.zipWith Entry.mk digests names)) =
      ⟨if quiet then "" else String.join (names.map (· ++ ": OK\n")), [], .ok (.ok ())⟩ := by
  have read := readings_of_digests hashed
  have fine : ∀ error, .error error ∉ before.readings names := by
    simp [read]
  have compares := compares_printed hashed fits quiet some fine
  have unchanged := comparison_self hashed
  ext1
  · rw [compares.printed, unchanged]
    cases quiet <;> simp [List.filter_map, Function.comp_def, Outcome.line]
  · rw [compares.logged, read]
    simp [complaint?]
  · exact compares.accepted.mpr (by simp [unchanged])

end Printed

/-- A printed list whose names all fit their lines, checked in another world, tells for each input in
order whether it still has its digest, and complains of those that cannot be read. An input that is
too long there ends the run. Nothing has changed in the world in which the list was printed. -/
theorem check_print_compares {before : World} {names : List String} {text : String}
    (fits : ∀ name ∈ names, FitsLine name) (printed : print before names = (text, none)) :
    let listed := if names = [] then ["-"] else names
    (∀ after quiet,
      ((∀ error, .error error ∉ after.readings listed) →
        Compares before after listed quiet (verify after quiet text)) ∧
      ∀ error, .error error ∈ after.readings listed →
        (verify after quiet text).verdict = .error error) ∧
      ∀ quiet, verify before quiet text =
        ⟨if quiet then "" else String.join (listed.map (· ++ ": OK\n")), [], .ok (.ok ())⟩ := by
  intro listed
  have meant : inputs names = listed := inputs_eq names
  obtain ⟨digests, hashed, rfl⟩ := (print_eq_iff before names text).mp printed
  rw [← forall_mem_inputs_iff] at fits
  -- Without names the standard input is listed, so a printed list is never empty.
  have some (after : World) := comparison_inputs_ne_nil before after names
  rw [meant] at hashed fits ⊢
  rw [meant] at some
  refine ⟨fun after quiet => ⟨?_, ?_⟩, ?_⟩
  · exact compares_printed hashed fits quiet (some after)
  · exact fun error => verdict_printed_of_long hashed fits quiet
  · exact fun quiet => verify_printed hashed fits quiet (some before)

/-- The first file is read in other pieces, the second holds other bytes and the third has gone. The
standard input holds the same bytes and fails behind them, so that reading it again fails. -/
theorem check_print_compares_partly :
    let names := ["  a", "*b", "c", "-", "-"]
    let before : World :=
      ⟨fun name => if name = "  a" then .ok [.data [1, 2, 3]] else .ok [.data [4]], [.data [5, 6]]⟩
    let after : World :=
      ⟨fun name =>
          if name = "  a" then .ok [.data [1], .interrupted, .data [2, 3]]
          else if name = "*b" then .ok [.data [6]]
          else .error .notFound,
        [.interrupted, .data [5, 6], .data [], .failed "torn"]⟩
    ∃ text, print before names = (text, none) ∧
      verify after true text = ⟨"*b: FAILED\nc: FAILED\n-: FAILED\n",
        [⟨.warn, "sha512_256sum", "failed to open c: No such file or directory (os error 2)", []⟩,
          ⟨.warn, "sha512_256sum", "failed to read standard input: torn", []⟩],
        .ok (.error (.mismatches 3))⟩ ∧
      verify before false text =
        ⟨"  a: OK\n*b: OK\nc: OK\n-: OK\n-: OK\n", [], .ok (.ok ())⟩ := by
  intro names before after
  have printed : print before names = ((print before names).1, none) :=
    Prod.ext rfl (by decide +kernel)
  obtain ⟨changed, unchanged⟩ := check_print_compares (by decide) printed
  have present : names ≠ [] := List.cons_ne_nil _ _
  simp only [if_neg present] at changed unchanged
  have compared : comparison before after names =
      [⟨"  a", true⟩, ⟨"*b", false⟩, ⟨"c", false⟩, ⟨"-", true⟩, ⟨"-", false⟩] := by
    decide +kernel
  have complaints : (after.readings names).filterMap complaint? =
      ["failed to open c: No such file or directory (os error 2)",
        "failed to read standard input: torn"] := by
    decide +kernel
  have fine : ∀ error, .error error ∉ after.readings names := by
    rintro ⟨⟩
    decide +kernel
  have compares := (changed after true).1 fine
  refine ⟨_, printed, ?_, unchanged false⟩
  ext1
  · rw [compares.printed, compared]
    rfl
  · rw [compares.logged, complaints]
    rfl
  · exact (compares.rejected (by rw [compared]; decide)).trans (by rw [compared]; rfl)

end TruncatedSha.Checksum
