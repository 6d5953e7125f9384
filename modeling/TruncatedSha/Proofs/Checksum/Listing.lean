import TruncatedSha.Checksum.Listing
import TruncatedSha.Proofs.Checksum
import TruncatedSha.Proofs.Checksum.Entry

/-!
# Reading back a printed list

A list is printed if every input has a digest at its place, and then has an entry for each of them.
Its lines read back as these entries if every name fits its line, and otherwise they do not: a line
feed in a name makes two lines of one, and a carriage return at its end is lost.
-/
namespace TruncatedSha.Checksum

/-! ## Inputs at their places -/

theorem World.digests_cons (w : World) (name : String) (rest : List String) :
    w.digests (name :: rest) = w.digest? name :: (w.after name).digests rest := by
  simp only [World.digests, List.mapIdx_cons, List.take_succ_cons]
  rfl

theorem World.readings_cons (w : World) (name : String) (rest : List String) :
    w.readings (name :: rest) = w.reading name :: (w.after name).readings rest := by
  simp only [World.readings, List.mapIdx_cons, List.take_succ_cons]
  rfl

@[simp] theorem World.length_digests (w : World) (names : List String) :
    (w.digests names).length = names.length := by
  simp [World.digests]

@[simp] theorem World.length_readings (w : World) (names : List String) :
    (w.readings names).length = names.length := by
  simp [World.readings]

theorem World.digest?_eq_some_iff (w : World) (name : String) (digest : Digest) :
    w.digest? name = some digest ↔ w.reading name = .ok (.ok digest) := by
  unfold World.digest? World.reading
  cases w.source name with
  | error error => simp
  | ok reads =>
    dsimp only
    cases hash .unrolled (Reader.contents reads) with
    | error error => simp [Except.map, Except.toOption]
    | ok actual => cases Reader.failure reads <;> simp [Except.map, Except.toOption]

theorem World.digest?_of_reading {w : World} {name : String} {result : Except String Digest}
    (read : w.reading name = .ok result) : w.digest? name = result.toOption := by
  apply Option.ext
  intro digest
  rw [World.digest?_eq_some_iff, read]
  cases result <;> simp [Except.toOption]

theorem World.digest?_eq (w : World) (name : String) :
    w.digest? name = (hashInput w name).1.toOption := by
  apply Option.ext
  intro digest
  rw [World.digest?_eq_some_iff]
  rcases hashInput_fst_cases w name with ⟨error, read, hashed⟩ | ⟨error, read, hashed, -⟩ |
    ⟨actual, read, hashed⟩
  all_goals rw [read, hashed]; simp [Except.toOption]

theorem World.digest?_of_empty {w : World} {name : String} (empty : w.source name = .ok []) :
    w.digest? name = some (Padding.digest Strategy.unrolled.compress []) := by
  rw [World.digest?, empty]
  dsimp only
  rw [if_pos (by rfl), hash_eq_digest .unrolled _ (Nat.zero_le _)]
  rfl

theorem World.digests_of_empty {w : World} (empty : w.standardInput = []) {names : List String}
    (each : ∀ name ∈ names, w.source name = .ok []) :
    w.digests names =
      (List.replicate names.length (Padding.digest Strategy.unrolled.compress [])).map some := by
  induction names with
  | nil => rfl
  | cons name rest ih =>
    rw [List.forall_mem_cons] at each
    rw [World.digests_cons, World.after_of_empty empty, World.digest?_of_empty each.1, ih each.2]
    rfl

/-- No input without a name has a digest, wherever it stands. -/
theorem name_ne_empty_of_digests {w : World} {names : List String} {digests : List Digest}
    (hashed : w.digests names = digests.map some) : ∀ name ∈ names, name ≠ "" := by
  induction names generalizing w digests with
  | nil => exact List.forall_mem_nil _
  | cons name rest ih =>
    rw [World.digests_cons] at hashed
    obtain ⟨digest, others, rfl, found, later⟩ := List.map_eq_cons_iff.mp hashed.symm
    refine List.forall_mem_cons.mpr ⟨?_, ih later.symm⟩
    rintro rfl
    -- No file has an empty name, and the standard input has another one.
    cases found

/-! ## Entries -/

theorem entries_eq_iff (world : World) (names : List String) (es : List Entry) :
    entries world names = (es, none) ↔
      ∃ digests, world.digests names = digests.map some ∧
        es = List.zipWith Entry.mk digests names := by
  -- The induction goes on in the world that the first input leaves.
  induction names generalizing world es with
  | nil =>
    constructor
    · intro done
      cases done
      exact ⟨[], rfl, rfl⟩
    · rintro ⟨digests, -, rfl⟩
      rw [List.zipWith_nil_right]
      rfl
  | cons name rest ih =>
    rw [World.digests_cons, World.digest?_eq, ← hashInput_snd, entries]
    rcases hashInput world name with ⟨error | digest, after⟩
    · constructor
      · intro failed
        cases failed
      · rintro ⟨digests, hashed, -⟩
        cases digests <;> cases hashed
    · dsimp only
      -- A failure among the others is the failure of the whole.
      rcases later : entries after rest with ⟨others, failure⟩
      constructor
      · intro done
        cases done
        obtain ⟨digests, hashed, rfl⟩ := (ih after others).mp later
        exact ⟨digest :: digests, by rw [hashed]; rfl, rfl⟩
      · rintro ⟨digests, hashed, rfl⟩
        obtain ⟨first, digests, rfl, same, behind⟩ := List.map_eq_cons_iff.mp hashed.symm
        cases same
        have done := (ih after _).mpr ⟨digests, behind.symm, rfl⟩
        rw [later] at done
        cases done
        rfl

theorem print_eq_iff (world : World) (names : List String) (text : String) :
    print world names = (text, none) ↔
      ∃ digests, world.digests (inputs names) = digests.map some ∧
        text = listing (List.zipWith Entry.mk digests (inputs names)) := by
  rw [print]
  rcases found : entries world (inputs names) with ⟨es, failure⟩
  constructor
  · intro done
    cases done
    obtain ⟨digests, hashed, rfl⟩ := (entries_eq_iff world _ es).mp found
    exact ⟨digests, hashed, rfl⟩
  · rintro ⟨digests, hashed, rfl⟩
    have done := (entries_eq_iff world _ _).mpr ⟨digests, hashed, rfl⟩
    rw [found] at done
    cases done
    rfl

/-! ## Lines -/

theorem toList_listing (es : List Entry) :
    (listing es).toList = (es.map fun e => e.format.toList).flatMap (· ++ ['\n']) := by
  simp [listing, String.toList_join, List.flatMap_map]

/-- Without line feeds in the names there is a line for each entry. -/
theorem lines_listing {es : List Entry} (unbroken : ∀ e ∈ es, '\n' ∉ e.name.toList) :
    Text.lines (listing es) =
      es.map fun e => String.ofList (Text.closeLine e.format.toList.reverse) := by
  have parts : ∀ part ∈ es.map fun e => e.format.toList, '\n' ∉ part := by
    intro part member
    obtain ⟨e, listed, rfl⟩ := List.mem_map.mp member
    rw [Entry.newline_mem_format_iff]
    exact unbroken e listed
  rw [Text.lines, toList_listing, Text.linesFrom_flatMap parts, List.map_map, List.map_map]
  rfl

theorem unbroken_of_length_lines {es : List Entry}
    (same : (Text.lines (listing es)).length = es.length) : ∀ e ∈ es, '\n' ∉ e.name.toList := by
  rw [Text.lines, toList_listing, List.length_map] at same
  have parts := Text.unbroken_of_length_eq (same.trans (List.length_map _).symm)
  intro e listed
  rw [← Entry.newline_mem_format_iff]
  exact parts _ (List.mem_map_of_mem listed)

/-- The lines read back as the entries if each name fits its line, and not otherwise. -/
theorem map_parse_lines_listing_iff {es : List Entry} (named : ∀ e ∈ es, e.name ≠ "") :
    (Text.lines (listing es)).map Entry.parse = es.map .ok ↔ ∀ e ∈ es, FitsLine e.name := by
  constructor
  · intro same
    -- A line feed in a name would make more lines than there are entries.
    have lengths := congrArg List.length same
    rw [List.length_map, List.length_map] at lengths
    have unbroken := unbroken_of_length_lines lengths
    rw [lines_listing unbroken, List.map_map, List.map_inj_left] at same
    intro e listed
    have read := same e listed
    rw [Function.comp_apply, Entry.parse, String.toList_ofList] at read
    exact ⟨unbroken e listed, ((Entry.parseChars_closeLine_eq_ok_iff e).mp read).2⟩
  · intro fits
    rw [lines_listing fun e listed => (fits e listed).1, List.map_map, List.map_inj_left]
    intro e listed
    rw [Function.comp_apply, Entry.parse, String.toList_ofList]
    exact (Entry.parseChars_closeLine_eq_ok_iff e).mpr ⟨named e listed, (fits e listed).2⟩

/-! ## Whole lists -/

theorem map_name_zipWith {digests : List Digest} {names : List String}
    (same : digests.length = names.length) :
    (List.zipWith Entry.mk digests names).map Entry.name = names := by
  have second : (List.zipWith Entry.mk digests names).map Entry.name =
      (digests.zip names).map Prod.snd := by
    rw [List.map_zipWith, List.zip, List.map_zipWith]
  rw [second, List.map_snd_zip (Nat.le_of_eq same.symm)]

theorem length_of_digests {w : World} {names : List String} {digests : List Digest}
    (hashed : w.digests names = digests.map some) : digests.length = names.length := by
  rw [← World.length_digests w names, hashed, List.length_map]

theorem forall_mem_inputs_iff (names : List String) :
    (∀ name ∈ inputs names, FitsLine name) ↔ ∀ name ∈ names, FitsLine name := by
  cases names with
  | nil => simp [inputs, FitsLine, standardName]
  | cons name rest => rfl

/-- What is printed reads back, line by line, as the digests and the names of the inputs, if no name
holds a line feed and none ends in a carriage return. A list with any other name does not read back. -/
theorem print_reads_back_iff {world : World} {names : List String} {text : String}
    (printed : print world names = (text, none)) :
    ∃ digests, world.digests (inputs names) = digests.map some ∧
      ((Text.lines text).map Entry.parse =
          (List.zipWith Entry.mk digests (inputs names)).map .ok ↔
        ∀ name ∈ names, FitsLine name) := by
  obtain ⟨digests, hashed, rfl⟩ := (print_eq_iff world names text).mp printed
  refine ⟨digests, hashed, ?_⟩
  -- The names of the entries are those of the inputs, and none of them is empty.
  have listed := map_name_zipWith (length_of_digests hashed)
  have named := name_ne_empty_of_digests hashed
  rw [← listed, List.forall_mem_map] at named
  rw [map_parse_lines_listing_iff named, ← forall_mem_inputs_iff, ← List.forall_mem_map, listed]

/-- Names may begin with the marks and hold spaces. The standard input is empty when it is read
again. -/
theorem print_reads_back_iff_marked :
    let world : World := ⟨fun _ => .ok [], []⟩
    ∃ text digests, print world ["  a b", "*", "-", "-"] = (text, none) ∧
      world.digests ["  a b", "*", "-", "-"] = digests.map some ∧
      (Text.lines text).map Entry.parse =
        (List.zipWith Entry.mk digests ["  a b", "*", "-", "-"]).map .ok := by
  intro world
  have each : ∀ name ∈ ["  a b", "*", "-", "-"], world.source name = .ok [] := by
    simp only [List.forall_mem_cons]
    exact ⟨rfl, rfl, rfl, rfl, List.forall_mem_nil _⟩
  have hashed := World.digests_of_empty rfl each
  have printed := (print_eq_iff world ["  a b", "*", "-", "-"] _).mpr ⟨_, hashed, rfl⟩
  obtain ⟨digests, listed, reads⟩ := print_reads_back_iff printed
  exact ⟨_, digests, printed, listed, reads.mpr (by decide)⟩

/-- A line feed in a name ends the line of its entry, and what follows it is a line of its own. -/
theorem lines_listing_of_feed (digest : Digest) {front : String} (fits : FitsLine front)
    (back : String) :
    Text.lines (listing [⟨digest, front ++ "\n" ++ back⟩]) =
      Entry.format ⟨digest, front⟩ :: Text.lines (back ++ "\n") := by
  have text : (listing [⟨digest, front ++ "\n" ++ back⟩]).toList =
      (Entry.format ⟨digest, front⟩).toList ++ '\n' :: (back ++ "\n").toList := by
    rw [toList_listing]
    simp [Entry.toList_format]
  have unbroken := (Entry.newline_mem_format_iff ⟨digest, front⟩).not.mpr fits.1
  rw [Text.lines, text, Text.linesFrom_append unbroken, List.append_nil, List.map_cons,
    Entry.closeLine_format fits.2, String.ofList_toList]
  rfl

/-- A carriage return at the end of a name ends its line, and is not part of it. -/
theorem lines_listing_of_return (digest : Digest) {front : String}
    (unbroken : '\n' ∉ front.toList) :
    Text.lines (listing [⟨digest, front ++ "\r"⟩]) = [Entry.format ⟨digest, front⟩] := by
  have line : (Entry.format ⟨digest, front ++ "\r"⟩).toList =
      (Entry.format ⟨digest, front⟩).toList ++ ['\r'] := by
    simp [Entry.toList_format]
  rw [lines_listing (by simpa using unbroken), List.map_singleton, line,
    Text.closeLine_concat_return, String.ofList_toList]

/-- A line feed in the name of an empty file makes two lines of one, and a carriage return at its end
is lost: what is listed is another file. -/
theorem print_splits_and_cuts_names :
    let world : World := ⟨fun _ => .ok [], []⟩
    ∃ digest, world.digests ["a\nb"] = [some digest] ∧ world.digests ["a\r"] = [some digest] ∧
      (∃ text, print world ["a\nb"] = (text, none) ∧
        (Text.lines text).map Entry.parse = [.ok ⟨digest, "a"⟩, .error .noSpace] ∧
        (Text.lines text).map Entry.parse ≠ [.ok ⟨digest, "a\nb"⟩]) ∧
      ∃ text, print world ["a\r"] = (text, none) ∧
        (Text.lines text).map Entry.parse = [.ok ⟨digest, "a"⟩] ∧
        (Text.lines text).map Entry.parse ≠ [.ok ⟨digest, "a\r"⟩] := by
  intro world
  have hashed (name : String) (there : world.source name = .ok []) :
      world.digests [name] = [Padding.digest Strategy.unrolled.compress []].map some :=
    World.digests_of_empty rfl (List.forall_mem_singleton.mpr there)
  have printed (name : String) (there : world.source name = .ok []) :
      print world [name] = (listing [⟨Padding.digest Strategy.unrolled.compress [], name⟩], none) :=
    (print_eq_iff world [name] _).mpr ⟨_, hashed name there, rfl⟩
  -- How the text falls into lines does not depend on the digest.
  have twoLines (digest : Digest) : (Text.lines (listing [⟨digest, "a\nb"⟩])).map Entry.parse =
      [.ok ⟨digest, "a"⟩, .error .noSpace] := by
    rw [show "a\nb" = "a" ++ "\n" ++ "b" by decide, lines_listing_of_feed digest (by decide),
      List.map_cons, Entry.parse_format]
    rfl
  have shorter (digest : Digest) : (Text.lines (listing [⟨digest, "a\r"⟩])).map Entry.parse =
      [.ok ⟨digest, "a"⟩] := by
    rw [show "a\r" = "a" ++ "\r" by decide, lines_listing_of_return digest (by decide),
      List.map_singleton, Entry.parse_format]
    rfl
  refine ⟨_, hashed "a\nb" rfl, hashed "a\r" rfl, ⟨_, printed "a\nb" rfl, twoLines _, ?_⟩,
    ⟨_, printed "a\r" rfl, shorter _, ?_⟩⟩
  · rw [twoLines]
    simp
  · rw [shorter]
    simp

end TruncatedSha.Checksum
