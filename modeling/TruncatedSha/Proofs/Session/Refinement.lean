import TruncatedSha.Session
import TruncatedSha.Session.Transcript
import TruncatedSha.Proofs.Reader

/-!
# Sessions answer as their transcripts do

Whatever is done in a session that starts out empty, each of its contexts is where its transcript
says, and each answer is that of the transcripts. Nothing of a context's past shows other than the
chaining value it started with and the bytes since then.
-/
namespace TruncatedSha

namespace Session

/-! ## Contexts and transcripts -/

/-- Where a context is after the message of its transcript. -/
structure Describes (how : Strategy) (c : Context) (t : Transcript) : Prop where
  chain : c.chain = (Block.chunks t.message).foldl how.compress t.start
  count : c.count.toNat = t.message.length
  pending : c.pending = Block.remainder t.message

variable {how : Strategy} {c : Context} {t : Transcript}

/-- A context is where its transcript says if it has taken in the message from its start. -/
theorem describes_iff_takes :
    Describes how c t ↔ Stream.Takes how.compress (.start t.start) t.message c := by
  -- Cutting starts at the front of the message: nothing is pending before it, or counted.
  have nothing : (Stream.start t.start).pending = [] := rfl
  have zero : (Stream.start t.start).count.toNat = 0 := rfl
  constructor
  · intro described
    constructor
    · rw [nothing, List.nil_append]
      exact described.chain
    · rw [zero, Nat.zero_add]
      exact described.count
    · rw [nothing, List.nil_append]
      exact described.pending
  · rintro ⟨chain, count, pending⟩
    rw [nothing, List.nil_append] at chain pending
    rw [zero, Nat.zero_add] at count
    exact ⟨chain, count, pending⟩

theorem init_describes (how : Strategy) : Describes how .init .fresh := by
  rw [describes_iff_takes, Transcript.fresh, ← State.initial_eq_standard]
  exact .nil how.compress (.start .initial)

theorem erased_describes (how : Strategy) : Describes how .erased .erased :=
  describes_iff_takes.mpr (.nil how.compress (.start .zero))

theorem Describes.left (described : Describes how c t) : c.count.left = t.room := by
  rw [Count.left_eq, described.count, Transcript.room]

theorem Describes.append (described : Describes how c t) {data : Bytes} {next : Context}
    (fits : data.length ≤ t.room) (taken : Stream.Takes how.compress c data next) :
    Describes how next (t.append data fits) :=
  describes_iff_takes.mpr ((describes_iff_takes.mp described).append taken)

theorem Describes.absorb (described : Describes how c t) (data : Bytes) :
    (∃ next after, c.absorb how data = .ok next ∧ t.absorb? data = some after ∧
      Describes how next after) ∨
    (c.absorb how data = .error .messageTooLong ∧ t.absorb? data = none) := by
  by_cases fits : data.length ≤ t.room
  · obtain ⟨next, absorbed, taken⟩ :=
      Stream.absorb_of_fits how.compress c data (described.left ▸ fits)
    exact .inl ⟨next, _, absorbed, dif_pos fits, described.append fits taken⟩
  · have refused := Stream.absorb_refuses how.compress c data
      (described.left ▸ Nat.lt_of_not_le fits)
    exact .inr ⟨refused, dif_neg fits⟩

theorem Describes.copy (described : Describes how c t) (reads : List Read) :
    ∃ next, Describes how next (t.copy reads) ∧
      Reader.copy how c reads =
        ⟨next, .ofNat ((Reader.contents reads).take (Reader.taken t.room reads)).length,
          if (Reader.contents reads).length ≤ t.room then
            (Reader.failure reads).elim .complete .failed
          else .overflow .messageTooLong⟩ := by
  obtain ⟨next, taken, copied⟩ := Reader.copy_takes how c reads
  rw [described.left] at taken copied
  exact ⟨next, described.append (Reader.length_take_taken t.room reads) taken, copied⟩

theorem Describes.view (described : Describes how c t) : View.of c = t.view how := by
  have count : c.count = .ofNat 128 t.message.length := by
    rw [← described.count, BitVec.ofNat_toNat, BitVec.setWidth_eq]
  rw [View.of, Transcript.view, described.chain, described.pending, count]

/-- Finishing pads the whole message, whatever the chaining value was in front of it. -/
theorem Describes.finish (described : Describes how c t) : c.finish how = t.digest how := by
  rw [Context.finish, (describes_iff_takes.mp described).close_start, Context.digest_eq_truncate,
    Transcript.digest]

/-! ## Steps -/

/-- Two steps with one answer, after which every context is where its transcript says. -/
abbrev Refines (how : Strategy) : Contexts × Answer → Transcript.Transcripts × Answer → Prop :=
  Matches (Store.Related (Describes how))

variable {contexts : Contexts} {transcripts : Transcript.Transcripts}

theorem keep_refines (related : contexts.Related (Describes how) transcripts) (name : String)
    (described : Describes how c t) :
    Refines how (keep contexts name c) (Transcript.keep how transcripts name t) :=
  ⟨related.put name described, congrArg Answer.shown described.view⟩

theorem create_refines (related : contexts.Related (Describes how) transcripts) (name : String)
    (data : Bytes) :
    Refines how
      (match Context.ofPrefix how data with
        | .ok c => keep contexts name c
        | .error error => (contexts, .overflow error))
      (Transcript.create how transcripts name data) := by
  rw [Context.ofPrefix, Transcript.create]
  rcases (init_describes how).absorb data with ⟨next, after, left, right, described⟩ | ⟨left, right⟩
  · rw [left, right]
    exact keep_refines related name described
  · rw [left, right]
    exact ⟨related, rfl⟩

theorem stepOn_refines (related : contexts.Related (Describes how) transcripts) (name : String)
    (described : Describes how c t) (command : Command) (inside : command.restores = false) :
    Refines how (stepOn how contexts name c command)
      (Transcript.stepOn how transcripts name t command) := by
  have fresh := related.put name (init_describes how)
  have restarted := congrArg₂ Answer.restarted described.finish (init_describes how).view
  cases command with
  | create | reset => exact keep_refines related name (init_describes how)
  | createFrom data => exact create_refines related name data
  | restore context => cases inside
  | absorb data =>
    simp only [stepOn, Transcript.stepOn]
    rcases described.absorb data with ⟨next, after, left, right, known⟩ | ⟨left, right⟩
    · rw [left, right]
      exact keep_refines related name known
    · rw [left, right]
      exact ⟨related, rfl⟩
  | write data =>
    simp only [stepOn, Transcript.stepOn]
    rcases described.absorb data with ⟨next, after, left, right, known⟩ | ⟨left, right⟩
    · rw [left, right]
      exact ⟨related.put name known, congrArg (Answer.written · data.length) known.view⟩
    · rw [left, right]
      exact ⟨related, rfl⟩
  | chain data =>
    simp only [stepOn, Transcript.stepOn]
    rcases described.absorb data with ⟨next, after, left, right, known⟩ | ⟨left, right⟩
    · rw [left, right]
      exact keep_refines related name known
    · -- A context that is consumed is gone, also when the data is refused.
      rw [left, right]
      exact ⟨related.erase name, rfl⟩
  | copy reads =>
    obtain ⟨next, known, copied⟩ := described.copy reads
    have kept := related.put name known
    simp only [stepOn, Transcript.stepOn, copied]
    by_cases fits : (Reader.contents reads).length ≤ t.room
    · -- All bytes have been taken, and the reader says how it ends.
      have counted : (UInt64.ofNat (Reader.contents reads).length).toNat =
          (Reader.contents reads).length % 2 ^ 64 := UInt64.toNat_ofNat'
      rw [if_pos fits, if_pos fits, Reader.take_taken_of_fits fits]
      cases Reader.failure reads with
      | none => exact ⟨kept, congrArg₂ Answer.copied known.view counted⟩
      | some reason => exact ⟨kept, congrArg (Answer.copyFailed · reason) known.view⟩
    · -- A portion has been refused, which leaves the context behind the portions before it.
      rw [if_neg fits, if_neg fits]
      exact ⟨kept, rfl⟩
  | inspect => exact ⟨related, congrArg Answer.shown described.view⟩
  | erase => exact keep_refines related name (erased_describes how)
  | finish => exact ⟨related.erase name, congrArg Answer.digest described.finish⟩
  | finishInto room =>
    refine ⟨related.erase name, ?_⟩
    simp only [stepOn, Transcript.stepOn, described.finish]
  | finishReset => exact ⟨fresh, restarted⟩
  | finishIntoReset room =>
    simp only [stepOn, Transcript.stepOn]
    split
    · exact ⟨fresh, restarted⟩
    · exact ⟨related, congrArg Answer.keptWrongSize described.view⟩
  | finishErasing =>
    exact ⟨related.put name (erased_describes how),
      congrArg₂ (Answer.erased · · .zero) described.finish (erased_describes how).view⟩
  | discard => exact ⟨related.erase name, rfl⟩
  | duplicate target => exact keep_refines related target described
  | describe => exact ⟨related, rfl⟩

theorem step_refines (related : contexts.Related (Describes how) transcripts)
    (input : String × Command) (inside : input.2.restores = false) :
    Refines how (advance how contexts input) (Transcript.advance how transcripts input) := by
  obtain ⟨name, command⟩ := input
  unfold advance step Transcript.advance
  rcases related.get? name with ⟨left, right⟩ | ⟨c, t, left, right, described⟩
  · simp only [left, right]
    cases command with
    | create => exact keep_refines related name (init_describes how)
    | createFrom data => exact create_refines related name data
    | restore context => cases inside
    | _ => exact ⟨related, rfl⟩
  · simp only [left, right]
    exact stepOn_refines related name described command inside

/-- Every context that a session arrives at has a transcript. -/
theorem exists_describes (how : Strategy) (commands : List (String × Command))
    (inside : ∀ input ∈ commands, input.2.restores = false) {name : String} {c : Context}
    (found : (after how .empty commands).get? name = some c) : ∃ t, Describes how c t := by
  have kept : ∀ input ∈ commands, ∀ s t, Store.Related (Describes how) s t →
      Refines how (advance how s input) (Transcript.advance how t input) := by
    intro input member s t related
    exact step_refines related input (inside input member)
  have related := (replay_matches kept (Store.Related.empty _)).1
  -- Contexts and transcripts have the same names.
  rcases related.get? name with ⟨missing, -⟩ | ⟨c', t, there, -, described⟩
  · cases found.symm.trans missing
  · cases found.symm.trans there
    exact ⟨t, described⟩

/-! ## At the limit -/

/-- A context with room for one byte refuses two of them. Of a reader that gives one byte and then two
it keeps the one. -/
theorem exists_almost_full (how : Strategy) :
    ∃ c next, Context.ofPrefix how (zeros (2 ^ 125 - 2)) = .ok c ∧
      c.absorb how [1, 2] = .error .messageTooLong ∧
      Reader.copy how c [.data [1], .data [2, 3]] = ⟨next, 1, .overflow .messageTooLong⟩ ∧
      next.count.toNat = c.count.toNat + 1 := by
  have size : (zeros (2 ^ 125 - 2)).length = 2 ^ 125 - 2 := length_zeros _
  have fits : (zeros (2 ^ 125 - 2)).length ≤ 2 ^ 125 - 1 := by rw [size]; decide
  obtain ⟨c, made, began⟩ := Context.exists_ofPrefix_eq how fits
  have room : c.count.left = 1 := by
    rw [Count.left_eq, began.count, Context.toNat_count_init, size]
    decide
  have refused := Stream.absorb_refuses how.compress c [1, 2] (by rw [room]; decide)
  obtain ⟨next, taken, copied⟩ := Reader.copy_takes how c [.data [1], .data [2, 3]]
  rw [room] at taken copied
  exact ⟨c, next, made, refused, copied, taken.count⟩

section Refusing

variable {beginning data : Bytes} {reads : List Read} {next : Context} {moved : UInt64}
  (made : Context.ofPrefix how beginning = .ok c)
  (copied : Reader.copy how c reads = ⟨next, moved, .overflow .messageTooLong⟩)

include made copied

theorem run_cut_copy :
    run how .empty [("a", .createFrom beginning), ("a", .copy reads)] =
        [.shown (.of c), .overflow .messageTooLong] ∧
      (after how .empty [("a", .createFrom beginning)]).get? "a" = some c ∧
      (after how .empty [("a", .createFrom beginning), ("a", .copy reads)]).get? "a" =
        some next := by
  simp [run, after, replay, advance, step, stepOn, keep, made, copied, Store.get?_put]

/-- Data is refused all at once, and then in the middle of a reader. -/
theorem run_refusals (refused : c.absorb how data = .error .messageTooLong)
    (rest : List (String × Command)) :
    ∃ answers, run how .empty (("a", .createFrom beginning) :: ("a", .absorb data) ::
        ("a", .copy reads) :: rest) =
      .shown (.of c) :: .overflow .messageTooLong :: .overflow .messageTooLong :: answers := by
  simp [run, step, stepOn, keep, made, refused, copied, Store.get?_put]

end Refusing

/-- Copying that is refused may have changed the context: the bytes in front of the portion that did not
fit have been taken in. -/
theorem refused_copy_keeps_portions :
    let made : String × Command := ("a", .createFrom (zeros (2 ^ 125 - 2)))
    let refused : String × Command := ("a", .copy [.data [1], .data [2, 3]])
    ∃ c next, run .unrolled .empty [made, refused] = [.shown (.of c), .overflow .messageTooLong] ∧
      (after .unrolled .empty [made]).get? "a" = some c ∧
      (after .unrolled .empty [made, refused]).get? "a" = some next ∧
      next.count.toNat = c.count.toNat + 1 := by
  obtain ⟨c, next, made, -, copied, longer⟩ := exists_almost_full .unrolled
  obtain ⟨answered, before, behind⟩ := run_cut_copy made copied
  exact ⟨c, next, answered, before, behind, longer⟩

/-- A session gives the answers of its transcripts, and leaves every context where they say: its
chaining value, its counter and its pending bytes are those of the whole message. -/
theorem run_refines (how : Strategy) (commands : List (String × Command))
    (inside : ∀ input ∈ commands, input.2.restores = false) :
    run how .empty commands = (replay (Transcript.advance how) .empty commands).2 ∧
      (after how .empty commands).Related (Describes how)
        (replay (Transcript.advance how) .empty commands).1 := by
  have kept : ∀ input ∈ commands, ∀ s t, Store.Related (Describes how) s t →
      Refines how (advance how s input) (Transcript.advance how t input) := by
    intro input member s t related
    exact step_refines related input (inside input member)
  rw [run_eq_replay]
  exact (replay_matches kept (Store.Related.empty _)).symm

/-- A context has room for one byte, refuses two, and keeps one of three. Two others part ways. One of
them keeps its message where there is no room for the digest, then goes on from zeros instead of the
initial state, and is used up; the other one starts over. -/
theorem run_refines_apart :
    let commands : List (String × Command) :=
      [("a", .createFrom (zeros (2 ^ 125 - 2))), ("a", .absorb [1, 2]),
        ("a", .copy [.data [1], .data [2, 3]]), ("a", .createFrom (zeros 130)),
        ("a", .duplicate "b"), ("b", .chain [1]), ("a", .finishIntoReset 31),
        ("a", .finishErasing), ("a", .write [2]), ("a", .finish),
        ("b", .copy [.interrupted, .data (zeros 126)]), ("b", .copy [.data [3], .failed "gone"]),
        ("b", .finishReset)]
    (∀ input ∈ commands, input.2.restores = false) ∧
      (run .unrolled .empty commands =
          (replay (Transcript.advance .unrolled) .empty commands).2 ∧
        (after .unrolled .empty commands).Related (Describes .unrolled)
          (replay (Transcript.advance .unrolled) .empty commands).1) ∧
      ∃ view answers, run .unrolled .empty commands =
        .shown view :: .overflow .messageTooLong :: .overflow .messageTooLong :: answers := by
  intro commands
  have inside : ∀ input ∈ commands, input.2.restores = false := by
    simp [commands, Command.restores]
  obtain ⟨c, next, made, refused, copied, -⟩ := exists_almost_full .unrolled
  obtain ⟨answers, refusals⟩ := run_refusals made copied refused (commands.drop 3)
  exact ⟨inside, run_refines .unrolled commands inside, _, answers, refusals⟩

end Session

end TruncatedSha
