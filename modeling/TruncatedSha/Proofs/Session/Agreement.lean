import TruncatedSha.Session
import TruncatedSha.Proofs.Reader

/-!
# Sessions do not see dead bytes

Two sessions whose contexts differ in dead bytes of their buffers at most cannot be told apart by
any commands, and differ in dead bytes at most when the commands are through.
-/
namespace TruncatedSha

theorem Reader.copy_agree (how : Strategy) {c d : Context} (same : Stream.Agree c d)
    (reads : List Read) :
    ∃ c' d' moved ending, copy how c reads = ⟨c', moved, ending⟩ ∧
      copy how d reads = ⟨d', moved, ending⟩ ∧ Stream.Agree c' d' := by
  obtain ⟨c', leftTaken, left⟩ := copy_takes how c reads
  obtain ⟨d', rightTaken, right⟩ := copy_takes how d reads
  -- The room is read off the counter, so both take in the same portions.
  rw [← same.count] at rightTaken right
  exact ⟨c', d', _, _, left, right, same.takes leftTaken rightTaken⟩

namespace Session

theorem view_eq_of_agree {c d : Context} (same : Stream.Agree c d) : View.of c = View.of d := by
  rw [View.of, View.of, same.chain, same.count, same.pending]

/-- Two steps with one answer, after which the sessions agree name by name. -/
abbrev Alike : Contexts × Answer → Contexts × Answer → Prop :=
  Matches (Store.Related Stream.Agree)

variable {left right : Contexts}

theorem keep_alike (same : left.Related Stream.Agree right) (name : String) {c d : Context}
    (agree : Stream.Agree c d) : Alike (keep left name c) (keep right name d) :=
  ⟨same.put name agree, congrArg Answer.shown (view_eq_of_agree agree)⟩

theorem create_alike (how : Strategy) (same : left.Related Stream.Agree right) (name : String)
    (data : Bytes) :
    Alike
      (match Context.ofPrefix how data with
        | .ok c => keep left name c
        | .error error => (left, .overflow error))
      (match Context.ofPrefix how data with
        | .ok c => keep right name c
        | .error error => (right, .overflow error)) := by
  cases Context.ofPrefix how data with
  | ok fresh => exact keep_alike same name (.refl fresh)
  | error error => exact ⟨same, rfl⟩

/-- One command on contexts that agree: what it answers and what it leaves is decided by what the
two have in common. -/
theorem stepOn_alike (how : Strategy) (same : left.Related Stream.Agree right) (name : String)
    {c d : Context} (agree : Stream.Agree c d) (command : Command) :
    Alike (stepOn how left name c command) (stepOn how right name d command) := by
  -- An answer shows no more of a context than its view and its digest.
  have view := view_eq_of_agree agree
  have digest := Context.finish_eq_of_agree how agree
  have fresh := same.put name (.refl Context.init)
  cases command with
  | create | reset | erase | restore => exact keep_alike same name (.refl _)
  | createFrom data => exact create_alike how same name data
  | absorb data =>
    simp only [stepOn, Context.absorb]
    rcases agree.absorb how.compress data with ⟨c', d', first, second, next⟩ | ⟨first, second⟩
    · rw [first, second]
      exact keep_alike same name next
    · rw [first, second]
      exact ⟨same, rfl⟩
  | write data =>
    simp only [stepOn, Context.absorb]
    rcases agree.absorb how.compress data with ⟨c', d', first, second, next⟩ | ⟨first, second⟩
    · rw [first, second]
      exact ⟨same.put name next, congrArg (Answer.written · data.length) (view_eq_of_agree next)⟩
    · rw [first, second]
      exact ⟨same, rfl⟩
  | chain data =>
    simp only [stepOn, Context.absorb]
    rcases agree.absorb how.compress data with ⟨c', d', first, second, next⟩ | ⟨first, second⟩
    · rw [first, second]
      exact keep_alike same name next
    · rw [first, second]
      exact ⟨same.erase name, rfl⟩
  | copy reads =>
    obtain ⟨c', d', moved, ending, first, second, next⟩ := Reader.copy_agree how agree reads
    simp only [stepOn, first, second]
    have shown := view_eq_of_agree next
    cases ending with
    | complete => exact ⟨same.put name next, congrArg (Answer.copied · moved.toNat) shown⟩
    | failed reason => exact ⟨same.put name next, congrArg (Answer.copyFailed · reason) shown⟩
    | overflow error => exact ⟨same.put name next, rfl⟩
  | inspect => exact ⟨same, congrArg Answer.shown view⟩
  | finish => exact ⟨same.erase name, congrArg Answer.digest digest⟩
  | finishInto room =>
    refine ⟨same.erase name, ?_⟩
    simp only [stepOn, digest]
  | finishReset => exact ⟨fresh, congrArg (Answer.restarted · (.of .init)) digest⟩
  | finishIntoReset room =>
    simp only [stepOn]
    split
    · exact ⟨fresh, congrArg (Answer.restarted · (.of .init)) digest⟩
    · exact ⟨same, congrArg Answer.keptWrongSize view⟩
  | finishErasing =>
    exact ⟨same.put name (.refl _), congrArg (Answer.erased · (.of .erased) .zero) digest⟩
  | discard => exact ⟨same.erase name, rfl⟩
  | duplicate target => exact keep_alike same target agree
  | describe => exact ⟨same, rfl⟩

/-- One command on sessions that agree name by name, whether there is a context or not. -/
theorem step_alike (how : Strategy) (same : left.Related Stream.Agree right) (name : String)
    (command : Command) : Alike (step how left name command) (step how right name command) := by
  unfold step
  rcases same.get? name with ⟨missing, absent⟩ | ⟨c, d, found, present, agree⟩
  · simp only [missing, absent]
    cases command with
    | create | restore => exact keep_alike same name (.refl _)
    | createFrom data => exact create_alike how same name data
    | _ => exact ⟨same, rfl⟩
  · simp only [found, present]
    exact stepOn_alike how same name agree command

/-- Dead bytes never matter: whatever is done with them, sessions that differ in dead bytes give one
list of answers, overflows included, and differ in dead bytes again. -/
theorem run_agree (how : Strategy) (commands : List (String × Command))
    (same : left.Related Stream.Agree right) :
    run how left commands = run how right commands ∧
      (after how left commands).Related Stream.Agree (after how right commands) := by
  have kept : ∀ input ∈ commands, ∀ s t, Store.Related Stream.Agree s t →
      Alike (advance how s input) (advance how t input) := by
    intro input _ s t related
    exact step_alike how related input.1 input.2
  rw [run_eq_replay, run_eq_replay]
  exact (replay_matches kept same).symm

/-- Two bytes are pending, in front of stale ones here and of zeros there. One copy is finished as
it is, and another after its block has been completed. -/
theorem run_agree_stale :
    let stale : Context := ⟨.zero, .replicate 128 0xff, 130⟩
    let clean : Context := ⟨.zero, Block.zero.write 0 [0xff, 0xff] (by decide), 130⟩
    let commands : List (String × Command) :=
      [("a", .duplicate "b"), ("b", .finishReset), ("a", .write (zeros 126)), ("a", .finish)]
    stale.buffer ≠ clean.buffer ∧
      (Store.empty.put "a" stale).Related Stream.Agree (Store.empty.put "a" clean) ∧
      run .unrolled (Store.empty.put "a" stale) commands =
        run .unrolled (Store.empty.put "a" clean) commands ∧
      (after .unrolled (Store.empty.put "a" stale) commands).Related Stream.Agree
        (after .unrolled (Store.empty.put "a" clean) commands) := by
  intro stale clean commands
  have same : (Store.empty.put "a" stale).Related Stream.Agree (Store.empty.put "a" clean) :=
    (Store.Related.empty _).put "a" ⟨rfl, rfl, by decide⟩
  have differ : stale.buffer ≠ clean.buffer := by
    intro alike
    -- The third byte is dead, as only two are pending.
    have third : stale.buffer[2] = clean.buffer[2] := by rw [alike]
    exact absurd third (by decide)
  exact ⟨differ, same, run_agree .unrolled commands same⟩

end Session

end TruncatedSha
