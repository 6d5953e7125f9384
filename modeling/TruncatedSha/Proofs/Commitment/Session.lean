import TruncatedSha.Commitment.Session
import TruncatedSha.Replay
import TruncatedSha.Proofs.Commitment.Verdict

/-!
# Commitments along a session

Beside a session of hashers runs a ledger. Under each name stands all that the hasher of this name
was given since it was new, whether it could hash the bytes or not; a copy takes over the bytes that
its source was given.

From one new hasher on, whatever is given to it and to its copies, no command fails, and each hasher
stands where the bytes in the ledger put it: it has counted all of them and hashed no more than its
commitment.
-/
namespace TruncatedSha.Committed

/-! ## What hashers have been given -/

/-- Whether a command brings in a hasher that does not come from one in the session. -/
def Command.introduces : Command → Bool
  | .create _ | .restore _ => true
  | _ => false

def Answer.overflows : Answer → Bool
  | .overflow _ => true
  | _ => false

def advance (how : Strategy) (hashers : Hashers) (input : String × Command) : Hashers × Answer :=
  step how hashers input.1 input.2

/-- The hashers that a list of commands leaves behind. -/
def after (how : Strategy) (hashers : Hashers) (commands : List (String × Command)) : Hashers :=
  (replay (advance how) hashers commands).1

theorem run_eq_replay (how : Strategy) (hashers : Hashers) (commands : List (String × Command)) :
    run how hashers commands = (replay (advance how) hashers commands).2 := by
  induction commands generalizing hashers with
  | nil => rfl
  | cons input rest ih => exact congrArg (List.cons _) (ih _)

abbrev Ledger := Store Bytes

namespace Ledger

/-- A command on a name under which `message` stands. -/
def enter (ledger : Ledger) (name : String) (message : Bytes) : Command → Ledger
  | .update data | .chain data => ledger.put name (message ++ data)
  | .reset => ledger.put name []
  | .duplicate target => ledger.put target message
  | .finish => ledger.erase name
  | .create _ | .restore _ | .inspect | .describe => ledger

def advance (ledger : Ledger) (input : String × Command) : Ledger :=
  match ledger.get? input.1 with
  | some message => ledger.enter input.1 message input.2
  | none => ledger

def after (ledger : Ledger) (commands : List (String × Command)) : Ledger :=
  commands.foldl advance ledger

end Ledger

/-! ## Where that puts them -/

/-- Where `message` puts a hasher for `expected` bytes. -/
structure Follows (how : Strategy) (expected : UInt64) (h : Committed) (message : Bytes) : Prop where
  committed : h.committed = expected
  received : h.received.toNat = min message.length (2 ^ 64 - 1)
  remaining : h.remaining.toNat = expected.toNat - message.length
  inner : ∃ c, Context.init.absorb how (message.take expected.toNat) = .ok c ∧
    Stream.Agree c h.inner
  digest : ∀ digest, h.finish how = .ok digest ↔
    min message.length (2 ^ 64 - 1) = expected.toNat ∧
      hash how (message.take expected.toNat) = .ok digest

variable {how : Strategy} {expected : UInt64} {message : Bytes} {h : Committed}

theorem Given.follows (given : Given how expected message h) : Follows how expected h message where
  committed := given.committed
  received := given.received
  remaining := by
    have small := expected.toNat_lt
    rw [toNat_remaining, given.committed, given.received, largest]
    omega
  inner := by
    have fits : (message.take expected.toNat).length ≤ 2 ^ 125 - 1 := by
      have small := expected.toNat_lt
      rw [List.length_take]
      omega
    obtain ⟨c, absorbed, taken⟩ := Context.exists_ofPrefix_eq how fits
    exact ⟨c, absorbed, taken.agree given.inner⟩
  digest := given.finish_eq_ok_iff

/-! ## Steps -/

variable {hashers : Hashers} {ledger : Ledger}

/-- Each hasher has been given what the ledger says. -/
abbrev Accounted (how : Strategy) (expected : UInt64) : Hashers → Ledger → Prop :=
  Store.Related fun h message => Given how expected message h

theorem stepOn_accounted (related : Accounted how expected hashers ledger) (name : String)
    (given : Given how expected message h) (command : Command)
    (inside : command.introduces = false) :
    Accounted how expected (stepOn how hashers name h command).1
        (ledger.enter name message command) ∧
      (stepOn how hashers name h command).2.overflows = false := by
  cases command with
  | create | restore => cases inside
  | update data | chain data =>
    obtain ⟨next, updated, givenMore⟩ := given.update data
    simp only [stepOn, updated]
    exact ⟨related.put name givenMore, rfl⟩
  | inspect | describe => exact ⟨related, rfl⟩
  | reset =>
    have fresh := new_given how expected
    simp only [stepOn, Committed.reset, given.committed]
    exact ⟨related.put name fresh, rfl⟩
  | duplicate target => exact ⟨related.put target given, rfl⟩
  | finish =>
    -- The hasher is used up, whichever way it ends.
    simp only [stepOn]
    cases h.finish how with
    | ok digest => exact ⟨related.erase name, rfl⟩
    | error error => exact ⟨related.erase name, rfl⟩

theorem step_accounted (related : Accounted how expected hashers ledger)
    (input : String × Command) (inside : input.2.introduces = false) :
    Accounted how expected (advance how hashers input).1 (ledger.advance input) ∧
      (advance how hashers input).2.overflows = false := by
  obtain ⟨name, command⟩ := input
  unfold advance step Ledger.advance
  rcases related.get? name with ⟨left, right⟩ | ⟨h, message, left, right, given⟩
  · simp only [left, right]
    cases command with
    | create | restore => cases inside
    | _ => exact ⟨related, rfl⟩
  · simp only [left, right]
    exact stepOn_accounted related name given command inside

/-- A new hasher and everything that is made from it keep to the commitment: no command fails, and
each of them has hashed the first bytes of what it was given, as many as were announced, and has
counted all of it. -/
theorem run_keeps_commitment (how : Strategy) (expected : UInt64) (name : String)
    (commands : List (String × Command))
    (inside : ∀ input ∈ commands, input.2.introduces = false) :
    (∀ answer ∈ run how (Store.empty.put name (new expected)) commands,
      answer.overflows = false) ∧
    (after how (Store.empty.put name (new expected)) commands).Related (Follows how expected)
      (Ledger.after (Store.empty.put name []) commands) := by
  have start : Accounted how expected (Store.empty.put name (new expected))
      (Store.empty.put name []) :=
    (Store.Related.empty _).put name (new_given how expected)
  have kept : ∀ input ∈ commands, ∀ hashers ledger, Accounted how expected hashers ledger →
      Accounted how expected (advance how hashers input).1 (Ledger.advance ledger input) ∧
        (advance how hashers input).2.overflows = false := by
    intro input member hashers ledger related
    exact step_accounted related input (inside input member)
  obtain ⟨related, answers⟩ :=
    replay_keeps (P := fun answer : Answer => answer.overflows = false) kept start
  rw [run_eq_replay]
  exact ⟨answers, related.imp fun _ _ given => given.follows⟩

/-- Five bytes are announced. A copy is made in the middle of them, and given too many; the first
hasher starts over. -/
theorem run_keeps_commitment_copied :
    let commands : List (String × Command) :=
      [("a", .update [1, 2, 3]), ("a", .duplicate "b"), ("b", .chain [4, 5, 6]), ("b", .update [7]),
        ("a", .reset), ("a", .update [8])]
    (∀ input ∈ commands, input.2.introduces = false) ∧
      (∀ answer ∈ run .looped (Store.empty.put "a" (new 5)) commands,
        answer.overflows = false) ∧
      (after .looped (Store.empty.put "a" (new 5)) commands).Related (Follows .looped 5)
        (Ledger.after (Store.empty.put "a" []) commands) := by
  intro commands
  have inside : ∀ input ∈ commands, input.2.introduces = false := by decide
  exact ⟨inside, run_keeps_commitment .looped 5 "a" commands inside⟩

end TruncatedSha.Committed
