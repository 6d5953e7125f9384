import Mathlib.Algebra.Order.Ring.Nat
import TruncatedSha.Batch
import TruncatedSha.Replay

/-!
# Tasks running side by side

Each message has a task of three steps: clone the shared context, feed the clone, finish it and
store the digest. A schedule says whose turn it is, step by step, and may mix the tasks in any
order. A task whose message does not fit its context stops for good.

Whoever owns the slots sees them again, after a failure as well. So a round changes its floor in
place, turn by turn, and fails before the first turn if there is not a slot for every message. The
next round finds the shared context as this one leaves it.
-/
namespace TruncatedSha.Batch

inductive Task where
  | waiting (message : Bytes)
  | cloned (message : Bytes) (own : Context)
  | fed (own : Context)
  | stored
  | stopped (error : LengthOverflow)

/-- The shared context, a task and a slot for every message, and the numbers of the slots written
so far, the latest first. -/
structure Floor where
  shared : Context
  tasks : List Task
  slots : List Digest
  written : List Nat

namespace Floor

def start (shared : Context) (messages : List Bytes) (slots : List Digest) : Floor :=
  ⟨shared, messages.map .waiting, slots, []⟩

/-- One step of task `i`. Finished tasks, and numbers that are no task's, do nothing. -/
def step (how : Strategy) (f : Floor) (i : Nat) : Floor :=
  match f.tasks[i]? with
  | some (.waiting message) => { f with tasks := f.tasks.set i (.cloned message f.shared) }
  | some (.cloned message own) =>
    match own.absorb how message with
    | .ok own => { f with tasks := f.tasks.set i (.fed own) }
    | .error error => { f with tasks := f.tasks.set i (.stopped error) }
  | some (.fed own) =>
    { f with
      tasks := f.tasks.set i .stored
      slots := f.slots.set i (own.finish how)
      written := i :: f.written }
  | _ => f

def run (how : Strategy) (f : Floor) (schedule : List Nat) : Floor := schedule.foldl (step how) f

/-- A schedule is complete for `count` tasks if each of them gets its three turns. -/
def Complete (schedule : List Nat) (count : Nat) : Prop := ∀ i < count, 3 ≤ schedule.count i

end Floor

/-- A run under a schedule, on a floor of its own. The shared context is left as it was. -/
def interleaved (how : Strategy) (shared : Context) (messages : List Bytes) (slots : List Digest)
    (schedule : List Nat) : Except BatchError Floor :=
  if messages.length = slots.length then .ok ((Floor.start shared messages slots).run how schedule)
  else .error (.slotMismatch messages.length slots.length)

/-! ## Rounds with one shared context -/

structure Round where
  messages : List Bytes
  slots : List Digest
  schedule : List Nat

/-- Work on a floor in place. It ends with the floor as it then is, in a failure as well. -/
abbrev Shift := EStateM BatchError Floor

def turn (how : Strategy) (i : Nat) : Shift Unit := modify fun f => f.step how i

def serve (how : Strategy) (schedule : List Nat) : Shift Unit := do
  let f ← get
  if f.tasks.length ≠ f.slots.length then
    throw (.slotMismatch f.tasks.length f.slots.length)
  schedule.forM (turn how)

abbrev Outcome := EStateM.Result BatchError Floor Unit

def Outcome.floor : Outcome → Floor
  | .ok _ f | .error _ f => f

namespace Round

def opening (r : Round) (shared : Context) : Floor := .start shared r.messages r.slots

/-- The shared context after the round, and how the round ended. -/
def visit (how : Strategy) (shared : Context) (r : Round) : Context × Outcome :=
  let outcome := (serve how r.schedule).run (r.opening shared)
  (Outcome.floor outcome |>.shared, outcome)

/-- If every message has a slot, every task gets its turns, and every message has room behind
`beginning`. -/
def Fits (beginning : Bytes) (r : Round) : Prop :=
  r.messages.length = r.slots.length →
    Floor.Complete r.schedule r.messages.length ∧
      ∀ message ∈ r.messages, beginning.length + message.length ≤ 2 ^ 125 - 1

end Round

/-- One round after another, all with the context that was made first. -/
def rounds (how : Strategy) (shared : Context) (planned : List Round) : Context × List Outcome :=
  replay (Round.visit how) shared planned

end TruncatedSha.Batch
