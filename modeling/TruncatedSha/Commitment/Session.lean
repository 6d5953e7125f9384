import TruncatedSha.Commitment
import TruncatedSha.Session

/-!
# Sessions with named commitments

As `Session`, for hashers with a committed length.
-/
namespace TruncatedSha.Committed

structure View where
  inner : Session.View
  committed : UInt64
  received : UInt64
  remaining : UInt64
  deriving DecidableEq, Repr

def view (h : Committed) : View := ⟨.of h.inner, h.committed, h.received, h.remaining⟩

inductive Command where
  | create (length : UInt64)
  | restore (hasher : Committed)
  | update (data : Bytes)
  /-- Updates a hasher that it consumes, and puts the result in its place. -/
  | chain (data : Bytes)
  | inspect
  | reset
  | duplicate (target : String)
  | describe
  | finish

inductive Answer where
  | absent
  | overflow (error : LengthOverflow)
  | shown (view : View)
  | described (short long : String)
  | digest (digest : Digest)
  | refused (error : CommitmentError)

abbrev Hashers := Store Committed

def keep (hashers : Hashers) (name : String) (h : Committed) : Hashers × Answer :=
  (hashers.put name h, .shown h.view)

/-- Commands on a hasher that exists. -/
def stepOn (how : Strategy) (hashers : Hashers) (name : String) (h : Committed) :
    Command → Hashers × Answer
  | .create length => keep hashers name (new length)
  | .restore h => keep hashers name h
  | .update data =>
    match h.update how data with
    | .ok h => keep hashers name h
    | .error error => (hashers, .overflow error)
  | .chain data =>
    match h.update how data with
    | .ok h => keep hashers name h
    | .error error => (hashers.erase name, .overflow error)
  | .inspect => (hashers, .shown h.view)
  | .reset => keep hashers name h.reset
  | .duplicate target => keep hashers target h
  | .describe => (hashers, .described h.description h.longDescription)
  | .finish =>
    match h.finish how with
    | .ok digest => (hashers.erase name, .digest digest)
    | .error error => (hashers.erase name, .refused error)

/-- One command on the hasher called `name`. Only creation works without one. -/
def step (how : Strategy) (hashers : Hashers) (name : String) (command : Command) :
    Hashers × Answer :=
  match hashers.get? name, command with
  | some h, command => stepOn how hashers name h command
  | none, .create length => keep hashers name (new length)
  | none, .restore h => keep hashers name h
  | none, _ => (hashers, .absent)

/-- The answers to a list of commands, in order. -/
def run (how : Strategy) : Hashers → List (String × Command) → List Answer
  | _, [] => []
  | hashers, (name, command) :: rest =>
    let (hashers, answer) := step how hashers name command
    answer :: run how hashers rest

end TruncatedSha.Committed
