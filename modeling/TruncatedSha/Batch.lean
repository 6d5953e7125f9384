import TruncatedSha.Context
import TruncatedSha.Log

/-!
# Hashing many messages at once

Every message is hashed by a clone of one shared context, so that a context made from a common
beginning hashes that beginning followed by each message. Each message has an output slot of its
own, and what the slots held before is lost.
-/
namespace TruncatedSha.Batch

inductive BatchError where
  | slotMismatch (messages slots : Nat)
  | overflow (error : LengthOverflow)
  deriving DecidableEq, Repr

def BatchError.message : BatchError → String
  | slotMismatch messages slots =>
    "assertion `left == right` failed: one output slot is required per message\n  left: " ++
      toString messages ++ "\n right: " ++ toString slots
  | overflow error => error.message

/-- The work for one message: clone the shared context, feed the clone, finish it. -/
def digestOf (how : Strategy) (shared : Context) (message : Bytes) :
    Except LengthOverflow Digest :=
  (shared.absorb how message).map (Context.finish how)

/-- Slot `i` receives the digest of message `i`. -/
def digests (how : Strategy) (shared : Context) (messages : List Bytes) (slots : List Digest) :
    Except BatchError (List Digest) :=
  if messages.length = slots.length then
    ((messages.zip slots).mapM fun pair => digestOf how shared pair.1).mapError .overflow
  else .error (.slotMismatch messages.length slots.length)

/-- The span that covers one run. -/
def span (slots : Nat) : Log.Span :=
  ⟨.debug, "sha512t_hash::parallel_digest", "ParallelDigest::digest",
    [("n_messages", toString slots)]⟩

/-- Slots before their first use. -/
def freshSlots (count : Nat) : List Digest := List.replicate count (Vector.replicate 32 0)

end TruncatedSha.Batch
