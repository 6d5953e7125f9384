import TruncatedSha.Context
import TruncatedSha.Log

/-!
# Hashing a message of a committed length

The length of the message is announced before its bytes arrive. Bytes past it are counted and
never hashed, and the digest is given out only if exactly the committed number came.
-/
namespace TruncatedSha

structure Committed where
  inner : Context
  committed : UInt64
  received : UInt64

/-- The two ways of breaking a commitment. -/
inductive CommitmentError where
  | notEnoughData (committed hashed : UInt64)
  | tooMuchData (committed received : UInt64)
  deriving DecidableEq, Repr

namespace CommitmentError

def name : CommitmentError → String
  | notEnoughData .. => "NotEnoughData"
  | tooMuchData .. => "TooMuchData"

def message : CommitmentError → String
  | notEnoughData committed hashed =>
    "Not enough data to finalize hash (expected " ++ toString committed.toNat ++
      " bytes, hashed " ++ toString hashed.toNat ++ " bytes)"
  | tooMuchData committed received =>
    "Too much data to hash (expected " ++ toString committed.toNat ++
      " bytes, received " ++ toString received.toNat ++ " bytes)"

def description : CommitmentError → String
  | notEnoughData committed hashed =>
    "NotEnoughData \x7b committed: " ++ toString committed.toNat ++
      ", hashed: " ++ toString hashed.toNat ++ " \x7d"
  | tooMuchData committed received =>
    "TooMuchData \x7b committed: " ++ toString committed.toNat ++
      ", received: " ++ toString received.toNat ++ " \x7d"

/-- A broken commitment is worth a line in a detailed log. -/
def event : CommitmentError → Log.Event
  | notEnoughData committed hashed =>
    ⟨.debug, "commitment", "message shorter than committed length",
      [("committed", toString committed.toNat), ("received", toString hashed.toNat)]⟩
  | tooMuchData committed received =>
    ⟨.debug, "commitment", "message longer than committed length",
      [("committed", toString committed.toNat), ("received", toString received.toNat)]⟩

end CommitmentError

namespace Committed

def new (committed : UInt64) : Committed := ⟨.init, committed, 0⟩

/-- The number of bytes that are still to come. -/
def remaining (h : Committed) : UInt64 :=
  if h.received ≤ h.committed then h.committed - h.received else 0

/-- Adds a number of bytes to a counter that stops at its largest value. -/
def countBytes (received : UInt64) (bytes : Nat) : UInt64 :=
  if received.toNat + bytes < UInt64.size then received + UInt64.ofNat bytes
  else UInt64.ofNat (UInt64.size - 1)

/-- Hashes as much of `data` as the commitment has room for, and counts all of it. -/
def update (how : Strategy) (h : Committed) (data : Bytes) : Except LengthOverflow Committed :=
  match h.inner.absorb how (data.take h.remaining.toNat) with
  | .error error => .error error
  | .ok inner => .ok { h with inner, received := countBytes h.received data.length }

/-- Takes in several pieces, one after another. -/
def updateAll (how : Strategy) (h : Committed) (pieces : List Bytes) :
    Except LengthOverflow Committed :=
  pieces.foldlM (update how) h

def finish (how : Strategy) (h : Committed) : Except CommitmentError Digest :=
  if h.received < h.committed then .error (.notEnoughData h.committed h.received)
  else if h.committed < h.received then .error (.tooMuchData h.committed h.received)
  else .ok (h.inner.finish how)

/-- Starts over under the same commitment. -/
def reset (h : Committed) : Committed := new h.committed

/-- On one line. -/
def description (h : Committed) : String :=
  "Sha512_256FixedLen \x7b inner: " ++ Context.description ++
    ", committed: " ++ toString h.committed.toNat ++
    ", received: " ++ toString h.received.toNat ++ " \x7d"

/-- With a line for every part. -/
def longDescription (h : Committed) : String :=
  "Sha512_256FixedLen \x7b\n    inner: " ++ Context.description ++
    ",\n    committed: " ++ toString h.committed.toNat ++
    ",\n    received: " ++ toString h.received.toNat ++ ",\n\x7d"

end Committed

/-- The digest of `message` under a commitment to its own length. -/
def committedHash (how : Strategy) (message : Bytes) :
    Except LengthOverflow (Except CommitmentError Digest) :=
  ((Committed.new (UInt64.ofNat message.length)).update how message).map (Committed.finish how)

end TruncatedSha
