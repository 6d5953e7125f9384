import TruncatedSha.Context

/-!
# Finishing in place

A context is finished where it stands: the padding goes over its buffer part by part, and at the end
there are zeros everywhere. A part of the buffer that does not exist would be refused.
-/
namespace TruncatedSha

inductive OutOfRange where
  | part (start stop : Nat)
  deriving DecidableEq, Repr

/-- Work on the stream that is being finished. -/
abbrev Finishing (σ : Type) := EStateM OutOfRange (Stream σ)

namespace Finishing

variable {σ : Type} (step : σ → Block → σ)

/-- Overwrites the buffer from `start` up to `stop`, which must be there and as long as `bytes`. -/
def overwrite (start stop : Nat) (bytes : Bytes) : Finishing σ Unit :=
  if fits : start + bytes.length = stop ∧ stop ≤ 128 then
    modify fun s => { s with buffer := s.buffer.write start bytes (by omega) }
  else throw (.part start stop)

def clear (start stop : Nat) : Finishing σ Unit := overwrite start stop (zeros (stop - start))

def chain : Finishing σ Unit := modify fun s => { s with chain := step s.chain s.buffer }

/-- Answers how much of the last block is filled when there is room for the length field. -/
def makeRoom (filled : Nat) : Finishing σ Nat :=
  if 128 - filled < 16 then do
    clear filled 128
    chain step
    return 0
  else return filled

def complete (filled : Nat) (count : Count) : Finishing σ Unit := do
  clear filled 112
  overwrite 112 128 (bigEndian 16 count.bitLength.toNat)
  chain step

def pad : Finishing σ Unit := do
  let before ← get
  overwrite before.filled (before.filled + 1) [0x80]
  let filled ← makeRoom step (before.filled + 1)
  complete step filled before.count

def finish (how : Strategy) : Finishing State Digest := do
  pad how.compress
  let padded ← get
  set Context.erased
  return padded.chain.digest

end Finishing

end TruncatedSha
