import TruncatedSha.Stream

/-!
# Absorbing in place

A stream belongs to someone who sees it again also when data is refused. Here it is changed piece by
piece, in the order in which the data goes through it, and a refusal leaves it as it is by then.
-/
namespace TruncatedSha

/-- Work on a stream in place. It ends with the stream as it then is, in a failure as well. -/
abbrev InPlace (σ : Type) := EStateM LengthOverflow (Stream σ)

namespace InPlace

variable {σ : Type} (step : σ → Block → σ)

/-- Moves the counter on by a number of bytes. This alone can fail. -/
def advance (bytes : Nat) : InPlace σ Unit := do
  match (← get).count.advance? bytes with
  | none => throw .messageTooLong
  | some count => modify fun s => { s with count }

def chain (block : Block) : InPlace σ Unit :=
  modify fun s => { s with chain := step s.chain block }

def write (start : Nat) (bytes : Bytes) (fits : start + bytes.length ≤ 128) : InPlace σ Unit :=
  modify fun s => { s with buffer := s.buffer.write start bytes fits }

/-- With nothing pending, block after block goes to `step`, and what is left to the buffer. -/
def bulk (data : Bytes) : InPlace σ Unit := do
  (Block.chunks data).forM (chain step)
  write 0 (Block.remainder data) (Block.zero_add_length_remainder_le data)

def absorb (data : Bytes) : InPlace σ Unit := do
  if data.isEmpty then return
  let before ← get
  let room := 128 - before.filled
  -- The counter moves first, so what waits in the buffer is counted by the old one from here on.
  advance data.length
  if before.filled = 0 then bulk step data
  else
    let head := data.take room
    write before.filled head
      (by have := before.filled_lt; simp only [head, room, List.length_take]; omega)
    if before.filled + head.length < 128 then return
    chain step (← get).buffer
    bulk step (data.drop room)

/-- Absorbs pieces one after another, up to the first that is refused. -/
def absorbAll (pieces : List Bytes) : InPlace σ Unit := pieces.forM (absorb step)

end InPlace

end TruncatedSha
