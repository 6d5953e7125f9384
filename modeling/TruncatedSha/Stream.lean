import TruncatedSha.Block
import TruncatedSha.Count

/-!
# Streams of blocks

A stream feeds any chaining function `step` block by block, whatever pieces the data arrives in.
It keeps the chaining value, a buffer for the block that is not full yet, and the number of bytes
seen. Only the first `filled` bytes of the buffer mean anything: it is never cleared when a block
is done. `absorb` takes data in, and `close` pads the message and gives the last chaining value.

With the compression function as `step` this is a hash context. With a `step` that records what
it is given, it is the list of blocks that hashing sees.
-/
namespace TruncatedSha

structure Stream (σ : Type) where
  chain : σ
  buffer : Block
  count : Count

namespace Stream

variable {σ : Type}

def start (chain : σ) : Stream σ := ⟨chain, .zero, 0⟩

/-- The number of bytes in the buffer that wait for their block to fill up. -/
def filled (s : Stream σ) : Nat := s.count.toNat % 128

theorem filled_lt (s : Stream σ) : s.filled < 128 := Nat.mod_lt _ (by decide)

def pending (s : Stream σ) : Bytes := s.buffer.toList.take s.filled

/-- With nothing pending, whole blocks go to `step` straight from the data. -/
def bulk (step : σ → Block → σ) (s : Stream σ) (data : Bytes) : Stream σ :=
  { s with
    chain := (Block.chunks data).foldl step s.chain
    buffer := s.buffer.write 0 (Block.remainder data) (by simp; omega) }

/-- Pending bytes are topped up first. -/
def accept (step : σ → Block → σ) (s : Stream σ) (data : Bytes) : Stream σ :=
  if s.filled = 0 then bulk step s data
  else
    let room := 128 - s.filled
    let head := data.take room
    let buffer := s.buffer.write s.filled head
      (by have := s.filled_lt; simp only [head, room, List.length_take]; omega)
    if s.filled + head.length < 128 then { s with buffer }
    else bulk step { s with chain := step s.chain buffer, buffer } (data.drop room)

/-- Takes `data` in. Empty data never fails. -/
def absorb (step : σ → Block → σ) (s : Stream σ) (data : Bytes) :
    Except LengthOverflow (Stream σ) :=
  if data.isEmpty then .ok s
  else
    match s.count.advance? data.length with
    | none => .error .messageTooLong
    | some count => .ok { accept step s data with count }

/-- Takes in several pieces, one after another. -/
def absorbAll (step : σ → Block → σ) (s : Stream σ) (pieces : List Bytes) :
    Except LengthOverflow (Stream σ) :=
  pieces.foldlM (absorb step) s

/-- A block whose last sixteen bytes are the length of the message in bits. -/
def stamp (block : Block) (count : Count) : Block :=
  block.write 112 (bigEndian 16 count.bitLength.toNat) (by simp)

/-- Pads in place and gives the last chaining value: a mark directly behind the message, zeros,
and the length. If the length does not fit behind the mark, it goes into a block of its own. -/
def close (step : σ → Block → σ) (s : Stream σ) : σ :=
  let marked := s.buffer.write s.filled [0x80] s.filled_lt
  let filled := s.filled + 1
  if short : 128 - filled < 16 then
    let full := marked.write filled (zeros (128 - filled))
      (by have := s.filled_lt; rw [length_zeros]; omega)
    let last := full.write 0 (zeros 112) (by rw [length_zeros]; decide)
    step (step s.chain full) (stamp last s.count)
  else
    let last := marked.write filled (zeros (112 - filled)) (by rw [length_zeros]; omega)
    step s.chain (stamp last s.count)

end Stream

end TruncatedSha
