import TruncatedSha.Compression
import TruncatedSha.Stream

/-!
# Hash contexts

A context is a stream of blocks into the compression function. Finishing pads the message and
takes the digest. The finisher `finishErasing` leaves a context of zeros behind, which is usable
but is not a fresh one: its state words are zero and not the initial hash value.
-/
namespace TruncatedSha

abbrev Context := Stream State

namespace Context

def init : Context := .start .initial

def erased : Context := .start .zero

def absorb (how : Strategy) (c : Context) (data : Bytes) : Except LengthOverflow Context :=
  Stream.absorb how.compress c data

def absorbAll (how : Strategy) (c : Context) (pieces : List Bytes) :
    Except LengthOverflow Context :=
  Stream.absorbAll how.compress c pieces

/-- A fresh context that has taken in `data`. -/
def ofPrefix (how : Strategy) (data : Bytes) : Except LengthOverflow Context :=
  absorb how init data

/-- The digest of the message so far. -/
def finish (how : Strategy) (c : Context) : Digest := (Stream.close how.compress c).digest

/-- Finishes and overwrites state, buffer and counter with zeros. -/
def finishErasing (how : Strategy) (c : Context) : Digest × Context := (finish how c, erased)

/-- Finishes and starts over. -/
def finishReset (how : Strategy) (c : Context) : Digest × Context :=
  ((finishErasing how c).1, init)

/-- Contexts do not show their contents. -/
def description : String := "Sha512_256 \x7b ... \x7d"

end Context

/-- The SHA-512/256 digest of a message. -/
def hash (how : Strategy) (message : Bytes) : Except LengthOverflow Digest :=
  (Context.absorb how .init message).map (Context.finish how)

end TruncatedSha
