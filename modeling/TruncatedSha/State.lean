import TruncatedSha.Block

/-!
# Chaining states and digests

Eight words are carried from block to block. A digest is the first half of the last state.
-/
namespace TruncatedSha

structure State where
  a : UInt64
  b : UInt64
  c : UInt64
  d : UInt64
  e : UInt64
  f : UInt64
  g : UInt64
  h : UInt64
  deriving DecidableEq, Repr

abbrev Digest := Vector UInt8 32

namespace State

def words (s : State) : List UInt64 := [s.a, s.b, s.c, s.d, s.e, s.f, s.g, s.h]

def ofWords? : List UInt64 → Option State
  | [a, b, c, d, e, f, g, h] => some ⟨a, b, c, d, e, f, g, h⟩
  | _ => none

@[simp] theorem ofWords?_words (s : State) : ofWords? s.words = some s := rfl

/-- Wordwise addition modulo `2 ^ 64`. -/
def add (s t : State) : State :=
  ⟨s.a + t.a, s.b + t.b, s.c + t.c, s.d + t.d, s.e + t.e, s.f + t.f, s.g + t.g, s.h + t.h⟩

def zero : State := ⟨0, 0, 0, 0, 0, 0, 0, 0⟩

/-- The SHA-512/256 initial hash value, FIPS 180-4 section 5.3.6.2. -/
def initial : State where
  a := 0x22312194fc2bf72c
  b := 0x9f555fa3c84c64c2
  c := 0x2393b86b6f53b151
  d := 0x963877195940eabd
  e := 0x96283ee2a88effe3
  f := 0xbe5e1e2553863992
  g := 0x2b0199fc2c85b8aa
  h := 0x0eb72ddc81c52ca2

/-- The big-endian bytes of the first four words. -/
def digest (s : State) : Digest :=
  ⟨([s.a, s.b, s.c, s.d].flatMap fun word => bigEndian 8 word.toNat).toArray, by simp⟩

end State

end TruncatedSha
