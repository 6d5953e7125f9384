import Mathlib.Algebra.Order.Ring.Nat
import TruncatedSha.RoundConstant
import TruncatedSha.State
import TruncatedSha.Block
import TruncatedSha.Count

/-!
# The standard

FIPS 180-4 as it is printed. The compression function of section 6.4.2 lays out the whole schedule of
eighty words before the first round, and its functions have their textbook form, in which a rotation
is a rotation of bits. The padding of section 5.1.2 is written on the whole message at once: nothing
is buffered and nothing is compressed early. Nothing computes with either; they say what has to be
computed.
-/
namespace TruncatedSha.Standard

/-! ## Compression -/

def rotateRight (amount : Nat) (x : UInt64) : UInt64 := ⟨x.toBitVec.rotateRight amount⟩

def choose (x y z : UInt64) : UInt64 := (x &&& y) ^^^ (~~~x &&& z)

def majority (x y z : UInt64) : UInt64 := (x &&& y) ^^^ (x &&& z) ^^^ (y &&& z)

def bigSigma0 (x : UInt64) : UInt64 := rotateRight 28 x ^^^ rotateRight 34 x ^^^ rotateRight 39 x

def bigSigma1 (x : UInt64) : UInt64 := rotateRight 14 x ^^^ rotateRight 18 x ^^^ rotateRight 41 x

def smallSigma0 (x : UInt64) : UInt64 := rotateRight 1 x ^^^ rotateRight 8 x ^^^ (x >>> 7)

def smallSigma1 (x : UInt64) : UInt64 := rotateRight 19 x ^^^ rotateRight 61 x ^^^ (x >>> 6)

/-- The words of the block and the `n` schedule words after them. -/
def scheduleTo (block : Block) : (n : Nat) → Vector UInt64 (16 + n)
  | 0 => Vector.ofFn block.word
  | n + 1 =>
    let w := scheduleTo block n
    -- The latest sixteen words are counted from the oldest of them, word `n`.
    let latest (k : Fin 16) : UInt64 := w.get (k.addNat n)
    w.push (smallSigma1 (latest 14) + latest 9 + smallSigma0 (latest 1) + latest 0)

def schedule (block : Block) : Vector UInt64 80 := scheduleTo block 64

def round (v : State) (constant word : UInt64) : State :=
  let t1 := v.h + bigSigma1 v.e + choose v.e v.f v.g + constant + word
  let t2 := bigSigma0 v.a + majority v.a v.b v.c
  { a := t1 + t2, b := v.a, c := v.b, d := v.c, e := v.d + t1, f := v.e, g := v.f, h := v.g }

def compress (s : State) (block : Block) : State :=
  let rounds := roundConstants.toList.zip (schedule block).toList
  let v := rounds.foldl (fun v (constant, word) => round v constant word) s
  { a := s.a + v.a, b := s.b + v.b, c := s.c + v.c, d := s.d + v.d,
    e := s.e + v.e, f := s.f + v.f, g := s.g + v.g, h := s.h + v.h }

/-! ## Constants -/

/-- The first eighty primes. -/
def primes : Vector Nat 80 :=
  #v[2, 3, 5, 7, 11, 13, 17, 19, 23, 29, 31, 37, 41, 43, 47, 53, 59, 61, 67, 71, 73, 79, 83, 89, 97,
    101, 103, 107, 109, 113, 127, 131, 137, 139, 149, 151, 157, 163, 167, 173, 179, 181, 191, 193,
    197, 199, 211, 223, 227, 229, 233, 239, 241, 251, 257, 263, 269, 271, 277, 281, 283, 293, 307,
    311, 313, 317, 331, 337, 347, 349, 353, 359, 367, 373, 379, 383, 389, 397, 401, 409]

/-- The word is the first 64 bits of the fractional part of the cube root of `n`. The roots of the
first eighty primes are less than eight. -/
def CubeRootFraction (n : Nat) (word : UInt64) : Prop :=
  ∃ whole < 8, let root := whole * 2 ^ 64 + word.toNat
    root ^ 3 ≤ n * 2 ^ 192 ∧ n * 2 ^ 192 < (root + 1) ^ 3

instance (n : Nat) (word : UInt64) : Decidable (CubeRootFraction n word) :=
  inferInstanceAs (Decidable (∃ whole < 8, _))

end TruncatedSha.Standard

namespace TruncatedSha.Padding

/-! ## Padding -/

/-- The least number of zeros that, with the mark and the length field, completes a block. -/
def zeroCount (length : Nat) : Nat := (239 - length % 128) % 128

/-- What follows a message of `length` bytes whose length in bits is given as a field. -/
def suffix (length : Nat) (field : BitVec 128) : Bytes :=
  0x80 :: (zeros (zeroCount length) ++ bigEndian 16 field.toNat)

def pad (message : Bytes) : Bytes :=
  message ++ suffix message.length (BitVec.ofNat 128 (8 * message.length))

/-- The blocks that a message is hashed as. -/
def blocks (message : Bytes) : List Block := Block.chunks (pad message)

/-! ## Digests -/

/-- The bytes of the eight words that hashing ends in. -/
def output (s : State) : Bytes :=
  [s.a, s.b, s.c, s.d, s.e, s.f, s.g, s.h].flatMap fun word => bigEndian 8 word.toNat

theorem length_output (s : State) : (output s).length = 64 := by
  simp [output]

theorem length_take_output (s : State) : ((output s).take 32).toArray.size = 32 := by
  rw [List.size_toArray, List.length_take, length_output]
  rfl

/-- The leftmost 256 bits, section 6.7. -/
def truncate (s : State) : Digest := ⟨((output s).take 32).toArray, length_take_output s⟩

/-- The digest over any compression function: fold it over the blocks, and keep half. -/
def digest (compress : State → Block → State) (message : Bytes) : Digest :=
  truncate ((blocks message).foldl compress .initial)

/-- What `SHA-512/256` hashing starts from, section 5.3.6: what SHA-512 makes of its own name when each
word of its own initial value, section 5.3.5, is changed in every other bit. -/
def initial : State :=
  (blocks "SHA-512/256".toUTF8.toList).foldl Standard.compress {
    a := 0x6a09e667f3bcc908 ^^^ 0xa5a5a5a5a5a5a5a5, b := 0xbb67ae8584caa73b ^^^ 0xa5a5a5a5a5a5a5a5,
    c := 0x3c6ef372fe94f82b ^^^ 0xa5a5a5a5a5a5a5a5, d := 0xa54ff53a5f1d36f1 ^^^ 0xa5a5a5a5a5a5a5a5,
    e := 0x510e527fade682d1 ^^^ 0xa5a5a5a5a5a5a5a5, f := 0x9b05688c2b3e6c1f ^^^ 0xa5a5a5a5a5a5a5a5,
    g := 0x1f83d9abfb41bd6b ^^^ 0xa5a5a5a5a5a5a5a5, h := 0x5be0cd19137e2179 ^^^ 0xa5a5a5a5a5a5a5a5 }

end TruncatedSha.Padding
