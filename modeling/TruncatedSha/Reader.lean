import TruncatedSha.Context

/-!
# Reading into a context

A reader is the list of what its reads give: data, an interruption, which is tried again, or a
failure. An empty read ends the input, and so does the end of the list. A read gives at most
`portion` bytes at a time, and each portion is absorbed before the next read. Bytes are counted in a
word, which starts over at `2 ^ 64`.

Seen as a whole, a reader holds the bytes in front of its end, and the end may be a failure. How the
bytes are cut into reads, and where these are interrupted, is no part of it.
-/
namespace TruncatedSha

inductive Read where
  | data (bytes : Bytes)
  | interrupted
  | failed (reason : String)
  deriving DecidableEq, Repr

namespace Reader

def portion : Nat := 8192

/-- What single reads give of a longer piece of data. -/
def portions (bytes : Bytes) : List Bytes :=
  if _done : bytes = [] then []
  else bytes.take portion :: portions (bytes.drop portion)
termination_by bytes.length
decreasing_by
  have := List.length_pos_iff.mpr _done
  simp only [List.length_drop, portion]
  omega

inductive Ending where
  | complete
  | failed (reason : String)
  | overflow (error : LengthOverflow)
  deriving DecidableEq, Repr

/-- A context with what it has taken in of a reader, how many bytes that is, and why no more. -/
structure Transfer where
  context : Context
  moved : UInt64
  ending : Ending

/-- Absorbs portions one by one, up to the first that does not fit. -/
def takeIn (how : Strategy) (c : Context) (moved : UInt64) : List Bytes → Transfer
  | [] => ⟨c, moved, .complete⟩
  | bytes :: rest =>
    match c.absorb how bytes with
    | .ok c => takeIn how c (moved + .ofNat bytes.length) rest
    | .error error => ⟨c, moved, .overflow error⟩

/-- Reads until the end of the input or the first failure. -/
def copyFrom (how : Strategy) (c : Context) (moved : UInt64) : List Read → Transfer
  | [] => ⟨c, moved, .complete⟩
  | .interrupted :: rest => copyFrom how c moved rest
  | .failed reason :: _ => ⟨c, moved, .failed reason⟩
  | .data bytes :: rest =>
    if bytes.isEmpty then ⟨c, moved, .complete⟩
    else
      match takeIn how c moved (portions bytes) with
      | ⟨c, moved, .complete⟩ => copyFrom how c moved rest
      | stopped => stopped

def copy (how : Strategy) (c : Context) (reads : List Read) : Transfer := copyFrom how c 0 reads

/-- Why a reader has no digest. Too much data is no failure that its owner could go on from. -/
inductive ReadError where
  | failed (reason : String)
  | overflow (error : LengthOverflow)
  deriving DecidableEq, Repr

def ReadError.message : ReadError → String
  | failed reason => reason
  | overflow error => error.message

/-- The digest of all that a reader gives. -/
def hash (how : Strategy) (reads : List Read) : Except ReadError Digest :=
  match copy how .init reads with
  | ⟨c, _, .complete⟩ => .ok (c.finish how)
  | ⟨_, _, .failed reason⟩ => .error (.failed reason)
  | ⟨_, _, .overflow error⟩ => .error (.overflow error)

/-- What a reader gives to whoever goes on reading behind its end or its first failure. -/
def rest : List Read → List Read
  | [] => []
  | .interrupted :: more => rest more
  | .failed _ :: more => more
  | .data bytes :: more => if bytes.isEmpty then more else rest more

end Reader

/-! ## What there is to read -/

namespace Read

def bytes : Read → Bytes
  | .data bytes => bytes
  | .interrupted | .failed _ => []

/-- Whether nothing is read behind it: it is an empty read or a failure. -/
def ends : Read → Bool
  | .data bytes => bytes.isEmpty
  | .interrupted => false
  | .failed _ => true

@[simp] theorem ends_data (bytes : Bytes) : (data bytes).ends = bytes.isEmpty := rfl

def failure : Read → Option String
  | .failed reason => some reason
  | .data _ | .interrupted => none

end Read

namespace Reader

/-- The bytes in front of the end. -/
def contents (reads : List Read) : Bytes := (reads.takeWhile fun read => !read.ends).flatMap Read.bytes

/-- Why the reading fails, if it does. -/
def failure (reads : List Read) : Option String := (reads.find? Read.ends).bind Read.failure

/-- What lies behind the end. -/
def behind (reads : List Read) : List Read := (reads.dropWhile fun read => !read.ends).tail

/-- How many of the bytes are taken in where there is room for so many. A piece of data is read in
portions of 8192 bytes, and the first portion that does not fit is the last that is read. -/
def taken (room : Nat) : List Read → Nat
  | [] => 0
  | .interrupted :: rest => taken room rest
  | .failed _ :: _ => 0
  | .data bytes :: rest =>
    if bytes.isEmpty then 0
    else if bytes.length ≤ room then bytes.length + taken (room - bytes.length) rest
    else room / 8192 * 8192

theorem taken_le (room : Nat) (reads : List Read) : taken room reads ≤ room := by
  induction reads generalizing room with
  | nil => exact Nat.zero_le room
  | cons read rest ih =>
    cases read with
    | interrupted => exact ih room
    | failed reason => exact Nat.zero_le room
    | data bytes =>
      have others := ih (room - bytes.length)
      rw [taken]
      split
      next => exact Nat.zero_le room
      next =>
        split
        next fits => omega
        next => exact Nat.div_mul_le_self room 8192

theorem length_take_taken (room : Nat) (reads : List Read) :
    ((contents reads).take (taken room reads)).length ≤ room :=
  Nat.le_trans (List.length_take_le ..) (taken_le room reads)

end Reader

end TruncatedSha
