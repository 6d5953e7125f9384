import Mathlib.Algebra.Order.Ring.Nat
import TruncatedSha.Standard
import TruncatedSha.Reader
import TruncatedSha.Session

/-!
# Sessions of transcripts

A transcript is what a context stands for: the chaining value it started with, and all bytes since.
Nothing is compressed before it is asked for. Sessions of transcripts understand the commands of
sessions of contexts, except for the one that brings a context in from outside.
-/
namespace TruncatedSha

/-- Whether a command brings a context in from outside, with a past that nobody has seen. -/
def Session.Command.restores : Session.Command → Bool
  | .restore _ => true
  | _ => false

structure Transcript where
  start : State
  message : Bytes
  bounded : message.length ≤ 2 ^ 125 - 1

namespace Transcript

/-- Nothing has been absorbed since the standard's initial value. -/
def fresh : Transcript := ⟨Padding.initial, [], Nat.zero_le _⟩

/-- What is behind a context that has been overwritten with zeros. -/
def erased : Transcript := ⟨⟨0, 0, 0, 0, 0, 0, 0, 0⟩, [], Nat.zero_le _⟩

/-- How many more bytes there is room for. -/
def room (t : Transcript) : Nat := 2 ^ 125 - 1 - t.message.length

def append (t : Transcript) (data : Bytes) (fits : data.length ≤ t.room) : Transcript where
  start := t.start
  message := t.message ++ data
  bounded := by
    have := t.bounded
    simp only [room] at fits
    rw [List.length_append]
    omega

/-- All of the data, or nothing. -/
def absorb? (t : Transcript) (data : Bytes) : Option Transcript :=
  if fits : data.length ≤ t.room then some (t.append data fits) else none

/-- Takes in of a reader what is read in front of the first portion that does not fit. -/
def copy (t : Transcript) (reads : List Read) : Transcript :=
  t.append ((Reader.contents reads).take (Reader.taken t.room reads))
    (Reader.length_take_taken t.room reads)

/-! ## What can be asked -/

/-- The chaining value behind the whole blocks, the length, and what is left of the message. -/
def view (how : Strategy) (t : Transcript) : Session.View where
  state := (Block.chunks t.message).foldl how.compress t.start
  count := .ofNat 128 t.message.length
  pending := Block.remainder t.message

/-- The digest of the message, padded by the standard. -/
def digest (how : Strategy) (t : Transcript) : Digest :=
  Padding.truncate ((Padding.blocks t.message).foldl how.compress t.start)

/-! ## Commands -/

open Session (Command Answer)

abbrev Transcripts := Store Transcript

variable (how : Strategy) (transcripts : Transcripts) (name : String)

def keep (t : Transcript) : Transcripts × Answer := (transcripts.put name t, .shown (t.view how))

def create (data : Bytes) : Transcripts × Answer :=
  match fresh.absorb? data with
  | some t => keep how transcripts name t
  | none => (transcripts, .overflow .messageTooLong)

/-- Commands on a transcript that exists. -/
def stepOn (t : Transcript) : Command → Transcripts × Answer
  | .create | .reset => keep how transcripts name fresh
  | .createFrom data => create how transcripts name data
  | .restore _ => (transcripts, .absent)
  | .absorb data =>
    match t.absorb? data with
    | some t => keep how transcripts name t
    | none => (transcripts, .overflow .messageTooLong)
  | .write data =>
    match t.absorb? data with
    | some t => (transcripts.put name t, .written (t.view how) data.length)
    | none => (transcripts, .overflow .messageTooLong)
  | .chain data =>
    match t.absorb? data with
    | some t => keep how transcripts name t
    | none => (transcripts.erase name, .overflow .messageTooLong)
  | .copy reads =>
    let view := (t.copy reads).view how
    (transcripts.put name (t.copy reads),
      if (Reader.contents reads).length ≤ t.room then
        match Reader.failure reads with
        | none => .copied view ((Reader.contents reads).length % 2 ^ 64)
        | some reason => .copyFailed view reason
      else .overflow .messageTooLong)
  | .inspect => (transcripts, .shown (t.view how))
  | .erase => keep how transcripts name erased
  | .finish => (transcripts.erase name, .digest (t.digest how))
  | .finishInto room =>
    (transcripts.erase name, if room = 32 then .digest (t.digest how) else .wrongSize)
  | .finishReset => (transcripts.put name fresh, .restarted (t.digest how) (fresh.view how))
  | .finishIntoReset room =>
    if room = 32 then (transcripts.put name fresh, .restarted (t.digest how) (fresh.view how))
    else (transcripts, .keptWrongSize (t.view how))
  | .finishErasing =>
    (transcripts.put name erased, .erased (t.digest how) (erased.view how) (.replicate 128 0))
  | .discard => (transcripts.erase name, .discarded)
  | .duplicate target => keep how transcripts target t
  | .describe => (transcripts, .described Context.description)

/-- One command on the transcript of that name. Only creation works without one. -/
def advance (input : String × Command) : Transcripts × Answer :=
  match transcripts.get? input.1, input.2 with
  | some t, command => stepOn how transcripts input.1 t command
  | none, .create => keep how transcripts input.1 fresh
  | none, .createFrom data => create how transcripts input.1 data
  | none, _ => (transcripts, .absent)

end Transcript

end TruncatedSha
