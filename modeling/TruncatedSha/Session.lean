import TruncatedSha.Reader
import TruncatedSha.Store
import TruncatedSha.Replay

/-!
# Sessions with named contexts

Any number of contexts live side by side under names. A command works on one of them and is
answered; `run` answers a whole list. A command that consumes its context takes it out of the
session, whether it succeeds or not. Any other command that fails leaves the context as it was.
-/
namespace TruncatedSha.Session

/-- What a context shows: everything that its future depends on. -/
structure View where
  state : State
  count : Count
  pending : Bytes
  deriving DecidableEq, Repr

def View.of (c : Context) : View := ⟨c.chain, c.count, c.pending⟩

/-- The context that shows `v`, with a buffer that is zero behind the pending bytes. There is one
only if the counter says how many bytes are pending. -/
def View.context? (v : View) : Option Context :=
  if pending : v.pending.length = v.count.toNat % 128 then
    some ⟨v.state, Block.zero.write 0 v.pending (by omega), v.count⟩
  else none

inductive Command where
  | create
  | createFrom (data : Bytes)
  | restore (context : Context)
  | absorb (data : Bytes)
  /-- Absorbs and answers with the number of bytes taken, which is all of them. -/
  | write (data : Bytes)
  /-- Absorbs into a context that it consumes, and puts the result in its place. -/
  | chain (data : Bytes)
  | copy (reads : List Read)
  | inspect
  | reset
  | erase
  | finish
  /-- Finishes into a buffer of `room` bytes, which must be a digest's size. -/
  | finishInto (room : Nat)
  | finishReset
  | finishIntoReset (room : Nat)
  | finishErasing
  | discard
  | duplicate (target : String)
  | describe

inductive Answer where
  | absent
  | overflow (error : LengthOverflow)
  | shown (view : View)
  | written (view : View) (bytes : Nat)
  /-- The number of bytes copied is what a word holds of it. -/
  | copied (view : View) (bytes : Nat)
  | copyFailed (view : View) (reason : String)
  | digest (digest : Digest)
  | restarted (digest : Digest) (view : View)
  | erased (digest : Digest) (view : View) (buffer : Block)
  | wrongSize
  | keptWrongSize (view : View)
  | discarded
  | described (text : String)

/-- Names a buffer whose size is not a digest's. -/
def wrongSizeName : String := "InvalidBufferSize"

def wrongSizeMessage : String := "invalid buffer length"

abbrev Contexts := Store Context

/-- Stores a context and shows it. -/
def keep (contexts : Contexts) (name : String) (c : Context) : Contexts × Answer :=
  (contexts.put name c, .shown (.of c))

/-- Commands on a context that exists. -/
def stepOn (how : Strategy) (contexts : Contexts) (name : String) (c : Context) :
    Command → Contexts × Answer
  | .create => keep contexts name .init
  | .createFrom data =>
    match Context.ofPrefix how data with
    | .ok c => keep contexts name c
    | .error error => (contexts, .overflow error)
  | .restore c => keep contexts name c
  | .absorb data =>
    match c.absorb how data with
    | .ok c => keep contexts name c
    | .error error => (contexts, .overflow error)
  | .write data =>
    match c.absorb how data with
    | .ok c => (contexts.put name c, .written (.of c) data.length)
    | .error error => (contexts, .overflow error)
  | .chain data =>
    match c.absorb how data with
    | .ok c => keep contexts name c
    | .error error => (contexts.erase name, .overflow error)
  | .copy reads =>
    match Reader.copy how c reads with
    | ⟨c, moved, .complete⟩ => (contexts.put name c, .copied (.of c) moved.toNat)
    | ⟨c, _, .failed reason⟩ => (contexts.put name c, .copyFailed (.of c) reason)
    | ⟨c, _, .overflow error⟩ => (contexts.put name c, .overflow error)
  | .inspect => (contexts, .shown (.of c))
  | .reset => keep contexts name .init
  | .erase => keep contexts name .erased
  | .finish => (contexts.erase name, .digest (c.finish how))
  | .finishInto room =>
    (contexts.erase name, if room = 32 then .digest (c.finish how) else .wrongSize)
  | .finishReset =>
    let (digest, c) := c.finishReset how
    (contexts.put name c, .restarted digest (.of c))
  | .finishIntoReset room =>
    if room = 32 then
      let (digest, c) := c.finishReset how
      (contexts.put name c, .restarted digest (.of c))
    else (contexts, .keptWrongSize (.of c))
  | .finishErasing =>
    let (digest, c) := c.finishErasing how
    (contexts.put name c, .erased digest (.of c) c.buffer)
  | .discard => (contexts.erase name, .discarded)
  | .duplicate target => keep contexts target c
  | .describe => (contexts, .described Context.description)

/-- One command on the context called `name`. Only creation works without one. -/
def step (how : Strategy) (contexts : Contexts) (name : String) (command : Command) :
    Contexts × Answer :=
  match contexts.get? name, command with
  | some c, command => stepOn how contexts name c command
  | none, .create => keep contexts name .init
  | none, .createFrom data =>
    match Context.ofPrefix how data with
    | .ok c => keep contexts name c
    | .error error => (contexts, .overflow error)
  | none, .restore c => keep contexts name c
  | none, _ => (contexts, .absent)

/-- The answers to a list of commands, in order. -/
def run (how : Strategy) : Contexts → List (String × Command) → List Answer
  | _, [] => []
  | contexts, (name, command) :: rest =>
    let (contexts, answer) := step how contexts name command
    answer :: run how contexts rest

/-! ## After the commands -/

def advance (how : Strategy) (contexts : Contexts) (input : String × Command) : Contexts × Answer :=
  step how contexts input.1 input.2

/-- The contexts that a list of commands leaves behind. -/
def after (how : Strategy) (contexts : Contexts) (commands : List (String × Command)) : Contexts :=
  (replay (advance how) contexts commands).1

theorem run_eq_replay (how : Strategy) (contexts : Contexts) (commands : List (String × Command)) :
    run how contexts commands = (replay (advance how) contexts commands).2 := by
  induction commands generalizing contexts with
  | nil => rfl
  | cons input rest ih => exact congrArg (List.cons _) (ih _)

end TruncatedSha.Session
