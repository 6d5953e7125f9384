import TruncatedSha.Benchmark
import TruncatedSha.Completion
import TruncatedSha.Text.Number

/-!
# The benchmark tool

Measures serial hashing against batch hashing. How long things take is the one thing that is given
to `run` from outside.
-/
namespace TruncatedSha.Benchmark

inductive OptionKey where
  | messages
  | length
  | threads
  | seed
  deriving DecidableEq, Repr

def OptionKey.largest : OptionKey → Nat
  | messages | threads => UInt32.size - 1
  | length | seed => UInt64.size - 1

def OptionKey.least : OptionKey → Nat
  | messages | threads => 1
  | length | seed => 0

/-- The value of an option, between its least and its largest. -/
def OptionKey.parse (key : OptionKey) (text : String) : Option Nat :=
  (Text.parseNumber key.largest text).filter (key.least ≤ ·)

def grammar : Arguments.Grammar OptionKey where
  long
    | "n-messages" => some (.valued .messages)
    | "message-len" => some (.valued .length)
    | "threads" => some (.valued .threads)
    | "seed" => some (.valued .seed)
    | "help" => some .help
    | _ => none
  short
    | 'n' => some (.valued .messages)
    | 'm' => some (.valued .length)
    | 'h' => some .help
    | _ => none
  positional := none
  fault key value := if (key.parse value).isNone then some .valueValidation else none

namespace Plan

def ofGiven (given : List (OptionKey × String)) : Plan where
  messages := (value? given .messages).getD 4096
  length := (value? given .length).getD 4096
  threads := value? given .threads
  seed := (value? given .seed).getD 0
where
  value? (given : List (OptionKey × String)) (key : OptionKey) : Option Nat :=
    (Arguments.valuesOf given key).head?.bind key.parse

/-- Reads the arguments that follow the name of the tool. -/
def parse (arguments : List String) : Except Arguments.UsageError Plan :=
  (Arguments.scan grammar arguments).map ofGiven

end Plan

def help : String :=
  "Usage: parallel_digest [OPTIONS]\n\n" ++
  "Options:\n" ++
  "  -n, --n-messages <N_MESSAGES>    The number of independent messages to hash [default: 4096]\n" ++
  "  -m, --message-len <MESSAGE_LEN>  The length of every message in bytes [default: 4096]\n" ++
  "      --threads <THREADS>          The number of worker threads\n" ++
  "      --seed <SEED>                Seed of the message generator [default: 0]\n" ++
  "  -h, --help                       Print help\n"

def fail (output logged : String) (e : BenchmarkError) : Completion :=
  .failure output logged e.message none

/-- What is left to do once both runs are over. -/
def conclude (settings : Log.Settings) (p : Plan) (total : UInt64) (serial batch : List Digest)
    (t : Timing) : Completion :=
  let logged := settings.spanLines p.spans
  match report total serial batch t with
  | .error e => fail p.header logged e
  | .ok result => .success (p.header ++ result) logged

/-- Runs a plan. -/
def runPlan (settings : Log.Settings) (t : Timing) (p : Plan) : Completion :=
  match totalLength p.messages p.length with
  | .error e => fail "" "" e
  | .ok total =>
    let messages := p.generate
    match serialDigests messages, batchDigests messages with
    | .ok serial, .ok batch => conclude settings p total serial batch t
    | .error e, _ | _, .error e => fail p.header (settings.spanLines p.spans) e

def run (settings : Log.Settings) (t : Timing) (arguments : List String) : Completion :=
  match Plan.parse arguments with
  | .error e => .usage help e
  | .ok p => runPlan settings t p

end TruncatedSha.Benchmark
