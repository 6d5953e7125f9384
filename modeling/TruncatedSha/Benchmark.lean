import TruncatedSha.Batch

/-!
# Measuring batches

The same messages are hashed one after another and as a batch. The two lists of digests have to
agree, and what is reported is how long each took and how many bytes that is in a second.

A size of a thousand bytes or more is shown in a larger unit with one decimal. The unit is chosen
by powers of 1024 and the size is divided by powers of 1000, so a megabyte is `1000.0 KB`.
-/
namespace TruncatedSha.ByteSize

/-- A quotient rounded to the nearest whole number, a tie to the even one. -/
def roundQuotient (numerator denominator : Nat) : Nat :=
  let whole := numerator / denominator
  let rest := numerator % denominator
  if 2 * rest < denominator then whole
  else if denominator < 2 * rest then whole + 1
  else whole + whole % 2

/-- The tenths of a finite float that is not negative, rounded from its exact binary value. -/
def tenths (x : Float) : Nat :=
  let bits := x.toBits.toNat
  let exponent := (bits >>> 52) % (1 <<< 11)
  let fraction := bits % (1 <<< 52)
  let mantissa := if exponent = 0 then fraction else (1 <<< 52) + fraction
  let power := max exponent 1
  if 1075 ≤ power then (mantissa <<< (power - 1075)) * 10
  else roundQuotient (mantissa * 10) (1 <<< (1075 - power))

def units : List String := ["KB", "MB", "GB", "TB", "PB", "EB"]

/-- The number of the unit, from 1; the constant is the logarithm of 1024. -/
def unitNumber (bytes : UInt64) : Nat :=
  max 1 (bytes.toFloat.log / 6.931471806).toUInt64.toNat

def format (bytes : UInt64) : String :=
  if bytes < 1000 then toString bytes.toNat ++ " B"
  else
    let unit := unitNumber bytes
    let shown := tenths (bytes.toFloat / (UInt64.ofNat (Nat.pow 1000 unit)).toFloat)
    toString (shown / 10) ++ "." ++ toString (shown % 10) ++ " " ++ units.getD (unit - 1) ""

end TruncatedSha.ByteSize

namespace TruncatedSha.Benchmark

/-- A time span; the nanoseconds are less than a second. -/
structure Elapsed where
  seconds : UInt64
  nanoseconds : UInt32
  deriving DecidableEq, Repr

namespace Elapsed

def ofNanoseconds (n : Nat) : Elapsed :=
  ⟨UInt64.ofNat (n / 1000000000), UInt32.ofNat (n % 1000000000)⟩

def toFloat (t : Elapsed) : Float :=
  t.seconds.toFloat + t.nanoseconds.toUInt64.toFloat / 1000000000.0

/-- A number with `places` digits behind the point, without zeros at their end. -/
def decimal (whole fraction places : Nat) : String :=
  let digits := (toString (Nat.pow 10 places + fraction)).toList.drop 1
  let digits := (digits.reverse.dropWhile (· = '0')).reverse
  if digits.isEmpty then toString whole else toString whole ++ "." ++ String.ofList digits

/-- In the largest unit that gives at least one. -/
def format (t : Elapsed) : String :=
  let nanos := t.nanoseconds.toNat
  if 0 < t.seconds.toNat then decimal t.seconds.toNat nanos 9 ++ "s"
  else if 1000000 ≤ nanos then decimal (nanos / 1000000) (nanos % 1000000) 6 ++ "ms"
  else if 1000 ≤ nanos then decimal (nanos / 1000) (nanos % 1000) 3 ++ "µs"
  else toString nanos ++ "ns"

end Elapsed

/-- Bytes per second, where no time at all counts as the least step above one, `2 ^ -52`. -/
def throughput (total : UInt64) (t : Elapsed) : UInt64 :=
  let least := 1.0 / (UInt64.ofNat (1 <<< 52)).toFloat
  let time := t.toFloat
  (total.toFloat / (if time < least then least else time)).toUInt64

inductive BenchmarkError where
  | totalOverflow
  | mismatches (count : Nat)
  | batch (error : Batch.BatchError)
  deriving DecidableEq, Repr

def BenchmarkError.message : BenchmarkError → String
  | totalOverflow => "total size overflows"
  | mismatches count => toString count ++ " parallel digests differ from the serial ones"
  | batch error => error.message

/-- The length of all messages together, which has to fit 64 bits. -/
def totalLength (messages length : Nat) : Except BenchmarkError UInt64 :=
  if messages * length < UInt64.size then .ok (UInt64.ofNat (messages * length))
  else .error .totalOverflow

/-- What is to be measured. -/
structure Plan where
  messages : Nat
  length : Nat
  threads : Option Nat
  seed : Nat
  deriving DecidableEq, Repr

namespace Plan

def header (p : Plan) : String :=
  "Hashing " ++ toString p.messages ++ " messages of " ++ ByteSize.format (UInt64.ofNat p.length) ++
    " each\n"

/-- The next number of a generator, and its next state. -/
def nextRandom (state : UInt64) : UInt64 × UInt64 :=
  let state := state + 0x9e3779b97f4a7c15
  let z := (state ^^^ (state >>> 30)) * 0xbf58476d1ce4e5b9
  let z := (z ^^^ (z >>> 27)) * 0x94d049bb133111eb
  (z ^^^ (z >>> 31), state)

def randomBytes : Nat → UInt64 → Bytes → Bytes
  | 0, _, bytes => bytes
  | n + 1, state, bytes =>
    let (random, state) := nextRandom state
    randomBytes n state (random.toUInt8 :: bytes)

/-- Message `i`. All that matters is that messages differ and come out the same every time. -/
def message (p : Plan) (i : Nat) : Bytes :=
  randomBytes p.length (UInt64.ofNat p.seed + (nextRandom (UInt64.ofNat i)).1) []

def generate (p : Plan) : List Bytes := (List.range p.messages).map p.message

/-- The span that covers the generation. -/
def generation (p : Plan) : Log.Span :=
  ⟨.info, "parallel_digest", "Generating messages", [("n_messages", toString p.messages)]⟩

def spans (p : Plan) : List Log.Span := [p.generation, Batch.span p.messages]

end Plan

/-- The digests of the messages, one after another. -/
def serialDigests (messages : List Bytes) : Except BenchmarkError (List Digest) :=
  (messages.mapM (hash .unrolled)).mapError (.batch ∘ .overflow)

/-- The digests of the messages as a batch. -/
def batchDigests (messages : List Bytes) : Except BenchmarkError (List Digest) :=
  (Batch.digests .unrolled .init messages (Batch.freshSlots messages.length)).mapError .batch

/-- How many digests differ between two runs. -/
def mismatches (serial batch : List Digest) : Nat :=
  (serial.zip batch).countP fun pair => pair.1 != pair.2

structure Timing where
  serial : Elapsed
  batch : Elapsed
  threads : Nat

/-- The lines of the result. -/
def report (total : UInt64) (serial batch : List Digest) (t : Timing) :
    Except BenchmarkError String :=
  if 0 < mismatches serial batch then .error (.mismatches (mismatches serial batch))
  else
    .ok ("Serial:   " ++ t.serial.format ++ " (" ++
      ByteSize.format (throughput total t.serial) ++ "/s)\n" ++
      "Parallel: " ++ t.batch.format ++ " (" ++
      ByteSize.format (throughput total t.batch) ++ "/s) on " ++ toString t.threads ++
      " threads\n")

end TruncatedSha.Benchmark
