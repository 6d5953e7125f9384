import TruncatedSha.Benchmark.Command
import TruncatedSha.Checksum.Command

/-!
# The command line

Two tools in one program: under the name `parallel_digest`, or with that word as first argument,
it is the benchmark, and the checksum tool otherwise. Here are the only effects: the files that a
run will ask for are read first, and what the tools say is written out.
-/
namespace TruncatedSha.Main

/-- How many bytes are read at a time. -/
def readSize : USize := 65536

/-- The system's text for a failure, with its number. -/
def reason (e : IO.Error) : String :=
  match e with
  | .noFileOrDirectory _ code details => numbered details code
  | .inappropriateType _ code details => numbered details code
  | .permissionDenied _ code details => numbered details code
  | .invalidArgument _ code details => numbered details code
  | .resourceExhausted _ code details => numbered details code
  | .otherError code details => numbered details code
  | e => toString e
where
  numbered (details : String) (code : UInt32) : String :=
    details ++ " (os error " ++ toString code.toNat ++ ")"

/-- All that can be read from an open file, with the empty read at its end or the failure. -/
partial def readAll (handle : IO.FS.Stream) (reads : List Read) : IO (List Read) := do
  match ← (handle.read readSize).toBaseIO with
  | .ok bytes =>
    let reads := .data bytes.toList :: reads
    if bytes.isEmpty then return reads.reverse
    readAll handle reads
  | .error e => return (.failed (reason e) :: reads).reverse

def openFile (name : String) : IO (Except FileError (List Read)) := do
  match ← (IO.FS.Handle.mk name .read).toBaseIO with
  | .ok handle => return .ok (← readAll (.ofHandle handle) [])
  | .error e => return .error (.other (reason e))

def readNamed (name : String) : IO (String × Except FileError (List Read)) := do
  if name.toList.contains '\x00' then return (name, .error .nulByte)
  return (name, ← openFile name)

/-- The names in a list, which has been read already. -/
def listed (world : Checksum.World) (list : String) : List String :=
  match Checksum.readText world list with
  | .error _ => []
  | .ok text => (Text.lines text).filterMap fun line =>
    (Checksum.Entry.parse line).toOption.map (·.name)

/-- What a run of the checksum tool can read: the given inputs, or a list and the inputs in it.
Standard input is read as often as it is among them. -/
def world (o : Checksum.Options) : IO Checksum.World := do
  let lists ← o.check.toList.mapM readNamed
  let names := match o.check with
    | some list => listed ⟨fun name => (lists.lookup name).getD (.error .notFound), []⟩ list
    | none => Checksum.inputs o.files
  let files ← (names.filter (· ≠ Checksum.standardName)).mapM readNamed
  let standardInput ← (names.filter (· = Checksum.standardName)).flatMapM fun _ => do
    readAll (← IO.getStdin) []
  return ⟨fun name => ((lists ++ files).lookup name).getD (.error .notFound), standardInput⟩

def settings : IO Log.Settings := do
  let filter ← IO.getEnv Environment.filterVariable
  let spans ← IO.getEnv Environment.spanVariable
  return Environment.logSettings ⟨filter, spans⟩

def finish (c : Completion) : IO UInt32 := do
  (← IO.getStdout).putStr c.output
  (← IO.getStderr).putStr c.errors
  return c.code

def checksum (arguments : List String) : IO UInt32 := do
  let empty : Checksum.World := ⟨fun _ => .error .notFound, []⟩
  let world ← match Checksum.Options.parse arguments with
    | .ok o => world o
    | .error _ => pure empty
  finish (Checksum.run (← settings) world arguments)

/-- Computes a value and says how long that took. -/
def timed {α : Type} (compute : Unit → α) : IO (α × Benchmark.Elapsed) := do
  let before ← IO.monoNanosNow
  let value ← IO.lazyPure compute
  let after ← IO.monoNanosNow
  return (value, .ofNanoseconds (after - before))

/-- The digests of a batch, every message in a task of its own. -/
def batchTasks (messages : List Bytes) : Except Benchmark.BenchmarkError (List Digest) :=
  let tasks := messages.map fun message =>
    Task.spawn fun () => Batch.digestOf .unrolled .init message
  (tasks.mapM Task.get).mapError (.batch ∘ .overflow)

/-- Times both runs, then leaves the rest to the tool. -/
def benchmark (arguments : List String) : IO UInt32 := do
  let none : Benchmark.Elapsed := ⟨0, 0⟩
  match Benchmark.Plan.parse arguments with
  | .error _ => finish (Benchmark.run (← settings) ⟨none, none, 0⟩ arguments)
  | .ok p =>
    match Benchmark.totalLength p.messages p.length with
    | .error _ => finish (Benchmark.runPlan (← settings) ⟨none, none, 0⟩ p)
    | .ok total =>
      let messages := p.generate
      let (serial, serialTime) ← timed fun () => Benchmark.serialDigests messages
      let (batch, batchTime) ← timed fun () =>
        if p.threads = some 1 then Benchmark.batchDigests messages else batchTasks messages
      match serial, batch with
      | .ok serial, .ok batch =>
        let timing := ⟨serialTime, batchTime, p.threads.getD 1⟩
        finish (Benchmark.conclude (← settings) p total serial batch timing)
      | .error e, _ | _, .error e => finish (Benchmark.fail p.header "" e)

end TruncatedSha.Main

def main (arguments : List String) : IO UInt32 := do
  let name := (← IO.appPath).fileName.getD ""
  match name, arguments with
  | "parallel_digest", arguments => TruncatedSha.Main.benchmark arguments
  | _, "parallel_digest" :: arguments => TruncatedSha.Main.benchmark arguments
  | _, arguments => TruncatedSha.Main.checksum arguments
