import CardTerminal.Program

/-!
The command line program: it asks the machine for what `Program.run` wants to know, and does what
that decides.

Sockets and signals are out of reach here, so readers are neither served nor stopped.
-/

namespace CardTerminal.Main

def content (path : String) : IO (Option ByteArray) := do
  try return some (← IO.FS.readBinFile path)
  catch _ => return none

/-- The text of a file, if it can be read and is one. -/
def text (path : String) : IO (Option String) := do
  return (← content path).bind String.fromUTF8?

/-- The environment variables, in the order of their names. -/
def environment : IO (List (String × String)) := do
  let all := (← content "/proc/self/environ").getD ByteArray.empty
  let lines := (Utf8.decodeLossy all.toList).splitOn "\x00"
  let pairs := lines.filterMap (fun line =>
    match line.splitOn "=" with
    | name :: value :: more => some (name, "=".intercalate (value :: more))
    | _ => none)
  return pairs.mergeSort (fun a b => a.1 ≤ b.1)

def self : IO UInt32 := do
  let stat := ((← text "/proc/self/stat").getD "").splitOn " "
  return UInt32.ofNat ((stat.head?.bind String.toNat?).getD 0)

def runs (pid : UInt32) : IO Bool := do
  return (← content ("/proc/" ++ toString pid ++ "/stat")).isSome

def running : List UInt32 → IO (List UInt32)
  | [] => return []
  | pid :: rest => do
    let others ← running rest
    return if ← runs pid then pid :: others else others

/-- Write what has become of the status file in a directory. -/
def store (dir : String) (place : Status.Place) : IO Unit := do
  if let some file := place.current then
    IO.FS.createDirAll dir
    IO.FS.writeBinFile (SocketDir.status dir) (ByteArray.mk file.encode.toArray)

def perform (m : Program.Machine) (settings : Settings) (job : Job) :
    IO Program.Outcome := do
  let dir := settings.socketDir
  let file := (← content (SocketDir.status dir)).map (fun bytes => Status.File.decode bytes.toList)
  let place := match file with
    | some file => Status.Place.vacant.put file
    | none => .vacant
  let pids := file.toList.flatMap (fun file => file.table.map Status.Record.pid)
  let running ← running pids
  let m := { m with holder := { m.holder with runs := fun pid => running.contains pid } }
  let (outcome, disk) := Program.perform m settings [(dir, place)] job
  if Program.writes job then store dir (disk.place dir)
  return outcome

def run (args : List String) : IO Program.Outcome := do
  let environment ← environment
  let look (name : String) : Option String := environment.lookup name
  let config := match CommandLine.parse look args with
    | .ok invocation => invocation.config.getD Program.standardConfig
    | .error _ => Program.standardConfig
  let config ← text config
  let self ← self
  let m : Program.Machine :=
    ⟨⟨self, fun _ => false⟩, environment, fun _ => config, fun _ => false, fun _ => false,
      .ok ()⟩
  match Program.prepare m args with
  | .error outcome => return outcome
  | .ok (settings, job) => perform m settings job

/-- What is said about an end that is not reached here. -/
def complaint : Program.Outcome → Option String
  | .failed reason => some reason
  | .refused .help | .refused .version | .printed _ => none
  | .refused _ => some "The arguments are not understood; see --help."
  | .detached _ | .serving _ | .servingAll => some "There are no sockets to serve at."

end CardTerminal.Main

/-- Carry out what the arguments ask for, and say how it ended. -/
def main (args : List String) : IO UInt32 := do
  let outcome ←
    try CardTerminal.Main.run args
    catch e => pure (CardTerminal.Program.Outcome.failed (toString e))
  for line in outcome.lines do
    IO.println line
  match CardTerminal.Main.complaint outcome with
  | none => return outcome.code
  | some text =>
    IO.eprintln text
    return max outcome.code 1
