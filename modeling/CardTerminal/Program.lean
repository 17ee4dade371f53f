import CardTerminal.CommandLine
import CardTerminal.Driver.Registry
import CardTerminal.Reader
import CardTerminal.Settings
import CardTerminal.Status.File

/-!
What the program does with a command line.

A job ends with a printed text or with a reason for its failure; one that serves a reader ends with
what has to go on. Main statement: only `init` and `start` change what is on the disk
(`perform_keeps`).
-/

namespace CardTerminal.Program

def name : String := "ifdhandler"

def version : String := "0.1.0"

/-- The file with the settings, unless another one is named. -/
def standardConfig : String := "/etc/openct.toml"

/-! ## The machine -/

/-- What the program asks the machine that it runs on. -/
structure Machine where
  /-- The processes. -/
  holder : Status.Holder
  /-- The environment variables, in the order of their names. -/
  environment : List (String × String)
  /-- The text of a file, if there is one. -/
  text : String → Option String
  /-- Whether somebody answers at a socket. -/
  answers : String → Bool
  /-- Tell a process to end; whether that was possible. -/
  stop : UInt32 → Bool
  /-- How flushing the status file turns out. -/
  flush : Except IoFailure Unit

def Machine.look (m : Machine) (name : String) : Option String :=
  m.environment.lookup name

/-- The directories that there are, with what is at the place of the status file in each. -/
abbrev Disk : Type :=
  List (String × Status.Place)

/-- What is at the place of the status file in a directory. -/
def Disk.place (disk : Disk) (dir : String) : Status.Place :=
  (disk.lookup dir).getD .vacant

/-- The disk with something else in a directory, which is created if it is missing. -/
def Disk.put (disk : Disk) (dir : String) (place : Status.Place) : Disk :=
  (dir, place) :: disk.filter (·.1 ≠ dir)

/-! ## Ends of a job -/

/-- How a job ends. -/
inductive Outcome where
  | refused (refusal : CommandLine.Refusal)
  | failed (reason : String)
  | printed (lines : List String)
  /-- The program is to be started once more, to serve a reader in the background. -/
  | detached (reader : Nat)
  /-- A reader is to be served. -/
  | serving (reader : Nat)
  /-- The requests for all readers are to be served. -/
  | servingAll
  deriving DecidableEq, Repr

def Outcome.code : Outcome → UInt32
  | .refused .help | .refused .version => 0
  | .refused _ => 2
  | .failed _ => 1
  | .printed _ | .detached _ | .serving _ | .servingAll => 0

def Outcome.lines : Outcome → List String
  | .refused .version => [name ++ " " ++ version]
  | .refused .help => ["Usage: " ++ name ++ " [OPTIONS] <COMMAND>"]
  | .printed lines => lines
  | _ => []

/-! ## Jobs -/

/-- A number with a blank in front if it has one digit. -/
def column (n : Nat) : String :=
  (if n < 10 then " " else "") ++ toString n

def describe (index : Nat) (r : Status.Record) : List String :=
  (column index ++ " " ++ r.nameText) :: (List.range r.slotCount.toNat).map (fun slot =>
    "     slot " ++ toString slot ++ ": "
      ++ (if (r.cardStatus slot).present then "card present" else "empty"))

/-- Do something with the records of the status file in a directory; if there is no file, nothing is
wrong. -/
def withTable (disk : Disk) (dir : String) (action : Status.Table → Outcome) : Outcome :=
  let path := SocketDir.status dir
  let place := disk.place dir
  match place.open? with
  | .ok n => action (place.table n)
  | .error .notFound => .printed ["No status file at " ++ path]
  | .error _ => .failed ("Failed to open " ++ path)

def list (p : Status.Holder) (table : Status.Table) : Outcome :=
  match table.readers p with
  | [] => .printed ["No readers running"]
  | readers => .printed (readers.flatMap (fun (index, r) => describe index r))

def shutdown (m : Machine) (table : Status.Table) : Outcome :=
  let stopped := (table.readers m.holder).filter (fun entry => m.stop entry.2.pid)
  .printed ["Stopped " ++ toString stopped.length ++ " reader daemon(s)"]

/-- Create a status file with a record for each configured reader, and at least one. -/
def init (settings : Settings) (disk : Disk) : Outcome × Disk :=
  let dir := settings.socketDir
  let count := max settings.readers.length 1
  let place := (disk.place dir).create count
  (.printed ["Status file " ++ SocketDir.status dir ++ " ready for " ++ toString count
    ++ " reader(s)"], disk.put dir place.2)

def canAttach (device : Device) : Bool :=
  match Reader.attach device.driver device.state with
  | .ok _ _ => true
  | .error _ _ => false

/-- Make ready to serve a reader, and claim its record. -/
def start (m : Machine) (settings : Settings) (disk : Disk) (index : Nat) (foreground : Bool) :
    Outcome × Disk :=
  let dir := settings.socketDir
  match settings.readers[index]? with
  | none => (.failed ("Reader " ++ toString index ++ " is not configured"), disk)
  | some reader =>
    if m.answers (SocketDir.reader dir index) then
      (.failed ("Reader " ++ toString index ++ " is already served"), disk)
    else if !foreground then (.detached index, disk)
    else
      match Registry.builtin.make reader.driver reader.device with
      | .error e => (.failed ("Failed to open driver: " ++ e.message), disk)
      | .ok device =>
        if !canAttach device then (.failed "Failed to initialise reader", disk)
        else
          let failed := .failed ("Failed to claim status record in " ++ SocketDir.status dir)
          match disk.lookup dir with
          | none => (failed, disk)
          | some place =>
            match place.claim m.holder index settings.readers.length m.flush with
            | (.ok _, place) => (.serving index, disk.put dir place)
            | (.error _, place) => (failed, disk.put dir place)

def perform (m : Machine) (settings : Settings) (disk : Disk) : Job → Outcome × Disk
  | .init => init settings disk
  | .start index foreground => start m settings disk index foreground
  | .master =>
    if m.answers (SocketDir.master settings.socketDir) then
      (.failed "Master is already running", disk)
    else (.servingAll, disk)
  | .list => (withTable disk settings.socketDir (list m.holder), disk)
  | .shutdown => (withTable disk settings.socketDir (shutdown m), disk)

/-- What the arguments ask for, and with which settings. -/
def prepare (m : Machine) (args : List String) : Except Outcome (Settings × Job) :=
  match CommandLine.parse m.look args with
  | .error refusal => .error (.refused refusal)
  | .ok invocation =>
    match Settings.load (m.text (invocation.config.getD standardConfig)) m.environment with
    | .error fault => .error (.failed fault.flaw.message)
    | .ok settings =>
      .ok (settings.override invocation.socketDir invocation.logLevel, invocation.job)

def run (m : Machine) (disk : Disk) (args : List String) : Outcome × Disk :=
  match prepare m args with
  | .error outcome => (outcome, disk)
  | .ok (settings, job) => perform m settings disk job

/-! ## What jobs leave alone -/

/-- Whether a job may change what is on the disk. -/
def writes : Job → Bool
  | .init | .start _ _ => true
  | .master | .list | .shutdown => false

theorem perform_keeps (m : Machine) (settings : Settings) (disk : Disk) {job : Job}
    (reads : writes job = false) : (perform m settings disk job).2 = disk := by
  cases job with
  | init => cases reads
  | start => cases reads
  | master => by_cases h : m.answers (SocketDir.master settings.socketDir) <;> simp [perform, h]
  | list => rfl
  | shutdown => rfl

end CardTerminal.Program
