import CardTerminal.Settings.Environment
import CardTerminal.Settings.Toml
import CardTerminal.SocketDir
import CardTerminal.Text.Quoted

/-!
The settings of the program.

They are put together from what holds without any, a file and environment variables, each laid over
the one before. What does not have the form it should have is refused with the place where it is.
-/

namespace CardTerminal

/-- A configured reader. -/
structure ReaderSettings where
  /-- A name for the log; the device has one of its own. -/
  name : String
  driver : String
  /-- The address that the driver is given. -/
  device : String
  deriving DecidableEq, Repr

/-- The settings of the program. -/
structure Settings where
  socketDir : String
  logLevel : String
  /-- How many clients a reader serves at the same time. -/
  maxClients : Nat
  /-- How often the cards are looked at, in milliseconds. -/
  pollMilliseconds : Nat
  readers : List ReaderSettings
  deriving DecidableEq, Repr

namespace Settings

/-- How long to wait between two looks at the cards: at least a millisecond. -/
def pollInterval (s : Settings) : Nat :=
  max s.pollMilliseconds 1

def override (s : Settings) (socketDir logLevel : Option String) : Settings :=
  { s with socketDir := socketDir.getD s.socketDir, logLevel := logLevel.getD s.logLevel }

/-! ## What can be wrong -/

/-- What is wrong with a configuration. -/
inductive Flaw where
  /-- The file is not TOML. -/
  | malformed
  | missingField (name : String)
  /-- Something of another kind was found, in words, where this was expected. -/
  | invalidType (found expected : String)
  | invalidValue (found expected : String)
  | invalidLength (length : Nat) (expected : String)
  deriving DecidableEq, Repr

/-- A flaw and the place where it is. -/
structure Fault where
  flaw : Flaw
  place : List Value.Step
  deriving DecidableEq, Repr

/-- The flaw in words; of a missing field, its name. -/
def Flaw.message : Flaw → String
  | .malformed => ""
  | .missingField name => name
  | .invalidType found expected => "invalid type: found " ++ found ++ ", expected " ++ expected
  | .invalidValue found expected => "invalid value " ++ found ++ ", expected " ++ expected
  | .invalidLength length expected =>
    "invalid length " ++ toString length ++ ", expected " ++ expected

def Fault.path (fault : Fault) : String :=
  ".".intercalate (fault.place.map Value.Step.text)

/-- A text between the marks that set off numbers. -/
def marked (text : String) : String :=
  "\x60" ++ text ++ "\x60"

def describe : Value → String
  | .truth b => "bool " ++ toString b
  | .unsigned n => "unsigned int " ++ marked (toString n)
  | .signed n => "signed int " ++ marked (toString n)
  | .float f => "float " ++ marked (Decimal.render f)
  | .text s => "string " ++ Quoted.quote s
  | .list _ => "sequence"
  | .table _ => "map"

/-! ## Reading values -/

/-- What reads a value at a place. -/
abbrev Decoder (α : Type) : Type :=
  List Value.Step → Value → Except Fault α

/-- A value of another kind than expected. -/
def unexpected {α : Type} (expected : String) : Decoder α := fun place v =>
  .error ⟨.invalidType (describe v) expected, place⟩

def text (expected : String) : Decoder String
  | _, .text s => .ok s
  | place, v => unexpected expected place v

/-- A number that is not negative and below a bound. -/
def natural (expected : String) : Decoder Nat
  | _, .unsigned n => .ok n
  | place, .signed n =>
    if 0 ≤ n then .ok n.toNat else .error ⟨.invalidValue (describe (.signed n)) expected, place⟩
  | place, v => unexpected expected place v

/-- A field of a structure: its key, and what its value does to what is known of the structure. -/
structure Field (α : Type) where
  key : String
  read : List Value.Step → Value → α → Except Fault α

def field {α β : Type} (key : String) (decode : Decoder β) (store : β → α → α) : Field α :=
  ⟨key, fun place v a => (decode place v).map (fun b => store b a)⟩

/-- Read the entries of a table in their order; entries that are no fields mean nothing. -/
def readEntries {α : Type} (fields : List (Field α)) (place : List Value.Step) :
    Entries → α → Except Fault α
  | [], a => .ok a
  | (key, v) :: rest, a =>
    match fields.find? (fun f => f.key = key) with
    | some f => do readEntries fields place rest (← f.read (place ++ [.key key]) v a)
    | none => readEntries fields place rest a

/-- Read values as fields in their order, as far as there are both. -/
def readElements {α : Type} (place : List Value.Step) :
    Nat → List (Field α) → List Value → α → Except Fault α
  | n, f :: fields, v :: rest, a => do
    readElements place (n + 1) fields rest (← f.read (place ++ [.index n]) v a)
  | _, _, _, a => .ok a

/-- A structure: a table with its fields, or a list of their values. -/
def structured {α : Type} (name : String) (fields : List (Field α)) (start : α) : Decoder α
  | place, .table entries => readEntries fields place entries start
  | place, .list values => readElements place 0 fields values start
  | place, v => unexpected ("struct " ++ name) place v

/-! ## The parts of the settings -/

/-- The fields of the part that is about all readers. -/
def daemonFields : List (Field Settings) :=
  [field "socket_dir" (text "path string") (fun v s => { s with socketDir := v }),
    field "log_level" (text "a string") (fun v s => { s with logLevel := v }),
    field "max_clients" (natural "usize") (fun v s => { s with maxClients := v }),
    field "poll_interval_ms" (natural "u64") (fun v s => { s with pollMilliseconds := v })]

/-- A reader of which not everything is known yet. -/
structure Partial where
  name : String
  driver : Option String
  device : String

def readerFields : List (Field Partial) :=
  [field "name" (text "a string") (fun v r => { r with name := v }),
    field "driver" (text "a string") (fun v r => { r with driver := some v }),
    field "device" (text "a string") (fun v r => { r with device := v })]

/-- What is wrong with a reader without a driver: of a list of values it would have been the one
behind the name. -/
def driverless : Value → Flaw
  | .list _ => .invalidLength 1 "struct ReaderConfig with 3 elements"
  | _ => .missingField "driver"

def reader : Decoder ReaderSettings := fun place v => do
  let r ← structured "ReaderConfig" readerFields ⟨"", none, ""⟩ place v
  match r.driver with
  | some driver => return ⟨r.name, driver, r.device⟩
  | none => throw ⟨driverless v, place⟩

/-- The elements of a list, from one with some number on. -/
def readersFrom (place : List Value.Step) : Nat → List Value → Except Fault (List ReaderSettings)
  | _, [] => .ok []
  | n, v :: rest => do
    let first ← reader (place ++ [.index n]) v
    return first :: (← readersFrom place (n + 1) rest)

def readerList : Decoder (List ReaderSettings)
  | place, .list values => readersFrom place 0 values
  | place, v => unexpected "a sequence" place v

def parts (standard : Settings) : List (Field Settings) :=
  [⟨"daemon", fun place v s => do
      let d ← structured "DaemonConfig" daemonFields { standard with readers := s.readers } place v
      return d⟩,
    field "reader" readerList (fun v s => { s with readers := v })]

/-! ## Putting settings together -/

/-- The settings that hold without a configuration. -/
def standard (environment : String → Option String) : Settings :=
  ⟨SocketDir.chosen environment, "info", 64, 1000, []⟩

def toValue (s : Settings) : Value :=
  .table [
    ("daemon", .table [
      ("log_level", .text s.logLevel),
      ("max_clients", .unsigned s.maxClients),
      ("poll_interval_ms", .unsigned s.pollMilliseconds),
      ("socket_dir", .text s.socketDir)]),
    ("reader", .list (s.readers.map (fun r => .table [
      ("device", .text r.device), ("driver", .text r.driver), ("name", .text r.name)])))]

/-- The settings in a file, if there is one, and in environment variables. -/
def load (file : Option String) (environment : List (String × String)) : Except Fault Settings := do
  let standard := standard (fun name => environment.lookup name)
  let inFile ← match file with
    | none => .ok Value.empty
    | some text =>
      match Toml.parse text with
      | some v => .ok v
      | none => .error ⟨.malformed, []⟩
  let v := (standard.toValue.merge inFile).merge (Environment.configuration environment)
  structured "Config" (parts standard) standard [] v

end Settings

end CardTerminal
