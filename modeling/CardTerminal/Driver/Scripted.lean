import CardTerminal.Driver

/-!
A device that plays a script, for trying out readers.

It keeps a log of every call, with the newest first. What the card sends is a queue of chunks; what
the hooks answer is a queue for each hook, and an empty queue gives the hook's usual answer.
-/

namespace CardTerminal

/-- One call of a hook. -/
inductive Call where
  | attach
  | close
  | cardStatus (slot : Nat)
  | cardReset (slot : Nat)
  | cardRequest (slot timeout : Nat) (message : Option String)
  | cardEject (slot timeout : Nat) (message : Option String)
  | output (message : String)
  | performVerify (slot timeout : Nat) (message : Option String) (command : Bytes)
  | setProtocol (slot : Nat) (protocol : ProtocolId)
  | transparent (slot : Nat) (command : Bytes)
  | escape (slot : Nat) (command : Bytes)
  | readMemory (slot : Nat) (protocol : ProtocolId) (address length : Nat)
  | writeMemory (slot : Nat) (protocol : ProtocolId) (address : Nat) (bytes : Bytes)
  | send (dad : UInt8) (bytes : Bytes)
  | recv (dad : UInt8) (room timeout : Nat) (outcome : Except Error Bytes)
  | event (statuses : List CardStatus)
  | hangUp
  | beforeCommand
  | afterCommand
  | isPresent

namespace Scripted

/-- The hooks that have a queue of answers. -/
inductive Hook where
  | attach
  | close
  | cardStatus
  | cardReset
  | cardRequest
  | cardEject
  | output
  | performVerify
  | setProtocol
  | transparent
  | escape
  | readMemory
  | writeMemory
  | send
  | event
  | hangUp
  | beforeCommand
  | afterCommand
  | isPresent
  deriving DecidableEq, Repr

/-- An answer in a queue. -/
inductive Answer where
  | refuse (cause : Error)
  /-- Success without a value, or no value. -/
  | plain
  | number (n : Nat)
  | truth (b : Bool)
  | bytes (bytes : Bytes)
  /-- The new bits of every slot's status; no bits leave a status as it is. -/
  | statuses (bits : List (Option UInt8))
  deriving DecidableEq, Repr

/-- A memory card that can fail. -/
structure Cells where
  bytes : Bytes
  /-- How many more writes spoil their first byte. -/
  flaky : Nat
  /-- How many more reads lose their last byte. -/
  short : Nat
  deriving DecidableEq, Repr

end Scripted

/-- The state of a scripted device. -/
structure Scripted where
  /-- What the device says of itself. -/
  info : ReaderInfo
  /-- What a reset yields if the script does not say otherwise. -/
  atr : Atr
  script : List (Scripted.Hook × Scripted.Answer)
  /-- What the card will send, in chunks. -/
  replies : List (Except Error Bytes)
  memory : Option Scripted.Cells
  /-- The calls so far, the newest first. -/
  log : List Call

namespace Scripted

def note (call : Call) : Action Scripted Unit :=
  modify (fun s => { s with log := call :: s.log })

/-- The first answer for a hook, and the others. -/
def pick (hook : Hook) : List (Hook × Answer) → Option Answer × List (Hook × Answer)
  | [] => (none, [])
  | (h, answer) :: rest =>
    if h = hook then (some answer, rest)
    else
      let (found, others) := pick hook rest
      (found, (h, answer) :: others)

/-- Log a call and take the next answer of its hook. -/
def next (hook : Hook) (call : Call) : Action Scripted (Option Answer) := do
  note call
  let s ← get
  let (answer, rest) := pick hook s.script
  set { s with script := rest }
  match answer with
  | some (.refuse cause) => throw cause
  | answer => return answer

/-- A hook that succeeds with nothing to say, if the script does not say otherwise. -/
def willing (hook : Hook) (call : Call) : Action Scripted Unit := do
  let _ ← next hook call

/-- A hook that is not there, if the script does not say otherwise. -/
def unwilling (hook : Hook) (call : Call) : Action Scripted Unit := do
  match ← next hook call with
  | some _ => return
  | none => throw .notSupported

/-- A hook that answers with bytes, if the script has any. -/
def bytesOf (hook : Hook) (call : Call) : Action Scripted Bytes := do
  match ← next hook call with
  | some (.bytes bytes) => return bytes
  | some _ => return []
  | none => throw .notSupported

/-- A hook that answers with an answer to reset. -/
def atrOf (hook : Hook) (call : Call) (otherwise : Action Scripted Atr) : Action Scripted Atr := do
  match ← next hook call with
  | some (.bytes bytes) => return some bytes
  | some _ => return none
  | none => otherwise

/-- Receive from the next chunk; what there is no room for stays in front. -/
def recv (dad : UInt8) (room timeout : Nat) : Action Scripted Bytes := do
  let s ← get
  match s.replies with
  | [] =>
    note (.recv dad room timeout (.error .timeout))
    throw .timeout
  | .error cause :: rest =>
    set { s with replies := rest }
    note (.recv dad room timeout (.error cause))
    throw cause
  | .ok chunk :: rest =>
    set { s with
      replies := if chunk.length ≤ room then rest else .ok (chunk.drop room) :: rest }
    note (.recv dad room timeout (.ok (chunk.take room)))
    return chunk.take room

/-- The status bits of the slots, replaced where the script says so. -/
def replaced : List CardStatus → List (Option UInt8) → List CardStatus
  | status :: statuses, bits :: rest =>
    (bits.map CardStatus.ofBits).getD status :: replaced statuses rest
  | statuses, _ => statuses

def cells (address length : Nat) : Action Scripted Cells := do
  match (← get).memory with
  | none => throw .notSupported
  | some cells => if cells.bytes.length < address + length then throw .invalidArg else return cells

def readMemory (slot : Nat) (protocol : ProtocolId) (address length : Nat) :
    Action Scripted Bytes := do
  willing .readMemory (.readMemory slot protocol address length)
  let card ← cells address length
  let read := (card.bytes.drop address).take length
  if card.short = 0 then return read
  else
    modify (fun s => { s with memory := some { card with short := card.short - 1 } })
    return read.dropLast

def spoil : Bytes → Bytes
  | b :: bs => ~~~ b :: bs
  | [] => []

def writeMemory (slot : Nat) (protocol : ProtocolId) (address : Nat) (bytes : Bytes) :
    Action Scripted Unit := do
  willing .writeMemory (.writeMemory slot protocol address bytes)
  let card ← cells address bytes.length
  let stored := if card.flaky = 0 then bytes else spoil bytes
  modify (fun s => { s with
    memory := some { card with
      bytes := card.bytes.take address ++ stored ++ card.bytes.drop (address + bytes.length)
      flaky := card.flaky - 1 } })

/-- The driver of a scripted device, whose exchanges are followed for so many blocks. -/
def driver (name : String) (patience : Nat) : Driver Scripted where
  name := name
  patience := patience
  send dad bytes := willing .send (.send dad bytes)
  recv := recv
  attach := do
    willing .attach .attach
    return (← get).info
  close := willing .close .close
  cardStatus slot := do
    match ← next .cardStatus (.cardStatus slot) with
    | some (.number bits) => return .ofBits (UInt8.ofNat bits)
    | _ => return ⟨true, false⟩
  cardReset slot := atrOf .cardReset (.cardReset slot) (return (← get).atr)
  cardRequest slot timeout message :=
    atrOf .cardRequest (.cardRequest slot timeout message) (throw .notSupported)
  cardEject slot timeout message := unwilling .cardEject (.cardEject slot timeout message)
  output message := unwilling .output (.output message)
  performVerify slot timeout message command :=
    bytesOf .performVerify (.performVerify slot timeout message command)
  setProtocol slot protocol := do
    match ← next .setProtocol (.setProtocol slot protocol) with
    | some (.number n) =>
      match ProtocolId.ofNumber (UInt32.ofNat n) with
      | .ok id => return some (.new id 0)
      | .error e => throw e
    | _ => return none
  transparent slot command := bytesOf .transparent (.transparent slot command)
  readMemory := readMemory
  writeMemory := writeMemory
  escape slot command := bytesOf .escape (.escape slot command)
  event statuses := do
    match ← next .event (.event statuses) with
    | some (.statuses bits) => return replaced statuses bits
    | _ => return statuses
  hangUp := do
    match ← next .hangUp .hangUp with
    | some _ => return
    | none => throw .deviceDisconnected
  beforeCommand := willing .beforeCommand .beforeCommand
  afterCommand := willing .afterCommand .afterCommand
  isPresent s :=
    match next .isPresent .isPresent s with
    | .ok (some (.truth answer)) s => (answer, s)
    | .ok _ s | .error _ s => (true, s)

end Scripted

end CardTerminal
