import CardTerminal.Locks
import CardTerminal.Reader
import CardTerminal.Service.Order
import CardTerminal.Status.Table

/-!
The service of a reader: it carries out what clients ask for, keeps their locks, and publishes the
state of the reader's slots in the status file.
-/

namespace CardTerminal

/-- A connected client. -/
structure Peer where
  id : ClientId
  /-- The user who runs it. -/
  uid : UInt32
  deriving DecidableEq, Repr

/-- The answer to a request. -/
inductive Reply where
  | items (list : List Tlv.Item)
  /-- The answer of a card, as it is. -/
  | raw (answer : Bytes)
  deriving DecidableEq, Repr

/-- The body of the packet that carries an answer. -/
def Reply.encode : Reply → Except Error Bytes
  | .items list => Tlv.write list
  | .raw answer => .ok answer

/-- A reader in service. -/
structure Service where
  reader : Reader
  locks : Locks
  /-- The record that the reader's state is published in. -/
  record : Option Nat
  /-- The statuses that were published last. -/
  published : List CardStatus
  deriving DecidableEq, Repr

namespace Service

/-- A service and what it works on: the status file and the device. -/
structure World (σ : Type) where
  service : Service
  table : Status.Table
  /-- How the flushes of the status file turn out from now on. -/
  flushes : Nat → Except IoFailure Unit
  device : σ

variable {σ α : Type}

/-- Something that a service does. -/
abbrev Op (σ α : Type) : Type :=
  Action (World σ) α

def onReader (op : Reader.Op σ α) : Op σ α := fun w =>
  match op (w.service.reader, w.device) with
  | .ok v (r, s) => .ok v { w with service := { w.service with reader := r }, device := s }
  | .error e (r, s) => .error e { w with service := { w.service with reader := r }, device := s }

def require (x : Except Error α) : Op σ α := fun w =>
  match x with
  | .ok v => .ok v w
  | .error e => .error e w

def setLocks (locks : Locks) : Op σ Unit := fun w =>
  .ok () { w with service := { w.service with locks } }

/-! ## Publishing -/

def describe (r : Reader) (record : Status.Record) : Status.Record :=
  let named := { record.setName r.name with
    flags := r.flags.bits
    slotCount := UInt32.ofNat (min r.slots.length Status.maxSlots) }
  ((List.range Status.maxSlots).zip r.statuses).foldl
    (fun record (slot, status) => record.setCardStatus slot status) named

/-- Publish the state of the slots, if it is not what was published last. A record that could not be
flushed does not count as published. -/
def publish (w : World σ) : World σ :=
  let statuses := w.service.reader.statuses
  let service := { w.service with published := statuses }
  if statuses = w.service.published then w
  else
    match w.service.record with
    | none => { w with service }
    | some n =>
      let flushes := fun k => w.flushes (k + 1)
      match w.table.update n (describe w.service.reader) (w.flushes 0) with
      | (.ok _, table) => { w with service, table, flushes }
      | (.error _, table) => { w with table, flushes }

def start (reader : Reader) (record : Option Nat) (table : Status.Table)
    (flushes : Nat → Except IoFailure Unit) (device : σ) : World σ :=
  publish ⟨⟨reader, .none, record, []⟩, table, flushes, device⟩

/-- Take a reader out of service, and give its record up. -/
def close (driver : Driver σ) : Op σ Unit := fun w =>
  let w := match w.service.record with
    | some n => { w with
        service := { w.service with record := none }
        table := (w.table.release n (w.flushes 0)).2
        flushes := fun k => w.flushes (k + 1) }
    | none => w
  onReader (Reader.close driver) w

/-! ## Requests -/

/-- The answer that tells what a reset yielded: nothing for a card that gives no answer. -/
def atrReply (atr : Atr) : Reply :=
  .items (atr.toList.map (Tlv.Item.mk Tag.atr))

/-- What a client is told about the reader. -/
def description (r : Reader) : Reply :=
  .items [.ofText Tag.readerName r.name,
    ⟨Tag.readerUnits, (List.range r.slots.length).map UInt8.ofNat⟩,
    .ofNumber Tag.readerFlags r.flags.bits]

/-- Carry an order out for a client. There is no reply as long as an exchange is not over. -/
def perform (driver : Driver σ) (peer : Peer) : Order → Op σ (Option Reply)
  | .describe => do return some (description (← get).service.reader)
  | .cardStatus slot => do
    let status ← onReader (Reader.cardStatus driver slot)
    return some (.items [.ofNumber Tag.cardStatus status.bits.toUInt32])
  | .lock slot kind => do
    let (handle, locks) ← require ((← get).service.locks.lock peer.id peer.uid slot kind)
    setLocks locks
    return some (.items [.ofNumber Tag.lock handle])
  | .unlock slot handle => do
    setLocks (← require ((← get).service.locks.unlock peer.id slot handle))
    return some (.items [])
  | .reset slot => do return some (atrReply (← onReader (Reader.cardReset driver slot)))
  | .request slot timeout message => do
    return some (atrReply (← onReader (Reader.cardRequest driver slot timeout message)))
  | .eject slot timeout message => do
    onReader (Reader.cardEject driver slot timeout message)
    return some (.items [])
  | .output message => do
    onReader (Reader.output driver message)
    return some (.items [])
  | .performVerify slot timeout message command => do
    let answer ← onReader (Reader.performVerify driver slot timeout message command)
    return some (.items [⟨Tag.cardResponse, answer⟩])
  | .transact slot command => do
    let answer ← onReader (Reader.transceive driver slot command)
    return answer.map .raw
  | .setProtocol slot protocol => do
    let selected ← onReader (Reader.setProtocol driver slot protocol)
    return some (.items [.ofNumber Tag.protocol selected.number])
  | .readMemory slot address count => do
    let bytes ← onReader (Reader.readMemory driver slot address count)
    return some (.items [⟨Tag.data, bytes⟩])
  | .writeMemory slot address bytes => do
    onReader (Reader.writeMemory driver slot address bytes)
    return some (.items [])

def encodeReply : Option Reply → Op σ (Option Bytes)
  | some reply => do return some (← require reply.encode)
  | none => return none

def dispatch (driver : Driver σ) (peer : Peer) (request : Request) : Op σ (Option Bytes) := do
  let service := (← get).service
  let access := service.locks.checkAccess peer.id
  let order ← require (Order.decode service.reader.slots.length access request)
  encodeReply (← perform driver peer order)

/-- An operation after which the state is published, also if it failed. As long as it is not over,
nothing is done after it. -/
def publishing (op : Op σ (Option α)) : Op σ (Option α) := fun w =>
  match op w with
  | .ok none w => .ok none w
  | .ok (some v) w => .ok (some v) (publish w)
  | .error e w => .error e (publish w)

/-- Answer a request. There is no answer as long as an exchange with a card is not over. -/
def process (driver : Driver σ) (peer : Peer) (payload : Bytes) : Op σ (Option Bytes) := do
  let request ← require (Request.decode payload)
  publishing (dispatch driver peer request)

/-! ## What happens by itself -/

/-- A client is gone. -/
def closed (peer : Peer) : Op σ Unit := do
  setLocks ((← get).service.locks.releaseAll peer.id)

def publishIf (op : Op σ Bool) : Op σ Unit := fun w =>
  match op w with
  | .ok true w => .ok () (publish w)
  | .ok false w => .ok () w
  | .error e w => .error e w

/-- It is time to look at the cards. -/
def tick (driver : Driver σ) : Op σ Unit :=
  publishIf (onReader (Reader.poll driver))

def event (driver : Driver σ) : Op σ Unit :=
  publishIf (onReader (Reader.handleEvent driver))

/-- The device's event channel broke, which ends the service. -/
def hangUp (driver : Driver σ) : Op σ Unit := do
  onReader (Reader.handleHangUp driver)
  throw .deviceDisconnected

end Service

end CardTerminal
