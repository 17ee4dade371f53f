import CardTerminal.Protocol.Handle
import CardTerminal.Pts
import CardTerminal.Status.Record

/-!
A reader: a device and the slots it serves.

Every operation on cards is a command to the device: the driver is told before and after it, and
an error of the command hides one of what comes after. A card that was inserted, removed or changed
is forgotten, and with it the engine that talked to the card before.

An exchange with a card may go on for ever, and then nothing comes after it: `Reader.transceive`
gives no value for one that is not over.
-/

namespace CardTerminal

/-- What is known of the card in a slot. -/
structure Slot where
  /-- The node that the card answers at. -/
  dad : UInt8
  status : CardStatus
  /-- What the card said when it was reset. -/
  atr : Atr
  /-- How the card is talked to. -/
  handle : Option Handle
  deriving DecidableEq, Repr

namespace Slot

def unknown (dad : UInt8) : Slot :=
  ⟨dad, .empty, none, none⟩

/-- The slot without what is known of its card. -/
def forget (slot : Slot) : Slot :=
  { slot with atr := none, handle := none }

def protocol? (slot : Slot) : Option ProtocolId :=
  slot.handle.map Handle.id

/-- Whether a report of the device tells of another card. -/
def isNews (slot : Slot) (reported : CardStatus) : Bool :=
  reported.present != slot.status.present || reported.changed

/-- The slot after a report of the device. -/
def observe (slot : Slot) (reported : CardStatus) : Slot :=
  if slot.isNews reported then { slot.forget with status := ⟨reported.present, true⟩ }
  else { slot with status := ⟨reported.present, false⟩ }

end Slot

/-- A reader. -/
structure Reader where
  name : String
  flags : ReaderFlags
  slots : List Slot
  /-- The field length that T=1 cards are told. -/
  ifsd : Option Nat
  deriving DecidableEq, Repr

namespace Reader

variable {σ α : Type}

/-- Something done with a reader and its device. -/
abbrev Op (σ α : Type) : Type :=
  Action (Reader × σ) α

def statuses (r : Reader) : List CardStatus :=
  r.slots.map Slot.status

def modifySlot (n : Nat) (f : Slot → Slot) (r : Reader) : Reader :=
  { r with slots := r.slots.modify n f }

/-! ## Parts of operations -/

def onDevice (action : Action σ α) : Op σ α := fun (r, s) =>
  match action s with
  | .ok v s => .ok v (r, s)
  | .error e s => .error e (r, s)

def update (n : Nat) (f : Slot → Slot) : Op σ Unit := fun (r, s) =>
  .ok () (r.modifySlot n f, s)

def slot (n : Nat) : Op σ Slot := fun (r, s) =>
  match r.slots[n]? with
  | some slot => .ok slot (r, s)
  | none => .error .invalidSlot (r, s)

/-- Do what the driver wants done after a command; an error of the command hides one of this. -/
def conclude (driver : Driver σ) :
    EStateM.Result Error (Reader × σ) α → EStateM.Result Error (Reader × σ) α
  | .ok v w =>
    match onDevice driver.afterCommand w with
    | .ok _ w => .ok v w
    | .error e w => .error e w
  | .error e w =>
    match onDevice driver.afterCommand w with
    | .ok _ w | .error _ w => .error e w

/-- Run a command between what the driver wants done before and after it. -/
def guarded (driver : Driver σ) (command : Op σ α) : Op σ α := fun w =>
  match onDevice driver.beforeCommand w with
  | .error e w => .error e w
  | .ok _ w => conclude driver (command w)

/-- Run a command that may go on for ever. As long as it is not over, nothing is done after it. -/
def awaited (driver : Driver σ) (command : Op σ (Option α)) : Op σ (Option α) := fun w =>
  match onDevice driver.beforeCommand w with
  | .error e w => .error e w
  | .ok _ w =>
    match command w with
    | .ok none w => .ok none w
    | ended => conclude driver ended

/-! ## Opening and closing -/

/-- Attach a device. A reader has at least one slot and a node for each of its slots. -/
def attach (driver : Driver σ) : Action σ Reader := do
  let info ← driver.attach
  if info.slots = 0 ∨ Status.maxSlots < info.slots ∨ info.dads.length ≠ info.slots then
    throw .incompatibleDevice
  return ⟨info.name, info.flags, info.dads.map Slot.unknown, info.ifsd⟩

def close (driver : Driver σ) : Op σ Unit := fun (r, s) =>
  onDevice driver.close ({ r with slots := r.slots.map Slot.forget }, s)

/-! ## Selecting protocols -/

/-- How long to wait for the parts of a card's confirmation. -/
def confirmTimeout : Nat := 1000

/-- The protocol that a card talks after a reset; one that is not known counts as T=0. -/
def initialProtocol (info : Atr.Info) : ProtocolId :=
  match ProtocolId.ofNumber info.defaultProtocol.toUInt32 with
  | .ok id => id
  | .error _ => .t0

/-- Ask the card to switch to a protocol, unless it talks it anyway or the protocol is none of
the card's business. -/
def askCard (link : Link σ) (info : Atr.Info) (dad : UInt8) (protocol : ProtocolId) :
    Action σ Unit := do
  let number := protocol.number.toUInt8
  if 15 < number ∨ number = info.defaultProtocol then return
  if info.specificMode ∨ ¬ info.supports number then throw .notSupported
  let request := Pts.request info number
  link.send dad request
  let start ← link.receiveExactly dad confirmTimeout 2
  let rest ← link.receiveExactly dad confirmTimeout (Pts.parameterCount (start.getD 1 0) + 1)
  match Pts.confirm request (start ++ rest) with
  | .ok _ => return
  | .error e => throw e

/-- The protocol that a card talks after it was asked for one: a card that cannot switch keeps
the one it began with. -/
def agree (link : Link σ) (info : Atr.Info) (dad : UInt8) (protocol : ProtocolId) :
    Action σ ProtocolId := fun s =>
  match askCard link info dad protocol s with
  | .ok _ s => .ok protocol s
  | .error .notSupported s => .ok (initialProtocol info) s
  | .error e s => .error e s

/-- Tell a T=1 card how long a field the reader takes. A card that refuses is left alone. -/
def announceIfsd (link : Link σ) (ifsd : Option Nat) (engine : Engine) : Action σ Engine := fun s =>
  match engine, ifsd with
  | .t1 t, some ifsd =>
    match t.negotiateIfsd link ifsd s with
    | .ok t s => .ok (.t1 t) s
    | .error _ s => .ok engine s
  | _, _ => .ok engine s

/-- An engine for a protocol: the driver's own, or one for the protocol that the card talks. The
card is only asked to switch if it may be, and if its answer to reset is known. -/
def makeEngine (driver : Driver σ) (n : Nat) (dad : UInt8) (protocol : ProtocolId)
    (info : Option Atr.Info) (maySwitch : Bool) : Action σ Engine := do
  match ← driver.setProtocol n protocol with
  | some engine => return engine
  | none =>
    match info, maySwitch with
    | some info, true => return .new (← agree driver.toLink info dad protocol) dad
    | _, _ => return .new protocol dad

/-- Select a protocol for a slot; gives the one that is selected in the end. -/
def select (driver : Driver σ) (n : Nat) (protocol : ProtocolId) (info : Option Atr.Info)
    (maySwitch : Bool) : Op σ ProtocolId := do
  let dad := (← slot n).dad
  let engine ← onDevice (makeEngine driver n dad protocol info maySwitch)
  let engine := (info.map (fun info => engine.configure info)).getD engine
  let engine ← onDevice (announceIfsd driver.toLink (← get).1.ifsd engine)
  update n (fun slot => { slot with handle := some (.active engine) })
  return engine.id

/-- Take over what a reset yielded, and select the protocol that the card talks. -/
def adopt (driver : Driver σ) (n : Nat) (atr : Atr) : Op σ Atr := do
  update n (fun slot => { slot with status := { slot.status with present := true }, atr := atr })
  match atr with
  | none => return atr
  | some bytes =>
    match Atr.parse bytes with
    | .error e => throw e
    | .ok info =>
      let _ ← select driver n (initialProtocol info) (some info) false
      return atr

/-! ## Commands -/

def cardStatus (driver : Driver σ) (n : Nat) : Op σ CardStatus := do
  let _ ← slot n
  guarded driver do
    let reported ← onDevice (driver.cardStatus n)
    update n (fun slot => slot.observe reported)
    return (← slot n).status

def cardReset (driver : Driver σ) (n : Nat) : Op σ Atr := do
  let _ ← slot n
  guarded driver do
    update n Slot.forget
    adopt driver n (← onDevice (driver.cardReset n))

def cardRequest (driver : Driver σ) (n timeout : Nat) (message : Option String) : Op σ Atr := do
  let _ ← slot n
  guarded driver do
    update n Slot.forget
    adopt driver n (← onDevice (driver.cardRequest n timeout message))

def cardEject (driver : Driver σ) (n timeout : Nat) (message : Option String) : Op σ Unit := do
  let _ ← slot n
  guarded driver do
    onDevice (driver.cardEject n timeout message)
    update n Slot.forget

def output (driver : Driver σ) (message : String) : Op σ Unit := do
  unless (← get).1.flags.display do throw .notSupported
  guarded driver (onDevice (driver.output message))

/-- Have a PIN typed and verified, if there is a keypad. -/
def performVerify (driver : Driver σ) (n timeout : Nat) (message : Option String)
    (command : Bytes) : Op σ Bytes := do
  let _ ← slot n
  unless (← get).1.flags.keypad do throw .notSupported
  guarded driver (onDevice (driver.performVerify n timeout message command))

/-- Switch a slot to another protocol; gives the one that is selected in the end. -/
def setProtocol (driver : Driver σ) (n : Nat) (protocol : ProtocolId) : Op σ ProtocolId := do
  let _ ← slot n
  guarded driver do
    match (← slot n).atr with
    | none => select driver n protocol none true
    | some bytes =>
      match Atr.parse bytes with
      | .error e => throw e
      | .ok info => select driver n protocol (some info) true

/-- An exchange over the handle of a slot; there is no answer as long as it is not over. -/
def exchange (driver : Driver σ) (n : Nat) (command : Bytes) (handle : Handle) :
    Op σ (Option Bytes) := fun (r, s) =>
  let (outcome, handle, s) := handle.transceive driver n command s
  let r := r.modifySlot n (fun slot => { slot with handle := some handle })
  match outcome with
  | none => .ok none (r, s)
  | some (.ok answer) => .ok (some answer) (r, s)
  | some (.error e) => .error e (r, s)

def transceive (driver : Driver σ) (n : Nat) (command : Bytes) : Op σ (Option Bytes) := do
  let known ← slot n
  unless known.status.present do throw .noCard
  match known.handle with
  | none => throw .notConnected
  | some handle => awaited driver (exchange driver n command handle)

def memoryKind (n : Nat) : Op σ MemoryKind := do
  let known ← slot n
  match known.handle.bind Handle.engine? with
  | some (.memory kind) => return kind
  | some _ => throw .notSupported
  | none => throw (if known.status.present then .notConnected else .noCard)

def readMemory (driver : Driver σ) (n address length : Nat) : Op σ Bytes := do
  let kind ← memoryKind n
  guarded driver (onDevice ((driver.memoryCard n kind).readExactly address length))

def writeMemory (driver : Driver σ) (n address : Nat) (bytes : Bytes) : Op σ Unit := do
  let kind ← memoryKind n
  guarded driver (onDevice ((driver.memoryCard n kind).writeVerified address bytes))

/-! ## What happens by itself -/

/-- Ask for the status of these slots in turn. Whether a card changed; a slot that cannot be asked
is left alone as long as the device is there. -/
def pollSlots (driver : Driver σ) : List Nat → Op σ Bool
  | [], w => .ok false w
  | n :: rest, w =>
    match cardStatus driver n w with
    | .error .deviceDisconnected w => .error .deviceDisconnected w
    | .error _ w => pollSlots driver rest w
    | .ok status w =>
      match pollSlots driver rest w with
      | .ok changed w => .ok (status.changed || changed) w
      | .error e w => .error e w

def poll (driver : Driver σ) : Op σ Bool := fun (r, s) =>
  match driver.isPresent s with
  | (false, s) => .error .deviceDisconnected (r, s)
  | (true, s) => pollSlots driver (List.range r.slots.length) (r, s)

/-- Slots after a report about each of them. -/
def observeAll : List Slot → List CardStatus → List Slot
  | slot :: slots, reported :: reports => slot.observe reported :: observeAll slots reports
  | slots, _ => slots

/-- Take the device's events into account. Whether a card changed. -/
def handleEvent (driver : Driver σ) : Op σ Bool := do
  let (r, _) ← get
  let reports ← onDevice (driver.event r.statuses)
  let slots := observeAll r.slots reports
  modify (fun (r, s) => ({ r with slots }, s))
  return slots.any (·.status.changed)

def handleHangUp (driver : Driver σ) : Op σ Unit :=
  onDevice driver.hangUp

end Reader

end CardTerminal
