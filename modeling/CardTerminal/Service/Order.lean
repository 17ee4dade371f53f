import CardTerminal.Protocol.Id
import CardTerminal.Request
import CardTerminal.Tlv

/-!
What a request asks a service to do, with its arguments understood and checked.

`Order.decode` refuses a request before anything is done for it: by its unit, by the form of its
arguments, by the locks of other clients, and by the arguments themselves, in this order.
-/

namespace CardTerminal

/-- What a service is asked to do. Durations are milliseconds. -/
inductive Order where
  | describe
  | cardStatus (slot : Nat)
  | lock (slot : Nat) (kind : LockKind)
  | unlock (slot : Nat) (handle : UInt32)
  | reset (slot : Nat)
  | request (slot timeout : Nat) (message : Option String)
  | eject (slot timeout : Nat) (message : Option String)
  | output (message : String)
  | performVerify (slot timeout : Nat) (message : Option String) (command : Bytes)
  | transact (slot : Nat) (command : Bytes)
  | setProtocol (slot : Nat) (protocol : ProtocolId)
  | readMemory (slot address count : Nat)
  | writeMemory (slot address : Nat) (bytes : Bytes)
  deriving DecidableEq, Repr

namespace Order

/-- How long users are given if the client does not say. -/
def defaultTimeout : Nat := 30000

/-- The most bytes of memory that one answer can hold. -/
def maxRead : Nat := 254

/-- The room for a message, with the NUL behind it. -/
def messageSize : Nat := 128

/-- The unit that a request is about: the reader itself, or one of its slots. -/
def unitOf (slots : Nat) (unit : UInt8) : Except Error (Option Nat) :=
  if unit = unitReader then .ok none
  else if unit.toNat < slots then .ok (some unit.toNat)
  else .error .invalidSlot

def slotOf : Option Nat → Except Error Nat
  | some slot => .ok slot
  | none => .error .invalidSlot

/-- The time given, or else the usual one. -/
def timeoutOf (items : List Tlv.Item) : Except Error Nat := do
  match ← Tlv.number? items Tag.timeout with
  | some seconds => return seconds.toNat * 1000
  | none => return defaultTimeout

def messageOf (items : List Tlv.Item) : Option String :=
  Tlv.text? items Tag.message messageSize

/-- The address given, which has to fit two bytes. -/
def addressOf (items : List Tlv.Item) : Except Error Nat := do
  let address ← Tlv.requiredNumber items Tag.address
  if address.toNat < 65536 then return address.toNat else throw .invalidArg

def required {α : Type} : Option α → Except Error α
  | some a => .ok a
  | none => .error .missingArg

/-- What a request about a unit asks for. `access` says whether the client may talk to the card in
a slot. -/
def ofItems (command : Command) (unit : Option Nat) (access : Nat → Except Error Unit)
    (items : List Tlv.Item) : Except Error Order := do
  match command, unit with
  | .status, none => return .describe
  | .status, some slot => return .cardStatus slot
  | .output, _ => return .output (← required (messageOf items))
  | .lock, _ =>
    let slot ← slotOf unit
    return .lock slot (← LockKind.ofNumber (← Tlv.requiredNumber items Tag.lockType))
  | .unlock, _ =>
    let slot ← slotOf unit
    return .unlock slot (← Tlv.requiredNumber items Tag.lock)
  | _, _ =>
    let slot ← slotOf unit
    access slot
    match command with
    | .reset => return .reset slot
    | .requestIcc => return .request slot (← timeoutOf items) (messageOf items)
    | .ejectIcc => return .eject slot (← timeoutOf items) (messageOf items)
    | .performVerify =>
      let data ← required (Tlv.value? items Tag.pinData)
      return .performVerify slot (← timeoutOf items) (messageOf items) data
    | .setProtocol =>
      return .setProtocol slot (← ProtocolId.ofNumber (← Tlv.requiredNumber items Tag.protocol))
    | .memoryRead =>
      let address ← addressOf items
      let count ← Tlv.requiredNumber items Tag.count
      if maxRead < count.toNat then throw .invalidArg
      return .readMemory slot address count.toNat
    | .memoryWrite =>
      let address ← addressOf items
      return .writeMemory slot address (← required (Tlv.value? items Tag.data))
    | _ => throw .invalidCmd

/-- What a request asks of a service whose reader has so many slots. -/
def decode (slots : Nat) (access : Nat → Except Error Unit) (request : Request) :
    Except Error Order := do
  let unit ← unitOf slots request.unit
  if request.command = .transact then
    let slot ← slotOf unit
    access slot
    return .transact slot request.args
  else
    ofItems request.command unit access (← Tlv.parse .short request.args)

end Order

end CardTerminal
