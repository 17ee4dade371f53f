import CardTerminal.Atr
import CardTerminal.Request
import CardTerminal.Status.Flags
import CardTerminal.Tlv

/-!
What a client can ask for, the requests that ask for it, and what the answers mean.
-/

namespace CardTerminal.Client

/-- What a client asks for. Durations are milliseconds. -/
inductive Call where
  /-- What the reader is. -/
  | describe
  | cardStatus (slot : UInt8)
  | lock (slot : UInt8) (kind : LockKind)
  | unlock (slot : UInt8) (handle : UInt32)
  | reset (slot : UInt8)
  | request (slot : UInt8) (timeout : Option Nat) (message : Option String)
  | eject (slot : UInt8) (timeout : Option Nat) (message : Option String)
  | output (message : String)
  | performVerify (slot : UInt8) (timeout : Option Nat) (message : Option String) (command : Bytes)
  | transact (slot : UInt8) (command : Bytes)
  | setProtocol (slot : UInt8) (protocol : UInt32)
  | readMemory (slot : UInt8) (address : UInt16) (count : Nat)
  | writeMemory (slot : UInt8) (address : UInt16) (bytes : Bytes)
  deriving DecidableEq, Repr

/-- What a client learns. -/
inductive Answer where
  /-- A reader's name, units and capabilities; the name is empty if no reader was asked. -/
  | description (name : String) (units : Bytes) (flags : ReaderFlags)
  | cardStatus (status : CardStatus)
  | lock (handle : UInt32)
  | atr (atr : Atr)
  | bytes (bytes : Bytes)
  | protocol (number : UInt32)
  | done
  deriving DecidableEq, Repr

namespace Call

/-- The room for a reader's name, with the NUL behind it. -/
def nameSize : Nat := 64

/-! ## Requests -/

/-- A number that has to fit an item. -/
def checked (n : Nat) : Except Error UInt32 :=
  if n < UInt32.size then .ok (UInt32.ofNat n) else .error .invalidArg

/-- The item of a time, in whole seconds. -/
def timeoutItem : Option Nat → Except Error (List Tlv.Item)
  | none => .ok []
  | some timeout => do return [.ofNumber Tag.timeout (← checked (timeout / 1000))]

def messageItem (message : Option String) : List Tlv.Item :=
  message.toList.map (Tlv.Item.ofText Tag.message)

def itemRequest (command : Command) (unit : UInt8) (items : List Tlv.Item) :
    Except Error Request := do
  return ⟨command, unit, ← Tlv.write items⟩

def request? : Call → Except Error Request
  | .describe => .ok ⟨.status, unitReader, []⟩
  | .cardStatus slot => .ok ⟨.status, slot, []⟩
  | .lock slot kind => itemRequest .lock slot [.ofNumber Tag.lockType kind.number]
  | .unlock slot handle => itemRequest .unlock slot [.ofNumber Tag.lock handle]
  | .reset slot => .ok ⟨.reset, slot, []⟩
  | .request slot timeout message => do
    itemRequest .requestIcc slot ((← timeoutItem timeout) ++ messageItem message)
  | .eject slot timeout message => do
    itemRequest .ejectIcc slot ((← timeoutItem timeout) ++ messageItem message)
  | .output message => itemRequest .output unitReader (messageItem (some message))
  | .performVerify slot timeout message command => do
    itemRequest .performVerify slot
      ((← timeoutItem timeout) ++ messageItem message ++ [⟨Tag.pinData, command⟩])
  | .transact slot command => .ok ⟨.transact, slot, command⟩
  | .setProtocol slot protocol => itemRequest .setProtocol slot [.ofNumber Tag.protocol protocol]
  | .readMemory slot address count => do
    itemRequest .memoryRead slot
      [.ofNumber Tag.address address.toUInt32, .ofNumber Tag.count (← checked count)]
  | .writeMemory slot address bytes =>
    itemRequest .memoryWrite slot [.ofNumber Tag.address address.toUInt32, ⟨Tag.data, bytes⟩]

/-! ## Answers -/

def given {α : Type} : Option α → Except Error α
  | some a => .ok a
  | none => .error .invalidMsg

def answerOfItems (items : List Tlv.Item) : Call → Except Error Answer
  | .describe => do
    let flags ← Tlv.number? items Tag.readerFlags
    return .description ((Tlv.text? items Tag.readerName nameSize).getD "")
      ((Tlv.value? items Tag.readerUnits).getD []) (ReaderFlags.known ⟨flags.getD 0⟩)
  | .cardStatus _ => do
    let bits ← given (← Tlv.number? items Tag.cardStatus)
    return .cardStatus (.ofBits bits.toUInt8)
  | .lock _ _ => do return .lock (← given (← Tlv.number? items Tag.lock))
  | .reset _ | .request _ _ _ => .ok (.atr (Tlv.value? items Tag.atr))
  | .performVerify _ _ _ _ => do return .bytes (← given (Tlv.value? items Tag.cardResponse))
  | .setProtocol _ protocol => do
    return .protocol ((← Tlv.number? items Tag.protocol).getD protocol)
  | .readMemory _ _ _ => do return .bytes (← given (Tlv.value? items Tag.data))
  | .unlock _ _ | .eject _ _ _ | .output _ | .transact _ _ | .writeMemory _ _ _ => .ok .done

def answer (call : Call) (body : Bytes) : Except Error Answer :=
  match call with
  | .transact _ _ => .ok (.bytes body)
  | .unlock _ _ | .eject _ _ _ | .output _ | .writeMemory _ _ _ => .ok .done
  | call => do call.answerOfItems (← Tlv.parse .short body)

end Call

end CardTerminal.Client
