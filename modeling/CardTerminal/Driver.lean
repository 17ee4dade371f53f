import CardTerminal.Atr
import CardTerminal.Link
import CardTerminal.Protocol.Engine
import CardTerminal.Protocol.Memory
import CardTerminal.Status.Flags

/-!
What a reader needs from the driver of a device.

A driver is a record of hooks over the device's state. Only the name, attaching, card status and
card reset have to be given; every other hook says what a device without it does.
-/

namespace CardTerminal

/-- What a device says of itself when it is attached. -/
structure ReaderInfo where
  name : String
  slots : Nat
  flags : ReaderFlags
  /-- The node of every slot. -/
  dads : Bytes
  /-- The field length that T=1 cards are told. -/
  ifsd : Option Nat
  deriving DecidableEq, Repr

/-- The node of a slot: the first slot has one of its own, all others share one. -/
def ReaderInfo.node (slot : Nat) : UInt8 :=
  if slot = 0 then 0x00 else 0x32

/-- A reader with so many slots that can do nothing else. -/
def ReaderInfo.new (name : String) (slots : Nat) : ReaderInfo :=
  ⟨name, slots, .none, (List.range slots).map node, none⟩

/-- The parity of a serial line. -/
inductive Parity where
  | none
  | odd
  | even
  deriving DecidableEq, Repr

/-- The hooks of a driver. -/
structure Driver (σ : Type) extends Link σ where
  send := fun _ _ => throw .notSupported
  recv := fun _ _ _ => throw .notSupported
  name : String
  /-- Make the device ready. -/
  attach : Action σ ReaderInfo
  /-- Leave the device. -/
  close : Action σ Unit := pure ()
  activate : Action σ Unit := pure ()
  deactivate : Action σ Unit := pure ()
  changeParity : Parity → Action σ Unit := fun _ => throw .notSupported
  changeSpeed : Nat → Action σ Unit := fun _ => throw .notSupported
  /-- Whether there is a card in a slot. -/
  cardStatus : Nat → Action σ CardStatus
  /-- Reset the card in a slot. -/
  cardReset : Nat → Action σ Atr
  /-- Ask for a card in a slot, for so long and with a message, and reset it. -/
  cardRequest : Nat → Nat → Option String → Action σ Atr := fun _ _ _ => throw .notSupported
  /-- Give the card in a slot back, in so long and with a message. -/
  cardEject : Nat → Nat → Option String → Action σ Unit := fun _ _ _ => throw .notSupported
  /-- Show a message. -/
  output : String → Action σ Unit := fun _ => throw .notSupported
  /-- Have a PIN typed for the card in a slot, for so long and with a prompt, and verify it with
  the given command. -/
  performVerify : Nat → Nat → Option String → Bytes → Action σ Bytes :=
    fun _ _ _ _ => throw .notSupported
  /-- Prepare a slot for a protocol. A device that runs the protocol gives the engine to use. -/
  setProtocol : Nat → ProtocolId → Action σ (Option Engine) := fun _ _ => pure none
  /-- Exchange a whole command with the card in a slot. -/
  transparent : Nat → Bytes → Action σ Bytes := fun _ _ => throw .notSupported
  /-- Read so many bytes from an address on, from the memory card in a slot. -/
  readMemory : Nat → ProtocolId → Nat → Nat → Action σ Bytes :=
    fun _ _ _ _ => throw .notSupported
  /-- Write bytes from an address on, to the memory card in a slot. -/
  writeMemory : Nat → ProtocolId → Nat → Bytes → Action σ Unit :=
    fun _ _ _ _ => throw .notSupported
  /-- A command for the reader itself. -/
  escape : Nat → Bytes → Action σ Bytes := fun _ _ => throw .notSupported
  /-- Take what has happened into account: the status of every slot as it was, and as it is. -/
  event : List CardStatus → Action σ (List CardStatus) := pure
  /-- The device's event channel broke. -/
  hangUp : Action σ Unit := throw .deviceDisconnected
  beforeCommand : Action σ Unit := pure ()
  afterCommand : Action σ Unit := pure ()
  /-- Whether the device is still there. -/
  isPresent : σ → Bool × σ := fun s => (true, s)

namespace Driver

variable {σ : Type}

def memoryCard (driver : Driver σ) (slot : Nat) (kind : MemoryKind) : MemoryCard σ :=
  ⟨driver.readMemory slot kind.protocol, driver.writeMemory slot kind.protocol⟩

end Driver

/-- A driver with the state of its device. -/
structure Device where
  State : Type
  driver : Driver State
  state : State

end CardTerminal
