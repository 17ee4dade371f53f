import CardTerminal.Error

/-!
The ways to talk to a card, and their numbers.
-/

namespace CardTerminal

/-- A family of memory cards. -/
inductive MemoryKind where
  | i2cShort
  | i2cLong
  | eurochip
  | twoWire
  | threeWire
  deriving DecidableEq, Repr

/-- A way to talk to a card. -/
inductive ProtocolId where
  | t0
  | t1
  | i2cShort
  | i2cLong
  | gbp
  | eurochip
  | escape
  | twoWire
  | threeWire
  | transparent
  deriving DecidableEq, Repr

def MemoryKind.protocol : MemoryKind → ProtocolId
  | .i2cShort => .i2cShort
  | .i2cLong => .i2cLong
  | .eurochip => .eurochip
  | .twoWire => .twoWire
  | .threeWire => .threeWire

namespace ProtocolId

/-- The number of a protocol, by which clients name it. -/
def number : ProtocolId → UInt32
  | .t0 => 0
  | .t1 => 1
  | .i2cShort => 16
  | .i2cLong => 17
  | .gbp => 19
  | .eurochip => 20
  | .escape => 22
  | .twoWire => 23
  | .threeWire => 24
  | .transparent => 128

def all : List ProtocolId :=
  [.t0, .t1, .i2cShort, .i2cLong, .gbp, .eurochip, .escape, .twoWire, .threeWire, .transparent]

def ofNumber (n : UInt32) : Except Error ProtocolId :=
  match all.find? (fun p => p.number = n) with
  | some p => .ok p
  | none => .error .notSupported

def memoryKind? : ProtocolId → Option MemoryKind
  | .i2cShort => some .i2cShort
  | .i2cLong => some .i2cLong
  | .eurochip => some .eurochip
  | .twoWire => some .twoWire
  | .threeWire => some .threeWire
  | _ => none

def isMemory (p : ProtocolId) : Bool :=
  p.memoryKind?.isSome

def name : ProtocolId → String
  | .t0 => "T=0"
  | .t1 => "T=1"
  | .i2cShort => "I2C-short"
  | .i2cLong => "I2C-long"
  | .gbp => "GBP"
  | .eurochip => "Eurochip"
  | .escape => "escape"
  | .twoWire => "2-wire"
  | .threeWire => "3-wire"
  | .transparent => "transparent"

@[simp] theorem ofNumber_number (p : ProtocolId) : ofNumber p.number = .ok p := by
  cases p <;> rfl

end ProtocolId

end CardTerminal
