import CardTerminal.Protocol.Gbp
import CardTerminal.Protocol.Id
import CardTerminal.Protocol.T0
import CardTerminal.Protocol.T1

/-!
The engine of a slot: what the host has to know to talk to the card in it.
-/

namespace CardTerminal

/-- The engine of a slot. -/
inductive Engine where
  | t0 (engine : T0)
  | t1 (engine : T1)
  | gbp (engine : Gbp)
  /-- The reader exchanges whole commands. -/
  | transparent
  /-- A memory card takes no commands. -/
  | memory (kind : MemoryKind)
  /-- Commands for the reader itself. -/
  | escape
  deriving DecidableEq, Repr

namespace Engine

/-- A fresh engine for a protocol, which talks to a node. -/
def new (id : ProtocolId) (dad : UInt8) : Engine :=
  match id with
  | .t0 => .t0 (.new dad)
  | .t1 => .t1 (.new dad)
  | .gbp => .gbp (.new dad)
  | .transparent => .transparent
  | .escape => .escape
  | .i2cShort => .memory .i2cShort
  | .i2cLong => .memory .i2cLong
  | .eurochip => .memory .eurochip
  | .twoWire => .memory .twoWire
  | .threeWire => .memory .threeWire

def id : Engine → ProtocolId
  | .t0 _ => .t0
  | .t1 _ => .t1
  | .gbp _ => .gbp
  | .transparent => .transparent
  | .escape => .escape
  | .memory kind => kind.protocol

/-- The engine as an answer to reset asks for it. -/
def configure (info : Atr.Info) : Engine → Engine
  | .t1 engine => .t1 (engine.configure info)
  | engine => engine

@[simp] theorem id_new (id : ProtocolId) (dad : UInt8) : (new id dad).id = id := by
  cases id <;> rfl

@[simp] theorem id_configure (info : Atr.Info) (engine : Engine) :
    (engine.configure info).id = engine.id := by
  cases engine <;> rfl

end Engine

end CardTerminal
