import CardTerminal.Bytes
import CardTerminal.Error

/-!
The byte channel to a card, seen from the host.

A device is any state and what its hooks do to it, so everything said here holds of every device:
of one that answers as it should, of one that loses bytes and of one that invents them. A call
gives a value or an error, and in either case the device may have changed.

Durations are milliseconds.
-/

namespace CardTerminal

/-- A call of a device in state `σ`. -/
abbrev Action (σ α : Type) : Type :=
  EStateM Error σ α

/-- A byte channel. -/
structure Link (σ : Type) where
  /-- Send bytes to a node. -/
  send : UInt8 → Bytes → Action σ Unit
  /-- Wait for bytes from a node: at most so many, for so long. A channel that carries single
  characters may give fewer than there is room for; one that carries blocks gives a whole block. -/
  recv : UInt8 → Nat → Nat → Action σ Bytes
  /-- For how many blocks an exchange is followed. This is no limit of the host's: an exchange that
  is not over by then has no outcome. -/
  patience : Nat

namespace Link

variable {σ : Type}

/-- What is received in the room that was given; bytes without room are lost. -/
def receive (link : Link σ) (dad : UInt8) (room timeout : Nat) : Action σ Bytes := fun s =>
  match link.recv dad room timeout s with
  | .ok bytes s => .ok (bytes.take room) s
  | .error e s => .error e s

/-- Receive until `wanted` bytes are there. What came before a failure is given with it. -/
def gather (link : Link σ) (dad : UInt8) (timeout wanted : Nat) (s : σ) :
    Bytes × EStateM.Result Error σ Unit :=
  if wanted = 0 then ([], .ok () s)
  else
    match link.receive dad wanted timeout s with
    | .error e s => ([], .error e s)
    | .ok [] s => ([], .error .commError s)
    | .ok (b :: bs) s =>
      let (more, ending) := gather link dad timeout (wanted - (bs.length + 1)) s
      (b :: bs ++ more, ending)
termination_by wanted
decreasing_by omega

def receiveExactly (link : Link σ) (dad : UInt8) (timeout wanted : Nat) : Action σ Bytes := fun s =>
  match link.gather dad timeout wanted s with
  | (bytes, .ok _ s) => .ok bytes s
  | (_, .error e s) => .error e s

end Link

end CardTerminal
