import CardTerminal.Atr

/-!
Selecting a protocol: the host asks for one, and the card confirms by an echo.

A message is a fixed byte, a byte that names the protocol and announces up to three parameters,
the parameters, and a check byte that makes the exclusive or of the whole message zero. The card
may drop parameters from its echo to ask for their default values.
-/

namespace CardTerminal

/-- What a message selects. -/
structure Pts where
  protocol : UInt8
  pts1 : Option UInt8
  pts2 : Option UInt8
  pts3 : Option UInt8
  deriving DecidableEq, Repr

namespace Pts

/-- The byte that every message begins with. -/
def initial : UInt8 := 0xFF

/-- The request for a protocol; it repeats the parameters TA1 and TC1 that the card gave. -/
def request (info : Atr.Info) (protocol : UInt8) : Bytes :=
  let bit (parameter : Option UInt8) (b : UInt8) : UInt8 := if parameter.isSome then b else 0
  let message := [initial, protocol % 16 + bit info.ta1 0x10 + bit info.tc1 0x20]
    ++ info.ta1.toList ++ info.tc1.toList
  message ++ [Bytes.xorAll message]

/-- Whether a parameter is announced by the bit of value `bit`. -/
def announces (pts0 : UInt8) (bit : Nat) : Bool :=
  pts0.toNat / bit % 2 = 1

def parameterCount (pts0 : UInt8) : Nat :=
  (announces pts0 0x10).toNat + (announces pts0 0x20).toNat + (announces pts0 0x40).toNat

/-- The next byte, if it is announced and there is one. -/
def next (announced : Bool) (bytes : Bytes) : Option UInt8 × Bytes :=
  match announced, bytes with
  | true, b :: rest => (some b, rest)
  | _, bytes => (none, bytes)

def parse : Bytes → Except Error Pts
  | 0xFF :: pts0 :: rest =>
    if Bytes.xorAll (0xFF :: pts0 :: rest) = 0 then
      let (pts1, rest) := next (announces pts0 0x10) rest
      let (pts2, rest) := next (announces pts0 0x20) rest
      let (pts3, _) := next (announces pts0 0x40) rest
      .ok ⟨pts0 % 16, pts1, pts2, pts3⟩
    else .error (.protocolError .badPtsChecksum)
  | _ => .error (.protocolError .badPtsHeader)

/-- The protocol that an answer confirms: the whole request when it is repeated, and otherwise the
requested protocol with other parameters. -/
def confirm (request response : Bytes) : Except Error UInt8 := do
  let asked ← parse request
  if request = response then return asked.protocol
  let answered ← parse response
  if answered.protocol = asked.protocol then return answered.protocol
  throw (.protocolError .ptsRefused)

end Pts

end CardTerminal
