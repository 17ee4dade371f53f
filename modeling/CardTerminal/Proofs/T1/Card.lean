import CardTerminal.Protocol.T1

/-!
A T=1 card, and a wire to it that loses and damages blocks.

The card numbers its blocks as ISO 7816-3 says: it keeps the number of the host's next I-block
(`expected`) and of its own next one (`number`). What it computes is any function of its memory and
a command, and it cuts the answer into blocks as it likes. It records the commands that it ran, so
that what an exchange did to it can be told from its answer.

A block on the wire arrives, arrives damaged or is lost, on the way to the card and on the way back.
The host's receipt of the card's answer is one whole block, or an error.
-/

namespace CardTerminal.T1

/-! ## The card -/

abbrev Fragment : Type :=
  { info : Bytes // info.length ≤ Block.maxInfo }

/-- A block that its length byte can describe. -/
abbrev Frame : Type :=
  { block : Block // block.info.length ≤ Block.maxInfo }

/-- The answer to a command, as the card cuts it. -/
structure Response where
  first : Fragment
  rest : List Fragment

def contents (fragments : List Fragment) : Bytes :=
  (fragments.map Subtype.val).flatten

def Response.bytes (r : Response) : Bytes :=
  contents (r.first :: r.rest)

/-- What a card computes: its answer to a command, and its memory afterwards. -/
abbrev Application (μ : Type) : Type :=
  μ → Bytes → Response × μ

/-- An I-block that the card sent. -/
structure Sent where
  number : Bool
  more : Bool
  fragment : Fragment

def Sent.frame (sent : Sent) : Frame :=
  ⟨.information sent.number sent.more sent.fragment.1, sent.fragment.2⟩

/-- A T=1 card. -/
structure Card (μ : Type) where
  /-- The number of the host's next I-block. -/
  expected : Bool
  /-- The number of the card's next new I-block. -/
  number : Bool
  memory : μ
  /-- The commands that were run. -/
  ran : List Bytes
  /-- What has arrived of a command. -/
  command : Bytes
  /-- What of an answer is not yet sent. -/
  waiting : List Fragment
  /-- The last I-block that the card sent. -/
  lastInfo : Option Sent
  /-- The last block that the card sent. -/
  last : Option Frame

namespace Card

variable {μ : Type}

/-- The R-block that asks for the host's next I-block. -/
def ready (c : Card μ) (flaw : Block.Flaw) : Frame :=
  ⟨.receipt c.expected flaw, Nat.zero_le _⟩

def say (c : Card μ) (frame : Frame) : Frame × Card μ :=
  (frame, { c with last := some frame })

def emit (c : Card μ) (fragment : Fragment) (waiting : List Fragment) : Frame × Card μ :=
  let sent : Sent := ⟨c.number, !waiting.isEmpty, fragment⟩
  { c with number := !c.number, waiting, lastInfo := some sent }.say sent.frame

/-- Run the command that has arrived, and begin to answer. -/
def execute (app : Application μ) (c : Card μ) : Frame × Card μ :=
  let (response, memory) := app c.memory c.command
  { c with memory, ran := c.ran ++ [c.command], command := [] }.emit response.first response.rest

/-- An I-block: the expected one is taken, and any other makes the card repeat itself. -/
def onInformation (app : Application μ) (c : Card μ) (ns more : Bool) (info : Bytes) :
    Frame × Card μ :=
  if ns = c.expected then
    let c := { c with expected := !c.expected, command := c.command ++ info }
    if more then c.say (c.ready .none) else c.execute app
  else c.say (c.last.getD (c.ready .none))

/-- An R-block: it asks for the last I-block again, or for the next one. -/
def onReceipt (c : Card μ) (nr : Bool) : Frame × Card μ :=
  match c.lastInfo, c.waiting with
  | some sent, [] => c.say (if nr = sent.number then sent.frame else c.ready .none)
  | some sent, fragment :: waiting =>
    if nr = sent.number then c.say sent.frame else c.emit fragment waiting
  | none, _ => c.say (c.ready .none)

def restart (c : Card μ) : Frame × Card μ :=
  { c with
    expected := false
    number := false
    command := []
    waiting := []
    lastInfo := none }.say ⟨.response .resynch [], Nat.zero_le _⟩

/-- What the card does with what it received. -/
def react (app : Application μ) (c : Card μ) (received : Except Error Block) : Frame × Card μ :=
  match received with
  | .error cause => c.say (c.ready (.of cause))
  | .ok block =>
    match block.kind with
    | .information ns more => c.onInformation app ns more block.info
    | .receipt nr => c.onReceipt nr
    | .supervisory .resynch false => c.restart
    | .supervisory _ _ => c.say (c.ready .other)

/-- The card answered all it was told, and was acknowledged. -/
structure Idle (c : Card μ) : Prop where
  command : c.command = []
  waiting : c.waiting = []
  lastInfo : ∀ sent ∈ c.lastInfo, sent.number = !c.number

end Card

/-! ## The wire -/

/-- What becomes of a block on its way. -/
inductive Fate where
  | intact
  | damaged (bytes : Bytes)
  | lost
  deriving DecidableEq, Repr

/-- The bytes that arrive, if any do. -/
def Fate.deliver (bytes : Bytes) : Fate → Option Bytes
  | .intact => some bytes
  | .damaged bytes => some bytes
  | .lost => none

/-- A wire: what becomes of each block of the host, counted from the first, and of the card's
answer to it. -/
structure Wire where
  there : Nat → Fate
  back : Nat → Fate
  patience : Nat

/-- The state of a wire with the card at its end. -/
structure Wire.State (μ : Type) where
  card : Card μ
  /-- The blocks of the host so far. -/
  sent : List Bytes
  /-- What arrived of the card's last answer, and is not yet received. -/
  incoming : Bytes

namespace Wire

variable {μ : Type}

/-- Carry a block to the card, and the answer back. -/
def carry (wire : Wire) (app : Application μ) (nad : UInt8) (cs : Checksum) (bytes : Bytes)
    (s : State μ) : State μ :=
  match (wire.there s.sent.length).deliver bytes with
  | none => { s with sent := s.sent ++ [bytes], incoming := [] }
  | some arrived =>
    let (reply, card) := s.card.react app (Block.decode nad cs arrived)
    let answer := reply.1.encode (Block.replyNad nad) cs
    { card
      sent := s.sent ++ [bytes]
      incoming := ((wire.back s.sent.length).deliver answer).getD [] }

/-- The wire as the host sees it. What does not arrive makes the host wait in vain. -/
def toLink (wire : Wire) (app : Application μ) (nad : UInt8) (cs : Checksum) : Link (State μ) where
  send _ bytes := fun s => .ok () (wire.carry app nad cs bytes s)
  recv _ room _ := fun s =>
    if s.incoming.isEmpty then .error .timeout s
    else .ok (s.incoming.take room) { s with incoming := s.incoming.drop room }
  patience := wire.patience

/-- The part of what arrived that the host takes for a block. -/
def heard (whole : Bool) (cs : Checksum) (bytes : Bytes) : Bytes :=
  if whole then bytes.take (Block.headerLength + Block.maxInfo + cs.length)
  else bytes.take (Block.headerLength + ((bytes.getD 2 0).toNat + cs.length))

/-- Damage does not go unnoticed: a damaged block cannot be read, by the card or by the host. -/
structure Detects (wire : Wire) (nad : UInt8) (cs : Checksum) (whole : Bool) : Prop where
  there : ∀ n bytes, wire.there n = .damaged bytes →
    ∃ e, Block.decode nad cs bytes = .error e
  back : ∀ n bytes, wire.back n = .damaged bytes →
    ∃ e, Block.decode (Block.replyNad nad) cs (heard whole cs bytes) = .error e

end Wire

end CardTerminal.T1
