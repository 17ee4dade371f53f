import CardTerminal.Packet
import CardTerminal.Service

/-!
A server: it lets clients connect, and passes their requests to a service one at a time.

Every connection is a task of its own that reads a packet, waits for the answer and writes it. Tasks
and service are joined by a queue of events. Each thing that can happen next is a `Move`, and which
one happens is left open; `Server.settle` is one way to let everything happen that can.
-/

namespace CardTerminal

namespace Server

/-- What a connection is at. -/
inductive Task where
  | reading
  /-- The answer to this transaction is awaited. -/
  | awaiting (xid : UInt32)
  /-- The answer to this transaction is there. -/
  | replying (xid : UInt32) (answer : Except Error Bytes)
  | ended

/-- A connection of a client. -/
structure Connection where
  /-- The user who runs the client. -/
  uid : UInt32
  task : Task
  /-- What the client has sent and the server has not read. -/
  inbound : Bytes
  /-- What the server has written and the client has not read. -/
  outbound : Bytes
  /-- The client is gone. -/
  hungUp : Bool

/-- What a connection tells the service. -/
inductive Event where
  | request (peer : Peer) (payload : Bytes)
  | closed (peer : Peer)
  deriving DecidableEq, Repr

/-- A service in state `ω`, as a server uses it. Only answering requests has to be given; a service
that is broken ends the server. -/
structure Host (ω : Type) where
  /-- The answer to a request, unless there never is one. -/
  process : Peer → Bytes → ω → Option (Except Error Bytes × ω)
  /-- A client is gone. -/
  closed : Peer → ω → ω := fun _ w => w
  /-- It is time to look after things. -/
  tick : Action ω Unit := pure ()
  /-- There are events. -/
  event : Action ω Unit := pure ()
  /-- The event channel broke. -/
  hangUp : Action ω Unit := throw .deviceDisconnected

/-- Something that can happen in a server. -/
inductive Move where
  /-- The next client that wants to connect is let in. -/
  | accept
  /-- A connection reads a packet, or sees that its client is gone. -/
  | read (n : Nat)
  /-- The service takes the next event. -/
  | handle
  /-- A connection writes an answer. -/
  | write (n : Nat)
  deriving DecidableEq, Repr

end Server

/-- A server and its service. A connection is known by its place among all connections. -/
structure Server (ω : Type) where
  /-- How many clients are let in at the same time. -/
  limit : Nat
  /-- All connections ever asked for, in their order. -/
  connections : List Server.Connection
  /-- How many of them have been let in. -/
  accepted : Nat
  /-- How many of those have not been found to be gone. -/
  connected : Nat
  queue : List Server.Event
  world : ω

namespace Server

variable {ω : Type}

/-- A server without connections; at least one client is let in. -/
def new (limit : Nat) (world : ω) : Server ω :=
  ⟨max limit 1, [], 0, 0, [], world⟩

/-- How packets are written. -/
def order : ByteOrder := .native

/-! ## Clients -/

def connect (uid : UInt32) (s : Server ω) : Server ω :=
  { s with connections := s.connections ++ [⟨uid, .reading, [], [], false⟩] }

def modify (n : Nat) (f : Connection → Connection) (s : Server ω) : Server ω :=
  { s with connections := s.connections.modify n f }

def send (n : Nat) (bytes : Bytes) : Server ω → Server ω :=
  modify n (fun c => { c with inbound := c.inbound ++ bytes })

def hangUp (n : Nat) : Server ω → Server ω :=
  modify n (fun c => { c with hungUp := true })

/-- A client takes the next packet written to it. -/
def receive (n : Nat) (s : Server ω) : Option (Header × Bytes × Server ω) := do
  let c ← s.connections[n]?
  let (header, body, rest) ← Packet.split order c.outbound
  return (header, body, s.modify n (fun c => { c with outbound := rest }))

/-! ## Moves -/

/-- A connection ends, and the service is told. -/
def finish (peer : Peer) (s : Server ω) : Server ω :=
  { s.modify peer.id (fun c => { c with task := .ended }) with
    queue := s.queue ++ [.closed peer] }

def accept (s : Server ω) : Option (Server ω) :=
  if s.connected < s.limit ∧ s.accepted < s.connections.length then
    some { s with accepted := s.accepted + 1, connected := s.connected + 1 }
  else none

def read (n : Nat) (c : Connection) (s : Server ω) : Option (Server ω) :=
  match c.task, Packet.split order c.inbound with
  | .reading, some (header, payload, rest) =>
    some { s.modify n (fun c => { c with task := .awaiting header.xid, inbound := rest }) with
      queue := s.queue ++ [.request ⟨n, c.uid⟩ payload] }
  | .reading, none => if c.hungUp then some (s.finish ⟨n, c.uid⟩) else none
  | _, _ => none

/-- An answer reaches the connection that awaits it. -/
def deliver (answer : Except Error Bytes) (c : Connection) : Connection :=
  match c.task with
  | .awaiting xid => { c with task := .replying xid answer }
  | _ => c

/-- Let the service take the next event. Nothing comes after a request that is never answered. -/
def handle (host : Host ω) (s : Server ω) : Option (Server ω) :=
  match s.queue with
  | [] => none
  | .request peer payload :: queue =>
    (host.process peer payload s.world).map fun (answer, world) =>
      { s.modify peer.id (deliver answer) with queue, world }
  | .closed peer :: queue =>
    some { s with queue, connected := s.connected - 1, world := host.closed peer s.world }

/-- The packet that carries an answer: an error goes into its header. -/
def replyPacket (xid : UInt32) (answer : Except Error Bytes) : Except Error Bytes :=
  match answer with
  | .ok body => Packet.frame (.reply xid Error.success 0) body order
  | .error e => Packet.frame (.reply xid e.code 0) [] order

def write (n : Nat) (c : Connection) (s : Server ω) : Option (Server ω) :=
  match c.task with
  | .replying xid answer =>
    match replyPacket xid answer, c.hungUp with
    | .ok packet, false =>
      some (s.modify n (fun c => { c with task := .reading, outbound := c.outbound ++ packet }))
    | _, _ => some (s.finish ⟨n, c.uid⟩)
  | _ => none

/-- The server after a move, if the move can happen. -/
def move (host : Host ω) (s : Server ω) : Move → Option (Server ω)
  | .accept => s.accept
  | .handle => s.handle host
  | .read n => if n < s.accepted then s.connections[n]?.bind (s.read n) else none
  | .write n => if n < s.accepted then s.connections[n]?.bind (s.write n) else none

/-! ## Letting everything happen -/

def moves (s : Server ω) : List Move :=
  [.accept, .handle] ++ (List.range s.accepted).flatMap (fun n => [.write n, .read n])

/-- No more moves than this can happen without the clients: a connection is let in, read until it
ends, and every packet is read, handled and answered. -/
def effort (s : Server ω) : Nat :=
  s.connections.foldl (fun n c => n + 3 * c.inbound.length + 6) s.queue.length

/-- Make moves until none is left, or so many are made. -/
def settleWithin (host : Host ω) : Nat → Server ω → Server ω
  | 0, s => s
  | left + 1, s =>
    match s.moves.findSome? (s.move host) with
    | some s => settleWithin host left s
    | none => s

/-- Let everything happen that can. -/
def settle (host : Host ω) (s : Server ω) : Server ω :=
  settleWithin host s.effort s

/-! ## Serving a reader -/

def readerHost {σ : Type} (driver : Driver σ) : Host (Service.World σ) where
  process peer payload w :=
    match Service.process driver peer payload w with
    | .ok none _ => none
    | .ok (some body) w => some (.ok body, w)
    | .error e w => some (.error e, w)
  closed peer w :=
    match Service.closed peer w with
    | .ok _ w | .error _ w => w
  tick := Service.tick driver
  event := Service.event driver
  hangUp := Service.hangUp driver

end Server

end CardTerminal
