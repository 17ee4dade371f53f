import CardTerminal.Protocol.Block
import CardTerminal.Protocol.Fault

/-!
The block protocol between the host and some readers.

Its blocks are those of T=1 with an exclusive-or check, but a request and its answer each fit into
one I-block. A link that cannot be repaired is started afresh once in an exchange.
-/

namespace CardTerminal

/-- The engine of a reader's block protocol. -/
structure Gbp where
  /-- The node that the reader answers at. -/
  dad : UInt8
  /-- The number of the host's next I-block. -/
  ns : Bool
  /-- The number that the reader's next I-block should have. -/
  nr : Bool
  /-- How many bad blocks are repaired before the link is started afresh. -/
  retries : Nat
  /-- How long to wait for a block. -/
  timeout : Nat
  deriving DecidableEq, Repr

namespace Gbp

variable {σ : Type}

/-- The address from the host to the reader. -/
def nad : UInt8 := 0x42

def new (dad : UInt8) : Gbp :=
  ⟨dad, false, false, 3, 2000⟩

/-- What an exchange comes to with a block received. -/
inductive Verdict where
  | answered (answer : Bytes)
  /-- Send this block, if another one may be sent. -/
  | repeated (reply : Block)
  | lost (cause : Error)
  deriving DecidableEq, Repr

def carry (g : Gbp) (request : Bytes) : Block :=
  .information g.ns false request

/-- What to do with what was received. -/
def react (g : Gbp) (request : Bytes) (received : Except Error Block) : Verdict :=
  match received with
  | .ok block =>
    match block.kind with
    | .information ns _ =>
      if ns = g.nr then .answered block.info else .repeated (.receipt g.nr .other)
    | .receipt _ => .repeated (g.carry request)
    | .supervisory _ _ => .repeated (.receipt g.nr .other)
  | .error cause =>
    if Block.recoverable cause then .repeated (.receipt g.nr (.of cause)) else .lost cause

def send (link : Link σ) (g : Gbp) (block : Block) : Action σ Unit :=
  link.send g.dad (block.encode nad .lrc)

/-- Receive one block; a failure is a value here, as the exchange may survive it. -/
def receive (link : Link σ) (g : Gbp) (s : σ) : Except Error Block × σ :=
  match Block.receive link g.dad .lrc g.timeout false s with
  | .ok bytes s => (Block.decode (Block.replyNad nad) .lrc bytes, s)
  | .error e s => (.error e, s)

/-- Send a block and repair what comes back, `budget` times. No outcome means that the link has to
be started afresh. -/
def run (link : Link σ) (g : Gbp) (request : Bytes) (budget : Nat) (next : Block) (s : σ) :
    Option Ended × σ :=
  match g.send link next s with
  | .error e s => (some (.error (.lost e)), s)
  | .ok _ s =>
    let (received, s) := g.receive link s
    match g.react request received with
    | .answered answer => (some (.ok answer), s)
    | .lost cause => (some (.error (.lost cause)), s)
    | .repeated reply =>
      match budget with
      | 0 => (none, s)
      | left + 1 => run link g request left reply s

def attempt (link : Link σ) (g : Gbp) (request : Bytes) (s : σ) :
    Option Ended × σ :=
  g.run link request g.retries (g.carry request) s

def resynch (link : Link σ) (g : Gbp) (s : σ) : Except Fault Unit × σ :=
  match g.send link (.request .resynch []) s with
  | .error e s => (.error (.lost e), s)
  | .ok _ s =>
    match g.receive link s with
    | (.ok block, s) =>
      (if block.kind = .supervisory .resynch true then .ok () else .error (.lost .commError), s)
    | (.error _, s) => (.error (.lost .commError), s)

/-- The end of an exchange; an answer moves both sequence numbers on. -/
def finish (g : Gbp) (outcome : Ended) (s : σ) : Exchange Ended Gbp σ :=
  match outcome with
  | .ok answer => ⟨.ok answer, { g with ns := !g.ns, nr := !g.nr }, s⟩
  | .error fault => ⟨.error fault, g, s⟩

def transceive (link : Link σ) (g : Gbp) (request : Bytes) (s : σ) : Exchange Ended Gbp σ :=
  if Block.maxInfo < request.length then ⟨.error (.failed .invalidArg), g, s⟩
  else
    match g.attempt link request s with
    | (some outcome, s) => g.finish outcome s
    | (none, s) =>
      match g.resynch link s with
      | (.error fault, s) => ⟨.error fault, g, s⟩
      | (.ok _, s) =>
        let g := { g with ns := false, nr := false }
        match g.attempt link request s with
        | (some outcome, s) => g.finish outcome s
        | (none, s) => ⟨.error (.lost .commError), g, s⟩

end Gbp

end CardTerminal
