import CardTerminal.Client.Call
import CardTerminal.Packet

/-!
A client of a service.

Every request has a transaction number of its own, and the answer is the packet that repeats it;
packets that do not are left over from earlier requests, and are skipped. The client sees the other
side as a line on which bytes arrive, with silences between them that may be too long to wait.
-/

namespace CardTerminal.Client

/-- What a client finds when it reads. -/
inductive Arrival where
  | byte (b : UInt8)
  /-- Nothing, for as long as the client waits. -/
  | silence
  deriving DecidableEq, Repr

/-- A line from the other side. -/
structure Line where
  /-- What will be found, in this order. -/
  arrivals : List Arrival
  /-- The other side is gone: nothing can be written, and nothing comes after what has arrived. -/
  hungUp : Bool
  deriving DecidableEq, Repr

def Line.push (line : Line) (bytes : Bytes) : Line :=
  { line with arrivals := line.arrivals ++ bytes.map Arrival.byte }

/-- Read so many bytes. What was read before a failure is lost. -/
def Line.read (line : Line) : Nat → Except Error Bytes × Line
  | 0 => (.ok [], line)
  | n + 1 =>
    match line.arrivals with
    | [] => (.error (if line.hungUp then .commError else .timeout), line)
    | .silence :: rest => (.error .timeout, { line with arrivals := rest })
    | .byte b :: rest =>
      let (bytes, line) := Line.read { line with arrivals := rest } n
      (bytes.map (b :: ·), line)

def Line.readPacket (line : Line) : Except Error (Header × Bytes) × Line :=
  match line.read Header.size with
  | (.error e, line) => (.error e, line)
  | (.ok bytes, line) =>
    match Header.decode .native bytes with
    | none => (.error .invalidMsg, line)
    | some header =>
      match line.read header.count.toNat with
      | (.error e, line) => (.error e, line)
      | (.ok body, line) => (.ok (header, body), line)

theorem Line.length_read {n : Nat} {line line' : Line} {bytes : Bytes}
    (h : line.read n = (.ok bytes, line')) :
    line'.arrivals.length + n = line.arrivals.length := by
  induction n generalizing line line' bytes with
  | zero => cases h; rfl
  | succ n ih =>
    unfold Line.read at h
    split at h
    · cases h
    · cases h
    · next b rest arrived =>
      obtain ⟨got, hgot⟩ :
          ∃ got, Line.read { line with arrivals := rest } n = (.ok got, line') := by
        cases hr : Line.read { line with arrivals := rest } n with
        | mk result line'' =>
          rw [hr] at h
          cases result with
          | error e => simp [Except.map] at h
          | ok got => simp [Except.map] at h; exact ⟨got, by rw [h.2]⟩
      have := ih hgot
      simp only at this
      rw [arrived, List.length_cons]
      omega

theorem Line.length_readPacket {line line' : Line} {packet : Header × Bytes}
    (h : line.readPacket = (.ok packet, line')) : line'.arrivals.length < line.arrivals.length := by
  unfold Line.readPacket at h
  split at h
  · cases h
  · next bytes mid hhead =>
    split at h
    · cases h
    · next header _ =>
      split at h
      · cases h
      · next body last hbody =>
        cases h
        have := Line.length_read hhead
        have := Line.length_read hbody
        have : Header.size = 12 := rfl
        omega

/-- Read packets until one belongs to a transaction; the body or the error that it carries. -/
def Line.await (line : Line) (xid : UInt32) : Except Error Bytes × Line :=
  match _h : line.readPacket with
  | (.error e, line) => (.error e, line)
  | (.ok (header, body), rest) =>
    if header.xid = xid then ((Error.check header.error).map (fun _ => body), rest)
    else rest.await xid
termination_by line.arrivals.length
decreasing_by exact Line.length_readPacket _h

/-- The other side: what it does when a packet is written to it. -/
abbrev Respond (π : Type) : Type :=
  Bytes → Line → π → Line × π

end CardTerminal.Client

namespace CardTerminal

/-- A client that is connected to another side in state `π`. -/
structure Client (π : Type) where
  /-- The number of the next transaction. -/
  xid : UInt32
  line : Client.Line
  peer : π

namespace Client

variable {π : Type}

def new (peer : π) : Client π :=
  ⟨1, ⟨[], false⟩, peer⟩

/-- The number after this one; zero is left out. -/
def nextXid (xid : UInt32) : UInt32 :=
  max (xid + 1) 1

/-- Send a request and wait for its answer. -/
def exchange (respond : Respond π) (request : Request) (c : Client π) :
    Except Error Bytes × Client π :=
  let xid := c.xid
  let c := { c with xid := nextXid xid }
  match Packet.frame (.request xid 0) request.encode .native with
  | .error e => (.error e, c)
  | .ok packet =>
    if c.line.hungUp then (.error .commError, c)
    else
      let (line, peer) := respond packet c.line c.peer
      let (body, line) := line.await xid
      (body, { c with line, peer })

def call (respond : Respond π) (call : Call) (c : Client π) : Except Error Answer × Client π :=
  match call.request? with
  | .error e => (.error e, c)
  | .ok request =>
    let (body, c) := c.exchange respond request
    (body.bind call.answer, c)

end Client

end CardTerminal
