import CardTerminal.Client

/-!
Another side that plays a script, for trying out clients.

For every request it sends the packets that the script has for it. When the script is at its end it
takes one more request and hangs up.
-/

namespace CardTerminal.Client.Scripted

/-- What to send. -/
inductive Content where
  | packet (xid : Option UInt32) (dest : UInt32) (error : Int16) (body : Bytes)
  /-- Bytes as they are. -/
  | raw (bytes : Bytes)
  deriving DecidableEq, Repr

/-- One thing to send, and whether to hang up after it. -/
structure Item where
  content : Content
  hangUp : Bool
  deriving DecidableEq, Repr

end CardTerminal.Client.Scripted

namespace CardTerminal.Client

/-- The state of a side that plays a script. -/
structure Scripted where
  /-- What to send for each request to come. -/
  script : List (List Scripted.Item)
  /-- The requests so far, the newest first. -/
  requests : List (Header × Bytes)
  deriving DecidableEq, Repr

namespace Scripted

/-- The bytes to send for a transaction. A transaction is answered under its own number, if the
script has no other. -/
def Content.bytes (xid : UInt32) : Content → Bytes
  | .raw bytes => bytes
  | .packet other dest error body =>
    let header := { Header.reply (other.getD xid) error 0 with dest }
    (Packet.frame header body .native).toOption.getD []

/-- Send one thing after the other, until it is time to hang up. -/
def play (xid : UInt32) : List Item → Line → Line
  | [], line => line
  | item :: rest, line =>
    let line := line.push (item.content.bytes xid)
    if item.hangUp then { line with hungUp := true } else play xid rest line

/-- Take a request and do what the script says. -/
def respond : Respond Scripted := fun packet line s =>
  match Packet.split .native packet with
  | none => (line, s)
  | some (header, payload, _) =>
    let s := { s with requests := (header, payload) :: s.requests }
    match s.script with
    | [] => ({ line with hungUp := true }, s)
    | items :: script => (play header.xid items line, { s with script })

end Scripted

end CardTerminal.Client
