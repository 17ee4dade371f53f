import CardTerminal.Buffer

/-!
Packets: a header of twelve bytes and then a payload.

The transaction number and the destination are always written low byte first; the error code and
the payload length follow the byte order of the connection. Packets are appended to and taken from
the queue of a connection, so a reader may see any part of one.

Main statement: a header that is written reads back as itself (`Header.decode_encode`).
-/

namespace CardTerminal

/-- The order in which a connection writes the error code and the payload length. -/
inductive ByteOrder where
  /-- Low byte first, between programs on one machine. -/
  | native
  /-- High byte first. -/
  | network
  deriving DecidableEq, Repr

/-- What stands before a payload. -/
structure Header where
  /-- The number of the transaction, repeated in the reply. -/
  xid : UInt32
  /-- Zero in a request, anything else in a reply. -/
  dest : UInt32
  /-- The error code of a reply, zero for success. -/
  error : Int16
  /-- The length of the payload. -/
  count : UInt16
  deriving DecidableEq, Repr

namespace Header

def size : Nat := 12

def request (xid : UInt32) (count : UInt16) : Header :=
  ⟨xid, 0, 0, count⟩

def reply (xid : UInt32) (error : Int16) (count : UInt16) : Header :=
  ⟨xid, 1, error, count⟩

def isReply (h : Header) : Bool :=
  h.dest ≠ 0

/-- Sixteen bits in the order of the connection. -/
def word (order : ByteOrder) (n : UInt16) : Bytes :=
  match order with
  | .native => Bytes.le16 n
  | .network => Bytes.be16 n

/-- The sixteen bits that two bytes write in the order of the connection. -/
def ofWord (order : ByteOrder) (a b : UInt8) : UInt16 :=
  match order with
  | .native => Bytes.ofBe16 b a
  | .network => Bytes.ofBe16 a b

/-- The twelve bytes of a header. -/
def encode (h : Header) (order : ByteOrder) : Bytes :=
  Bytes.le32 h.xid ++ Bytes.le32 h.dest ++ word order h.error.toUInt16 ++ word order h.count

/-- The header at the start of a byte string that is long enough. -/
def decode (order : ByteOrder) : Bytes → Option Header
  | x0 :: x1 :: x2 :: x3 :: d0 :: d1 :: d2 :: d3 :: e0 :: e1 :: c0 :: c1 :: _ =>
    some
      { xid := Bytes.ofLe32 x0 x1 x2 x3
        dest := Bytes.ofLe32 d0 d1 d2 d3
        error := (ofWord order e0 e1).toInt16
        count := ofWord order c0 c1 }
  | _ => none

theorem decode_encode (h : Header) (order : ByteOrder) (rest : Bytes) :
    decode order (h.encode order ++ rest) = some h := by
  cases order <;>
    simp [decode, encode, word, ofWord, Bytes.le32, Bytes.le16, Bytes.be16, Bytes.ofBe16_be16,
      Bytes.ofLe32_le32]

end Header

namespace Packet

/-- The longest payload that a header can announce. -/
def maxPayload : Nat := 65535

def maxSize : Nat := Header.size + maxPayload

/-- The bytes of a packet; its header announces the length that the payload has. -/
def frame (header : Header) (payload : Bytes) (order : ByteOrder) : Except Error Bytes :=
  if payload.length ≤ maxPayload then
    .ok ({ header with count := UInt16.ofNat payload.length }.encode order ++ payload)
  else .error (.packetTooLarge payload.length)

/-- Append a packet, compacting the queue if that makes the packet fit. -/
def put (queue : Buffer) (header : Header) (payload : Bytes) (order : ByteOrder) :
    Except Error Unit × Buffer :=
  match frame header payload order with
  | .error cause => (.error cause, queue)
  | .ok bytes =>
    let queue := if queue.tailroom < bytes.length then queue.compact else queue
    match queue.put bytes with
    | .ok queue => (.ok (), queue)
    | .error cause => (.error cause, queue)

/-- Take the first packet; `none` while it is incomplete. A packet that the queue could never hold
is refused as soon as its header is there. -/
def take (queue : Buffer) (order : ByteOrder) :
    Except Error (Option (Header × Bytes)) × Buffer :=
  match Header.decode order queue.unread with
  | none => (.ok none, queue)
  | some header =>
    let total := Header.size + header.count.toNat
    if queue.size < total then (.error (.packetTooLarge total), queue)
    else if queue.avail < total then (.ok none, queue)
    else
      match queue.advanceHead total with
      | .error cause => (.error cause, queue)
      | .ok rest =>
        (.ok (some (header, (queue.unread.drop Header.size).take header.count.toNat)), rest)

/-- The first packet of a byte string, and what follows it; `none` while it is incomplete. -/
def split (order : ByteOrder) (bytes : Bytes) : Option (Header × Bytes × Bytes) :=
  match Header.decode order bytes with
  | none => none
  | some header =>
    let payload := (bytes.drop Header.size).take header.count.toNat
    if payload.length = header.count.toNat then
      some (header, payload, bytes.drop (Header.size + header.count.toNat))
    else none

end Packet

end CardTerminal
