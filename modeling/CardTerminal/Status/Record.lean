import CardTerminal.Status.Flags
import CardTerminal.Text.Utf8

/-!
One reader's entry in the status file: 84 bytes, numbers low byte first.

Main statements: reading what was written gives the record back (`Record.decode_encode`), and a
record always takes 84 bytes (`Record.length_encode`).
-/

namespace CardTerminal.Status

/-- The most slots that a reader may have. -/
def maxSlots : Nat := 8

/-- The room for a reader's name, with the NUL behind it. -/
def nameLength : Nat := 64

/-- One reader's entry. -/
structure Record where
  /-- The process that serves the reader, or zero. -/
  pid : UInt32
  /-- The reader's capabilities. -/
  flags : UInt32
  /-- The reader's name, filled up with NULs. -/
  name : Bytes
  /-- How many slots are in use. -/
  slotCount : UInt32
  /-- The status bits of each slot. -/
  card : Bytes
  length_name : name.length = 64
  length_card : card.length = 8
  deriving DecidableEq, Repr

namespace Record

def size : Nat := 84

def empty : Record where
  pid := 0
  flags := 0
  name := List.replicate 64 0
  slotCount := 0
  card := List.replicate 8 0
  length_name := List.length_replicate
  length_card := List.length_replicate

/-- The record of no reader, held by a process. -/
def heldBy (pid : UInt32) : Record :=
  { empty with pid := pid }

/-! ## Fields -/

/-- The name up to its first NUL. -/
def nameText (r : Record) : String :=
  Utf8.decodeLossy (r.name.takeWhile (· ≠ 0))

/-- Store a name, cut so that a NUL fits behind it. -/
def setName (r : Record) (name : String) : Record :=
  { r with
    name := Bytes.fit 64 ((Utf8.encode name).take 63)
    length_name := Bytes.length_fit 64 _ }

/-- Overwrite the first bytes of the stored name. -/
def setNameBytes (r : Record) (bytes : Bytes) : Record :=
  { r with
    name := Bytes.overlay bytes r.name
    length_name := by rw [Bytes.length_overlay, r.length_name] }

/-- Overwrite the status bits of the first slots. -/
def setCardBytes (r : Record) (bytes : Bytes) : Record :=
  { r with
    card := Bytes.overlay bytes r.card
    length_card := by rw [Bytes.length_overlay, r.length_card] }

/-- The status of a slot; a slot that is not stored is empty. -/
def cardStatus (r : Record) (slot : Nat) : CardStatus :=
  match r.card[slot]? with
  | some bits => .ofBits bits
  | none => .empty

/-- Store the status of a slot, if it is one that is stored. -/
def setCardStatus (r : Record) (slot : Nat) (status : CardStatus) : Record :=
  { r with
    card := r.card.set slot status.bits
    length_card := by rw [List.length_set, r.length_card] }

/-! ## Bytes -/

/-- The 84 bytes of a record. -/
def encode (r : Record) : Bytes :=
  Bytes.le32 r.pid ++ Bytes.le32 r.flags ++ r.name ++ Bytes.le32 r.slotCount ++ r.card

/-- The record in the first 84 bytes; missing bytes count as zero. -/
def decode (bytes : Bytes) : Record where
  pid := Bytes.headLe32 bytes
  flags := Bytes.headLe32 (bytes.drop 4)
  name := Bytes.fit 64 ((bytes.drop 8).take 64)
  slotCount := Bytes.headLe32 (bytes.drop 72)
  card := Bytes.fit 8 ((bytes.drop 76).take 8)
  length_name := Bytes.length_fit 64 _
  length_card := Bytes.length_fit 8 _

theorem length_encode (r : Record) : r.encode.length = size := by
  simp [encode, size, Bytes.le32, r.length_name, r.length_card]

theorem decode_encode (r : Record) : decode r.encode = r := by
  obtain ⟨pid, flags, name, slotCount, card, hn, hc⟩ := r
  simp [decode, encode, Bytes.le32, Bytes.headLe32, Bytes.ofLe32_le32, Bytes.fit, Bytes.overlay,
    List.drop_append, hn, hc, List.take_of_length_le]

end Record

end CardTerminal.Status
