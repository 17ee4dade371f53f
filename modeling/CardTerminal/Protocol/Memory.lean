import CardTerminal.Link

/-!
Memory cards, which are read and written byte by byte and have no commands.

The reader moves the bytes. A write is cut at the boundaries of pages, and every piece is read back
before the next one is written.
-/

namespace CardTerminal

/-- A memory card as the reader gives access to it. -/
structure MemoryCard (σ : Type) where
  /-- Read so many bytes from an address on. -/
  read : Nat → Nat → Action σ Bytes
  /-- Write bytes from an address on. -/
  write : Nat → Bytes → Action σ Unit

namespace MemoryCard

variable {σ : Type}

def addresses : Nat := 65536

/-- No write crosses a multiple of this. -/
def pageSize : Nat := 256

/-- How often a piece is written before it counts as failed. -/
def attempts : Nat := 2

def readExactly (card : MemoryCard σ) (address length : Nat) : Action σ Bytes :=
  if addresses < address + length then throw .invalidArg
  else do
    let bytes ← card.read address length
    if bytes.length = length then return bytes else throw .commError

/-- Write one piece until it reads back as it was written, with so many attempts. -/
def writePiece (card : MemoryCard σ) (address : Nat) (piece : Bytes) : Nat → Action σ Unit
  | 0 => throw .commError
  | left + 1 => do
    card.write address piece
    let stored ← card.read address piece.length
    if stored = piece then return else writePiece card address piece left

/-- How many bytes there are from an address to the end of its page. -/
def room (address : Nat) : Nat :=
  pageSize - address % pageSize

theorem room_pos (address : Nat) : 0 < room address := by
  simp only [room, pageSize]
  omega

def writePieces (card : MemoryCard σ) (address : Nat) (bytes : Bytes) : Action σ Unit :=
  if _h : bytes = [] then return
  else do
    card.writePiece address (bytes.take (room address)) attempts
    writePieces card (address + room address) (bytes.drop (room address))
termination_by bytes.length
decreasing_by
  have := room_pos address
  have := List.length_pos_iff.mpr _h
  simp only [List.length_drop]
  omega

/-- Write bytes and make sure that they are there. -/
def writeVerified (card : MemoryCard σ) (address : Nat) (bytes : Bytes) : Action σ Unit :=
  if addresses < address + bytes.length then throw .invalidArg
  else card.writePieces address bytes

end MemoryCard

end CardTerminal
