import CardTerminal.Bytes
import CardTerminal.Error

/-!
A byte queue in storage of fixed size.

The storage is seen as three stretches that follow each other: bytes already consumed, bytes
waiting to be read, and room for more. Whatever an operation does, the three still fill the
storage, so there are no positions that could get out of step. Room holds whatever was last
stored there, which `advanceTail` can bring back.

Main statements: no operation changes the size of the storage (`size_put`, `size_compact`, …).
-/

namespace CardTerminal

/-- Fixed storage, split into what is consumed, what is unread and what is free. -/
structure Buffer where
  spent : Bytes
  unread : Bytes
  room : Bytes
  deriving DecidableEq, Repr

namespace Buffer

/-- An empty buffer with room for `size` bytes. -/
def new (size : Nat) : Buffer :=
  ⟨[], [], List.replicate size 0⟩

/-- A full buffer whose unread bytes are `data`. -/
def ofBytes (data : Bytes) : Buffer :=
  ⟨[], data, []⟩

/-! ## Positions -/

def size (b : Buffer) : Nat :=
  b.spent.length + b.unread.length + b.room.length

def head (b : Buffer) : Nat :=
  b.spent.length

def tail (b : Buffer) : Nat :=
  b.spent.length + b.unread.length

def avail (b : Buffer) : Nat :=
  b.unread.length

def tailroom (b : Buffer) : Nat :=
  b.room.length

def last? (b : Buffer) : Option UInt8 :=
  b.unread.getLast?

/-! ## Emptying and compacting -/

/-- Forget all bytes; the whole storage becomes room. -/
def clear (b : Buffer) : Buffer :=
  ⟨[], [], b.spent ++ b.unread ++ b.room⟩

/-- Move the unread bytes to the start of the storage. The bytes behind them stay as they were. -/
def compact (b : Buffer) : Buffer :=
  ⟨[], b.unread, (b.spent ++ b.unread ++ b.room).drop b.unread.length⟩

/-- All unread bytes, and the emptied buffer. -/
def take (b : Buffer) : Bytes × Buffer :=
  (b.unread, b.clear)

/-! ## Appending -/

def put (b : Buffer) (data : Bytes) : Except Error Buffer :=
  if data.length ≤ b.room.length then
    .ok ⟨b.spent, b.unread ++ data, b.room.drop data.length⟩
  else .error .insufficientSpace

/-- Count `n` bytes of room as unread, as they are stored. -/
def advanceTail (b : Buffer) (n : Nat) : Except Error Buffer :=
  if n ≤ b.room.length then
    .ok ⟨b.spent, b.unread ++ b.room.take n, b.room.drop n⟩
  else .error .insufficientSpace

/-- Store as much of `data` as fits at the start of the room, which stays room. -/
def fillRoom (b : Buffer) (data : Bytes) : Buffer :=
  ⟨b.spent, b.unread, Bytes.overlay data b.room⟩

/-! ## Consuming -/

/-- The first `n` unread bytes, left in place. -/
def peek (b : Buffer) (n : Nat) : Except Error Bytes :=
  if n ≤ b.unread.length then .ok (b.unread.take n) else .error .insufficientSpace

def advanceHead (b : Buffer) (n : Nat) : Except Error Buffer :=
  if n ≤ b.unread.length then
    .ok ⟨b.spent ++ b.unread.take n, b.unread.drop n, b.room⟩
  else .error .insufficientSpace

def get (b : Buffer) (n : Nat) : Except Error (Bytes × Buffer) := do
  let data ← b.peek n
  let b ← b.advanceHead n
  return (data, b)

/-! ## Overwriting -/

/-- Overwrite unread bytes from position `offset` of the storage on. -/
def patch (b : Buffer) (offset : Nat) (data : Bytes) : Except Error Buffer :=
  if b.head ≤ offset ∧ offset + data.length ≤ b.tail then
    let at_ := offset - b.head
    .ok ⟨b.spent, b.unread.take at_ ++ data ++ b.unread.drop (at_ + data.length), b.room⟩
  else .error .insufficientSpace

/-! ## Sources and sinks -/

/-- Compact, then append what one read from a source yields: a source that still holds the given
bytes gives as many as there is room for, a failing one its failure. A full buffer is not read
into. -/
def readFrom (b : Buffer) (source : Except IoFailure Bytes) : Except IoFailure Nat × Buffer :=
  let b := b.compact
  if b.room.isEmpty then (.error .outOfMemory, b)
  else
    match source with
    | .error failure => (.error failure, b)
    | .ok data =>
      let got := data.take b.room.length
      (.ok got.length, ⟨b.spent, b.unread ++ got, b.room.drop got.length⟩)

/-- Consume what one write to a sink takes: a sink that accepts at most so many bytes, or one that
fails. -/
def writeTo (b : Buffer) (sink : Except IoFailure Nat) : Except IoFailure Bytes × Buffer :=
  match sink with
  | .error failure => (.error failure, b)
  | .ok limit =>
    let sent := b.unread.take limit
    (.ok sent, ⟨b.spent ++ sent, b.unread.drop limit, b.room⟩)

def describe (b : Buffer) : String :=
  "Buffer \x7b size: " ++ toString b.size ++ ", head: " ++ toString b.head ++ ", tail: "
    ++ toString b.tail ++ " \x7d"

/-! ## The storage keeps its size -/

@[simp] theorem size_new (n : Nat) : (new n).size = n := by
  simp [new, size]

@[simp] theorem size_clear (b : Buffer) : b.clear.size = b.size := by
  simp [clear, size]; omega

@[simp] theorem size_compact (b : Buffer) : b.compact.size = b.size := by
  simp [compact, size]; omega

@[simp] theorem size_fillRoom (b : Buffer) (data : Bytes) : (b.fillRoom data).size = b.size := by
  simp [fillRoom, size]

theorem size_put {b c : Buffer} {data : Bytes} (h : b.put data = .ok c) : c.size = b.size := by
  unfold put at h
  split at h
  · next hle => cases h; simp [size]; omega
  · cases h

theorem size_advanceTail {b c : Buffer} {n : Nat} (h : b.advanceTail n = .ok c) :
    c.size = b.size := by
  unfold advanceTail at h
  split at h
  · next hle => cases h; simp [size]; omega
  · cases h

theorem size_advanceHead {b c : Buffer} {n : Nat} (h : b.advanceHead n = .ok c) :
    c.size = b.size := by
  unfold advanceHead at h
  split at h
  · next hle => cases h; simp [size]; omega
  · cases h

end Buffer

end CardTerminal
