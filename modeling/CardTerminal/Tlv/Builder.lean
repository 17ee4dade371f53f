import CardTerminal.Buffer
import CardTerminal.Tlv

/-!
Writing items piece by piece into a buffer.

The length of the item under construction is patched whenever bytes are added to its value. The
first failure sticks: from then on nothing is written, until `finish` reports it.
-/

namespace CardTerminal.Tlv

/-- A buffer with items under construction at its end. -/
structure Builder where
  buffer : Buffer
  form : Form
  /-- Where the length of the open item is stored, and how long its value is so far. -/
  openItem : Option (Nat × Nat)
  /-- The first failure since the last `finish`. -/
  failure : Option Error
  deriving Repr

namespace Builder

def new (buffer : Buffer) (form : Form) : Builder :=
  ⟨buffer, form, none, none⟩

/-- Remember `cause`, unless something failed before. -/
def fail (b : Builder) (cause : Error) : Builder :=
  { b with failure := b.failure.or (some cause) }

/-- Append raw bytes; `none` when nothing could be appended, and then why. -/
def append (b : Builder) (data : Bytes) : Except Builder Builder :=
  if b.failure.isSome then .error b
  else
    match b.buffer.put data with
    | .ok buffer => .ok { b with buffer }
    | .error cause => .error (b.fail cause)

/-- What stands before the value of a new item. -/
def opening (form : Form) (tag : UInt8) : Bytes :=
  match form with
  | .short => [tag, 0]
  | .large => [tag, escape, 0, 0]

def putTag (b : Builder) (tag : UInt8) : Builder :=
  match b.append (opening b.form tag) with
  | .ok next => { next with openItem := some (b.buffer.tail + 1, 0) }
  | .error failed => failed

/-- The bytes that record a length, and where they go when the length field begins at `lengthAt`. -/
def lengthField (form : Form) (lengthAt length : Nat) : Nat × Bytes :=
  match form with
  | .short => (lengthAt, [UInt8.ofNat length])
  | .large => (lengthAt + 1, Bytes.be16 (UInt16.ofNat length))

def addBytes (b : Builder) (data : Bytes) : Builder :=
  match b.openItem with
  | none => b.fail .invalidArg
  | some (lengthAt, length) =>
    if b.form.maxLength < length + data.length then b.fail .bufferTooSmall
    else
      match b.append data with
      | .error failed => failed
      | .ok next =>
        let grown := { next with openItem := some (lengthAt, length + data.length) }
        let (offset, field) := lengthField b.form lengthAt (length + data.length)
        match grown.buffer.patch offset field with
        | .ok buffer => { grown with buffer }
        | .error cause => grown.fail cause

/-- Append a number to the value of the open item, in as few bytes as possible. -/
def addNumber (b : Builder) (n : UInt32) : Builder :=
  b.addBytes (Bytes.minimalBe n)

def putBytes (b : Builder) (tag : UInt8) (data : Bytes) : Builder :=
  (b.putTag tag).addBytes data

def putNumber (b : Builder) (tag : UInt8) (n : UInt32) : Builder :=
  (b.putTag tag).addNumber n

def putText (b : Builder) (tag : UInt8) (text : String) : Builder :=
  (b.putTag tag).addBytes (Utf8.encode text)

/-- The first failure, which is then forgotten. -/
def finish (b : Builder) : Except Error Unit × Builder :=
  match b.failure with
  | some cause => (.error cause, { b with failure := none })
  | none => (.ok (), b)

end Builder

end CardTerminal.Tlv
