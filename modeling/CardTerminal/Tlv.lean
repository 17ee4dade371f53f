import CardTerminal.Bytes
import CardTerminal.Error
import CardTerminal.Text.Utf8

/-!
Tag-length-value items, in which the arguments and answers of requests travel.

An item is a tag byte, a length and that many value bytes. The short form writes lengths up to 254
in one byte. The large form can also write the byte 255 and then a length of two bytes, high byte
first. When a tag occurs more than once, its last item counts.

Main statement: the rest that reading an item leaves is shorter (`length_rest_of_readItem`).
-/

namespace CardTerminal.Tlv

/-- One item. -/
structure Item where
  tag : UInt8
  value : Bytes
  deriving DecidableEq, Repr

/-- Whether lengths of two bytes may occur. -/
inductive Form where
  | short
  | large
  deriving DecidableEq, Repr

/-- The length byte that announces a length of two bytes. -/
def escape : UInt8 := 0xFF

/-- The longest value of the short form. -/
def shortMax : Nat := 254

/-- The longest value of the large form. -/
def largeMax : Nat := 65535

def Form.maxLength : Form → Nat
  | .short => shortMax
  | .large => largeMax

/-! ## Writing -/

/-- The bytes of an item; in the large form every length is written in two bytes. -/
def Item.encode (form : Form) (item : Item) : Bytes :=
  match form with
  | .short => item.tag :: UInt8.ofNat item.value.length :: item.value
  | .large => item.tag :: escape :: (Bytes.be16 (UInt16.ofNat item.value.length) ++ item.value)

def encode (form : Form) (items : List Item) : Bytes :=
  items.flatMap (Item.encode form)

/-- The bytes of short-form items, refused when a value is too long for the form. -/
def write (items : List Item) : Except Error Bytes :=
  if items.all (fun item => item.value.length ≤ shortMax) then .ok (encode .short items)
  else .error .bufferTooSmall

/-! ### Items of one kind of value -/

/-- An item holding a number in as few bytes as possible. -/
def Item.ofNumber (tag : UInt8) (n : UInt32) : Item :=
  ⟨tag, Bytes.minimalBe n⟩

def Item.ofText (tag : UInt8) (text : String) : Item :=
  ⟨tag, Utf8.encode text⟩

/-! ## Reading -/

/-- The item of `length` value bytes with the bytes after it. -/
def cutItem (tag : UInt8) (length : Nat) (rest : Bytes) : Option (Item × Bytes) :=
  if (rest.take length).length = length then
    some (⟨tag, rest.take length⟩, rest.drop length)
  else none

/-- The first item with the bytes after it. -/
def readItem (form : Form) : Bytes → Option (Item × Bytes)
  | tag :: length :: rest =>
    if length = escape then
      match form, rest with
      | .large, high :: low :: rest => cutItem tag (Bytes.ofBe16 high low).toNat rest
      | _, _ => none
    else cutItem tag length.toNat rest
  | _ => none

theorem length_rest_of_cutItem {tag : UInt8} {length : Nat} {bytes : Bytes} {item : Item}
    {rest : Bytes} (h : cutItem tag length bytes = some (item, rest)) :
    rest.length ≤ bytes.length := by
  unfold cutItem at h
  split at h
  · cases h; simp
  · cases h

theorem length_rest_of_readItem {form : Form} {bytes : Bytes} {item : Item} {rest : Bytes}
    (h : readItem form bytes = some (item, rest)) : rest.length < bytes.length := by
  unfold readItem at h
  split at h
  · split at h
    · split at h
      · have := length_rest_of_cutItem h; simp only [List.length_cons]; omega
      · cases h
    · have := length_rest_of_cutItem h; simp only [List.length_cons]; omega
  · cases h

/-- The items of a byte string that consists of items only. -/
def readItems (form : Form) (bytes : Bytes) : Option (List Item) :=
  if bytes.isEmpty then some []
  else
    match _h : readItem form bytes with
    | none => none
    | some (item, rest) => (readItems form rest).map (item :: ·)
termination_by bytes.length
decreasing_by exact length_rest_of_readItem _h

def parse (form : Form) (bytes : Bytes) : Except Error (List Item) :=
  match readItems form bytes with
  | some items => .ok items
  | none => .error .malformed

/-! ## Looking up -/

/-- The value of the last item with this tag. -/
def value? (items : List Item) (tag : UInt8) : Option Bytes :=
  (items.reverse.find? (fun item => item.tag = tag)).map Item.value

def contains (items : List Item) (tag : UInt8) : Bool :=
  items.any (fun item => item.tag = tag)

/-- The tags that occur, in ascending order. -/
def tags (items : List Item) : List UInt8 :=
  ((List.range 256).map UInt8.ofNat).filter (contains items)

/-- The text of an item: up to its first NUL, and cut so that it fits `size` bytes with a NUL
behind it. -/
def textOf (value : Bytes) (size : Nat) : String :=
  Utf8.decodeLossy ((value.takeWhile (· ≠ 0)).take (size - 1))

def text? (items : List Item) (tag : UInt8) (size : Nat) : Option String :=
  (value? items tag).map (textOf · size)

/-- The number in the last item with this tag: at most four bytes, high byte first. -/
def number? (items : List Item) (tag : UInt8) : Except Error (Option UInt32) :=
  match value? items tag with
  | none => .ok none
  | some value =>
    if value.length ≤ 4 then .ok (some (UInt32.ofNat (Bytes.toNatBe value)))
    else .error .malformed

/-- The number that an item with this tag has to give. -/
def requiredNumber (items : List Item) (tag : UInt8) : Except Error UInt32 := do
  match ← number? items tag with
  | some n => return n
  | none => throw .missingArg

/-- `room` with as many of the tag's bytes as fit copied over its start, and their number. -/
def copyInto (items : List Item) (tag : UInt8) (room : Bytes) : Option Nat × Bytes :=
  match value? items tag with
  | none => (none, room)
  | some value =>
    (some (min value.length room.length), Bytes.overlay value room)

end CardTerminal.Tlv
