import CardTerminal.Bytes
import CardTerminal.Error

/-!
Commands for a card, as ISO 7816-4 writes them.

A command is four header bytes, perhaps data, and perhaps the length of the answer that is wanted.
Lengths are written short, in one byte, or extended: a zero byte and then two bytes for each
length. A wanted length that fills its field with zeros means the largest one, 256 or 65536.
-/

namespace CardTerminal.Apdu

/-- The ways to write a command: without or with data, without or with a wanted length. -/
inductive Case where
  /-- Neither data nor a wanted length. -/
  | case1
  /-- A wanted length. -/
  | case2Short
  /-- Data. -/
  | case3Short
  /-- Data and a wanted length. -/
  | case4Short
  | case2Extended
  | case3Extended
  | case4Extended
  deriving DecidableEq, Repr

def Case.isExtended : Case → Bool
  | .case2Extended | .case3Extended | .case4Extended => true
  | _ => false

/-- What the bytes of a command say about its parts. -/
structure Shape where
  case : Case
  /-- The length of the data. -/
  lc : Nat
  /-- The wanted length of the answer. -/
  le : Nat
  deriving DecidableEq, Repr

def Shape.dataOffset (s : Shape) : Nat :=
  if s.case.isExtended then 7 else 5

def shortLength (field : UInt8) : Nat :=
  if field = 0 then 256 else field.toNat

/-- The length that an extended field means. -/
def extendedLength (high low : UInt8) : Nat :=
  if Bytes.ofBe16 high low = 0 then 65536 else (Bytes.ofBe16 high low).toNat

/-- The shape of a command with short lengths, from its data length `lc` on. -/
def classifyShort (lc : UInt8) (body : Bytes) : Except Error Shape :=
  if body.length = lc.toNat then .ok ⟨.case3Short, lc.toNat, 0⟩
  else
    match body.drop lc.toNat with
    | [le] => .ok ⟨.case4Short, lc.toNat, shortLength le⟩
    | _ => .error .malformed

/-- The shape of a command with extended lengths, from its first length on. -/
def classifyExtended (high low : UInt8) (body : Bytes) : Except Error Shape :=
  let length := (Bytes.ofBe16 high low).toNat
  if body.isEmpty then .ok ⟨.case2Extended, 0, extendedLength high low⟩
  else if length = 0 then .error .malformed
  else if body.length = length then .ok ⟨.case3Extended, length, 0⟩
  else
    match body.drop length with
    | [h, l] => .ok ⟨.case4Extended, length, extendedLength h l⟩
    | _ => .error .malformed

/-- The shape of a command. A zero byte after the header that is not the last byte begins extended
lengths. -/
def classify : Bytes → Except Error Shape
  | [_, _, _, _] => .ok ⟨.case1, 0, 0⟩
  | [_, _, _, _, le] => .ok ⟨.case2Short, 0, shortLength le⟩
  | _ :: _ :: _ :: _ :: p3 :: body =>
    if p3 = 0 then
      match body with
      | high :: low :: body => classifyExtended high low body
      | _ => .error .malformed
    else classifyShort p3 body
  | _ => .error .malformed

/-- The status word, which ends every answer. -/
def statusWord (response : Bytes) : Option UInt16 :=
  match response.reverse with
  | low :: high :: _ => some (Bytes.ofBe16 high low)
  | _ => none

end CardTerminal.Apdu
