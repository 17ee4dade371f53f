import CardTerminal.Bytes

/-!
Text as UTF-8 bytes, and text read from bytes that need not be UTF-8.

Reading never fails: each maximal part of an ill-formed sequence is read as one replacement
character, so a string that was cut in the middle of a character still shows all that came before.
-/

namespace CardTerminal.Utf8

def encode (text : String) : Bytes :=
  text.toList.flatMap String.utf8EncodeChar

/-- What an undecodable part is read as. -/
def replacement : Char := '\ufffd'

def isContinuation (b : UInt8) : Bool :=
  0x80 ≤ b && b ≤ 0xBF

/-- The payload bits of a continuation byte. -/
def payload (b : UInt8) : Nat :=
  b.toNat % 64

/-- Whether `b` may follow `lead` directly: this rules out overlong forms, surrogates and numbers
above the last character. -/
def allowsSecond (lead b : UInt8) : Bool :=
  if lead = 0xE0 then 0xA0 ≤ b && b ≤ 0xBF
  else if lead = 0xED then 0x80 ≤ b && b ≤ 0x9F
  else if lead = 0xF0 then 0x90 ≤ b && b ≤ 0xBF
  else if lead = 0xF4 then 0x80 ≤ b && b ≤ 0x8F
  else isContinuation b

/-- The first character of a non-empty byte string `lead :: rest`, and how many bytes of `rest` it
takes. -/
def first (lead : UInt8) (rest : Bytes) : Char × Nat :=
  if lead < 0x80 then (Char.ofNat lead.toNat, 0)
  else if 0xC2 ≤ lead && lead ≤ 0xDF then
    match rest with
    | b :: _ =>
      if isContinuation b then (Char.ofNat (lead.toNat % 32 * 64 + payload b), 1)
      else (replacement, 0)
    | [] => (replacement, 0)
  else if 0xE0 ≤ lead && lead ≤ 0xEF then
    match rest with
    | b :: c :: _ =>
      if allowsSecond lead b then
        if isContinuation c then
          (Char.ofNat (lead.toNat % 16 * 4096 + payload b * 64 + payload c), 2)
        else (replacement, 1)
      else (replacement, 0)
    | [b] => (replacement, if allowsSecond lead b then 1 else 0)
    | [] => (replacement, 0)
  else if 0xF0 ≤ lead && lead ≤ 0xF4 then
    match rest with
    | b :: c :: d :: _ =>
      if allowsSecond lead b then
        if isContinuation c then
          if isContinuation d then
            (Char.ofNat
              (lead.toNat % 8 * 262144 + payload b * 4096 + payload c * 64 + payload d), 3)
          else (replacement, 2)
        else (replacement, 1)
      else (replacement, 0)
    | [b, c] =>
      (replacement, if allowsSecond lead b then if isContinuation c then 2 else 1 else 0)
    | [b] => (replacement, if allowsSecond lead b then 1 else 0)
    | [] => (replacement, 0)
  else (replacement, 0)

/-- The characters of `bytes`, of which the first `skip` belong to a character already read. -/
def characters : Nat → Bytes → List Char
  | _, [] => []
  | 0, lead :: rest =>
    let (c, taken) := first lead rest
    c :: characters taken rest
  | skip + 1, _ :: rest => characters skip rest

/-- The text of `bytes`, with a replacement character for each maximal ill-formed part. -/
def decodeLossy (bytes : Bytes) : String :=
  String.ofList (characters 0 bytes)

end CardTerminal.Utf8
