import CardTerminal.Bytes

/-!
Error detection codes for blocks: the exclusive or of all bytes (LRC), and the ISO 3309 remainder
of sixteen bits (CRC), which is computed low bit first and written high byte first.

Main statement: a block with its code behind it verifies (`Checksum.verify_append`).
-/

namespace CardTerminal

/-- The polynomial of the CRC, its highest coefficient in the lowest bit. -/
def crcPolynomial : UInt16 := 0x8408

/-- One bit through the remainder register. -/
def crcShift (c : UInt16) : UInt16 :=
  if c &&& 1 = 1 then (c >>> 1) ^^^ crcPolynomial else c >>> 1

/-- One byte through the remainder register. -/
def crcByte (c : UInt16) (b : UInt8) : UInt16 :=
  crcShift (crcShift (crcShift (crcShift (crcShift (crcShift (crcShift (crcShift
    (c ^^^ b.toUInt16))))))))

/-- The remainder of a byte string, from a register full of ones. -/
def crc16 (bytes : Bytes) : UInt16 :=
  bytes.foldl crcByte 0xFFFF

/-- A way to protect blocks. -/
inductive Checksum where
  | lrc
  | crc
  deriving DecidableEq, Repr

namespace Checksum

def length : Checksum → Nat
  | .lrc => 1
  | .crc => 2

def code (cs : Checksum) (body : Bytes) : Bytes :=
  match cs with
  | .lrc => [Bytes.xorAll body]
  | .crc => Bytes.be16 (crc16 body)

/-- A byte string with its code behind it. -/
def append (cs : Checksum) (body : Bytes) : Bytes :=
  body ++ cs.code body

/-- Whether a byte string ends in the code of what stands before it. -/
def verify (cs : Checksum) (block : Bytes) : Bool :=
  cs.length ≤ block.length
    && block.drop (block.length - cs.length) = cs.code (block.take (block.length - cs.length))

@[simp] theorem length_code (cs : Checksum) (body : Bytes) : (cs.code body).length = cs.length := by
  cases cs <;> rfl

theorem verify_append (cs : Checksum) (body : Bytes) : cs.verify (cs.append body) = true := by
  simp [verify, append]

end Checksum

end CardTerminal
