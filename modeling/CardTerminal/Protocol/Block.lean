import CardTerminal.Checksum
import CardTerminal.Link

/-!
The blocks of T=1 and of the reader's block protocol.

A block is a node address (NAD), a control byte (PCB), a length byte, the information field and an
error detection code. The control byte says what the block is for.

Main statement: a block that is written is read back (`Block.decode_encode`).
-/

namespace CardTerminal

/-- What a block says: its control byte and its information field. -/
structure Block where
  pcb : UInt8
  info : Bytes
  deriving DecidableEq, Repr

namespace Block

def maxInfo : Nat := 254

def headerLength : Nat := 3

/-! ## Kinds of blocks -/

/-- What a supervisory block is about. -/
inductive Task where
  | resynch
  | ifs
  | abort
  | wtx
  | unknown (number : UInt8)
  deriving DecidableEq, Repr

/-- What a block is for. -/
inductive Kind where
  /-- An I-block carries information: its sequence number, and whether more follows. -/
  | information (ns more : Bool)
  /-- An R-block names the information block that is expected next. -/
  | receipt (nr : Bool)
  /-- An S-block asks something of the other side's engine, or answers. -/
  | supervisory (task : Task) (response : Bool)
  deriving DecidableEq, Repr

/-- The task that the low bits of a control byte name. -/
def Task.ofNumber : UInt8 → Task
  | 0 => .resynch
  | 1 => .ifs
  | 2 => .abort
  | 3 => .wtx
  | n => .unknown n

def Task.number : Task → UInt8
  | .resynch => 0
  | .ifs => 1
  | .abort => 2
  | .wtx => 3
  | .unknown n => n

def bit (block : Block) (n : Nat) : Bool :=
  block.pcb.toNat.testBit n

def kind (block : Block) : Kind :=
  if block.bit 7 then
    if block.bit 6 then .supervisory (.ofNumber (block.pcb % 16)) (block.bit 5)
    else .receipt (block.bit 4)
  else .information (block.bit 6) (block.bit 5)

def information (ns more : Bool) (info : Bytes) : Block :=
  ⟨(if ns then 0x40 else 0) + (if more then 0x20 else 0), info⟩

/-- Why an R-block asks for a repetition. -/
inductive Flaw where
  | none
  | checksum
  | other
  deriving DecidableEq, Repr

def Flaw.number : Flaw → UInt8
  | .none => 0
  | .checksum => 1
  | .other => 2

def receipt (nr : Bool) (flaw : Flaw) : Block :=
  ⟨0x80 + (if nr then 0x10 else 0) + flaw.number, []⟩

def request (task : Task) (info : Bytes) : Block :=
  ⟨0xC0 + task.number, info⟩

def response (task : Task) (info : Bytes) : Block :=
  ⟨0xE0 + task.number, info⟩

/-! ## Writing and reading -/

def encode (nad : UInt8) (cs : Checksum) (block : Block) : Bytes :=
  cs.append (nad :: block.pcb :: UInt8.ofNat block.info.length :: block.info)

/-- The block that bytes write, if they are from this node. -/
def decode (nad : UInt8) (cs : Checksum) (bytes : Bytes) : Except Error Block :=
  match bytes with
  | source :: pcb :: length :: rest =>
    if rest.length < cs.length then .error (.protocolError .shortBlock)
    else if maxInfo < length.toNat ∨ rest.length ≠ length.toNat + cs.length then
      .error (.protocolError .badBlockLength)
    else if ¬ cs.verify bytes then .error .commError
    else if source ≠ nad then .error (.protocolError .unexpectedNad)
    else .ok ⟨pcb, rest.take length.toNat⟩
  | _ => .error (.protocolError .shortBlock)

/-- The address that the other side answers with: source and destination change places. -/
def replyNad (nad : UInt8) : UInt8 :=
  UInt8.ofNat (nad.toNat % 16 * 16 + nad.toNat / 16)

/-- The bytes of one block from a node. A channel of blocks gives it at once; from a channel of
characters the header is taken first, as it tells how much follows. -/
def receive {σ : Type} (link : Link σ) (dad : UInt8) (cs : Checksum) (timeout : Nat)
    (whole : Bool) : Action σ Bytes :=
  if whole then link.receive dad (headerLength + maxInfo + cs.length) timeout
  else do
    let header ← link.receiveExactly dad timeout headerLength
    let length := (header.getD 2 0).toNat
    if maxInfo < length then throw (.protocolError .badBlockLength)
    let rest ← link.receiveExactly dad timeout (length + cs.length)
    return header ++ rest

/-- Whether the exchange may go on after this error: the block was damaged or did not arrive. -/
def recoverable : Error → Bool
  | .timeout | .commError | .protocolError _ => true
  | _ => false

/-- What to tell the other side about a block that could not be read. -/
def Flaw.of (cause : Error) : Flaw :=
  if cause = .commError then .checksum else .other

theorem decode_encode (nad : UInt8) (cs : Checksum) (block : Block)
    (h : block.info.length ≤ maxInfo) : decode nad cs (encode nad cs block) = .ok block := by
  have fits : block.info.length % 256 = block.info.length := by
    simp only [maxInfo] at h
    omega
  have verified := cs.verify_append
    (nad :: block.pcb :: UInt8.ofNat block.info.length :: block.info)
  simp only [encode, Checksum.append, List.cons_append] at verified ⊢
  simp [decode, verified, fits, Nat.not_lt.mpr h]

end Block

end CardTerminal
