import CardTerminal.Apdu
import CardTerminal.Link
import CardTerminal.Protocol.Fault

/-!
T=0, the protocol of single characters.

The host sends a header of five bytes. The card then paces the transfer with procedure bytes: it
asks for patience, for all remaining data or for one more byte of it, and ends with two status
bytes. Some readers pace the card themselves; with them the host exchanges whole transfers.

A transfer ends because every procedure byte either ends it, is a null byte, of which there are only
so many before their count overflows, or moves at least one byte of data; `converse` recurses on
what is left of both.
-/

namespace CardTerminal

/-- What the engine is waiting for. -/
inductive T0.Phase where
  | idle
  | sending
  | receiving
  deriving DecidableEq, Repr

/-- The T=0 engine of one slot. -/
structure T0 where
  /-- The node that the card answers at. -/
  dad : UInt8
  phase : T0.Phase
  /-- How long to wait for each character. -/
  timeout : Nat
  /-- How many null bytes one transfer may hold. -/
  maxNulls : UInt32
  /-- The reader paces the card itself. -/
  blockOriented : Bool
  deriving DecidableEq, Repr

namespace T0

variable {σ : Type}

def new (dad : UInt8) : T0 :=
  ⟨dad, .idle, 2000, 50, false⟩

/-! ## Procedure bytes -/

/-- What a procedure byte asks of the host. -/
inductive Procedure where
  /-- To wait. -/
  | null
  /-- To read a second status byte, and to stop. -/
  | status
  /-- To move all remaining data. -/
  | all
  /-- To move one byte. -/
  | one
  /-- Nothing that the protocol knows. -/
  | unexpected
  deriving DecidableEq, Repr

/-- The meaning of a procedure byte after a header with this instruction byte. -/
def procedure (ins b : UInt8) : Procedure :=
  if b = 0x60 then .null
  else if b &&& 0xF0 = 0x60 ∨ b &&& 0xF0 = 0x90 then .status
  else if (b ^^^ ins) &&& 0xFE = 0 then .all
  else if (b ^^^ (~~~ ins)) &&& 0xFE = 0 then .one
  else .unexpected

/-- How many of `remaining` bytes a procedure byte moves. -/
def Procedure.amount (p : Procedure) (remaining : Nat) : Nat :=
  match p with
  | .all => remaining
  | .one => min 1 remaining
  | _ => 0

theorem Procedure.amount_le (p : Procedure) (remaining : Nat) : p.amount remaining ≤ remaining := by
  cases p <;> simp only [amount] <;> omega

/-! ## One transfer -/

/-- What is left to move in a transfer. -/
inductive Transfer where
  /-- Data for the card. -/
  | outgoing (data : Bytes)
  /-- So many bytes from the card. -/
  | incoming (wanted : Nat)
  deriving DecidableEq, Repr

def Transfer.size : Transfer → Nat
  | .outgoing data => data.length
  | .incoming wanted => wanted

/-- The end of an exchange that lost the card. -/
def lost (t : T0) (cause : Error) (s : σ) : Exchange (Option Ended) T0 σ :=
  ⟨some (.error (.lost cause)), { t with phase := .idle }, s⟩

/-- Follow the card's procedure bytes to the end of a transfer. `nulls` null bytes have come, and
`answer` has been received so far. A count of null bytes that overflows yields no end. -/
def converse (link : Link σ) (t : T0) (ins : UInt8) (nulls : UInt32) (left : Transfer)
    (answer : Bytes) (s : σ) : Exchange (Option Ended) T0 σ :=
  match link.receiveExactly t.dad t.timeout 1 s with
  | .error e s => t.lost e s
  | .ok received s =>
    let b := received.headD 0
    match procedure ins b with
    | .null =>
      if _h : nulls.toNat + 1 = UInt32.size then ⟨none, t, s⟩
      else if t.maxNulls < nulls + 1 then t.lost .cardMute s
      else converse link t ins (nulls + 1) left answer s
    | .status =>
      match link.receiveExactly t.dad t.timeout 1 s with
      | .error e s => t.lost e s
      | .ok second s => ⟨some (.ok (answer ++ b :: second)), { t with phase := .idle }, s⟩
    | .unexpected => t.lost (.protocolError .unexpectedProcedureByte) s
    | ack =>
      match left with
      | .outgoing data =>
        let n := ack.amount data.length
        if _h : n = 0 then t.lost (.protocolError .moreDataAsked) s
        else
          match link.send t.dad (data.take n) s with
          | .error e s => t.lost e s
          | .ok _ s => converse link t ins nulls (.outgoing (data.drop n)) answer s
      | .incoming wanted =>
        let n := ack.amount wanted
        if _h : n = 0 then t.lost (.protocolError .tooMuchData) s
        else
          match link.receiveExactly t.dad t.timeout n s with
          | .error e s => t.lost e s
          | .ok got s => converse link t ins nulls (.incoming (wanted - n)) (answer ++ got) s
termination_by UInt32.size - nulls.toNat + left.size
decreasing_by
  · have := nulls.toNat_lt
    simp only [UInt32.toNat_add, UInt32.size] at *
    have : (1 : UInt32).toNat = 1 := rfl
    omega
  · have := Procedure.amount_le ack data.length
    simp only [Transfer.size, List.length_drop]
    omega
  · have := Procedure.amount_le ack wanted
    simp only [Transfer.size]
    omega

/-- A transfer with a reader that paces the card itself. -/
def transferBlock (link : Link σ) (t : T0) (header data : Bytes) (wanted : Nat) (s : σ) :
    Exchange (Option Ended) T0 σ :=
  match link.send t.dad (header ++ data) s with
  | .error e s => ⟨some (.error (.lost e)), t, s⟩
  | .ok _ s =>
    match link.receive t.dad (wanted + 2) t.timeout s with
    | .error e s => ⟨some (.error (.lost e)), t, s⟩
    | .ok answer s =>
      if answer.length < 2 then ⟨some (.error (.lost (.protocolError .shortResponse))), t, s⟩
      else ⟨some (.ok answer), t, s⟩

/-- One header with its data; `wanted` bytes of answer are expected before the status bytes. -/
def transfer (link : Link σ) (t : T0) (header data : Bytes) (wanted : Nat) (s : σ) :
    Exchange (Option Ended) T0 σ :=
  if t.blockOriented then t.transferBlock link header data wanted s
  else
    match link.send t.dad header s with
    | .error e s => ⟨some (.error (.lost e)), t, s⟩
    | .ok _ s =>
      let ins := header.getD 1 0
      if data.isEmpty then
        converse link { t with phase := .receiving } ins 0 (.incoming wanted) [] s
      else converse link { t with phase := .sending } ins 0 (.outgoing data) [] s

/-! ## Commands -/

def withP3 (header : Bytes) (p3 : UInt8) : Bytes :=
  header.take 4 ++ [p3]

/-- Ask for `wanted` bytes; the card may correct the number once. -/
def fetch (link : Link σ) (t : T0) (header : Bytes) (wanted : Nat) (s : σ) :
    Exchange (Option Ended) T0 σ :=
  let first := t.transfer link header [] wanted s
  match first.outcome with
  | some (.ok [0x6C, corrected]) =>
    first.engine.transfer link (withP3 header corrected) [] (Apdu.shortLength corrected)
      first.device
  | _ => first

/-- Send data; an answer that the card holds ready is fetched, up to `wanted` bytes. -/
def sendAndFetch (link : Link σ) (t : T0) (header data : Bytes) (wanted : Nat) (s : σ) :
    Exchange (Option Ended) T0 σ :=
  let first := t.transfer link header data 0 s
  match first.outcome with
  | some (.ok [0x61, available]) =>
    let n := min (Apdu.shortLength available) wanted
    first.engine.fetch link [0x00, 0xC0, 0x00, 0x00, UInt8.ofNat n] n first.device
  | _ => first

/-- Exchange one command with the card. Extended lengths do not fit into this protocol. -/
def transceive (link : Link σ) (t : T0) (apdu : Bytes) (s : σ) : Exchange (Option Ended) T0 σ :=
  match Apdu.classify apdu with
  | .error e => ⟨some (.error (.failed e)), t, s⟩
  | .ok shape =>
    let header := apdu.take 5
    let data := (apdu.drop 5).take shape.lc
    match shape.case with
    | .case1 => t.transfer link (withP3 header 0) [] 0 s
    | .case2Short => t.fetch link header shape.le s
    | .case3Short => t.transfer link header data 0 s
    | .case4Short => t.sendAndFetch link header data shape.le s
    | _ => ⟨some (.error (.failed .unsupported)), t, s⟩

end T0

end CardTerminal
