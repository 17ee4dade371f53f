import CardTerminal.Atr
import CardTerminal.Protocol.Block
import CardTerminal.Protocol.Fault

/-!
T=1, the protocol of blocks.

A command goes out in slices, one I-block each, and the answer comes back in slices too. What the
host does next depends on the block it received alone, so an exchange is an automaton: `T1.react`
takes what was received and gives a `Verdict`. Damaged blocks are repaired with R-blocks as long as
the budget of the slice lasts, and then both sides start afresh with a RESYNCH.
-/

namespace CardTerminal

/-- Whether host and card agree on sequence numbers. -/
inductive T1.Phase where
  | alive
  | resynching
  deriving DecidableEq, Repr

/-- The T=1 engine of one slot. -/
structure T1 where
  /-- The node that the card answers at. -/
  nad : UInt8
  /-- The number of the host's next I-block. -/
  ns : Bool
  /-- The number that the card's next I-block should have. -/
  nr : Bool
  /-- The longest information field that the card takes. -/
  ifsc : Nat
  /-- The longest information field that the host takes. -/
  ifsd : Nat
  checksum : Checksum
  /-- How many bad blocks in a row are repaired. -/
  retries : Nat
  /-- How many times a command may be started afresh. -/
  resyncs : Nat
  /-- How long to wait for a block. -/
  timeout : Nat
  /-- The channel carries whole blocks. -/
  blockOriented : Bool
  phase : T1.Phase
  deriving DecidableEq, Repr

namespace T1

variable {σ : Type}

/-- The length of information fields before anything is agreed. -/
def defaultIfs : Nat := 32

def new (nad : UInt8) : T1 :=
  ⟨nad, false, false, defaultIfs, defaultIfs, .lrc, 3, 3, 3000, false, .alive⟩

/-- The engine as an answer to reset asks for it. -/
def configure (t : T1) (info : Atr.Info) : T1 :=
  { t with
    ifsc := (info.t1Ifsc.map (fun ifsc => min ifsc.toNat Block.maxInfo)).getD t.ifsc
    checksum := if info.t1UsesCrc then .crc else .lrc }

/-! ## One step of an exchange -/

/-- A command on its way. -/
structure Attempt where
  /-- The slice of the command that was sent last. -/
  current : Block
  /-- What of the command comes after that slice. -/
  rest : Bytes
  /-- The card has not yet answered the command. -/
  sending : Bool
  /-- The block to send next. -/
  next : Block
  /-- The answer so far. -/
  answer : Bytes
  /-- How many more bad blocks are repaired. -/
  retries : Nat
  /-- How much longer than usual to wait for the next block. -/
  stretch : Nat
  deriving DecidableEq, Repr

/-- What an exchange comes to with a block received. -/
inductive Verdict where
  /-- Send the next block. -/
  | proceed (t : T1) (a : Attempt)
  /-- The answer is complete. -/
  | finished (t : T1) (answer : Bytes)
  /-- Host and card have to start afresh. -/
  | outOfStep (t : T1)
  /-- The card gave the command up, and wants to know that the host has heard. -/
  | aborted (t : T1)
  /-- The channel failed. -/
  | lost (t : T1) (cause : Error)
  deriving DecidableEq, Repr

/-- The first slice of a command, or of what is left of it. -/
def slice (t : T1) (command : Bytes) : Block :=
  .information t.ns (t.ifsc < command.length) (command.take t.ifsc)

/-- An attempt that sends the next slice of a command. -/
def advance (t : T1) (command answer : Bytes) : Attempt :=
  ⟨t.slice command, command.drop t.ifsc, true, t.slice command, answer, t.retries, 1⟩

def start (t : T1) (command : Bytes) : Attempt :=
  t.advance command []

def receipt (t : T1) (flaw : Block.Flaw) : Block :=
  .receipt t.nr flaw

/-- Answer a bad block, which uses up one of the retries. -/
def spend (t : T1) (a : Attempt) (reply : Block) : Verdict :=
  match a.retries with
  | 0 => .outOfStep t
  | left + 1 => .proceed t { a with next := reply, retries := left, stretch := 1 }

/-- An R-block: it lets the next slice through, or asks for a repetition. -/
def onReceipt (t : T1) (a : Attempt) (nr : Bool) : Verdict :=
  if a.sending && nr != t.ns && !a.rest.isEmpty then
    let t := { t with ns := !t.ns }
    .proceed t (t.advance a.rest a.answer)
  else t.spend a (if a.sending then a.current else t.receipt .none)

/-- An I-block: the first one also says that the command has arrived. -/
def onInformation (t : T1) (a : Attempt) (ns more : Bool) (info : Bytes) : Verdict :=
  if a.sending && !a.rest.isEmpty then t.spend a (t.receipt .other)
  else
    let t := if a.sending then { t with ns := !t.ns } else t
    let a := { a with sending := false }
    if ns != t.nr then t.spend a (t.receipt .other)
    else
      let t := { t with nr := !t.nr }
      let answer := a.answer ++ info
      if more then
        .proceed t { a with answer, next := t.receipt .none, retries := t.retries, stretch := 1 }
      else .finished t answer

def onRequest (t : T1) (a : Attempt) (task : Block.Task) (info : Bytes) : Verdict :=
  match task with
  | .wtx =>
    let factor := max (info.headD 1) 1
    .proceed t { a with next := .response .wtx [factor], stretch := factor.toNat }
  | .ifs =>
    let size := (info.headD 0).toNat
    let t := if 1 ≤ size ∧ size ≤ Block.maxInfo then { t with ifsc := size } else t
    .proceed t { a with next := .response .ifs info, stretch := 1 }
  | .abort => .aborted t
  | .resynch | .unknown _ => t.spend a (t.receipt .other)

/-- What to do with what was received. -/
def react (t : T1) (a : Attempt) (received : Except Error Block) : Verdict :=
  match received with
  | .error cause =>
    if Block.recoverable cause then t.spend a (t.receipt (.of cause)) else .lost t cause
  | .ok block =>
    match block.kind with
    | .receipt nr => t.onReceipt a nr
    | .information ns more => t.onInformation a ns more block.info
    | .supervisory task false => t.onRequest a task block.info
    | .supervisory _ true => t.spend a (t.receipt .other)

/-! ## Exchanges -/

def send (link : Link σ) (t : T1) (block : Block) : Action σ Unit :=
  link.send t.nad (block.encode t.nad t.checksum)

def receive (link : Link σ) (t : T1) (timeout : Nat) : Action σ Block := do
  let bytes ← Block.receive link t.nad t.checksum timeout t.blockOriented
  match Block.decode (Block.replyNad t.nad) t.checksum bytes with
  | .error e => throw e
  | .ok block =>
    if t.ifsd < block.info.length then throw (.protocolError .blockExceedsIfsd) else return block

/-- How an attempt ends. -/
inductive Ending where
  | answered (answer : Bytes)
  | faulted (fault : Fault)
  | outOfStep
  /-- It went on for as long as it was followed. -/
  | unfinished
  deriving DecidableEq, Repr

/-- The end of an attempt, the engine and the device. -/
abbrev Outcome (σ : Type) : Type :=
  Ending × T1 × σ

/-- Follow an attempt for as many blocks as `patience` says. Nothing else bounds it: a card that
asks for more time again and again is waited for. -/
def run (link : Link σ) : Nat → T1 → Attempt → σ → Outcome σ
  | 0, t, _, s => (.unfinished, t, s)
  | patience + 1, t, a, s =>
    match t.send link a.next s with
    | .error e s => (.faulted (.lost e), t, s)
    | .ok _ s =>
      let (received, s) : Except Error Block × σ :=
        match t.receive link (t.timeout * a.stretch) s with
        | .ok block s => (.ok block, s)
        | .error e s => (.error e, s)
      match t.react a received with
      | .proceed t a => run link patience t a s
      | .finished t answer => (.answered answer, t, s)
      | .outOfStep t => (.outOfStep, t, s)
      | .lost t cause => (.faulted (.lost cause), t, s)
      | .aborted t =>
        match t.send link (.response .abort []) s with
        | .error e s => (.faulted (.lost e), t, s)
        | .ok _ s => (.faulted (.failed .cardAborted), t, s)

def attempt (link : Link σ) (t : T1) (command : Bytes) (s : σ) : Outcome σ :=
  run link link.patience t (t.start command) s

/-- Ask the card to start afresh. Whether it agreed, and the device. -/
def resynch (link : Link σ) (t : T1) (s : σ) : Bool × σ :=
  match t.send link (.request .resynch []) s with
  | .error _ s => (false, s)
  | .ok _ s =>
    match t.receive link t.timeout s with
    | .error _ s => (false, s)
    | .ok block s => (block.kind = .supervisory .resynch true, s)

/-- Start afresh and send the command again, until it is answered or `budget` is used up. -/
def recover (link : Link σ) (command : Bytes) : Nat → T1 → σ → Exchange (Option Ended) T1 σ
  | 0, t, s => ⟨some (.error (.lost .commError)), { t with phase := .resynching }, s⟩
  | budget + 1, t, s =>
    match t.resynch link s with
    | (false, s) => recover link command budget t s
    | (true, s) =>
      match { t with ns := false, nr := false, phase := .alive }.attempt link command s with
      | (.answered answer, t, s) => ⟨some (.ok answer), t, s⟩
      | (.faulted fault, t, s) => ⟨some (.error fault), t, s⟩
      | (.unfinished, t, s) => ⟨none, t, s⟩
      | (.outOfStep, t, s) => recover link command budget t s

def transceive (link : Link σ) (t : T1) (command : Bytes) (s : σ) : Exchange (Option Ended) T1 σ :=
  match t.attempt link command s with
  | (.answered answer, t, s) => ⟨some (.ok answer), t, s⟩
  | (.faulted fault, t, s) => ⟨some (.error fault), t, s⟩
  | (.unfinished, t, s) => ⟨none, t, s⟩
  | (.outOfStep, t, s) => recover link command t.resyncs t s

/-! ## The host's field length -/

/-- Tell the card how long a field the host takes, with so many tries. -/
def announce (link : Link σ) (t : T1) (size : UInt8) : Nat → Action σ T1
  | 0 => throw (.protocolError .ifsdRefused)
  | tries + 1 => do
    t.send link (.request .ifs [size])
    let received ← fun s =>
      match t.receive link t.timeout s with
      | .ok block s => EStateM.Result.ok (Except.ok block) s
      | .error e s => .ok (.error e) s
    match received with
    | .ok block =>
      if block.kind = .supervisory .ifs true ∧ block.info = [size] then
        return { t with ifsd := size.toNat }
      else announce link t size tries
    | .error e => if Block.recoverable e then announce link t size tries else throw e

/-- Agree with the card on the longest field the host takes. -/
def negotiateIfsd (link : Link σ) (t : T1) (ifsd : Nat) : Action σ T1 :=
  if 1 ≤ ifsd ∧ ifsd ≤ Block.maxInfo then t.announce link (UInt8.ofNat ifsd) (t.retries + 1)
  else throw .invalidArg

end T1

end CardTerminal
