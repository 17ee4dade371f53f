import CardTerminal.Bytes
import CardTerminal.Error

/-!
The vocabulary of requests: commands, units, and the tags of their arguments and answers.

A request is a command byte, a unit byte and arguments. The arguments are items, except those of
`transact`, which are a command for the card.

Main statements: a request that is written reads back as itself (`Request.decode_encode`), and
what is read is what was written (`Request.encode_of_decode`).
-/

namespace CardTerminal

/-- What a client asks of a reader. -/
inductive Command where
  | status
  | lock
  | unlock
  | reset
  | requestIcc
  | ejectIcc
  | output
  | performVerify
  | transact
  | setProtocol
  | memoryRead
  | memoryWrite
  deriving DecidableEq, Repr

namespace Command

def code : Command → UInt8
  | .status => 0x00
  | .lock => 0x01
  | .unlock => 0x02
  | .reset => 0x10
  | .requestIcc => 0x11
  | .ejectIcc => 0x12
  | .output => 0x13
  | .performVerify => 0x14
  | .transact => 0x20
  | .setProtocol => 0x22
  | .memoryRead => 0x30
  | .memoryWrite => 0x31

def all : List Command :=
  [.status, .lock, .unlock, .reset, .requestIcc, .ejectIcc, .output, .performVerify, .transact,
    .setProtocol, .memoryRead, .memoryWrite]

def ofCode (code : UInt8) : Except Error Command :=
  match all.find? (fun command => command.code = code) with
  | some command => .ok command
  | none => .error .invalidCmd

@[simp] theorem ofCode_code (c : Command) : ofCode c.code = .ok c := by
  cases c <;> rfl

theorem code_of_ofCode {b : UInt8} {c : Command} (h : ofCode b = .ok c) : c.code = b := by
  unfold ofCode at h
  split at h
  · next found => cases h; simpa using List.find?_some found
  · cases h

end Command

/-- The unit byte that means the reader itself and not one of its slots. -/
def unitReader : UInt8 := 0xFF

/-! ## Tags -/

namespace Tag

def readerName : UInt8 := 0x00
def readerUnits : UInt8 := 0x01
def cardStatus : UInt8 := 0x02
def atr : UInt8 := 0x03
def lock : UInt8 := 0x04
def cardResponse : UInt8 := 0x05
def address : UInt8 := 0x06
def data : UInt8 := 0x07
def count : UInt8 := 0x08
def readerFlags : UInt8 := 0x09
def timeout : UInt8 := 0x80
def message : UInt8 := 0x81
def lockType : UInt8 := 0x82
def pinData : UInt8 := 0x83
def protocol : UInt8 := 0x84

end Tag

/-! ## Locks -/

/-- How a client wants to hold a slot. -/
inductive LockKind where
  | shared
  | exclusive
  deriving DecidableEq, Repr

namespace LockKind

def number : LockKind → UInt32
  | .shared => 0
  | .exclusive => 1

def ofNumber (n : UInt32) : Except Error LockKind :=
  if n = 0 then .ok .shared else if n = 1 then .ok .exclusive else .error .invalidArg

@[simp] theorem ofNumber_number (k : LockKind) : ofNumber k.number = .ok k := by
  cases k <;> rfl

end LockKind

/-! ## Requests -/

/-- A decoded request. -/
structure Request where
  command : Command
  unit : UInt8
  /-- Items, or the command for the card. -/
  args : Bytes
  deriving DecidableEq, Repr

namespace Request

def encode (r : Request) : Bytes :=
  r.command.code :: r.unit :: r.args

def decode : Bytes → Except Error Request
  | command :: unit :: args => do
    let command ← Command.ofCode command
    return ⟨command, unit, args⟩
  | _ => .error .invalidMsg

@[simp] theorem decode_encode (r : Request) : decode r.encode = .ok r := by
  show (Command.ofCode r.command.code >>= fun c => Except.ok ⟨c, r.unit, r.args⟩) = .ok r
  rw [Command.ofCode_code]
  rfl

theorem encode_of_decode {bytes : Bytes} {r : Request} (h : decode bytes = .ok r) :
    r.encode = bytes := by
  unfold decode at h
  split at h
  · next command unit args =>
    cases hc : Command.ofCode command with
    | error e => simp [hc, bind, Except.bind] at h
    | ok c =>
      simp [hc, bind, Except.bind, pure, Except.pure] at h
      subst h
      simp [encode, Command.code_of_ofCode hc]
  · cases h

end Request

end CardTerminal
