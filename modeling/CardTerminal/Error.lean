/-!
What can go wrong between a client, the reader service, the device and the card.

Each cause has a code, which is what travels in a reply; several causes that only concern the
inside share the code of the public cause they amount to. `Error.ofCode` names the public cause of
a code, so `(Error.ofCode e.code)` is what the other side of a connection learns about `e`.
-/

namespace CardTerminal

/-- How a card or a reader broke the transmission protocol. -/
inductive Violation where
  | badPtsHeader
  | badPtsChecksum
  | ptsRefused
  | unexpectedProcedureByte
  | moreDataAsked
  | tooMuchData
  | shortResponse
  | shortBlock
  | badBlockLength
  | unexpectedNad
  | blockExceedsIfsd
  | ifsdRefused
  /-- A device's own words. -/
  | reported (text : String)
  deriving DecidableEq, Repr

def Violation.text : Violation → String
  | .badPtsHeader => "bad PTS header"
  | .badPtsChecksum => "bad PTS checksum"
  | .ptsRefused => "PTS refused"
  | .unexpectedProcedureByte => "unexpected procedure byte"
  | .moreDataAsked => "card asked for more data"
  | .tooMuchData => "card sent too much data"
  | .shortResponse => "short T=0 response"
  | .shortBlock => "short block"
  | .badBlockLength => "bad block length"
  | .unexpectedNad => "unexpected NAD"
  | .blockExceedsIfsd => "block exceeds IFSD"
  | .ifsdRefused => "IFSD negotiation failed"
  | .reported text => text

/-- Why an operation failed. -/
inductive Error where
  | generic
  | timeout
  | invalidSlot
  | notSupported
  | commError
  | noCard
  | locked
  | noLock
  | invalidArg
  | noMemory
  | bufferTooSmall
  | userTimeout
  | userAbort
  | pinMismatch
  | invalidAtr
  | incompatibleDevice
  | deviceDisconnected
  | invalidMsg
  | invalidCmd
  | missingArg
  | notConnected
  /-- A buffer read or write exceeded the available data or room. -/
  | insufficientSpace
  /-- Items or commands do not follow their layout. -/
  | malformed
  /-- A packet of this many bytes can never be held. -/
  | packetTooLarge (size : Nat)
  /-- The card sends nothing but null procedure bytes. -/
  | cardMute
  /-- The card violated the transmission protocol. -/
  | protocolError (violation : Violation)
  /-- The card aborted a T=1 chain. -/
  | cardAborted
  /-- The request is well formed but more than the protocol can carry. -/
  | unsupported
  /-- The slot has no answer to reset to work with. -/
  | noAtr
  deriving DecidableEq, Repr

namespace Error

def success : Int16 := 0

/-- The code a reply carries for this cause. -/
def code : Error → Int16
  | .generic => -1
  | .timeout | .cardMute => -2
  | .invalidSlot => -3
  | .notSupported | .unsupported => -4
  | .commError | .protocolError _ | .cardAborted => -5
  | .noCard => -6
  | .locked => -7
  | .noLock => -8
  | .invalidArg => -9
  | .noMemory => -10
  | .bufferTooSmall | .insufficientSpace => -11
  | .userTimeout => -12
  | .userAbort => -13
  | .pinMismatch => -14
  | .invalidAtr | .noAtr => -15
  | .incompatibleDevice => -16
  | .deviceDisconnected => -17
  | .invalidMsg | .malformed | .packetTooLarge _ => -100
  | .invalidCmd => -101
  | .missingArg => -102
  | .notConnected => -103

/-- The public causes, each with a code of its own. -/
def publicCauses : List Error :=
  [.generic, .timeout, .invalidSlot, .notSupported, .commError, .noCard, .locked, .noLock,
    .invalidArg, .noMemory, .bufferTooSmall, .userTimeout, .userAbort, .pinMismatch, .invalidAtr,
    .incompatibleDevice, .deviceDisconnected, .invalidMsg, .invalidCmd, .missingArg, .notConnected]

/-- The public cause with this code; `none` for success, and `generic` for a code that no cause
has. -/
def ofCode (code : Int16) : Option Error :=
  if code = success then none
  else some ((publicCauses.find? (fun cause => cause.code = code)).getD .generic)

/-- Success, or the public cause with this code. -/
def check (code : Int16) : Except Error Unit :=
  match ofCode code with
  | none => .ok ()
  | some cause => .error cause

def message : Error → String
  | .generic => "generic error"
  | .timeout => "timed out"
  | .invalidSlot => "invalid slot"
  | .notSupported => "operation not supported"
  | .commError => "communication error"
  | .noCard => "no card present"
  | .locked => "slot is locked"
  | .noLock => "no matching lock"
  | .invalidArg => "invalid argument"
  | .noMemory => "out of memory"
  | .bufferTooSmall => "buffer too small"
  | .userTimeout => "user input timed out"
  | .userAbort => "aborted by user"
  | .pinMismatch => "PIN mismatch"
  | .invalidAtr => "invalid ATR"
  | .incompatibleDevice => "incompatible device"
  | .deviceDisconnected => "device disconnected"
  | .invalidMsg => "invalid message"
  | .invalidCmd => "invalid command"
  | .missingArg => "missing argument"
  | .notConnected => "not connected"
  | .insufficientSpace => "insufficient buffer space"
  | .malformed => "malformed data"
  | .packetTooLarge size => "packet too large (" ++ toString size ++ " bytes)"
  | .cardMute => "card is mute"
  | .protocolError violation => "protocol error: " ++ violation.text
  | .cardAborted => "card aborted the transfer"
  | .unsupported => "unsupported request"
  | .noAtr => "no ATR available"

/-- A reader that knows a single cause fails with it exactly where there is nothing to read. -/
theorem eq_error_iff_of_sole {α : Type} {result : Except Error α} {means : α → Prop} {sole : Error}
    (reads : ∀ v, result = .ok v ↔ means v) (fails : ∀ cause, result = .error cause → cause = sole)
    (cause : Error) : result = .error cause ↔ cause = sole ∧ ∀ v, ¬ means v := by
  constructor
  · intro failed
    refine ⟨fails cause failed, fun v meant => ?_⟩
    cases failed.symm.trans ((reads v).mpr meant)
  · rintro ⟨rfl, none⟩
    cases outcome : result with
    | ok v => exact absurd ((reads v).mp outcome) (none v)
    | error cause' => rw [fails cause' outcome]

end Error

/-! ## Files and sockets -/

/-- How a file or socket operation failed. -/
inductive IoFailure where
  | notFound
  | addressInUse
  | invalidData
  | invalidInput
  | outOfMemory
  | brokenPipe
  | timedOut
  | wouldBlock
  /-- Any other failure, under its name. -/
  | other (name : String)
  deriving DecidableEq, Repr

/-- What a failed file or socket operation means to a reader or client: only waiting and memory
keep their own cause. -/
def IoFailure.toError : IoFailure → Error
  | .timedOut | .wouldBlock => .timeout
  | .outOfMemory => .noMemory
  | _ => .commError

end CardTerminal
