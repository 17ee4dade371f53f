import CardTerminal.Apdu
import CardTerminal.Driver
import CardTerminal.Text.Blank
import CardTerminal.Text.Utf8

/-!
A reader in software: one slot, a display and a keypad. In the slot is a card with one file and a
PIN, or a memory card, or nothing.

Its address is a list of options: `absent`, `memory`, `pin=…` for the PIN of the card and `entry=…`
for what is typed on the keypad.
-/

namespace CardTerminal

/-- A card with a PIN, one file and a source of numbers. -/
structure FileCard where
  pin : Bytes
  file : Bytes
  /-- The last number given out. -/
  challenge : UInt8
  deriving DecidableEq, Repr

namespace FileCard

/-- Status words of the card. -/
inductive Status where
  | done
  | wrongLength
  | wrongOffset
  | wrongPin
  | unknownInstruction

def Status.bytes : Status → Bytes
  | .done => [0x90, 0x00]
  | .wrongLength => [0x67, 0x00]
  | .wrongOffset => [0x6B, 0x00]
  | .wrongPin => [0x63, 0xC0]
  | .unknownInstruction => [0x6D, 0x00]

def nextChallenge (n : UInt8) : UInt8 :=
  n * 37 + 11

/-- So many numbers, the first one after the given number. -/
def challenges : Nat → UInt8 → Bytes
  | 0, _ => []
  | n + 1, last => nextChallenge last :: challenges n (nextChallenge last)

/-- Carry out a command whose shape is known. -/
def execute (card : FileCard) (ins p1 p2 : UInt8) (shape : Apdu.Shape) (data : Bytes) :
    Bytes × Status × FileCard :=
  let offset := (Bytes.ofBe16 p1 p2).toNat % 32768
  match ins.toNat, shape.case with
  | 0xA4, _ => ([], .done, card)
  | 0x84, .case2Short =>
    let given := challenges shape.le card.challenge
    (given, .done, { card with challenge := given.getLastD card.challenge })
  | 0xB0, .case2Short =>
    if card.file.length < offset + shape.le then ([], .wrongOffset, card)
    else ((card.file.drop offset).take shape.le, .done, card)
  | 0xD6, .case3Short =>
    if card.file.length < offset + data.length then ([], .wrongOffset, card)
    else
      ([], .done, { card with
        file := card.file.take offset ++ data ++ card.file.drop (offset + data.length) })
  | 0x20, .case3Short => ([], if data = card.pin then .done else .wrongPin, card)
  | 0x84, _ | 0xB0, _ | 0xD6, _ | 0x20, _ => ([], .wrongLength, card)
  | _, _ => ([], .unknownInstruction, card)

def process (card : FileCard) (command : Bytes) : Bytes × FileCard :=
  match Apdu.classify command with
  | .error _ => (Status.wrongLength.bytes, card)
  | .ok shape =>
    let data := (command.drop shape.dataOffset).take shape.lc
    let (answer, status, card) :=
      card.execute (command.getD 1 0) (command.getD 2 0) (command.getD 3 0) shape data
    (answer ++ status.bytes, card)

end FileCard

/-- The state of a virtual reader. -/
structure Virtual where
  /-- There is a card in the slot. -/
  present : Bool
  /-- The card is a memory card. -/
  memoryOnly : Bool
  card : FileCard
  memory : Bytes
  /-- What is typed on the keypad. -/
  entry : Bytes
  /-- The messages shown, the oldest first. -/
  display : List String
  deriving DecidableEq, Repr

namespace Virtual

def atr : Bytes :=
  [0x3B, 0x80, 0x80, 0x01, 0x01]

/-- How many bytes the memory card and the file hold. -/
def capacity : Nat := 256

/-! ## Options -/

/-- What an address asks for. -/
structure Options where
  present : Bool
  memoryOnly : Bool
  pin : String
  entry : Option String

def Options.standard : Options :=
  ⟨true, false, "1234", none⟩

/-- One more option, without blanks around it. -/
def Options.read (options : Options) (text : List Char) : Except Error Options :=
  let key := text.takeWhile (· ≠ '=')
  match String.ofList key, text.drop key.length with
  | "absent", [] => .ok { options with present := false }
  | "memory", [] => .ok { options with memoryOnly := true }
  | "pin", _ :: value => .ok { options with pin := String.ofList value }
  | "entry", _ :: value => .ok { options with entry := some (String.ofList value) }
  | _, _ => .error .invalidArg

def Options.parse (address : String) : Except Error Options :=
  ((splitAtChar ',' address.toList).map trimBlanks).filter (!·.isEmpty)
    |>.foldlM Options.read Options.standard

def ofOptions (options : Options) : Virtual where
  present := options.present
  memoryOnly := options.memoryOnly
  card := ⟨Utf8.encode options.pin, List.replicate capacity 0, 0x5A⟩
  memory := List.replicate capacity 0xFF
  entry := Utf8.encode (options.entry.getD options.pin)
  display := []

def new (address : String) : Except Error Virtual :=
  (Options.parse address).map ofOptions

/-! ## Hooks -/

def show? (message : Option String) : Action Virtual Unit :=
  modify (fun v => { v with display := v.display ++ message.toList })

def requireCard : Action Virtual Unit := do
  unless (← get).present do throw .noCard

/-- Fail without a memory card that has these addresses. -/
def requireMemory (address length : Nat) : Action Virtual Unit := do
  requireCard
  unless (← get).memoryOnly do throw .notSupported
  if capacity < address + length then throw .invalidArg

def reset : Action Virtual Atr := do
  requireCard
  return if (← get).memoryOnly then none else some atr

def process (command : Bytes) : Action Virtual Bytes := do
  let v ← get
  let (answer, card) := v.card.process command
  set { v with card }
  return answer

/-- Verify what is typed on the keypad with the header of the given command. -/
def verify (message : Option String) (command : Bytes) : Action Virtual Bytes := do
  requireCard
  match command with
  | cla :: ins :: p1 :: p2 :: _ =>
    show? message
    let entry := (← get).entry
    process (cla :: ins :: p1 :: p2 :: UInt8.ofNat entry.length :: entry)
  | _ => throw .invalidArg

/-- Which engine runs a protocol: the reader itself exchanges commands with cards. -/
def engineFor (memoryOnly : Bool) (protocol : ProtocolId) : Except Error (Option Engine) :=
  match protocol with
  | .escape => .ok (some .escape)
  | .t0 | .t1 | .transparent => if memoryOnly then .error .notSupported else .ok (some .transparent)
  | protocol => if protocol.isMemory && memoryOnly then .ok none else .error .notSupported

def driver : Driver Virtual where
  -- There is no byte channel, so one block is all that an exchange can try.
  patience := 1
  name := "virtual"
  attach := return { ReaderInfo.new "Virtual reader" 1 with flags := .displayAndKeypad }
  cardStatus _ := return ⟨(← get).present, false⟩
  cardReset _ := reset
  cardRequest _ _ message := do
    show? message
    modify (fun v => { v with present := true })
    reset
  cardEject _ _ message := do
    show? message
    modify (fun v => { v with present := false })
  output message := show? (some message)
  performVerify _ _ message command := verify message command
  setProtocol _ protocol := do
    match engineFor (← get).memoryOnly protocol with
    | .ok engine => return engine
    | .error e => throw e
  transparent _ command := do
    requireCard
    process command
  readMemory _ _ address length := do
    requireMemory address length
    return ((← get).memory.drop address).take length
  writeMemory _ _ address bytes := do
    requireMemory address bytes.length
    modify (fun v => { v with
      memory := v.memory.take address ++ bytes ++ v.memory.drop (address + bytes.length) })
  escape _ command := return command

def device (address : String) : Except Error Device :=
  (new address).map (fun v => ⟨Virtual, driver, v⟩)

end Virtual

end CardTerminal
