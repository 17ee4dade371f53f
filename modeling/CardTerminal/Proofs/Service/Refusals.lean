import CardTerminal.Driver.Minimal
import CardTerminal.Proofs.Service.Order
import CardTerminal.Proofs.Service.Run
import CardTerminal.Proofs.Tlv.Items
import Mathlib.Algebra.Group.Nat.Defs
import Mathlib.Data.List.Induction

/-!
Which requests are refused before anything is done for them.

What a command takes is laid down in a table (`Command.arguments`), and a payload is faulty if it is
no request at all, names a unit that its command cannot be about, or gives its command something
else than the table asks for (`Payload.Faulty`). A service reads an order out of a payload exactly
if nothing is wrong with it and the client may talk to the card it is about (`refused_orderOf`).

Main statement: `faulty_refused`.
-/

namespace CardTerminal

variable {α β : Type}

/-! ## What it takes to be refused -/

/-- The outcome is an error. -/
def Refused (x : Except Error α) : Prop :=
  ∃ e, x = .error e

@[simp] theorem refused_ok (v : α) : ¬ Refused (.ok v : Except Error α) := by
  rintro ⟨e, h⟩
  cases h

@[simp] theorem refused_pure (v : α) : ¬ Refused (pure v : Except Error α) :=
  refused_ok v

@[simp] theorem refused_error (e : Error) : Refused (.error e : Except Error α) :=
  ⟨e, rfl⟩

@[simp] theorem refused_throw (e : Error) : Refused (throw e : Except Error α) :=
  ⟨e, rfl⟩

theorem refused_bind {x : Except Error α} {f : α → Except Error β} :
    Refused (x >>= f) ↔ Refused x ∨ ∃ v, x = .ok v ∧ Refused (f v) := by
  cases x with
  | ok v => simp [bind, Except.bind]
  | error e => simp [bind, Except.bind]

/-- A sequence is refused if one part is, when what the first part gives does not matter to
that. -/
theorem refused_seq {x : Except Error α} {f : α → Except Error β} {P : Prop}
    (h : ∀ v, x = .ok v → (Refused (f v) ↔ P)) : Refused (x >>= f) ↔ Refused x ∨ P := by
  cases x with
  | ok v => simpa [bind, Except.bind] using h v rfl
  | error e => simp [bind, Except.bind]

theorem refused_then {x : Except Error α} {y : Except Error β} :
    Refused (x >>= fun _ => y) ↔ Refused x ∨ Refused y :=
  refused_seq fun _ _ => Iff.rfl

@[simp] theorem refused_bind_pure {x : Except Error α} {f : α → β} :
    Refused (x >>= fun v => pure (f v)) ↔ Refused x := by
  rw [refused_seq (P := False) fun v _ => iff_of_false (refused_pure _) id, or_false]

theorem ok_or_refused (x : Except Error α) : (∃ v, x = .ok v) ∨ Refused x := by
  cases x with
  | ok v => exact .inl ⟨v, rfl⟩
  | error e => exact .inr ⟨e, rfl⟩

/-! ## Arguments -/

/-- Something that a command takes. -/
structure Argument where
  tag : UInt8
  /-- Whether the command needs it. -/
  required : Bool
  /-- The numbers to choose from, if it is a number. -/
  numbers : Option (Nat → Prop)

namespace Argument

def lockType : Argument := ⟨Tag.lockType, true, some (· ≤ 1)⟩
def lock : Argument := ⟨Tag.lock, true, some fun _ => True⟩
def timeout : Argument := ⟨Tag.timeout, false, some fun _ => True⟩
def message : Argument := ⟨Tag.message, false, none⟩
def output : Argument := ⟨Tag.message, true, none⟩
def pinData : Argument := ⟨Tag.pinData, true, none⟩
def protocol : Argument :=
  ⟨Tag.protocol, true, some fun n => ∃ id : ProtocolId, id.number.toNat = n⟩
def address : Argument := ⟨Tag.address, true, some (· < 65536)⟩
def count : Argument := ⟨Tag.count, true, some (· ≤ 254)⟩
def data : Argument := ⟨Tag.data, true, none⟩

/-- The items do not give the argument as they should. As everywhere, the last item with its tag
counts. -/
inductive Faulty (a : Argument) (items : List Tlv.Item) : Prop where
  | missing (required : a.required = true) (missing : ∀ item ∈ items, item.tag ≠ a.tag)
  | long {numbers : Nat → Prop} {value : Bytes} (number : a.numbers = some numbers)
      (given : Tlv.value? items a.tag = some value) (long : 4 < value.length)
  | unknown {numbers : Nat → Prop} {value : Bytes} (number : a.numbers = some numbers)
      (given : Tlv.value? items a.tag = some value) (unknown : ¬ numbers (Bytes.toNatBe value))

end Argument

namespace Command

/-- What a command takes. The command for a card that `transact` takes is no item. -/
def arguments : Command → List Argument
  | .status | .reset | .transact => []
  | .lock => [.lockType]
  | .unlock => [.lock]
  | .requestIcc | .ejectIcc => [.timeout, .message]
  | .output => [.output]
  | .performVerify => [.pinData, .timeout, .message]
  | .setProtocol => [.protocol]
  | .memoryRead => [.address, .count]
  | .memoryWrite => [.address, .data]

/-- The commands that are about a slot, and never about the reader itself. -/
def needsSlot : Command → Bool
  | .status | .output => false
  | _ => true

end Command

/-- Something is wrong with a request to a reader that has so many slots. -/
inductive Request.Faulty (slots : Nat) : Request → Prop where
  | noSlot {command : Command} {unit : UInt8} {args : Bytes} (reader : unit ≠ unitReader)
      (beyond : slots ≤ unit.toNat) : Faulty slots ⟨command, unit, args⟩
  | reader {command : Command} {args : Bytes} (needsSlot : command.needsSlot = true) :
      Faulty slots ⟨command, unitReader, args⟩
  | malformed {command : Command} {unit : UInt8} {args : Bytes} (takesItems : command ≠ .transact)
      (malformed : ∀ items : List Tlv.Item, (∀ item ∈ items, item.Fits .short) →
        Tlv.encode .short items ≠ args) : Faulty slots ⟨command, unit, args⟩
  | argument {command : Command} {unit : UInt8} {items : List Tlv.Item} {a : Argument}
      (fits : ∀ item ∈ items, item.Fits .short) (taken : a ∈ command.arguments)
      (faulty : a.Faulty items) : Faulty slots ⟨command, unit, Tlv.encode .short items⟩

/-- Something is wrong with a payload for the service of a reader that has so many slots. -/
inductive Payload.Faulty (slots : Nat) : Bytes → Prop where
  | short {payload : Bytes} (short : payload.length < 2) : Faulty slots payload
  | unknown {code unit : UInt8} {args : Bytes} (unknown : ∀ c : Command, c.code ≠ code) :
      Faulty slots (code :: unit :: args)
  | request {request : Request} (faulty : request.Faulty slots) : Faulty slots request.encode

/-! ## Arguments as they are read -/

namespace Bytes

theorem toNatBe_concat (bytes : Bytes) (b : UInt8) :
    toNatBe (bytes ++ [b]) = toNatBe bytes * 256 + b.toNat := by
  simp only [toNatBe, List.foldl_append, List.foldl_cons, List.foldl_nil]

theorem toNatBe_lt (bytes : Bytes) : toNatBe bytes < 256 ^ bytes.length := by
  induction bytes using List.reverseRecOn with
  | nil => exact Nat.one_pos
  | append_singleton bytes b ih =>
    have := b.toNat_lt
    rw [toNatBe_concat, List.length_append, List.length_singleton, Nat.pow_succ]
    omega

end Bytes

namespace Tlv

variable {items : List Item} {tag : UInt8}

theorem refused_parse {bytes : Bytes} : Refused (parse .short bytes) ↔
    ∀ items : List Item, (∀ item ∈ items, item.Fits .short) → encode .short items ≠ bytes := by
  constructor
  · rintro ⟨e, failed⟩ items fits same
    rw [parse_short_iff.mpr ⟨fits, same⟩] at failed
    cases failed
  · intro malformed
    rcases ok_or_refused (parse .short bytes) with ⟨items, parsed⟩ | refused
    · obtain ⟨fits, same⟩ := parse_short_iff.mp parsed
      exact absurd same (malformed items fits)
    · exact refused

theorem number?_of_short {value : Bytes} (given : value? items tag = some value)
    (short : value.length ≤ 4) :
    ∃ n, number? items tag = .ok (some n) ∧ n.toNat = Bytes.toNatBe value := by
  refine ⟨UInt32.ofNat (Bytes.toNatBe value), by simp only [number?, given, if_pos short], ?_⟩
  have bound : Bytes.toNatBe value < 256 ^ 4 :=
    Nat.lt_of_lt_of_le (Bytes.toNatBe_lt value) (Nat.pow_le_pow_right (by decide) short)
  rw [UInt32.toNat_ofNat']
  omega

theorem refused_number? : Refused (number? items tag) ↔
    ∃ value, value? items tag = some value ∧ 4 < value.length := by
  unfold number?
  split
  · next missing => simp [missing]
  · next value given =>
    split
    · next short => simpa [given] using short
    · next long => simpa [given] using long

end Tlv

namespace Argument.Faulty

variable {a : Argument} {items : List Tlv.Item}

/-- What is done with a number that has to be given is refused if the number is not given as it
should be, or is none to choose from. -/
theorem refused_iff_of_number {f : UInt32 → Except Error β} {numbers : Nat → Prop}
    (required : a.required = true) (number : a.numbers = some numbers)
    (hf : ∀ n, Refused (f n) ↔ ¬ numbers n.toNat) :
    Refused (Tlv.requiredNumber items a.tag >>= f) ↔ a.Faulty items := by
  cases given : Tlv.value? items a.tag with
  | none =>
    have missing : Refused (Tlv.requiredNumber items a.tag >>= f) := by
      rw [Tlv.requiredNumber, Tlv.number?, given]
      exact refused_throw _
    exact iff_of_true missing (.missing required (Tlv.value?_eq_none_iff.mp given))
  | some value =>
    by_cases short : value.length ≤ 4
    · obtain ⟨n, read, same⟩ := Tlv.number?_of_short given short
      rw [Tlv.requiredNumber, read]
      refine (hf n).trans ?_
      rw [same]
      constructor
      · exact .unknown number given
      · rintro (⟨-, missing⟩ | ⟨-, given', long⟩ | ⟨number', given', unknown⟩)
        · rw [Tlv.value?_eq_none_iff.mpr missing] at given
          cases given
        · cases given.symm.trans given'
          exact absurd short (Nat.not_le_of_lt long)
        · cases given.symm.trans given'
          cases number.symm.trans number'
          exact unknown
    · have long : Refused (Tlv.requiredNumber items a.tag >>= f) := by
        rw [Tlv.requiredNumber, Tlv.number?, given]
        dsimp only
        rw [if_neg short]
        exact refused_error _
      exact iff_of_true long (.long number given (Nat.lt_of_not_le short))

theorem refused_iff_of_value {value : Option α} (needed : a.required = true)
    (noNumber : a.numbers = none) (same : value = none ↔ Tlv.value? items a.tag = none) :
    Refused (Order.required value) ↔ a.Faulty items := by
  rw [Tlv.value?_eq_none_iff] at same
  constructor
  · intro refused
    cases value with
    | none => exact .missing needed (same.mp rfl)
    | some v => exact absurd refused (refused_ok v)
  · rintro (⟨-, missing⟩ | ⟨number, -, -⟩ | ⟨number, -, -⟩)
    · rw [same.mpr missing]
      exact refused_error _
    · cases noNumber.symm.trans number
    · cases noNumber.symm.trans number

theorem not_message : ¬ Argument.message.Faulty items := by
  rintro (⟨required, -⟩ | ⟨number, -, -⟩ | ⟨number, -, -⟩)
  · cases required
  · cases number
  · cases number

end Argument.Faulty

/-! ## What orders are read out of -/

theorem Request.faulty_iff {slots : Nat} {command : Command} {unit : UInt8} {args : Bytes} :
    Faulty slots ⟨command, unit, args⟩ ↔
      (unit ≠ unitReader ∧ slots ≤ unit.toNat) ∨ (unit = unitReader ∧ command.needsSlot = true) ∨
      (command ≠ .transact ∧ (Refused (Tlv.parse .short args) ∨
        ∃ items, Tlv.parse .short args = .ok items ∧ ∃ a ∈ command.arguments, a.Faulty items)) := by
  constructor
  · rintro (⟨reader, beyond⟩ | needsSlot | ⟨takesItems, malformed⟩ | ⟨fits, taken, faulty⟩)
    · exact .inl ⟨reader, beyond⟩
    · exact .inr (.inl ⟨rfl, needsSlot⟩)
    · exact .inr (.inr ⟨takesItems, .inl (Tlv.refused_parse.mpr malformed)⟩)
    · refine .inr (.inr ⟨?_, .inr ⟨_, Tlv.parse_encode fits, _, taken, faulty⟩⟩)
      rintro rfl
      exact List.not_mem_nil taken
  · rintro (⟨reader, beyond⟩ | ⟨rfl, needsSlot⟩ | ⟨takesItems, malformed |
      ⟨items, parsed, a, taken, faulty⟩⟩)
    · exact .noSlot reader beyond
    · exact .reader needsSlot
    · exact .malformed takesItems (Tlv.refused_parse.mp malformed)
    · obtain ⟨fits, rfl⟩ := Tlv.parse_short_iff.mp parsed
      exact .argument fits taken faulty

namespace Order

open Argument.Faulty

variable {slots : Nat} {access : Nat → Except Error Unit} {items : List Tlv.Item}

theorem refused_timeoutOf : Refused (timeoutOf items) ↔ Argument.timeout.Faulty items := by
  have usual : Refused (timeoutOf items) ↔ Refused (Tlv.number? items Tag.timeout) := by
    unfold timeoutOf
    rw [refused_seq (P := False), or_false]
    intro given _
    cases given <;> exact iff_of_false (refused_pure _) id
  rw [usual, Tlv.refused_number?]
  constructor
  · rintro ⟨value, given, long⟩
    exact .long rfl given long
  · rintro (⟨required, -⟩ | ⟨-, given, long⟩ | ⟨number, -, unknown⟩)
    · cases required
    · exact ⟨_, given, long⟩
    · cases number
      exact absurd trivial unknown

theorem refused_addressOf : Refused (addressOf items) ↔ Argument.address.Faulty items := by
  refine refused_iff_of_number (a := .address) rfl rfl fun n => ?_
  split
  · next small => simpa using small
  · next large => simpa using large

theorem refused_lockKind (n : UInt32) : Refused (LockKind.ofNumber n) ↔ ¬ n.toNat ≤ 1 := by
  unfold LockKind.ofNumber
  split
  · next zero => simp [zero]
  · next some =>
    split
    · next one => simp [one]
    · next more =>
      have : n.toNat ≠ 0 := fun zero => some (UInt32.toNat_inj.mp zero)
      have : n.toNat ≠ 1 := fun one => more (UInt32.toNat_inj.mp one)
      exact iff_of_true (refused_error _) (by omega)

theorem refused_protocol (n : UInt32) :
    Refused (ProtocolId.ofNumber n) ↔ ¬ ∃ id : ProtocolId, id.number.toNat = n.toNat := by
  constructor
  · rintro refused ⟨id, same⟩
    rw [← UInt32.toNat_inj.mp same, ProtocolId.ofNumber_number] at refused
    exact refused_ok _ refused
  · intro unknown
    unfold ProtocolId.ofNumber
    split
    · next id found =>
      have same : id.number = n := by simpa using List.find?_some found
      exact absurd ⟨id, by rw [same]⟩ unknown
    · exact refused_error _

/-- About a slot, items make no order exactly if an argument is not given as it should be, or the
client may not talk to the card. -/
theorem refused_ofItems_slot {command : Command} (takesItems : command ≠ .transact) (slot : Nat) :
    Refused (ofItems command (some slot) access items) ↔
      (command.usesCard = true ∧ Refused (access slot)) ∨
        ∃ a ∈ command.arguments, a.Faulty items := by
  have on {x : Nat → Except Error Order} : (slotOf (some slot) >>= x) = x slot := rfl
  cases command
  all_goals
    simp only [ofItems, Command.usesCard, Command.arguments, on, refused_then, refused_bind_pure,
      refused_pure, refused_timeoutOf, not_message, List.mem_cons, List.not_mem_nil, or_false,
      exists_eq_left, exists_eq_or_imp, true_and, Bool.false_eq_true, false_and, false_or,
      exists_false]
  case lock =>
    refine refused_iff_of_number (a := .lockType) rfl rfl fun n => ?_
    exact refused_bind_pure.trans (refused_lockKind n)
  case unlock =>
    refine (refused_bind_pure (f := id)).symm.trans ?_
    refine refused_iff_of_number (a := .lock) rfl rfl fun n => ?_
    exact iff_of_false (refused_pure _) (· trivial)
  case output => exact refused_iff_of_value (a := .output) rfl rfl Option.map_eq_none_iff
  case performVerify =>
    refine or_congr_right ((refused_seq fun _ _ => ?_).trans (or_congr_left ?_))
    · exact refused_bind_pure.trans refused_timeoutOf
    · exact refused_iff_of_value (a := .pinData) rfl rfl Iff.rfl
  case transact => exact absurd rfl takesItems
  case setProtocol =>
    refine or_congr_right (refused_iff_of_number (a := .protocol) rfl rfl fun n => ?_)
    exact refused_bind_pure.trans (refused_protocol n)
  case memoryRead =>
    refine or_congr_right ((refused_seq fun _ _ => ?_).trans (or_congr_left refused_addressOf))
    refine refused_iff_of_number (a := .count) rfl rfl fun n => ?_
    split
    · next large =>
      exact iff_of_true (refused_then.mpr (.inl (refused_throw _))) (Nat.not_le_of_lt large)
    · next small => exact iff_of_false (refused_pure _) (· (Nat.le_of_not_lt small))
  case memoryWrite =>
    refine or_congr_right ((refused_seq fun _ _ => ?_).trans (or_congr_left refused_addressOf))
    exact refused_bind_pure.trans (refused_iff_of_value (a := .data) rfl rfl Iff.rfl)

/-- About the reader itself, they do so if the command needs a slot, or else for its arguments. -/
theorem refused_ofItems_reader {command : Command} (takesItems : command ≠ .transact) :
    Refused (ofItems command none access items) ↔
      command.needsSlot = true ∨ ∃ a ∈ command.arguments, a.Faulty items := by
  have nowhere {x : Nat → Except Error Order} : Refused (slotOf none >>= x) := refused_error _
  cases command
  case status => simp [ofItems, Command.needsSlot, Command.arguments]
  case output =>
    simp only [ofItems, Command.needsSlot, Command.arguments, List.mem_singleton, exists_eq_left,
      Bool.false_eq_true, false_or, refused_bind_pure]
    exact refused_iff_of_value (a := .output) rfl rfl Option.map_eq_none_iff
  case transact => exact absurd rfl takesItems
  all_goals exact iff_of_true nowhere (.inl rfl)

/-- A request makes no order exactly if something is wrong with it, or the client may not talk to
the card. -/
theorem refused_decode {request : Request} : Refused (decode slots access request) ↔
    request.Faulty slots ∨
      (request.command.usesCard = true ∧ Refused (access request.unit.toNat)) := by
  obtain ⟨command, unit, args⟩ := request
  have parsed := ok_or_refused (Tlv.parse .short args)
  rw [Request.faulty_iff]
  by_cases reader : unit = unitReader
  · have about {f : Option Nat → Except Error Order} : (unitOf slots unit >>= f) = f none := by
      rw [unitOf, if_pos reader]
      rfl
    simp only [decode, about]
    by_cases raw : command = .transact
    · rw [if_pos raw]
      exact iff_of_true (refused_error _) (.inl (.inr (.inl ⟨reader, by rw [raw]; rfl⟩)))
    · have needed : command.usesCard = true → command.needsSlot = true := by
        cases command <;> simp [Command.usesCard, Command.needsSlot]
      rw [if_neg raw, refused_bind]
      simp only [refused_ofItems_reader raw]
      grind
  · by_cases inside : unit.toNat < slots
    · have about {f : Option Nat → Except Error Order} :
          (unitOf slots unit >>= f) = f (some unit.toNat) := by
        rw [unitOf, if_neg reader, if_pos inside]
        rfl
      simp only [decode, about]
      by_cases raw : command = .transact
      · have card : Refused (access unit.toNat >>= fun _ => pure (Order.transact unit.toNat args)) ↔
            Refused (access unit.toNat) := refused_bind_pure
        rw [if_pos raw]
        refine card.trans ?_
        simp only [raw]
        grind [Command.usesCard]
      · rw [if_neg raw, refused_bind]
        simp only [refused_ofItems_slot raw]
        grind
    · have unknown : unitOf slots unit = .error .invalidSlot := by
        rw [unitOf, if_neg reader, if_neg inside]
      simp only [decode, unknown]
      exact iff_of_true (refused_error _) (.inl (.inl ⟨reader, Nat.le_of_not_lt inside⟩))

end Order

theorem Command.refused_ofCode {code : UInt8} :
    Refused (ofCode code) ↔ ∀ c : Command, c.code ≠ code := by
  rcases ok_or_refused (ofCode code) with ⟨c, known⟩ | unknown
  · rw [known]
    exact iff_of_false (refused_ok c) fun none => none c (code_of_ofCode known)
  · refine iff_of_true unknown ?_
    rintro c rfl
    rw [ofCode_code] at unknown
    exact refused_ok c unknown

theorem Payload.faulty_of_refused {slots : Nat} {payload : Bytes}
    (refused : Refused (Request.decode payload)) : Payload.Faulty slots payload := by
  match payload with
  | [] | [_] => exact .short (by simp)
  | code :: unit :: args =>
    exact .unknown (Command.refused_ofCode.mp (refused_bind_pure.mp refused))

/-- What is wrong with a payload that is a request is wrong with the request. -/
theorem Payload.faulty_encode {slots : Nat} {request : Request} :
    Payload.Faulty slots request.encode ↔ request.Faulty slots := by
  constructor
  · generalize encoded : request.encode = payload
    rintro (short | @⟨code, unit, args, unknown⟩ | faulty)
    · rw [← encoded] at short
      exact absurd short (Nat.not_lt_of_le (Nat.le_add_left 2 _))
    · injection encoded with same _
      exact absurd same (unknown request.command)
    · next other =>
      have same := Request.decode_encode request
      rw [encoded, Request.decode_encode] at same
      cases same
      exact faulty
  · exact .request

namespace Service

open CardTerminal.Action

variable {σ : Type}

/-- **An order is read out of a payload exactly if nothing is wrong with it**, and the client may
talk to the card that it is about. -/
theorem refused_orderOf {w : World σ} {peer : Peer} {payload : Bytes} :
    Refused (w.orderOf peer payload) ↔ Payload.Faulty w.service.reader.slots.length payload ∨
      ∃ request, Request.decode payload = .ok request ∧ request.command.usesCard = true ∧
        Refused (w.service.locks.checkAccess peer.id request.unit.toNat) := by
  unfold World.orderOf
  cases decoded : Request.decode payload with
  | ok request =>
    rw [← Request.encode_of_decode decoded, Payload.faulty_encode]
    simp only [Except.ok.injEq, exists_eq_left']
    exact Order.refused_decode
  | error e => exact iff_of_true (refused_error e) (.inl (Payload.faulty_of_refused ⟨e, decoded⟩))

/-- What is refused is refused by all drivers alike, and changes nothing but what is published. -/
theorem process_of_refused_order {w : World σ} {peer : Peer} {payload : Bytes}
    (refused : Refused (w.orderOf peer payload)) :
    ∃ e after, (∀ any : Driver σ, process any peer payload w = .error e after) ∧
      after.reader = w.reader ∧ after.locks = w.locks := by
  obtain ⟨e, refused⟩ := refused
  cases decoded : Request.decode payload with
  | ok request =>
    exact ⟨e, publish w, fun any => process_of_refused any decoded refused, publish_side w,
      publish_locks w⟩
  | error e' =>
    have step (any : Driver σ) : process any peer payload w = .error e' w :=
      bind_of_error (by simp only [require, decoded])
    exact ⟨e', w, step, rfl, rfl⟩

/-- **Faulty requests are refused before anything is done for them**, and no others are but for the
locks of other clients. Whatever a service has been through and whoever asks, a payload that is no
request, names a unit that its command cannot be about, or gives its command arguments that are
malformed, missing, too long or not among those to choose from is refused. The failure is the same
for all drivers and leaves the device, the reader with its slots and the locks as they were, so no
hook of the driver is called, not even the one before a command. -/
theorem faulty_refused (w : World σ) (peer : Peer) (payload : Bytes) :
    (Payload.Faulty w.service.reader.slots.length payload →
      ∃ e after, (∀ any : Driver σ, process any peer payload w = .error e after) ∧
        after.device = w.device ∧ after.service.reader = w.service.reader ∧
        after.service.locks = w.service.locks) ∧
    (¬ Payload.Faulty w.service.reader.slots.length payload →
      (∀ request, Request.decode payload = .ok request → request.command.usesCard = true →
        w.service.locks.checkAccess peer.id request.unit.toNat = .ok ()) →
      ∃ order, w.orderOf peer payload = .ok order) := by
  constructor
  · intro faulty
    obtain ⟨e, after, failed, reader, locks⟩ :=
      process_of_refused_order (refused_orderOf.mpr (.inl faulty))
    obtain ⟨reader, device⟩ := Prod.mk.inj reader
    exact ⟨e, after, failed, device, reader, locks⟩
  · intro sound allowed
    rcases ok_or_refused (w.orderOf peer payload) with read | refused
    · exact read
    · rcases refused_orderOf.mp refused with faulty | ⟨request, decoded, usesCard, denied⟩
      · exact absurd faulty sound
      · rw [allowed request decoded usesCard] at denied
        exact absurd denied (refused_ok ())

/-- Nobody gets a lock of a third kind, and no locks change, on a reader whose first slot is
taken. -/
theorem faulty_refused_kind :
    let held : Lock := ⟨0, 1000, 1, .exclusive, 1⟩
    let w : World Unit := ⟨⟨⟨"Minimal reader", .displayAndKeypad, [.unknown 0x00, .unknown 0x32],
      none⟩, ⟨[held], some 2⟩, none, []⟩, [], fun _ => .ok (), ()⟩
    ∃ e after, (∀ any : Driver Unit,
      process any ⟨1, 1000⟩ [0x01, 0x00, 0x82, 0x01, 0x02] w = .error e after) ∧
      after.device = w.device ∧ after.service.reader = w.service.reader ∧
      after.service.locks = w.service.locks := by
  intro held w
  have kind : Argument.lockType.Faulty [⟨Tag.lockType, [0x02]⟩] :=
    .unknown rfl (show Tlv.value? _ _ = some [0x02] from rfl) (by decide)
  have fits : ∀ item ∈ [(⟨Tag.lockType, [0x02]⟩ : Tlv.Item)], item.Fits .short := by
    intro item mem
    cases List.mem_singleton.mp mem
    decide
  have faulty : Request.Faulty 2 ⟨.lock, 0x00, [0x82, 0x01, 0x02]⟩ :=
    .argument fits List.mem_cons_self kind
  exact (faulty_refused w ⟨1, 1000⟩ _).1 (.request faulty)

end Service

end CardTerminal
