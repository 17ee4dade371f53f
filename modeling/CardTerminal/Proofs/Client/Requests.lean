import CardTerminal.Client.Call
import CardTerminal.Proofs.Service.Order
import CardTerminal.Proofs.Tlv.Items

/-!
What a service makes of the requests of a client.

A client writes down what it is asked for as a command, a unit and items, and the service reads an
order out of that. What the order should be is said without any bytes (`Call.order`): the same slot,
lock, protocol, address, count and bytes, a time in whole seconds or the usual one, and as much of a
message as there is room for. The two sides agree on it for every call that can be written down
(`decode_of_request`).
-/

namespace CardTerminal

namespace Tlv

variable {items more : List Item} {tag : UInt8}

/-! ## Looking up in the items of a request -/

theorem value?_append_of_absent (absent : ∀ item ∈ more, item.tag ≠ tag) :
    value? (items ++ more) tag = value? items tag := by
  have none : more.reverse.find? (fun item => item.tag = tag) = none := by
    refine List.find?_eq_none.mpr fun item mem => ?_
    simpa using absent item (List.mem_reverse.mp mem)
  rw [value?, List.reverse_append, List.find?_append, none]
  rfl

theorem value?_concat (items : List Item) (tag : UInt8) (value : Bytes) :
    value? (items ++ [⟨tag, value⟩]) tag = some value :=
  value?_eq_some_iff.mpr ⟨items, [], rfl, fun _ mem => absurd mem List.not_mem_nil⟩

theorem value?_single (tag : UInt8) (value : Bytes) : value? [⟨tag, value⟩] tag = some value :=
  value?_concat [] tag value

theorem number?_single (tag : UInt8) (n : UInt32) :
    number? [.ofNumber tag n] tag = .ok (some n) :=
  number?_of_value (value?_single tag _)

theorem number?_append_of_absent (absent : ∀ item ∈ more, item.tag ≠ tag) :
    number? (items ++ more) tag = number? items tag := by
  rw [number?, number?, value?_append_of_absent absent]

theorem requiredNumber_of_number {n : UInt32} (found : number? items tag = .ok (some n)) :
    requiredNumber items tag = .ok n := by
  rw [requiredNumber, found]
  rfl

end Tlv

namespace Client.Call

/-! ## What a call asks for -/

/-- A text up to its first NUL, and so many bytes of it at most. -/
def clipped (limit : Nat) (text : String) : String :=
  Utf8.decodeLossy (((Utf8.encode text).takeWhile (· ≠ 0)).take limit)

/-- How long users are given: whole seconds, or half a minute. -/
def patience : Option Nat → Nat
  | none => 30000
  | some timeout => timeout / 1000 * 1000

/-- The slot that a unit names on a reader with so many slots. -/
def slotIn (slots : Nat) (unit : UInt8) : Except Error Nat :=
  if unit ≠ unitReader ∧ unit.toNat < slots then .ok unit.toNat else .error .invalidSlot

/-- A slot whose card the client may talk to. -/
def cardIn (slots : Nat) (access : Nat → Except Error Unit) (unit : UInt8) : Except Error Nat := do
  let slot ← slotIn slots unit
  access slot
  return slot

/-- The order that a call gives to the service of a reader with so many slots. `access` says whether
the client may talk to the card in a slot. -/
def order (slots : Nat) (access : Nat → Except Error Unit) : Call → Except Error Order
  | .describe => .ok .describe
  | .cardStatus unit =>
    -- One unit is not a slot but the reader itself.
    if unit = unitReader then .ok .describe else do return .cardStatus (← slotIn slots unit)
  | .lock unit kind => do return .lock (← slotIn slots unit) kind
  | .unlock unit handle => do return .unlock (← slotIn slots unit) handle
  | .reset unit => do return .reset (← cardIn slots access unit)
  | .request unit timeout message => do
    return .request (← cardIn slots access unit) (patience timeout) (message.map (clipped 127))
  | .eject unit timeout message => do
    return .eject (← cardIn slots access unit) (patience timeout) (message.map (clipped 127))
  | .output message => .ok (.output (clipped 127 message))
  | .performVerify unit timeout message command => do
    let slot ← cardIn slots access unit
    return .performVerify slot (patience timeout) (message.map (clipped 127)) command
  | .transact unit command => do return .transact (← cardIn slots access unit) command
  | .setProtocol unit protocol => do
    return .setProtocol (← cardIn slots access unit) (← ProtocolId.ofNumber protocol)
  | .readMemory unit address count => do
    let slot ← cardIn slots access unit
    if count ≤ 254 then return .readMemory slot address.toNat count else throw .invalidArg
  | .writeMemory unit address bytes => do
    return .writeMemory (← cardIn slots access unit) address.toNat bytes

/-! ## Times and messages -/

variable {timeout : Option Nat} {message : Option String} {items : List Tlv.Item}

theorem toNat_of_checked {n : Nat} {word : UInt32} (fits : checked n = .ok word) :
    word.toNat = n := by
  unfold checked at fits
  split at fits
  · next small =>
    cases fits
    rw [UInt32.toNat_ofNat']
    exact Nat.mod_eq_of_lt small
  · cases fits

theorem tag_of_timeoutItem (written : timeoutItem timeout = .ok items) :
    ∀ item ∈ items, item.tag = Tag.timeout := by
  cases timeout with
  | none =>
    cases written
    exact fun _ mem => absurd mem List.not_mem_nil
  | some timeout =>
    obtain ⟨word, -, written⟩ := except_bind_eq_ok.mp written
    cases written
    intro item mem
    cases List.mem_singleton.mp mem
    rfl

theorem tag_of_messageItem : ∀ item ∈ messageItem message, item.tag = Tag.message := by
  intro item mem
  obtain ⟨text, -, rfl⟩ := List.mem_map.mp mem
  rfl

theorem timeoutOf_prompt (written : timeoutItem timeout = .ok items) (message : Option String)
    (more : List Tlv.Item) (others : ∀ item ∈ more, item.tag ≠ Tag.timeout) :
    Order.timeoutOf (items ++ messageItem message ++ more) = .ok (patience timeout) := by
  -- The last item with a tag counts, so what comes after the time must have other tags.
  have others' : ∀ item ∈ messageItem message ++ more, item.tag ≠ Tag.timeout := by
    intro item mem
    rcases List.mem_append.mp mem with mem | mem
    · rw [tag_of_messageItem item mem]
      decide
    · exact others item mem
  rw [Order.timeoutOf, List.append_assoc, Tlv.number?_append_of_absent others']
  cases timeout with
  | none =>
    cases written
    rfl
  | some timeout =>
    obtain ⟨word, fits, written⟩ := except_bind_eq_ok.mp written
    cases written
    rw [Tlv.number?_single, patience, ← toNat_of_checked fits]
    rfl

theorem messageOf_prompt (written : timeoutItem timeout = .ok items) (message : Option String)
    (more : List Tlv.Item) (others : ∀ item ∈ more, item.tag ≠ Tag.message) :
    Order.messageOf (items ++ messageItem message ++ more) = message.map (clipped 127) := by
  rw [Order.messageOf, Tlv.text?, Tlv.value?_append_of_absent others]
  cases message with
  | none =>
    have absent : ∀ item ∈ items, item.tag ≠ Tag.message := by
      intro item mem
      rw [tag_of_timeoutItem written item mem]
      decide
    have empty : items ++ messageItem none = [] ++ items := (List.append_nil items)
    rw [empty, Tlv.value?_append_of_absent absent]
    rfl
  | some message =>
    rw [show items ++ messageItem (some message) = items ++ [⟨Tag.message, Utf8.encode message⟩]
      from rfl, Tlv.value?_concat]
    rfl

theorem prompt_alone (written : timeoutItem timeout = .ok items) (message : Option String) :
    Order.timeoutOf (items ++ messageItem message) = .ok (patience timeout) ∧
      Order.messageOf (items ++ messageItem message) = message.map (clipped 127) := by
  have time := timeoutOf_prompt written message [] (fun _ mem => absurd mem List.not_mem_nil)
  have text := messageOf_prompt written message [] (fun _ mem => absurd mem List.not_mem_nil)
  rw [List.append_nil] at time text
  exact ⟨time, text⟩

theorem addressOf_known {address : UInt16}
    (found : Tlv.number? items Tag.address = .ok (some address.toUInt32)) :
    Order.addressOf items = .ok address.toNat := by
  have small : address.toUInt32.toNat < 65536 := by
    rw [UInt16.toNat_toUInt32]
    exact address.toNat_lt
  rw [Order.addressOf, Tlv.requiredNumber_of_number found]
  show (if address.toUInt32.toNat < 65536 then _ else _) = _
  rw [if_pos small, UInt16.toNat_toUInt32]
  rfl

/-! ## Reading requests -/

variable {slots : Nat} {access : Nat → Except Error Unit} {unit : UInt8} {request : Request}

theorem slotOf_unit {α : Type} (slots : Nat) (unit : UInt8) (f : Nat → Except Error α) :
    (Order.unitOf slots unit >>= fun u => Order.slotOf u >>= f) = slotIn slots unit >>= f := by
  unfold Order.unitOf slotIn
  by_cases reader : unit = unitReader
  · rw [if_pos reader, if_neg (fun here => here.1 reader)]
    rfl
  · rw [if_neg reader]
    by_cases there : unit.toNat < slots
    · rw [if_pos there, if_pos ⟨reader, there⟩]
      rfl
    · rw [if_neg there, if_neg (fun here => there here.2)]
      rfl

theorem cardOf_unit {α : Type} (slots : Nat) (access : Nat → Except Error Unit) (unit : UInt8)
    (f : Nat → Except Error α) :
    (Order.unitOf slots unit >>= fun u => Order.slotOf u >>= fun slot => access slot >>= fun _ =>
      f slot) = cardIn slots access unit >>= f := by
  rw [slotOf_unit, cardIn]
  cases slotIn slots unit with
  | error e => rfl
  | ok slot =>
    show (access slot >>= fun _ => f slot) = (access slot >>= fun _ => pure slot) >>= f
    cases access slot <;> rfl

theorem decode_itemRequest (command : Command) (items : List Tlv.Item)
    (notRaw : command ≠ .transact) (written : itemRequest command unit items = .ok request) :
    Order.decode slots access request =
      Order.unitOf slots unit >>= fun u => Order.ofItems command u access items := by
  obtain ⟨args, encoded, made⟩ := except_bind_eq_ok.mp written
  cases made
  simp only [Order.decode, if_neg notRaw, Tlv.parse_of_write encoded]
  rfl

/-- **The service reads a request as the client means it.** -/
theorem decode_of_request {call : Call} (asked : call.request? = .ok request) :
    Order.decode slots access request = call.order slots access := by
  -- One case per call: the slot and the access to it first, then the items the order needs.
  cases call with
  | describe =>
    rw [decode_itemRequest .status [] (by decide) asked]
    rfl
  | cardStatus unit =>
    rw [decode_itemRequest .status [] (by decide) asked, order]
    by_cases reader : unit = unitReader
    · rw [if_pos reader, reader]
      rfl
    · rw [if_neg reader, ← slotOf_unit]
      unfold Order.unitOf
      rw [if_neg reader]
      split <;> rfl
  | lock unit kind =>
    rw [decode_itemRequest _ _ (by decide) asked]
    have known : Tlv.requiredNumber [.ofNumber Tag.lockType kind.number] Tag.lockType =
        .ok kind.number := Tlv.requiredNumber_of_number (Tlv.number?_single _ _)
    refine (slotOf_unit slots unit _).trans ?_
    rw [known]
    cases kind <;> rfl
  | unlock unit handle =>
    rw [decode_itemRequest _ _ (by decide) asked]
    have known : Tlv.requiredNumber [.ofNumber Tag.lock handle] Tag.lock = .ok handle :=
      Tlv.requiredNumber_of_number (Tlv.number?_single _ _)
    refine (slotOf_unit slots unit _).trans ?_
    rw [known]
    rfl
  | reset unit =>
    rw [decode_itemRequest .reset [] (by decide) asked]
    exact cardOf_unit slots access unit _
  | request unit timeout message =>
    obtain ⟨items, timed, asked⟩ := except_bind_eq_ok.mp asked
    obtain ⟨time, text⟩ := prompt_alone timed message
    rw [decode_itemRequest _ _ (by decide) asked]
    refine (cardOf_unit slots access unit _).trans ?_
    rw [time, text]
    rfl
  | eject unit timeout message =>
    obtain ⟨items, timed, asked⟩ := except_bind_eq_ok.mp asked
    obtain ⟨time, text⟩ := prompt_alone timed message
    rw [decode_itemRequest _ _ (by decide) asked]
    refine (cardOf_unit slots access unit _).trans ?_
    rw [time, text]
    rfl
  | output message =>
    obtain ⟨-, text⟩ := prompt_alone (show timeoutItem none = .ok [] from rfl) (some message)
    rw [decode_itemRequest _ _ (by decide) asked]
    refine Eq.trans (b := Order.required (Order.messageOf (messageItem (some message))) >>=
      fun text => .ok (Order.output text)) rfl ?_
    rw [List.nil_append] at text
    rw [text]
    rfl
  | performVerify unit timeout message command =>
    obtain ⟨items, timed, asked⟩ := except_bind_eq_ok.mp asked
    have time := timeoutOf_prompt timed message [⟨Tag.pinData, command⟩] (by simp; decide)
    have text := messageOf_prompt timed message [⟨Tag.pinData, command⟩] (by simp; decide)
    have pin := Tlv.value?_concat (items ++ messageItem message) Tag.pinData command
    rw [decode_itemRequest _ _ (by decide) asked]
    refine (cardOf_unit slots access unit _).trans ?_
    rw [time, text, pin]
    rfl
  | transact unit command =>
    cases asked
    exact cardOf_unit slots access unit _
  | setProtocol unit protocol =>
    rw [decode_itemRequest _ _ (by decide) asked]
    have known : Tlv.requiredNumber [.ofNumber Tag.protocol protocol] Tag.protocol =
        .ok protocol := Tlv.requiredNumber_of_number (Tlv.number?_single _ _)
    refine (cardOf_unit slots access unit _).trans ?_
    rw [known]
    rfl
  | readMemory unit address count =>
    obtain ⟨word, fits, asked⟩ := except_bind_eq_ok.mp asked
    have address' : Order.addressOf [.ofNumber Tag.address address.toUInt32,
        .ofNumber Tag.count word] = .ok address.toNat :=
      addressOf_known (Tlv.number?_of_value rfl)
    have count' : Tlv.requiredNumber [.ofNumber Tag.address address.toUInt32,
        .ofNumber Tag.count word] Tag.count = .ok word :=
      Tlv.requiredNumber_of_number (Tlv.number?_of_value rfl)
    rw [decode_itemRequest _ _ (by decide) asked]
    refine (cardOf_unit slots access unit _).trans ?_
    rw [address', count', order, ← toNat_of_checked fits]
    congr 1
    funext slot
    by_cases much : 254 < word.toNat
    · rw [if_neg (Nat.not_le_of_lt much)]
      exact if_pos much
    · rw [if_pos (Nat.le_of_not_lt much)]
      exact if_neg much
  | writeMemory unit address bytes =>
    have address' : Order.addressOf [.ofNumber Tag.address address.toUInt32,
        ⟨Tag.data, bytes⟩] = .ok address.toNat := addressOf_known (Tlv.number?_of_value rfl)
    rw [decode_itemRequest _ _ (by decide) asked]
    refine (cardOf_unit slots access unit _).trans ?_
    rw [address']
    rfl

end Client.Call

end CardTerminal
