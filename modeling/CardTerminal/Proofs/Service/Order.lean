import CardTerminal.Service.Order

/-!
How requests are read.

An order is read step by step, and any step may refuse the request. What is known of an order that
was read follows from its last steps: it is given by the command of the request
(`command_of_ofItems`), about the unit (`slot_of_unit`).
-/

namespace CardTerminal

variable {α β : Type}

theorem except_bind_eq_ok {x : Except Error α} {f : α → Except Error β} {v : β} :
    (x >>= f) = .ok v ↔ ∃ u, x = .ok u ∧ f u = .ok v := by
  cases x <;> simp [bind, Except.bind]

/-- The commands that use the card in a slot. -/
def Command.usesCard : Command → Bool
  | .reset | .requestIcc | .ejectIcc | .performVerify | .transact | .setProtocol | .memoryRead
  | .memoryWrite => true
  | .status | .lock | .unlock | .output => false

/-- A request to give up the lock with this handle on a slot. -/
def Request.Unlocks (request : Request) (slot : Nat) (handle : UInt32) : Prop :=
  request.command = .unlock ∧ request.unit.toNat = slot ∧
    ∃ items, Tlv.parse .short request.args = .ok items ∧
      Tlv.requiredNumber items Tag.lock = .ok handle

namespace Order

theorem slot_of_unit {slots : Nat} {unit : UInt8} {u : Option Nat} {slot : Nat}
    (hu : unitOf slots unit = .ok u) (hs : slotOf u = .ok slot) : unit.toNat = slot := by
  unfold unitOf at hu
  split at hu
  · cases hu
    cases hs
  · split at hu
    · cases hu
      cases hs
      rfl
    · cases hu

/-- The command that an order is given by. -/
def command : Order → Command
  | .describe | .cardStatus _ => .status
  | .lock .. => .lock
  | .unlock .. => .unlock
  | .reset _ => .reset
  | .request .. => .requestIcc
  | .eject .. => .ejectIcc
  | .output _ => .output
  | .performVerify .. => .performVerify
  | .transact .. => .transact
  | .setProtocol .. => .setProtocol
  | .readMemory .. => .memoryRead
  | .writeMemory .. => .memoryWrite

theorem command_of_ofItems {c : Command} {unit : Option Nat} {access : Nat → Except Error Unit}
    {items : List Tlv.Item} {order : Order} (h : ofItems c unit access items = .ok order) :
    order.command = c := by
  cases c with
  | status => cases unit <;> cases h <;> rfl
  | _ =>
    simp only [ofItems, except_bind_eq_ok, pure, Except.pure, throw, throwThe,
      MonadExceptOf.throw] at h
    grind [Order.command, except_bind_eq_ok]

/-- An order to unlock is given by a request that names the slot and the handle. -/
theorem unlocks_of_decode {slots : Nat} {access : Nat → Except Error Unit} {request : Request}
    {slot : Nat} {handle : UInt32} (h : decode slots access request = .ok (.unlock slot handle)) :
    request.Unlocks slot handle := by
  simp only [decode, except_bind_eq_ok] at h
  obtain ⟨u, hu, h⟩ := h
  split at h
  · simp only [except_bind_eq_ok, pure, Except.pure] at h
    obtain ⟨_, -, _, -, h⟩ := h
    cases h
  · rw [except_bind_eq_ok] at h
    obtain ⟨items, hi, h⟩ := h
    have command : Command.unlock = request.command := command_of_ofItems h
    simp only [← command, ofItems, except_bind_eq_ok, pure, Except.pure] at h
    obtain ⟨s, hs, n, hn, h⟩ := h
    cases h
    exact ⟨command.symm, slot_of_unit hu hs, items, hi, hn⟩

end Order

end CardTerminal
