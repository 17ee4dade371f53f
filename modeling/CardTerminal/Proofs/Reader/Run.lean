import CardTerminal.Proofs.Reader.Parts

/-!
Everything that can be done with a reader, and what it does to one slot.

An operation looks slots up, works with the device and changes slots. A slot is changed in four ways
only: a report is observed, what is known of the card is forgotten, a card that was reset is put in,
and a handle is put in. Each of these belongs to some of the operations, so whatever way for a
reader to change they are part of is the way of the operations (`perform_along`). Seen from one
slot, a relation between the slot before and after is kept by the operations if it is by what
belongs to them (`perform_moves`), and an operation to which none of it belongs leaves the slot as
it is (`perform_elsewhere`). The name of a reader, its flags and the number of its slots are left
alone by all of them (`perform_outline`).
-/

namespace CardTerminal

open CardTerminal.Action

/-- The slot with a card in it that was just reset. -/
def Slot.insert (atr : Atr) (slot : Slot) : Slot :=
  { slot with status := { slot.status with present := true }, atr := atr }

def Slot.hold (handle : Handle) (slot : Slot) : Slot :=
  { slot with handle := some handle }

namespace Reader

variable {σ α : Type}

/-- Something done with a reader. -/
inductive Operation where
  | cardStatus (n : Nat)
  | cardReset (n : Nat)
  | cardRequest (n timeout : Nat) (message : Option String)
  | cardEject (n timeout : Nat) (message : Option String)
  | output (message : String)
  | performVerify (n timeout : Nat) (message : Option String) (command : Bytes)
  | setProtocol (n : Nat) (protocol : ProtocolId)
  | transceive (n : Nat) (command : Bytes)
  | readMemory (n address length : Nat)
  | writeMemory (n address : Nat) (bytes : Bytes)
  | poll
  | handleEvent
  | handleHangUp
  | close
  deriving DecidableEq, Repr

/-- Something that is over when it returns, and whose value is not used. -/
def finished (x : Op σ α) : Op σ (Option Unit) := do
  let _ ← x
  return some ()

/-- Do something with a reader. Only an exchange may not be over. -/
def perform (driver : Driver σ) : Operation → Op σ (Option Unit)
  | .cardStatus n => finished (cardStatus driver n)
  | .cardReset n => finished (cardReset driver n)
  | .cardRequest n timeout message => finished (cardRequest driver n timeout message)
  | .cardEject n timeout message => finished (cardEject driver n timeout message)
  | .output message => finished (output driver message)
  | .performVerify n timeout message command =>
    finished (performVerify driver n timeout message command)
  | .setProtocol n protocol => finished (setProtocol driver n protocol)
  | .transceive n command => do
    let answer ← transceive driver n command
    return answer.map fun _ => ()
  | .readMemory n address length => finished (readMemory driver n address length)
  | .writeMemory n address bytes => finished (writeMemory driver n address bytes)
  | .poll => finished (poll driver)
  | .handleEvent => finished (handleEvent driver)
  | .handleHangUp => finished (handleHangUp driver)
  | .close => finished (close driver)

/-- Operations lead from one state of a reader and its device to another, each of them allowed where
it is done. An operation that fails may be one of them. -/
inductive Leads (driver : Driver σ) (allowed : Reader × σ → Operation → Prop) (w : Reader × σ) :
    Reader × σ → Prop where
  | stay : Leads driver allowed w w
  | step {w' : Reader × σ} {op : Operation} (leads : Leads driver allowed w w')
      (fine : allowed w' op) : Leads driver allowed w (after (perform driver op) w')

theorem Leads.keeps {driver : Driver σ} {allowed : Reader × σ → Operation → Prop}
    {w w' : Reader × σ} (leads : Leads driver allowed w w') {P : Reader × σ → Prop} (start : P w)
    (step : ∀ u op, P u → allowed u op → P (after (perform driver op) u)) : P w' := by
  induction leads with
  | stay => exact start
  | step _ fine ih => exact step _ _ ih fine

/-! ## Ways for a reader to change -/

/-- A way for a reader and its device to change, which whatever the device does by itself is part
of. -/
structure Way (Q : Reader × σ → Reader × σ → Prop) : Prop extends Path Q where
  device : ∀ r s s', Q (r, s) (r, s')

/-- To change slot `m` like this is part of the way. -/
def Changes (Q : Reader × σ → Reader × σ → Prop) (m : Nat) (f : Slot → Slot) : Prop :=
  ∀ r s, Q (r, s) (r.modifySlot m f, s)

variable {driver : Driver σ} {m n : Nat} {Q : Reader × σ → Reader × σ → Prop}

/-! ## Parts of operations -/

theorem onDevice_along (way : Way Q) (action : Action σ α) : Moves Q (onDevice action) := by
  rintro ⟨r, s⟩
  rw [after_onDevice]
  exact way.device r s _

theorem slot_along (way : Way Q) (m : Nat) : Moves Q (Reader.slot m : Op σ Slot) := by
  rintro ⟨r, s⟩
  cases found : r.slots[m]? with
  | some slot =>
    rw [after_of_ok (slot_ok found s)]
    exact way.refl _
  | none =>
    rw [after_of_error (slot_error found s)]
    exact way.refl _

theorem update_along {f : Slot → Slot} (changes : Changes Q m f) :
    Moves Q (update m f : Op σ Unit) :=
  fun w => changes w.1 w.2

theorem guarded_along (way : Way Q) {command : Op σ α} (moves : Moves Q command) :
    Moves Q (guarded driver command) := by
  intro w
  cases began : onDevice driver.beforeCommand w with
  | ok u w' =>
    rw [after_guarded began]
    refine way.trans ((onDevice_along way driver.beforeCommand).ok began) ?_
    exact way.trans (moves w') (onDevice_along way driver.afterCommand _)
  | error e w' =>
    rw [after_of_error (guarded_of_error began)]
    exact (onDevice_along way driver.beforeCommand).error began

theorem awaited_along (way : Way Q) {command : Op σ (Option α)} (moves : Moves Q command) :
    Moves Q (awaited driver command) := by
  intro w
  rcases after_awaited driver command w with ⟨w', began, same⟩ | same
  · rw [same]
    exact way.trans ((onDevice_along way driver.beforeCommand).ok began) (moves w')
  · rw [same]
    exact guarded_along way moves w

theorem select_along (way : Way Q) (hold : ∀ handle, Changes Q m (Slot.hold handle))
    (protocol : ProtocolId) (info : Option Atr.Info) (maySwitch : Bool) :
    Moves Q (select driver m protocol info maySwitch) := by
  have path := way.toPath
  refine Moves.bind path (slot_along way m) fun slot => ?_
  refine Moves.bind path (onDevice_along way _) fun engine => ?_
  refine Moves.bind path (fun w => path.refl w) fun w => ?_
  refine Moves.bind path (onDevice_along way _) fun engine => ?_
  refine Moves.bind path (update_along (hold _)) fun _ => ?_
  exact Moves.pure path _

theorem adopt_along (way : Way Q) (insert : ∀ atr, Changes Q m (Slot.insert atr))
    (hold : ∀ handle, Changes Q m (Slot.hold handle)) (atr : Atr) :
    Moves Q (adopt driver m atr) := by
  have path := way.toPath
  refine Moves.bind path (update_along (insert atr)) fun _ => ?_
  split
  · exact Moves.pure path _
  · split
    · exact Moves.throw path _
    · exact Moves.bind path (select_along way hold _ _ _) fun _ => Moves.pure path _

/-! ## Operations -/

theorem lookup_along (way : Way Q) {command : Slot → Op σ α}
    (moves : ∀ slot, Moves Q (command slot)) : Moves Q (Reader.slot m >>= command) :=
  Moves.bind way.toPath (slot_along way m) moves

/-- What a reset or a request for a card does after looking the slot up. -/
theorem reset_along (way : Way Q) (forget : Changes Q m Slot.forget)
    (insert : ∀ atr, Changes Q m (Slot.insert atr))
    (hold : ∀ handle, Changes Q m (Slot.hold handle)) (hook : Action σ Atr) :
    Moves Q (guarded driver (do
      update m Slot.forget
      adopt driver m (← onDevice hook))) := by
  have path := way.toPath
  refine guarded_along way (Moves.bind path (update_along forget) fun _ => ?_)
  exact Moves.bind path (onDevice_along way hook) fun atr => adopt_along way insert hold atr

theorem setProtocol_along (way : Way Q) (hold : ∀ handle, Changes Q m (Slot.hold handle))
    (protocol : ProtocolId) : Moves Q (setProtocol driver m protocol) := by
  have path := way.toPath
  refine lookup_along way fun _ => guarded_along way (lookup_along way fun slot => ?_)
  split
  · exact select_along way hold _ _ _
  · split
    · exact Moves.throw path _
    · exact select_along way hold _ _ _

theorem exchange_along (way : Way Q) (hold : ∀ handle, Changes Q m (Slot.hold handle))
    (command : Bytes) (handle : Handle) : Moves Q (exchange driver m command handle) := by
  rintro ⟨r, s⟩
  rw [after_exchange]
  exact way.trans (hold _ r s) (way.device _ _ _)

theorem transceive_along (way : Way Q) (hold : ∀ handle, Changes Q m (Slot.hold handle))
    (command : Bytes) : Moves Q (transceive driver m command) := by
  refine lookup_along way fun slot => ?_
  cases slot.status.present with
  | false => exact fun w => way.refl w
  | true =>
    cases slot.handle with
    | none => exact Moves.throw way.toPath _
    | some handle => exact awaited_along way (exchange_along way hold command handle)

theorem memoryKind_along (way : Way Q) (m : Nat) :
    Moves Q (memoryKind m : Op σ MemoryKind) := by
  refine lookup_along way fun slot => ?_
  split
  · exact Moves.pure way.toPath _
  · exact Moves.throw way.toPath _
  · exact Moves.throw way.toPath _

theorem cardStatus_along (way : Way Q)
    (observe : ∀ reported, Changes Q m fun slot => slot.observe reported) :
    Moves Q (cardStatus driver m) := by
  have path := way.toPath
  refine lookup_along way fun _ => guarded_along way ?_
  refine Moves.bind path (onDevice_along way _) fun reported => ?_
  refine Moves.bind path (update_along (observe reported)) fun _ => ?_
  exact lookup_along way fun _ => Moves.pure path _

theorem cardEject_along (way : Way Q) (forget : Changes Q m Slot.forget) (timeout : Nat)
    (message : Option String) : Moves Q (cardEject driver m timeout message) := by
  refine lookup_along way fun _ => guarded_along way ?_
  exact Moves.bind way.toPath (onDevice_along way _) fun _ => update_along forget

theorem pollSlots_along (way : Way Q)
    (observe : ∀ m reported, Changes Q m fun slot => slot.observe reported) (numbers : List Nat) :
    Moves Q (pollSlots driver numbers) := by
  induction numbers with
  | nil => exact fun w => way.refl w
  | cons m rest ih =>
    intro w
    have first : Moves Q (cardStatus driver m) := cardStatus_along way (observe m)
    simp only [after, pollSlots]
    split
    · next asked => exact first.error asked
    · next w' _ asked => exact way.trans (first.error asked) (ih w')
    · next status w' asked =>
      refine way.trans (first.ok asked) ?_
      split
      · next polled => exact ih.ok polled
      · next polled => exact ih.error polled

theorem poll_along (way : Way Q)
    (observe : ∀ m reported, Changes Q m fun slot => slot.observe reported) :
    Moves Q (poll driver) := by
  rintro ⟨r, s⟩
  simp only [after, poll]
  split
  · exact way.device ..
  · exact way.trans (way.device ..) (pollSlots_along way observe _ _)

/-- A report about a slot is observed, and a slot without report is left alone. -/
theorem getElem?_observeAll (slots : List Slot) (reports : List CardStatus) (n : Nat) :
    (observeAll slots reports)[n]? =
      slots[n]?.map fun slot => (reports[n]?.map slot.observe).getD slot := by
  induction slots generalizing reports n with
  | nil => cases reports <;> rfl
  | cons slot slots ih =>
    cases reports with
    | nil => cases h : (slot :: slots)[n]? <;> simp [observeAll, h]
    | cons reported reports =>
      cases n with
      | zero => rfl
      | succ n => exact ih reports n

theorem handleEvent_eq (r : Reader) (s : σ) :
    handleEvent driver (r, s) =
      match driver.event r.statuses s with
      | .ok reports s' =>
        let slots := observeAll r.slots reports
        .ok (slots.any (·.status.changed)) ({ r with slots }, s')
      | .error e s' => .error e (r, s') := by
  simp only [handleEvent, get_bind]
  cases reported : driver.event r.statuses s with
  | ok reports s' =>
    rw [bind_of_ok (onDevice_ok reported)]
    rfl
  | error e s' => rw [bind_of_error (onDevice_error reported)]

theorem handleEvent_along (way : Way Q)
    (events : ∀ r s reports, Q (r, s) ({ r with slots := observeAll r.slots reports }, s)) :
    Moves Q (handleEvent driver) := by
  rintro ⟨r, s⟩
  simp only [after, handleEvent_eq]
  cases driver.event r.statuses s with
  | error e s' => exact way.device ..
  | ok reports s' => exact way.trans (events r s reports) (way.device ..)

theorem close_along (way : Way Q)
    (forget : ∀ r s, Q (r, s) ({ r with slots := r.slots.map Slot.forget }, s)) :
    Moves Q (close driver) :=
  fun w => way.trans (forget w.1 w.2) (onDevice_along way driver.close _)

/-! ## What operations do -/

namespace Operation

/-- The operation observes a report about slot `n`. -/
def Reports (n : Nat) : Operation → Prop
  | .cardStatus m => m = n
  | .poll | .handleEvent => True
  | _ => False

/-- The operation forgets the card in slot `n`. -/
def Forgets (n : Nat) : Operation → Prop
  | .cardReset m | .cardRequest m _ _ | .cardEject m _ _ => m = n
  | .close => True
  | _ => False

/-- The operation resets the card in slot `n`. -/
def Resets (n : Nat) : Operation → Prop
  | .cardReset m | .cardRequest m _ _ => m = n
  | _ => False

/-- The operation gives slot `n` a fresh engine, if it is carried out. -/
def Renews (n : Nat) : Operation → Prop
  | .cardReset m | .cardRequest m _ _ | .setProtocol m _ => m = n
  | _ => False

/-- The operation is a command for the card in slot `n`. -/
def Exchanges (n : Nat) : Operation → Prop
  | .transceive m _ => m = n
  | _ => False

/-- The operation may change slot `n`. -/
def Touches (n : Nat) (op : Operation) : Prop :=
  op.Reports n ∨ op.Forgets n ∨ op.Renews n ∨ op.Exchanges n

theorem Resets.renews {op : Operation} (resets : op.Resets n) : op.Renews n := by
  cases op <;> first | exact resets | exact resets.elim

end Operation

theorem capable_along (way : Way Q) (capable : ReaderFlags → Bool) {command : Op σ α}
    (moves : Moves Q command) :
    Moves Q (do
      unless capable (← get).1.flags do throw .notSupported
      command) := by
  have path := way.toPath
  refine Moves.bind path (fun w => path.refl w) fun w => ?_
  split
  · exact moves
  · exact Moves.bind path (Moves.throw path _) fun _ => moves

/-- **An operation changes the reader only in the ways that belong to it.** -/
theorem perform_along (way : Way Q) (driver : Driver σ) (op : Operation)
    (observe : ∀ m, op.Reports m → ∀ reported, Changes Q m fun slot => slot.observe reported)
    (events : op = .handleEvent →
      ∀ r s reports, Q (r, s) ({ r with slots := observeAll r.slots reports }, s))
    (forget : ∀ m, op.Forgets m → Changes Q m Slot.forget)
    (close : op = .close → ∀ r s, Q (r, s) ({ r with slots := r.slots.map Slot.forget }, s))
    (insert : ∀ m, op.Resets m → ∀ atr, Changes Q m (Slot.insert atr))
    (hold : ∀ m, op.Renews m ∨ op.Exchanges m → ∀ handle, Changes Q m (Slot.hold handle)) :
    Moves Q (perform driver op) := by
  have path := way.toPath
  have onward {β : Type} {x : Op σ β} (moves : Moves Q x) : Moves Q (finished x) :=
    Moves.bind path moves fun _ => Moves.pure path _
  cases op with
  | cardStatus m => exact onward (cardStatus_along way (observe m rfl))
  | cardReset m =>
    exact onward (lookup_along way fun _ =>
      reset_along way (forget m rfl) (insert m rfl) (hold m (.inl rfl)) _)
  | cardRequest m timeout message =>
    exact onward (lookup_along way fun _ =>
      reset_along way (forget m rfl) (insert m rfl) (hold m (.inl rfl)) _)
  | cardEject m timeout message =>
    exact onward (cardEject_along way (forget m rfl) timeout message)
  | output message =>
    exact onward (capable_along way ReaderFlags.display (guarded_along way (onDevice_along way _)))
  | performVerify m timeout message command =>
    exact onward (lookup_along way fun _ =>
      capable_along way ReaderFlags.keypad (guarded_along way (onDevice_along way _)))
  | setProtocol m protocol => exact onward (setProtocol_along way (hold m (.inl rfl)) protocol)
  | transceive m command =>
    exact Moves.bind path (transceive_along way (hold m (.inr rfl)) command) fun _ =>
      Moves.pure path _
  | readMemory m address length =>
    exact onward (Moves.bind path (memoryKind_along way m) fun _ =>
      guarded_along way (onDevice_along way _))
  | writeMemory m address bytes =>
    exact onward (Moves.bind path (memoryKind_along way m) fun _ =>
      guarded_along way (onDevice_along way _))
  | poll => exact onward (poll_along way fun m => observe m trivial)
  | handleEvent => exact onward (handleEvent_along way (events rfl))
  | handleHangUp => exact onward (onDevice_along way _)
  | close => exact onward (close_along way (close rfl))

/-! ## What stays as it is -/

/-- What a reader is, whatever is in its slots. -/
def outline (r : Reader) : String × ReaderFlags × Nat :=
  (r.name, r.flags, r.slots.length)

theorem perform_outline (driver : Driver σ) (op : Operation) :
    Keeps (fun w : Reader × σ => w.1.outline) (perform driver op) := by
  have way : Way fun w w' : Reader × σ => w'.1.outline = w.1.outline :=
    { Keeps.path (fun w : Reader × σ => w.1.outline) with device := fun _ _ _ => rfl }
  have changes (m : Nat) (f : Slot → Slot) :
      Changes (fun w w' : Reader × σ => w'.1.outline = w.1.outline) m f := by
    intro r s
    simp only [outline, modifySlot, List.length_modify]
  refine perform_along way driver op (fun m _ _ => changes m _) ?_ (fun m _ => changes m _) ?_
    (fun m _ _ => changes m _) fun m _ _ => changes m _
  · intro _ r s reports
    have count : (observeAll r.slots reports).length = r.slots.length := by
      fun_induction observeAll r.slots reports <;> simp_all
    simp only [outline, count]
  · intro _ r s
    simp only [outline, List.length_map]

/-! ## What a slot goes through -/

/-- If there is a slot `n`, there still is, and it has changed in this way. -/
def At (n : Nat) (R : Slot → Slot → Prop) (w w' : Reader × σ) : Prop :=
  ∀ slot, w.1.slots[n]? = some slot → ∃ slot', w'.1.slots[n]? = some slot' ∧ R slot slot'

variable {R : Slot → Slot → Prop}

theorem At.way (path : Path R) : Way (At n R : Reader × σ → Reader × σ → Prop) where
  refl _ slot found := ⟨slot, found, path.refl slot⟩
  trans first second slot found := by
    obtain ⟨slot', found', changed⟩ := first slot found
    obtain ⟨slot'', found'', changed'⟩ := second slot' found'
    exact ⟨slot'', found'', path.trans changed changed'⟩
  device _ _ _ slot found := ⟨slot, found, path.refl slot⟩

theorem getElem?_modifySlot_of_ne (r : Reader) (other : m ≠ n) (f : Slot → Slot) :
    (r.modifySlot m f).slots[n]? = r.slots[n]? := by
  simp [modifySlot, other]

theorem At.changes (path : Path R) {f : Slot → Slot} (here : m = n → ∀ slot, R slot (f slot)) :
    Changes (At n R : Reader × σ → Reader × σ → Prop) m f := by
  intro r s slot found
  show ∃ slot', (r.modifySlot m f).slots[n]? = some slot' ∧ R slot slot'
  by_cases same : m = n
  · refine ⟨f slot, ?_, here same slot⟩
    rw [same, getElem?_modifySlot]
    exact congrArg (Option.map f) found
  · exact ⟨slot, (getElem?_modifySlot_of_ne r same f).trans found, path.refl slot⟩

/-- An operation changes a slot only in the ways that belong to it. -/
theorem perform_moves (path : Path R) (driver : Driver σ) (op : Operation)
    (observe : op.Reports n → ∀ slot reported, R slot (slot.observe reported))
    (forget : op.Forgets n → ∀ slot : Slot, R slot slot.forget)
    (insert : op.Resets n → ∀ slot atr, R slot (slot.insert atr))
    (hold : op.Renews n ∨ op.Exchanges n → ∀ slot handle, R slot (slot.hold handle)) :
    Moves (At n R) (perform driver op) := by
  refine perform_along (At.way path) driver op ?_ ?_ ?_ ?_ ?_ ?_
  · exact fun m reports reported =>
      At.changes path fun same slot => observe (same ▸ reports) slot reported
  · rintro rfl r s reports slot found
    refine ⟨_, (getElem?_observeAll r.slots reports n).trans (congrArg _ found), ?_⟩
    cases reports[n]? with
    | none => exact path.refl slot
    | some reported => exact observe trivial slot reported
  · exact fun m forgets => At.changes path fun same slot => forget (same ▸ forgets) slot
  · rintro rfl r s slot found
    refine ⟨slot.forget, ?_, forget trivial slot⟩
    simp [List.getElem?_map, show r.slots[n]? = some slot from found]
  · exact fun m resets atr => At.changes path fun same slot => insert (same ▸ resets) slot atr
  · exact fun m holds handle => At.changes path fun same slot => hold (same ▸ holds) slot handle

/-- What is done with a reader but not to slot `n` leaves the slot as it is. -/
theorem perform_elsewhere (driver : Driver σ) {op : Operation} (elsewhere : ¬ op.Touches n)
    (w : Reader × σ) : (after (perform driver op) w).1.slots[n]? = w.1.slots[n]? := by
  simp only [Operation.Touches, not_or] at elsewhere
  obtain ⟨reports, forgets, renews, exchanges⟩ := elsewhere
  have moves : Moves (At n Eq) (perform driver op) :=
    perform_moves ⟨fun _ => rfl, Eq.trans⟩ driver op (fun h => absurd h reports)
      (fun h => absurd h forgets) (fun h => absurd h.renews renews)
      fun h => absurd h (not_or.mpr ⟨renews, exchanges⟩)
  cases found : w.1.slots[n]? with
  | some slot =>
    obtain ⟨slot', found', rfl⟩ := moves w slot found
    exact found'
  | none =>
    have count : (after (perform driver op) w).1.slots.length = w.1.slots.length :=
      congrArg (fun outline => outline.2.2) (perform_outline driver op w)
    rw [List.getElem?_eq_none_iff] at found ⊢
    rwa [count]

end Reader

end CardTerminal
