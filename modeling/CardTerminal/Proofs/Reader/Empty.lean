import CardTerminal.Proofs.Reader.Lost

/-!
What a slot holds while there is no card in it.

A reset puts a card into its slot together with what is known of it, and a report that the card is
gone takes both out again. So an empty slot has no answer to reset, and nothing is exchanged with
it. To select a protocol does not ask for a card, though: it gives an empty slot an engine, and the
memory of the slot is then accessed as if there were a card (`engine_without_card`). This is the
only way for an empty slot to get an engine, which it keeps while it is empty at most
(`Slot.Inherits`, `perform_inherits`).

Main statement: `empty_unless_selected`.
-/

namespace CardTerminal

open CardTerminal.Action

namespace Slot

/-- Without a card afterwards, the slot has no handle but the one it had without a card before. -/
def Inherits (slot slot' : Slot) : Prop :=
  slot'.status.present = false →
    slot'.handle = none ∨ slot.status.present = false ∧ slot'.handle = slot.handle

theorem Inherits.path : Path Inherits where
  refl _ empty := .inr ⟨empty, rfl⟩
  trans first second empty := by
    rcases second empty with none | ⟨empty', same⟩
    · exact .inl none
    · rw [same]
      exact first empty'

theorem inherits_of_present {slot slot' : Slot} (present : slot'.status.present = true) :
    slot.Inherits slot' :=
  fun empty => absurd (present.symm.trans empty) Bool.noConfusion

theorem inherits_observe (slot : Slot) (reported : CardStatus) :
    slot.Inherits (slot.observe reported) := by
  unfold observe
  by_cases news : slot.isNews reported = true
  · rw [if_pos news]
    exact fun _ => .inl rfl
  · rw [if_neg news]
    simp only [isNews, Bool.or_eq_true, bne_iff_ne, not_or, Decidable.not_not] at news
    exact fun empty => .inr ⟨news.1.symm.trans empty, rfl⟩

/-- What is known of a card is known of one that is there. -/
def Grounded (slot : Slot) : Prop :=
  slot.status.present = false → slot.atr = none

theorem Grounded.path : Path fun slot slot' : Slot => slot.Grounded → slot'.Grounded :=
  ⟨fun _ => id, fun first second => second ∘ first⟩

theorem Grounded.observe {slot : Slot} (grounded : slot.Grounded) (reported : CardStatus) :
    (slot.observe reported).Grounded := by
  intro empty
  unfold Slot.observe at empty ⊢
  by_cases news : slot.isNews reported = true
  · rw [if_pos news]
    rfl
  · rw [if_neg news] at empty ⊢
    simp only [isNews, Bool.or_eq_true, bne_iff_ne, not_or, Decidable.not_not] at news
    exact grounded (news.1.symm.trans empty)

/-- There is as much of a card in the slot as before. -/
def Steady (slot slot' : Slot) : Prop :=
  slot'.status = slot.status

theorem Steady.path : Path Steady :=
  ⟨fun _ => rfl, fun first second => second.trans first⟩

end Slot

namespace Reader

variable {σ : Type} {driver : Driver σ} {n : Nat} {r : Reader} {s : σ} {slot : Slot}

/-- There is slot `n`, and no card in it. -/
def Bare (n : Nat) (w : Reader × σ) : Prop :=
  ∃ slot, w.1.slots[n]? = some slot ∧ slot.status.present = false

/-- The operation selects a protocol for slot `n` without a card in it, and is carried out. -/
def Premature (driver : Driver σ) (n : Nat) (w : Reader × σ) (op : Operation) : Prop :=
  Bare n w ∧ (∃ protocol, op = .setProtocol n protocol) ∧ CarriedOut driver op w

/-! ## Resets -/

/-- Who takes over what a reset yielded takes a card to be there, whatever comes of it. -/
theorem adopt_present (driver : Driver σ) (found : r.slots[n]? = some slot) (atr : Atr) (s : σ) :
    ∃ slot', (after (adopt driver n atr) (r, s)).1.slots[n]? = some slot' ∧
      slot'.status.present = true := by
  have way : Way (At n Slot.Steady : Reader × σ → Reader × σ → Prop) := At.way Slot.Steady.path
  have hold (handle : Handle) :
      Changes (At n Slot.Steady : Reader × σ → Reader × σ → Prop) n (Slot.hold handle) :=
    At.changes Slot.Steady.path fun _ _ => rfl
  have found' : (r.modifySlot n (Slot.insert atr)).slots[n]? = some (slot.insert atr) :=
    modifySlot_found found _
  -- Once the card is put in, only a protocol is selected.
  have onward (rest : Op σ Atr) (steady : Moves (At n Slot.Steady) rest) :
      ∃ slot', (after rest (r.modifySlot n (Slot.insert atr), s)).1.slots[n]? = some slot' ∧
        slot'.status.present = true := by
    obtain ⟨slot', there, same⟩ := steady (r.modifySlot n (Slot.insert atr), s) _ found'
    exact ⟨slot', there, by rw [same]; rfl⟩
  refine onward _ ?_
  split
  · exact Moves.pure way.toPath _
  · split
    · exact Moves.throw way.toPath _
    · exact Moves.bind way.toPath (select_along way hold _ _ _) fun _ => Moves.pure way.toPath _

theorem restart_inherits (driver : Driver σ) (found : r.slots[n]? = some slot)
    (hook : Action σ Atr) (s : σ) :
    ∃ slot', (after (restart driver n hook) (r, s)).1.slots[n]? = some slot' ∧
      slot.Inherits slot' := by
  have forgotten : (update n Slot.forget : Op σ Unit) (r, s) =
      .ok () (r.modifySlot n Slot.forget, s) := rfl
  have found' : (r.modifySlot n Slot.forget).slots[n]? = some slot.forget :=
    modifySlot_found found _
  rw [after, restart, bind_of_ok forgotten, ← after]
  cases reset : hook s with
  | error e s' =>
    rw [after_of_error (bind_of_error (onDevice_error reset))]
    exact ⟨slot.forget, found', fun _ => .inl rfl⟩
  | ok atr s' =>
    rw [after, bind_of_ok (onDevice_ok reset), ← after]
    obtain ⟨slot', there, present⟩ := adopt_present driver found' atr s'
    exact ⟨slot', there, Slot.inherits_of_present present⟩

/-! ## Operations -/

/-- What a command leaves of slot `n` is what its work leaves, or the slot as it was. -/
theorem guarded_inherits {α : Type} (found : r.slots[n]? = some slot) {command : Op σ α}
    (works : ∀ s', (∀ v w', command (r, s') = .ok v w' →
        guarded driver.unfollowed command (r, s) = .ok v w') →
      ∃ slot', (after command (r, s')).1.slots[n]? = some slot' ∧ slot.Inherits slot') :
    ∃ slot', (after (finished (do let _ ← Reader.slot n; guarded driver command))
      (r, s)).1.slots[n]? = some slot' ∧ slot.Inherits slot' := by
  have opened : (do let _ ← Reader.slot n; guarded driver command) (r, s) =
      guarded driver command (r, s) := bind_of_ok (slot_ok found s)
  rw [finished, after_bind_pure, after, opened, ← after]
  rcases guarded_reader driver command r s with same | ⟨s', same, carried⟩
  · rw [same]
    exact ⟨slot, found, Slot.Inherits.path.refl slot⟩
  · rw [same]
    exact works s' carried

/-- **Only a selection gives an empty slot a handle**: whatever else is done, a slot without a card
has no handle but the one that it had without a card before. -/
theorem perform_inherits {w : Reader × σ} {op : Operation} (found : w.1.slots[n]? = some slot)
    (mature : ¬ Premature driver n w op) :
    ∃ slot', (after (perform driver op) w).1.slots[n]? = some slot' ∧ slot.Inherits slot' := by
  obtain ⟨r, s⟩ := w
  by_cases renews : op.Renews n
  · cases op with
    | cardReset m =>
      obtain rfl : m = n := renews
      exact guarded_inherits found fun s' _ => restart_inherits driver found _ s'
    | cardRequest m timeout message =>
      obtain rfl : m = n := renews
      exact guarded_inherits found fun s' _ => restart_inherits driver found _ s'
    | setProtocol m protocol =>
      obtain rfl : m = n := renews
      rw [show perform driver (.setProtocol m protocol) = finished (do
        let _ ← Reader.slot m
        guarded driver (switch driver m protocol)) from rfl]
      refine guarded_inherits found fun s' carried => ?_
      rcases switch_cases driver found protocol s' with ⟨engine, t, selected⟩ | ⟨e, t, refused⟩
      · rw [after_of_ok selected]
        refine ⟨slot.hold (.active engine), modifySlot_found found _, ?_⟩
        intro empty
        have opened : setProtocol driver.unfollowed m protocol (r, s) =
            guarded driver.unfollowed (switch driver m protocol) (r, s) :=
          bind_of_ok (slot_ok found s)
        have done : CarriedOut driver (.setProtocol m protocol) (r, s) :=
          ⟨_, bind_of_ok (opened.trans (carried _ _ selected))⟩
        exact absurd ⟨⟨slot, found, empty⟩, ⟨protocol, rfl⟩, done⟩ mature
      · rw [after_of_error refused]
        exact ⟨slot, found, Slot.Inherits.path.refl slot⟩
    | _ => exact renews.elim
  by_cases exchanges : op.Exchanges n
  · cases op with
    | transceive m command =>
      obtain rfl : m = n := exchanges
      cases empty : slot.status.present with
      | false =>
        -- Without a card the exchange is refused, and puts no handle back.
        have refused : perform driver (.transceive m command) (r, s) = .error .noCard (r, s) := by
          refine bind_of_error ((bind_of_ok (slot_ok found s)).trans ?_)
          rw [empty]
          rfl
        rw [after_of_error refused]
        exact ⟨slot, found, Slot.Inherits.path.refl slot⟩
      | true =>
        obtain ⟨slot', there, same⟩ := perform_moves Slot.Steady.path driver
          (.transceive m command) False.elim False.elim False.elim (fun _ _ _ => rfl) (r, s) slot
          found
        exact ⟨slot', there, Slot.inherits_of_present (by rw [same, empty])⟩
    | _ => exact exchanges.elim
  · exact perform_moves Slot.Inherits.path driver op (fun _ => Slot.inherits_observe)
      (fun _ _ _ => .inl rfl) (fun _ _ _ => Slot.inherits_of_present rfl)
      (fun h => absurd h (not_or.mpr ⟨renews, exchanges⟩)) (r, s) slot found

/-- No operation leaves what is known of a card behind without the card. -/
theorem perform_grounded (driver : Driver σ) (op : Operation) :
    Moves (At n fun slot slot' : Slot => slot.Grounded → slot'.Grounded) (perform driver op) :=
  perform_moves Slot.Grounded.path driver op
    (fun _ _ reported grounded => grounded.observe reported)
    (fun _ _ _ _ => rfl) (fun _ _ _ _ empty => absurd empty Bool.noConfusion)
    fun _ _ _ grounded => grounded

/-! ## Runs -/

theorem blank_of_attach {s' : σ} (attached : attach driver s = .ok r s')
    (found : r.slots[n]? = some slot) : ∃ dad, slot = .unknown dad := by
  obtain ⟨info, t, _, checked⟩ := bind_eq_ok attached
  simp only [] at checked
  split at checked
  · cases checked
  · injection checked with same
    rw [← same, List.getElem?_map, Option.map_eq_some_iff] at found
    obtain ⟨dad, -, made⟩ := found
    exact ⟨dad, made.symm⟩

/-- Operations take no slot away, and add none. -/
theorem Leads.slot_before {allowed : Reader × σ → Operation → Prop} {w w' : Reader × σ}
    (leads : Leads driver allowed w w') (found : w'.1.slots[n]? = some slot) :
    ∃ slot', w.1.slots[n]? = some slot' := by
  have same : w'.1.slots.length = w.1.slots.length :=
    leads.keeps (P := fun u => u.1.slots.length = w.1.slots.length) rfl fun u op kept _ =>
      (congrArg (fun outline => outline.2.2) (perform_outline driver op u)).trans kept
  obtain ⟨within, -⟩ := List.getElem?_eq_some_iff.mp found
  exact ⟨_, List.getElem?_eq_getElem (same ▸ within)⟩

/-- Slot `n` was given its handle by a selection without a card, one of these operations, and has
been empty since. -/
def Given (driver : Driver σ) (n : Nat) (allowed : Reader × σ → Operation → Prop)
    (start w : Reader × σ) : Prop :=
  ∃ u protocol, Leads driver allowed start u ∧ allowed u (.setProtocol n protocol) ∧
    Premature driver n u (.setProtocol n protocol) ∧
    Leads driver (fun v _ => Bare n v) (after (perform driver (.setProtocol n protocol)) u) w

/-- **Whatever an empty slot holds is an engine that it was given.** -/
theorem given_of_leads {allowed : Reader × σ → Operation → Prop} {start w : Reader × σ}
    (fresh : ∀ slot, start.1.slots[n]? = some slot → slot.handle = none)
    (leads : Leads driver allowed start w) {slot : Slot} {handle : Handle}
    (found : w.1.slots[n]? = some slot) (empty : slot.status.present = false)
    (held : slot.handle = some handle) :
    (∃ engine, handle = .active engine) ∧ Given driver n allowed start w := by
  induction leads generalizing slot with
  | stay => cases held.symm.trans (fresh slot found)
  | @step u op leads fine ih =>
    obtain ⟨before, there⟩ := (Leads.step .stay fine).slot_before found
    by_cases premature : Premature driver n u op
    · obtain ⟨bare, ⟨protocol, rfl⟩, carried⟩ := id premature
      obtain ⟨engine, engaged⟩ := engaged_of_carriedOut there carried
      cases found.symm.trans engaged
      cases held
      exact ⟨⟨engine, rfl⟩, u, protocol, leads, fine, premature, .stay⟩
    · obtain ⟨slot', found', inherits⟩ := perform_inherits there premature
      cases found.symm.trans found'
      rcases inherits empty with none | ⟨empty', same⟩
      · cases held.symm.trans none
      · obtain ⟨active, v, protocol, reached, given, premature, since⟩ :=
          ih there empty' (same ▸ held)
        exact ⟨active, v, protocol, reached, given, premature,
          .step since ⟨before, there, empty'⟩⟩

/-! ## Access to memory -/

theorem memoryKind_of_empty (found : r.slots[n]? = some slot) (empty : slot.status.present = false)
    (s : σ) : (memoryKind n : Op σ MemoryKind) (r, s) =
      match slot.engine? with
      | some (.memory kind) => .ok kind (r, s)
      | some _ => .error .notSupported (r, s)
      | none => .error .noCard (r, s) := by
  unfold memoryKind
  rw [bind_of_ok (slot_ok found s), empty, ← Slot.engine?]
  cases slot.engine? with
  | none => rfl
  | some engine => cases engine <;> rfl

/-- Access to the memory of slot `n` fails as for a slot without card, whatever the driver is. -/
def MemoryRefused (n : Nat) (w : Reader × σ) : Prop :=
  ∀ any : Driver σ, (∀ address length, readMemory any n address length w = .error .noCard w) ∧
    ∀ address bytes, writeMemory any n address bytes w = .error .noCard w

/-- Access to the memory of an empty slot is refused for want of a card only without an engine. -/
theorem memoryRefused_iff (driver : Driver σ) {w : Reader × σ} (found : w.1.slots[n]? = some slot)
    (empty : slot.status.present = false) : MemoryRefused n w ↔ slot.engine? = none := by
  obtain ⟨r, s⟩ := w
  have kind := memoryKind_of_empty found empty s
  constructor
  · intro refused
    -- A driver that fails before a command shows that it was asked.
    let failing : Driver σ := { driver with beforeCommand := throw .generic }
    have read := (refused failing).1 0 0
    cases engaged : slot.engine? with
    | none => rfl
    | some engine =>
      rw [engaged] at kind
      cases engine with
      | memory kind' =>
        rw [readMemory, bind_of_ok kind, guarded_of_error (onDevice_error rfl)] at read
        cases read
      | _ =>
        rw [readMemory, bind_of_error kind] at read
        cases read
  · intro none any
    rw [none] at kind
    exact ⟨fun _ _ => bind_of_error kind, fun _ _ => bind_of_error kind⟩

/-- **An empty slot holds nothing of a card**, whatever has been done with the reader since it was
attached, but for one thing. It has no answer to reset, and exchanges with it fail for want of a
card before any driver is asked. So does access to its memory just as long as it has no handle. It
has none if no protocol was selected for it without a card; a handle that it has all the same is an
engine that it was given so, with no card in it since. And whenever a protocol is selected for it,
it is given one. -/
theorem empty_unless_selected (driver : Driver σ) {s s' : σ} {r : Reader}
    (attached : attach driver s = .ok r s') {w : Reader × σ}
    (leads : Leads driver (fun _ _ => True) (r, s') w) {slot : Slot}
    (found : w.1.slots[n]? = some slot) (empty : slot.status.present = false) :
    slot.atr = none ∧
    (∀ (any : Driver σ) command, transceive any n command w = .error .noCard w) ∧
    (MemoryRefused n w ↔ slot.handle = none) ∧
    (Leads driver (fun u op => ¬ Premature driver n u op) (r, s') w → slot.handle = none) ∧
    (∀ handle, slot.handle = some handle →
      (∃ engine, handle = .active engine) ∧ Given driver n (fun _ _ => True) (r, s') w) ∧
    ∀ protocol, CarriedOut driver (.setProtocol n protocol) w →
      ∃ engine, (after (perform driver (.setProtocol n protocol)) w).1.slots[n]? =
        some (slot.hold (.active engine)) := by
  have fresh : ∀ slot, r.slots[n]? = some slot → slot.handle = none := by
    intro slot there
    obtain ⟨dad, rfl⟩ := blank_of_attach attached there
    rfl
  have given (handle : Handle) (held : slot.handle = some handle) :=
    given_of_leads fresh leads found empty held
  refine ⟨?_, fun any command => ?_, ?_, fun mature => ?_, given,
    fun protocol => engaged_of_carriedOut found⟩
  · obtain ⟨slot', found', grounded⟩ : ∃ slot, w.1.slots[n]? = some slot ∧ slot.Grounded := by
      obtain ⟨before, there⟩ := leads.slot_before found
      refine leads.keeps (P := fun u => ∃ slot, u.1.slots[n]? = some slot ∧ slot.Grounded)
        ⟨before, there, ?_⟩ ?_
      · obtain ⟨dad, rfl⟩ := blank_of_attach attached there
        exact fun _ => rfl
      · rintro u op ⟨slot, there, grounded⟩ -
        obtain ⟨slot', there', kept⟩ := perform_grounded driver op u slot there
        exact ⟨slot', there', kept grounded⟩
    cases found.symm.trans found'
    exact grounded empty
  · obtain ⟨r', t⟩ := w
    refine (bind_of_ok (slot_ok found t)).trans ?_
    rw [empty]
    rfl
  · rw [memoryRefused_iff driver found empty, Slot.engine?]
    cases held : slot.handle with
    | none => exact ⟨fun _ => rfl, fun _ => rfl⟩
    | some handle =>
      obtain ⟨⟨engine, rfl⟩, -⟩ := given handle held
      constructor <;> rintro ⟨⟩
  · rw [Option.eq_none_iff_forall_ne_some]
    intro handle held
    obtain ⟨-, u, protocol, -, mature, premature, -⟩ :=
      given_of_leads fresh mature found empty held
    exact mature premature

/-! ## A reader without cards -/

/-- The least driver, with no card in any slot, and memory all the same. -/
def vacantDriver : Driver Unit :=
  { Minimal.driver with
    cardStatus := fun _ => pure .empty
    readMemory := fun _ _ _ length => pure (List.replicate length 0xFF) }

def vacantReader : Reader :=
  ⟨"Minimal reader", .displayAndKeypad, [.unknown 0x00, .unknown 0x32], none⟩

/-- The reader, after a protocol was selected for the second slot and all slots were polled. -/
def selectedWorld : Reader × Unit :=
  after (perform vacantDriver .poll)
    (after (perform vacantDriver (.setProtocol 1 .i2cShort)) (vacantReader, ()))

/-- The first slot is left empty. -/
theorem empty_unless_selected_elsewhere :
    attach vacantDriver () = .ok vacantReader () ∧
      selectedWorld.1.slots[0]? = some (.unknown 0x00) ∧ MemoryRefused 0 selectedWorld := by
  have attached : attach vacantDriver () = .ok vacantReader () := rfl
  have leads : Leads vacantDriver (fun _ _ => True) (vacantReader, ()) selectedWorld :=
    .step (.step .stay trivial) trivial
  have found : selectedWorld.1.slots[0]? = some (.unknown 0x00) := by rfl
  obtain ⟨-, -, refused, -⟩ := empty_unless_selected vacantDriver attached leads found rfl
  exact ⟨attached, found, refused.mpr rfl⟩

/-- **An empty slot with an engine**: the second slot was polled and found empty, and its memory is
read. -/
theorem engine_without_card :
    selectedWorld.1.slots[1]? =
        some ⟨0x32, .empty, none, some (.active (.memory .i2cShort))⟩ ∧
      readMemory vacantDriver 1 0 2 selectedWorld = .ok [0xFF, 0xFF] selectedWorld :=
  ⟨by rfl, by rfl⟩

end Reader

end CardTerminal
