import CardTerminal.Proofs.Reader.Bilingual
import CardTerminal.Proofs.Reader.Parts

/-!
Whether reader and card talk the same protocol.

The reader asks the card to switch exactly when another protocol than that of the answer to reset is
selected. So it can lead the card away from its default protocol, but never back: after a switch,
selecting the default protocol gives an engine for it, and the card goes on with the other one
(`disagreement_versatile`).

Main statement: in every state that a run of resets, selections and exchanges leads to, the engine
is for the card's protocol unless it is for the default one and the card has switched, or the answer
to reset is not known and the card has not switched (`agreement`).
-/

namespace CardTerminal.Bilingual

open CardTerminal.Action

/-! ## Runs -/

/-- A protocol that the card may talk. -/
abbrev Choice : Type :=
  { p : ProtocolId // p = .t0 ∨ p = .t1 }

/-- Something done with the slot of the card. -/
inductive Operation where
  | cardReset
  | setProtocol (p : Choice)
  | transceive (command : Bytes)

/-- A reader and the card. -/
abbrev World : Type :=
  Reader × State

variable (x : Bilingual)

/-- The world after an operation, whether it succeeds or fails. -/
def perform (n : Nat) (w : World) : Operation → World
  | .cardReset => after (Reader.cardReset x.driver n) w
  | .setProtocol p => after (Reader.setProtocol x.driver n p.1) w
  | .transceive command => after (Reader.transceive x.driver n command) w

/-- The world after operations, one after the other. -/
def performAll (n : Nat) (w : World) (operations : List Operation) : World :=
  operations.foldl (x.perform n) w

/-! ## What every operation keeps -/

/-- The card talks its default protocol exactly if it has not switched since its last reset. -/
def Coherent (t : Tongue) : Prop :=
  (t.echoed = [] ∧ t.speaks = x.initial) ∨
    (t.echoed ≠ [] ∧ t.speaks ≠ x.initial ∧ (t.speaks = .t0 ∨ t.speaks = .t1))

/-- What is known of the slot fits the card: an engine for another protocol than the default one
means that the card has switched, if its answer to reset is known. -/
structure Fits (slot : Slot) (t : Tongue) : Prop where
  atr : slot.atr = none ∨ slot.atr = some x.atr
  engine : ∀ engine, slot.handle = some (.active engine) →
    (engine.id = .t0 ∨ engine.id = .t1) ∧
      (engine.id ≠ x.initial → slot.atr = none ∨ t.echoed ≠ [])

/-- What every operation keeps. -/
structure Inv (n : Nat) (w : World) : Prop where
  coherent : x.Coherent w.2.tongue
  fits : ∀ slot, w.1.slots[n]? = some slot → x.Fits slot w.2.tongue

variable {x} {n : Nat}

theorem Coherent.fresh (x : Bilingual) : x.Coherent x.fresh :=
  .inl ⟨rfl, rfl⟩

theorem Coherent.switch {p : ProtocolId} (h : p = .t0 ∨ p = .t1) (other : p ≠ x.initial)
    (t : Tongue) : x.Coherent (t.switch p) :=
  .inr ⟨List.cons_ne_nil _ _, other, h⟩

/-- The card is as it was, or has echoed a request for another protocol than its default one. -/
def Onward (x : Bilingual) (t t' : Tongue) : Prop :=
  t' = t ∨ ∃ p, (p = .t0 ∨ p = .t1) ∧ p ≠ x.initial ∧ t' = t.switch p

theorem Coherent.onward {t t' : Tongue} (coherent : x.Coherent t) (onward : x.Onward t t') :
    x.Coherent t' := by
  rcases onward with rfl | ⟨p, h, other, rfl⟩
  · exact coherent
  · exact .switch h other t

theorem Fits.onward {slot : Slot} {t t' : Tongue} (fits : x.Fits slot t)
    (onward : x.Onward t t') : x.Fits slot t' := by
  rcases onward with rfl | ⟨p, -, -, rfl⟩
  · exact fits
  · refine ⟨fits.atr, fun engine active => ⟨(fits.engine engine active).1, fun _ => .inr ?_⟩⟩
    exact List.cons_ne_nil _ _

theorem Inv.onward {r : Reader} {s s' : State} (inv : x.Inv n (r, s))
    (onward : x.Onward s.tongue s'.tongue) : x.Inv n (r, s') :=
  ⟨inv.coherent.onward onward, fun slot known => (inv.fits slot known).onward onward⟩

theorem Fits.forget (x : Bilingual) (slot : Slot) (t : Tongue) : x.Fits slot.forget t :=
  ⟨.inl rfl, fun engine active => by cases active⟩

theorem Inv.modifySlot {r : Reader} {s : State} {f : Slot → Slot}
    (coherent : x.Coherent s.tongue)
    (fits : ∀ slot, r.slots[n]? = some slot → x.Fits (f slot) s.tongue) :
    x.Inv n (r.modifySlot n f, s) := by
  refine ⟨coherent, fun slot known => ?_⟩
  rw [Reader.getElem?_modifySlot] at known
  obtain ⟨before, found, rfl⟩ := Option.map_eq_some_iff.mp known
  exact fits before found

/-! ## Selecting a protocol -/

theorem initial_char (x : Bilingual) : x.initial = .t0 ∨ x.initial = .t1 :=
  x.initial_cases.imp And.left And.left

/-- The reader takes the card to talk the protocol that it was asked for, and its default one if
it cannot switch. -/
theorem agree_cases {s : State} (selecting : s.selecting = true) {p : ProtocolId}
    (h : p = .t0 ∨ p = .t1) (dad : UInt8) :
    (∃ q s', Reader.agree x.driver.toLink x.info dad p s = .ok q s' ∧
        x.Onward s.tongue s'.tongue ∧
        (q = x.initial ∨ (q = .t0 ∨ q = .t1) ∧ s'.tongue.echoed ≠ [])) ∨
      ∃ e s', Reader.agree x.driver.toLink x.info dad p s = .error e s' ∧
        x.Onward s.tongue s'.tongue := by
  unfold Reader.agree
  by_cases other : p = x.initial
  · subst other
    rw [askCard_initial]
    exact .inl ⟨_, _, rfl, .inl rfl, .inl rfl⟩
  · rcases askCard_cases selecting h other dad with ⟨s', asked, switched⟩ | ⟨e, s', asked, either⟩
    · rw [asked]
      refine .inl ⟨p, s', rfl, .inr ⟨p, h, other, switched⟩, .inr ⟨h, ?_⟩⟩
      rw [switched]
      exact List.cons_ne_nil _ _
    · have onward : x.Onward s.tongue s'.tongue := by
        rcases either with switched | same
        · exact .inr ⟨p, h, other, switched⟩
        · exact .inl same
      rw [asked]
      -- A driver that cannot send says the same as a card that cannot switch.
      split
      · next h => cases h
      · next h =>
        cases h
        exact .inl ⟨_, _, rfl, onward, .inl rfl⟩
      · next h =>
        cases h
        exact .inr ⟨_, _, rfl, onward⟩

/-- An engine that is made is for the card's default protocol or for one that it switched to, if
the card's answer to reset is known. -/
theorem makeEngine_cases {p : ProtocolId} (h : p = .t0 ∨ p = .t1) {info : Option Atr.Info}
    {maySwitch : Bool}
    (known : info = none ∨ info = some x.info ∧ (maySwitch = true ∨ p = x.initial)) (dad : UInt8)
    (s : State) :
    (∃ engine s', Reader.makeEngine x.driver n dad p info maySwitch s = .ok engine s' ∧
        x.Onward s.tongue s'.tongue ∧ (engine.id = .t0 ∨ engine.id = .t1) ∧
        (engine.id ≠ x.initial → info = none ∨ s'.tongue.echoed ≠ [])) ∨
      ∃ e s', Reader.makeEngine x.driver n dad p info maySwitch s = .error e s' ∧
        x.Onward s.tongue s'.tongue := by
  have consulted : x.driver.setProtocol n p s = .ok none { s with selecting := true } := rfl
  unfold Reader.makeEngine
  rw [bind_of_ok consulted]
  have unasked : ∀ q : ProtocolId, (q = .t0 ∨ q = .t1) → (Engine.new q dad).id = .t0 ∨
      (Engine.new q dad).id = .t1 := by
    intro q h
    rwa [Engine.id_new]
  rcases known with rfl | ⟨rfl, allowed⟩
  · -- Without an answer to reset nothing is asked, and nothing is claimed of the card.
    exact .inl ⟨.new p dad, _, rfl, .inl rfl, unasked p h, fun _ => .inl rfl⟩
  · cases maySwitch with
    | false =>
      rcases allowed with impossible | rfl
      · cases impossible
      · refine .inl ⟨.new x.initial dad, _, rfl, .inl rfl, unasked _ h, fun other => ?_⟩
        rw [Engine.id_new] at other
        exact absurd rfl other
    | true =>
      dsimp only
      rcases agree_cases (s := { s with selecting := true }) rfl h dad with
        ⟨q, s', agreed, onward, kind⟩ | ⟨e, s', failed, onward⟩
      · rw [bind_of_ok agreed]
        refine .inl ⟨.new q dad, s', rfl, onward, ?_, ?_⟩
        · rcases kind with rfl | ⟨kind, -⟩
          · exact unasked _ x.initial_char
          · exact unasked q kind
        · intro other
          rw [Engine.id_new] at other
          rcases kind with rfl | ⟨-, switched⟩
          · exact absurd rfl other
          · exact .inr switched
      · rw [bind_of_error failed]
        exact .inr ⟨e, s', rfl, onward⟩

theorem Inv.select {r : Reader} {s : State} (inv : x.Inv n (r, s)) {slot : Slot}
    (found : r.slots[n]? = some slot) {p : ProtocolId} (h : p = .t0 ∨ p = .t1)
    {info : Option Atr.Info} {maySwitch : Bool}
    (known : info = none ∧ slot.atr = none ∨
      info = some x.info ∧ (maySwitch = true ∨ p = x.initial)) :
    x.Inv n (after (Reader.select x.driver n p info maySwitch) (r, s)) := by
  unfold Reader.select
  simp only [after, bind_of_ok (Reader.slot_ok found s)]
  rcases makeEngine_cases (n := n) h (known.imp_left And.left) slot.dad s with
    ⟨engine, s', made, onward, kind, fit⟩ | ⟨e, s', failed, onward⟩
  · rw [bind_of_ok (Reader.onDevice_ok made)]
    have configured :
        ((info.map (fun info => engine.configure info)).getD engine).id = engine.id := by
      cases info with
      | none => rfl
      | some info => exact Engine.id_configure info engine
    rw [get_bind]
    generalize (info.map (fun info => engine.configure info)).getD engine = engine' at configured
    obtain ⟨announced, u, told, same, quiet⟩ := announceIfsd_spec (x := x) r.ifsd engine' s'
    rw [bind_of_ok (Reader.onDevice_ok told)]
    have id : announced.id = engine.id := same.trans configured
    -- Only the handle of this slot changes, and its engine is the one that was made.
    show x.Inv n (r.modifySlot n _, u)
    have coherent := inv.coherent.onward onward
    rw [← quiet] at coherent fit
    refine Inv.modifySlot coherent fun before found' => ?_
    rw [found] at found'
    cases found'
    refine ⟨(inv.fits slot found).atr, fun active isActive => ?_⟩
    cases isActive
    rw [id]
    refine ⟨kind, fun other => ?_⟩
    rcases fit other with unknown | switched
    · rcases known with ⟨-, unknown'⟩ | ⟨known, -⟩
      · exact .inl unknown'
      · rw [known] at unknown
        cases unknown
    · exact .inr switched
  · rw [bind_of_error (Reader.onDevice_error failed)]
    exact inv.onward onward

/-! ## Operations -/

theorem Inv.afterCommand {w : World} (inv : x.Inv n w) :
    x.Inv n (after (Reader.onDevice x.driver.afterCommand) w) := by
  rw [Reader.after_onDevice]
  exact inv.onward (.inl (afterCommand_keeps w.2))

/-- What the driver does before and after a command does not matter. -/
theorem Inv.guarded {α : Type} {command : Reader.Op State α} {r : Reader} {s : State}
    (inv : x.Inv n (r, s))
    (kept : ∀ s', s'.tongue = s.tongue → s'.selecting = false → x.Inv n (after command (r, s'))) :
    x.Inv n (after (Reader.guarded x.driver command) (r, s)) := by
  rcases x.beforeCommand_cases s with ⟨s', began, same, idle⟩ | ⟨e, s', failed, same⟩
  · rw [Reader.after_guarded (Reader.onDevice_ok began)]
    exact (kept s' same idle).afterCommand
  · rw [after_of_error (Reader.guarded_of_error (Reader.onDevice_error failed))]
    exact inv.onward (.inl same)

theorem Inv.awaited {α : Type} {command : Reader.Op State (Option α)} {r : Reader} {s : State}
    (inv : x.Inv n (r, s))
    (kept : ∀ s', s'.tongue = s.tongue → s'.selecting = false → x.Inv n (after command (r, s'))) :
    x.Inv n (after (Reader.awaited x.driver command) (r, s)) := by
  rcases Reader.after_awaited x.driver command (r, s) with ⟨w', began, same⟩ | same
  · rcases x.beforeCommand_cases s with ⟨s', began', tongue, idle⟩ | ⟨e, s', failed, -⟩
    · rw [Reader.onDevice_ok began'] at began
      cases began
      rw [same]
      exact kept s' tongue idle
    · rw [Reader.onDevice_error failed] at began
      cases began
  · rw [same]
    exact inv.guarded kept

theorem Inv.lookup {α : Type} {operation : Slot → Reader.Op State α} {r : Reader} {s : State}
    (inv : x.Inv n (r, s))
    (kept : ∀ slot, r.slots[n]? = some slot → x.Inv n (after (operation slot) (r, s))) :
    x.Inv n (after (Reader.slot n >>= operation) (r, s)) := by
  cases found : r.slots[n]? with
  | none =>
    rw [after_of_error (bind_of_error (Reader.slot_error found s))]
    exact inv
  | some slot =>
    simp only [after, bind_of_ok (Reader.slot_ok found s)]
    exact kept slot found

theorem Inv.setProtocol {r : Reader} {s : State} (inv : x.Inv n (r, s)) (p : Choice) :
    x.Inv n (after (Reader.setProtocol x.driver n p.1) (r, s)) := by
  refine inv.lookup fun slot found => inv.guarded fun s' same _ => ?_
  have inv : x.Inv n (r, s') := inv.onward (.inl same)
  simp only [after, bind_of_ok (Reader.slot_ok found s')]
  rcases (inv.fits slot found).atr with unknown | answered
  · rw [unknown]
    exact inv.select found p.2 (.inl ⟨rfl, unknown⟩)
  · rw [answered]
    simp only [x.parsed]
    exact inv.select found p.2 (.inr ⟨rfl, .inl rfl⟩)

def adopted (x : Bilingual) (slot : Slot) : Slot :=
  { slot with status := { slot.status with present := true }, atr := some x.atr }

/-- A card that was just reset talks its default protocol, and so does the engine for it. -/
theorem Inv.adopt {r : Reader} {s : State} {slot : Slot} (found : r.slots[n]? = some slot)
    (free : slot.handle = none) (coherent : x.Coherent s.tongue) :
    x.Inv n (after (Reader.adopt x.driver n (some x.atr)) (r, s)) := by
  have inv : x.Inv n (r.modifySlot n x.adopted, s) := by
    refine Inv.modifySlot coherent fun before found' => ?_
    rw [found] at found'
    cases found'
    refine ⟨.inr rfl, fun engine active => ?_⟩
    simp only [adopted, free] at active
    cases active
  have found' : (r.modifySlot n x.adopted).slots[n]? = some (x.adopted slot) :=
    Reader.modifySlot_found found _
  have selected : x.Inv n (after (Reader.select x.driver n x.initial (some x.info) false)
      (r.modifySlot n x.adopted, s)) :=
    inv.select found' x.initial_char (.inr ⟨rfl, .inr rfl⟩)
  have adopts : Reader.adopt x.driver n (some x.atr) (r, s) =
      (Reader.select x.driver n x.initial (some x.info) false >>= fun _ => pure (some x.atr))
        (r.modifySlot n x.adopted, s) := by
    unfold Reader.adopt
    simp only [x.parsed]
    rfl
  rw [after, adopts]
  show x.Inv n (after _ _)
  rwa [after_bind_pure]

theorem Inv.cardReset {r : Reader} {s : State} (inv : x.Inv n (r, s)) :
    x.Inv n (after (Reader.cardReset x.driver n) (r, s)) := by
  refine inv.lookup fun slot found => inv.guarded fun s' same _ => ?_
  have forgotten : (Reader.update n Slot.forget : Reader.Op State Unit) (r, s') =
      .ok () (r.modifySlot n Slot.forget, s') := rfl
  simp only [after, bind_of_ok forgotten]
  rcases x.cardReset_cases n s' with ⟨u, reset, fresh⟩ | ⟨e, u, failed, either⟩
  · rw [bind_of_ok (Reader.onDevice_ok reset)]
    have found' : (r.modifySlot n Slot.forget).slots[n]? = some slot.forget :=
      Reader.modifySlot_found found _
    refine Inv.adopt found' rfl ?_
    rw [fresh]
    exact .fresh x
  · -- The reader forgot the card before it was reset, so it does not matter whether it was.
    rw [bind_of_error (Reader.onDevice_error failed)]
    refine Inv.modifySlot ?_ fun slot _ => .forget x slot _
    rcases either with fresh | same'
    · rw [fresh]
      exact .fresh x
    · rw [same', same]
      exact inv.coherent

/-- An exchange over T=0 or T=1 leaves the protocols of both sides as they are. -/
theorem exchange_quiet {engine : Engine} (kind : engine.id = .t0 ∨ engine.id = .t1)
    (command : Bytes) (s : State) :
    Quiet s (engine.transceive x.driver n command s).device ∧
      (engine.transceive x.driver n command s).engine.id = engine.id := by
  cases engine with
  | t0 t => exact ⟨T0.transceive_moves link_quiet Quiet.path t command s, rfl⟩
  | t1 t => exact ⟨T1.transceive_moves link_quiet Quiet.path t command s, rfl⟩
  | memory family => cases family <;> rcases kind with kind | kind <;> cases kind
  | gbp _ | transparent | escape => rcases kind with kind | kind <;> cases kind

theorem engine_of_after {ran : Exchange (Option Ended) Engine State} {engine : Engine}
    (h : Handle.after ran = .active engine) : engine = ran.engine := by
  unfold Handle.after at h
  split at h
  · split at h
    · cases h
    · cases h
      rfl
  · cases h
    rfl

theorem Inv.exchange {r : Reader} {s : State} (inv : x.Inv n (r, s)) (idle : s.selecting = false)
    {slot : Slot} (found : r.slots[n]? = some slot) {handle : Handle}
    (held : slot.handle = some handle) (command : Bytes) :
    x.Inv n (after (Reader.exchange x.driver n command handle) (r, s)) := by
  have changed : ∃ handle' s', (handle.transceive x.driver n command s).2 = (handle', s') ∧
      s'.tongue = s.tongue ∧ ∀ engine', handle' = .active engine' →
        ∃ engine, handle = .active engine ∧ engine'.id = engine.id := by
    cases handle with
    | lost id => exact ⟨_, _, rfl, rfl, fun _ active => by cases active⟩
    | active engine =>
      obtain ⟨quiet, same⟩ := exchange_quiet (x := x) (n := n)
        ((inv.fits slot found).engine engine held).1 command s
      refine ⟨_, _, rfl, quiet.2 idle, fun engine' active => ⟨engine, rfl, ?_⟩⟩
      rw [engine_of_after active, same]
  obtain ⟨handle', s', ran, same, engines⟩ := changed
  rw [Reader.after_exchange, ran]
  refine Inv.modifySlot (same ▸ inv.coherent) fun slot' found' => ?_
  rw [found] at found'
  cases found'
  have fits := inv.fits slot found
  refine ⟨fits.atr, fun engine' active => ?_⟩
  obtain ⟨engine, wasActive, sameId⟩ := engines engine' (Option.some.inj active)
  rw [wasActive] at held
  rw [sameId, same]
  exact fits.engine engine held

theorem Inv.transceive {r : Reader} {s : State} (inv : x.Inv n (r, s)) (command : Bytes) :
    x.Inv n (after (Reader.transceive x.driver n command) (r, s)) := by
  refine inv.lookup fun slot found => ?_
  cases present : slot.status.present with
  | false => exact inv
  | true =>
    cases held : slot.handle with
    | none => exact inv
    | some handle =>
      exact inv.awaited fun s' same idle =>
        (Inv.onward inv (.inl same)).exchange idle found held command

/-- Every operation keeps what is known of a slot true. -/
theorem Inv.perform {w : World} (inv : x.Inv n w) (operation : Operation) :
    x.Inv n (x.perform n w operation) := by
  obtain ⟨r, s⟩ := w
  cases operation with
  | cardReset => exact inv.cardReset
  | setProtocol p => exact inv.setProtocol p
  | transceive command => exact inv.transceive command

theorem Inv.attach {r : Reader} {s : State}
    (attached : Reader.attach x.driver x.unused = .ok r s) : x.Inv n (r, s) := by
  obtain ⟨info, t, answered, rest⟩ := bind_eq_ok attached
  have fresh : t.tongue = x.fresh := by
    simp only [driver, hook] at answered
    split at answered <;> cases answered
    rfl
  split at rest
  · obtain ⟨_, _, refused, -⟩ := bind_eq_ok rest
    cases refused
  · cases rest
    refine ⟨?_, fun slot found => ?_⟩
    · rw [fresh]
      exact .fresh x
    · simp only [List.getElem?_map] at found
      obtain ⟨dad, -, rfl⟩ := Option.map_eq_some_iff.mp found
      exact ⟨.inl rfl, fun engine active => by cases active⟩

theorem Inv.performAll {w : World} (inv : x.Inv n w) (operations : List Operation) :
    x.Inv n (x.performAll n w operations) := by
  induction operations generalizing w with
  | nil => exact inv
  | cons operation operations ih => exact ih (inv.perform operation)

/-! ## Agreement -/

/-- **When reader and card agree.** After any operations on a reader that was attached to the card,
and however the driver failed in them: an engine for the card's default protocol is right exactly
if the card echoed no request since its last reset, and an engine for the other protocol is right if
the card's answer to reset is known, and otherwise exactly if the card echoed a request. -/
theorem agreement {r : Reader} {s : State}
    (attached : Reader.attach x.driver x.unused = .ok r s) (n : Nat)
    (operations : List Operation) :
    let w := x.performAll n (r, s) operations
    ∀ slot engine, w.1.slots[n]? = some slot → slot.handle = some (.active engine) →
      (engine.id = w.2.tongue.speaks ↔
        (engine.id = x.initial ∧ w.2.tongue.echoed = []) ∨
          (engine.id ≠ x.initial ∧ (slot.atr ≠ none ∨ w.2.tongue.echoed ≠ []))) := by
  intro w slot engine found active
  -- The invariant relates the slot to what the card echoed, and that to what it speaks.
  have inv : x.Inv n w := (Inv.attach attached).performAll operations
  obtain ⟨kind, switched⟩ := (inv.fits slot found).engine engine active
  rcases inv.coherent with ⟨none, speaks⟩ | ⟨some, speaks, tongue⟩
  · rw [speaks]
    constructor
    · exact fun same => .inl ⟨same, none⟩
    · rintro (⟨same, -⟩ | ⟨other, known⟩)
      · exact same
      · rcases switched other with unknown | echoed
        · exact absurd none (known.resolve_left (absurd unknown))
        · exact absurd none echoed
  · -- There are two protocols only, so the card talks any that is not the default one.
    have only : engine.id ≠ x.initial → engine.id = w.2.tongue.speaks := by
      intro other
      rcases kind with kind | kind <;> rcases tongue with tongue | tongue <;>
        rcases x.initial_char with initial | initial <;> simp_all
    constructor
    · exact fun same => .inr ⟨same ▸ speaks, .inr some⟩
    · rintro (⟨-, none⟩ | ⟨other, -⟩)
      · exact absurd none some
      · exact only other

/-- A card that begins with T=0 and may switch to T=1. -/
def versatile : Bilingual where
  atr := [0x3B, 0x80, 0x80, 0x01, 0x01]
  info := ⟨.direct, [⟨none, none, none, some 0x80⟩, ⟨none, none, none, some 0x01⟩,
    ⟨none, none, none, none⟩], []⟩
  parsed := by rfl
  supports_t0 := by decide
  supports_t1 := by decide
  negotiable := by decide
  default := by decide
  reader := .new "versatile" 1
  turn _ := ⟨none, false, true, [], 10⟩
  patience := 20

def attached : World :=
  (⟨"versatile", .none, [.unknown 0], none⟩, { versatile.unused with calls := 1 })

theorem attach_versatile :
    Reader.attach versatile.driver versatile.unused = .ok attached.1 attached.2 := by
  rfl

/-- What is known of that card after a reset and a selection. -/
def talking (engine : Engine) : Slot :=
  ⟨0, ⟨true, false⟩, versatile.atr, some (.active engine)⟩

theorem agreement_versatile :
    (Engine.t1 (.new 0)).id = (versatile.performAll 0 attached
      [.cardReset, .setProtocol ⟨.t1, .inr rfl⟩]).2.tongue.speaks :=
  (agreement attach_versatile 0 [.cardReset, .setProtocol ⟨.t1, .inr rfl⟩] (talking (.t1 (.new 0)))
    (.t1 (.new 0)) (by decide +kernel) rfl).mpr (.inr ⟨by decide, .inl (by decide)⟩)

/-- That card after it was reset, switched to T=1 and was then selected T=0 for. -/
def ledBack : World :=
  versatile.performAll 0 attached
    [.cardReset, .setProtocol ⟨.t1, .inr rfl⟩, .setProtocol ⟨.t0, .inl rfl⟩]

/-- **The reader does not lead a card back.** It talks T=0 to a card that goes on with T=1. -/
theorem disagreement_versatile :
    ledBack.1.slots[0]? = some (talking (.t0 (.new 0))) ∧
      (Engine.t0 (.new 0)).id ≠ ledBack.2.tongue.speaks := by
  constructor
  · decide +kernel
  · decide +kernel

end CardTerminal.Bilingual
