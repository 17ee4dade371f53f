import CardTerminal.Driver.Minimal
import CardTerminal.Proofs.Reader.Run

/-!
How long a lost card stays lost.

An exchange that loses the card leaves a handle without engine. From then on every exchange with the
slot is refused before the driver is asked to talk to the card, until something gives the slot a
fresh engine. Resetting the card or requesting one does, and so does selecting a protocol, although
nothing has brought the card back into step (`revived_by_selection`). Nothing else does.

Whether such an operation is carried out shows before the driver is told that the command is over;
what the driver then says does not undo it (`CarriedOut`).

Main statement: `lost_until_renewed`.
-/

namespace CardTerminal

open CardTerminal.Action

/-- The engine that a slot is talked to with. -/
def Slot.engine? (slot : Slot) : Option Engine :=
  slot.handle.bind Handle.engine?

/-- The driver, with nothing to do after a command. -/
def Driver.unfollowed {σ : Type} (driver : Driver σ) : Driver σ :=
  { driver with afterCommand := pure () }

namespace Reader

variable {σ α : Type} {driver : Driver σ} {n : Nat}

/-- The operation does its work, whatever the driver says after it. -/
def CarriedOut (driver : Driver σ) (op : Operation) (w : Reader × σ) : Prop :=
  ∃ w', perform driver.unfollowed op w = .ok (some ()) w'

/-- Slot `n` has no engine. -/
def Engineless (n : Nat) (w : Reader × σ) : Prop :=
  ∃ slot, w.1.slots[n]? = some slot ∧ slot.engine? = none

/-! ## Commands -/

theorem guarded_congr {any : Driver σ} (before : any.beforeCommand = driver.beforeCommand)
    (after : any.afterCommand = driver.afterCommand) (command : Op σ α) :
    guarded any command = guarded driver command := by
  have concluded : conclude (α := α) any = conclude driver := by
    funext ended
    cases ended <;> simp only [conclude, after]
  funext w
  simp only [guarded, before, concluded]

theorem guarded_fails (driver : Driver σ) {command : Op σ α}
    (fails : ∀ w, ∃ e w', command w = .error e w') (w : Reader × σ) :
    ∃ e w', guarded driver command w = .error e w' := by
  cases began : onDevice driver.beforeCommand w with
  | error e w' => exact ⟨e, w', guarded_of_error began⟩
  | ok u w' =>
    obtain ⟨e, w'', failed⟩ := fails w'
    simp only [guarded, conclude, began, failed]
    cases onDevice driver.afterCommand w'' <;> exact ⟨e, _, rfl⟩

/-- A command leaves the reader as its work does, if it was begun. Work that succeeds is carried
out. -/
theorem guarded_reader (driver : Driver σ) (command : Op σ α) (r : Reader) (s : σ) :
    (after (guarded driver command) (r, s)).1 = r ∨
      ∃ s', (after (guarded driver command) (r, s)).1 = (after command (r, s')).1 ∧
        ∀ v w', command (r, s') = .ok v w' →
          guarded driver.unfollowed command (r, s) = .ok v w' := by
  cases began : driver.beforeCommand s with
  | error e s' =>
    rw [after_of_error (guarded_of_error (onDevice_error began))]
    exact .inl rfl
  | ok u s' =>
    refine .inr ⟨s', ?_, fun v w' worked => ?_⟩
    · rw [after_guarded (onDevice_ok began)]
      obtain ⟨r', u⟩ := after command (r, s')
      rw [after_onDevice]
    · have began' : onDevice driver.unfollowed.beforeCommand (r, s) = .ok u (r, s') :=
        onDevice_ok began
      simp only [guarded, began', worked]
      rfl

/-- What is carried out has been begun, and its work succeeds. -/
theorem guarded_unfollowed {command : Op σ α} {r : Reader} {s : σ} {v : α} {w' : Reader × σ}
    (carried : guarded driver.unfollowed command (r, s) = .ok v w') :
    ∃ s', onDevice driver.beforeCommand (r, s) = .ok () (r, s') ∧ command (r, s') = .ok v w' := by
  cases began : driver.beforeCommand s with
  | error e s' =>
    have began' : onDevice driver.unfollowed.beforeCommand (r, s) = .error e (r, s') :=
      onDevice_error began
    rw [guarded_of_error began'] at carried
    cases carried
  | ok u s' =>
    refine ⟨s', onDevice_ok began, ?_⟩
    have began' : onDevice driver.unfollowed.beforeCommand (r, s) = .ok () (r, s') :=
      onDevice_ok began
    simp only [guarded, began'] at carried
    cases worked : command (r, s') with
    | ok v' u =>
      rw [worked] at carried
      exact carried
    | error e u =>
      rw [worked] at carried
      cases carried

/-! ## Exchanges without an engine -/

theorem Engineless.modifySlot {r : Reader} {s : σ} {f : Slot → Slot} {slot : Slot}
    (found : r.slots[n]? = some slot) (engineless : (f slot).engine? = none) :
    Engineless n (r.modifySlot n f, s) :=
  ⟨f slot, modifySlot_found found f, engineless⟩

theorem Engineless.of_reader {w w' : Reader × σ} (dead : Engineless n w) (same : w'.1 = w.1) :
    Engineless n w' := by
  rwa [Engineless, same]

/-- An exchange over a lost handle calls nothing and changes nothing. -/
theorem exchange_lost (command : Bytes) (id : ProtocolId) (r : Reader) (s : σ) :
    exchange driver n command (.lost id) (r, s) =
      .error .commError
        (r.modifySlot n (Slot.hold (.lost id)), s) :=
  rfl

/-- An exchange with a slot that has no engine fails in the same way for all drivers that do the
same before and after a command, and leaves the slot without an engine. -/
theorem transceive_engineless (driver : Driver σ) {w : Reader × σ} (dead : Engineless n w)
    (command : Bytes) :
    ∃ e w', Engineless n w' ∧ ∀ any : Driver σ, any.beforeCommand = driver.beforeCommand →
      any.afterCommand = driver.afterCommand → transceive any n command w = .error e w' := by
  obtain ⟨r, s⟩ := w
  obtain ⟨slot, found, engineless⟩ := dead
  -- All that is looked at before a command is begun is in the reader.
  have opened (any : Driver σ) : transceive any n command (r, s) = _ :=
    bind_of_ok (slot_ok found s)
  simp only [opened]
  cases slot.status.present with
  | false => exact ⟨.noCard, (r, s), ⟨slot, found, engineless⟩, fun _ _ _ => rfl⟩
  | true =>
    cases held : slot.handle with
    | none => exact ⟨.notConnected, (r, s), ⟨slot, found, engineless⟩, fun _ _ _ => rfl⟩
    | some handle =>
      cases handle with
      | active engine =>
        simp [Slot.engine?, held, Handle.engine?] at engineless
      | lost id =>
        have fails : ∀ w, ∃ e w', exchange driver n command (.lost id) w = .error e w' :=
          fun w => ⟨_, _, exchange_lost command id w.1 w.2⟩
        have ends (any : Driver σ) : awaited any (exchange any n command (.lost id)) (r, s) =
            guarded any (exchange any n command (.lost id)) (r, s) := by
          rcases awaited_cases any (exchange any n command (.lost id)) (r, s) with
            ⟨w', u, -, unended, -⟩ | ⟨same, -⟩
          · cases unended
          · exact same
        obtain ⟨e, w', failed⟩ := guarded_fails driver fails (r, s)
        refine ⟨e, w', ?_, fun any before after => ?_⟩
        · rw [← after_of_error failed]
          rcases guarded_reader driver (exchange driver n command (.lost id)) r s with
            same | ⟨s', same, -⟩
          · exact Engineless.of_reader ⟨slot, found, engineless⟩ same
          · exact (Engineless.modifySlot (s := s') found rfl).of_reader same
        · show awaited any (exchange any n command (.lost id)) (r, s) = _
          rw [ends, guarded_congr before after]
          exact failed

/-! ## Selecting a protocol -/

/-- A selection gives the slot an engine, or fails and leaves the reader as it is. -/
theorem select_cases (driver : Driver σ) {r : Reader} {slot : Slot}
    (found : r.slots[n]? = some slot) (protocol : ProtocolId) (info : Option Atr.Info)
    (maySwitch : Bool) (s : σ) :
    (∃ engine s', select driver n protocol info maySwitch (r, s) =
        .ok engine.id (r.modifySlot n (Slot.hold (.active engine)), s')) ∨
      ∃ e s', select driver n protocol info maySwitch (r, s) = .error e (r, s') := by
  unfold select
  rw [bind_of_ok (slot_ok found s)]
  cases made : makeEngine driver n slot.dad protocol info maySwitch s with
  | error e s' => exact .inr ⟨e, s', bind_of_error (onDevice_error made)⟩
  | ok engine s' =>
    rw [bind_of_ok (onDevice_ok made), get_bind]
    generalize (info.map (fun info => engine.configure info)).getD engine = configured
    cases told : announceIfsd driver.toLink r.ifsd configured s' with
    | error e u => exact .inr ⟨e, u, bind_of_error (onDevice_error told)⟩
    | ok announced u =>
      rw [bind_of_ok (onDevice_ok told)]
      exact .inl ⟨announced, u, rfl⟩

/-- What a reset yielded is kept also if no protocol could be selected. -/
theorem adopt_error {r : Reader} {s : σ} {slot : Slot} (found : r.slots[n]? = some slot) {atr : Atr}
    {e : Error} {w' : Reader × σ} (failed : adopt driver n atr (r, s) = .error e w') :
    w'.1 = r.modifySlot n (Slot.insert atr) := by
  have found' : (r.modifySlot n (Slot.insert atr)).slots[n]? = some (slot.insert atr) :=
    modifySlot_found found _
  cases atr with
  | none => cases failed
  | some bytes =>
    cases parsed : Atr.parse bytes with
    | error e' =>
      have adopts : adopt driver n (some bytes) (r, s) =
          .error e' (r.modifySlot n (Slot.insert (some bytes)), s) := by
        simp only [adopt, parsed]
        rfl
      cases adopts.symm.trans failed
      rfl
    | ok info =>
      have adopts : adopt driver n (some bytes) (r, s) =
          (select driver n (initialProtocol info) (some info) false >>= fun _ =>
            return some bytes : Op σ Atr) (r.modifySlot n (Slot.insert (some bytes)), s) := by
        simp only [adopt, parsed]
        rfl
      rw [adopts] at failed
      rcases select_cases driver found' (initialProtocol info) (some info) false s with
        ⟨engine, s', selected⟩ | ⟨e', s', refused⟩
      · rw [bind_of_ok selected] at failed
        cases failed
      · rw [bind_of_error refused] at failed
        cases failed
        rfl

def restart (driver : Driver σ) (n : Nat) (hook : Action σ Atr) : Op σ Atr := do
  update n Slot.forget
  adopt driver n (← onDevice hook)

/-- A reset that fails has forgotten the card, and stored its answer if there was one. -/
theorem restart_error {r : Reader} {slot : Slot} {hook : Action σ Atr} {s : σ} {e : Error}
    {w : Reader × σ} (found : r.slots[n]? = some slot)
    (failed : restart driver n hook (r, s) = .error e w) :
    (∃ s', hook s = .error e s' ∧ w = (r.modifySlot n Slot.forget, s')) ∨
      ∃ atr s', hook s = .ok atr s' ∧
        adopt driver n atr (r.modifySlot n Slot.forget, s') = .error e w ∧
        w.1 = (r.modifySlot n Slot.forget).modifySlot n (Slot.insert atr) := by
  have forgotten : (update n Slot.forget : Op σ Unit) (r, s) =
      .ok () (r.modifySlot n Slot.forget, s) := rfl
  have found' : (r.modifySlot n Slot.forget).slots[n]? = some slot.forget :=
    modifySlot_found found _
  rw [restart, bind_of_ok forgotten] at failed
  cases reset : hook s with
  | error e' s' =>
    rw [bind_of_error (onDevice_error reset)] at failed
    cases failed
    exact .inl ⟨s', rfl, rfl⟩
  | ok atr s' =>
    rw [bind_of_ok (onDevice_ok reset)] at failed
    exact .inr ⟨atr, s', rfl, failed, adopt_error found' failed⟩

theorem Engineless.of_restart_error {r : Reader} {s : σ} {slot : Slot}
    (found : r.slots[n]? = some slot) {hook : Action σ Atr} {e : Error} {w' : Reader × σ}
    (failed : restart driver n hook (r, s) = .error e w') : Engineless n w' := by
  -- Forgetting takes the engine away, and only a selection would bring one.
  rcases restart_error found failed with ⟨s', -, rfl⟩ | ⟨atr, s', -, -, left⟩
  · exact .modifySlot found rfl
  · have found' : (r.modifySlot n Slot.forget).slots[n]? = some slot.forget :=
      modifySlot_found found _
    exact Engineless.of_reader (.modifySlot (f := Slot.insert atr) (s := s') found' rfl) left

/-- The work of switching a slot to another protocol. -/
def switch (driver : Driver σ) (n : Nat) (protocol : ProtocolId) : Op σ ProtocolId := do
  match (← slot n).atr with
  | none => select driver n protocol none true
  | some bytes =>
    match Atr.parse bytes with
    | .error e => throw e
    | .ok info => select driver n protocol (some info) true

theorem switch_cases (driver : Driver σ) {r : Reader} {slot : Slot}
    (found : r.slots[n]? = some slot) (protocol : ProtocolId) (s : σ) :
    (∃ engine s', switch driver n protocol (r, s) =
        .ok engine.id (r.modifySlot n (Slot.hold (.active engine)), s')) ∨
      ∃ e s', switch driver n protocol (r, s) = .error e (r, s') := by
  unfold switch
  rw [bind_of_ok (slot_ok found s)]
  cases answered : slot.atr with
  | none => exact select_cases driver found protocol none true s
  | some bytes =>
    cases parsed : Atr.parse bytes with
    | error e =>
      simp only [parsed]
      exact .inr ⟨e, s, rfl⟩
    | ok info =>
      simp only [parsed]
      exact select_cases driver found protocol (some info) true s

/-! ## Operations -/

/-- A command that is not carried out is begun in vain, or not begun at all. -/
theorem Engineless.guarded {r : Reader} {s : σ} (dead : Engineless n (r, s)) {command : Op σ α}
    (idle : ∀ v w', Reader.guarded driver.unfollowed command (r, s) ≠ .ok v w')
    (failed : ∀ s' e w', command (r, s') = .error e w' → Engineless n w') :
    Engineless n (after (Reader.guarded driver command) (r, s)) := by
  rcases guarded_reader driver command r s with same | ⟨s', same, carried⟩
  · exact dead.of_reader same
  · cases worked : command (r, s') with
    | ok v w' => exact absurd (carried v w' worked) (idle v w')
    | error e w' =>
      rw [after_of_error worked] at same
      exact (failed s' e w' worked).of_reader same

/-- An operation that looks the slot up and runs a command, but is not carried out. -/
theorem Engineless.perform_command {w : Reader × σ} (dead : Engineless n w) {op : Operation}
    (idle : ¬ CarriedOut driver op w) (command : Op σ α)
    (runs : perform driver op =
      finished (do let _ ← Reader.slot n; Reader.guarded driver command))
    (runs' : perform driver.unfollowed op =
      finished (do let _ ← Reader.slot n; Reader.guarded driver.unfollowed command))
    (failed : ∀ s' e w', command (w.1, s') = .error e w' → Engineless n w') :
    Engineless n (after (perform driver op) w) := by
  obtain ⟨r, s⟩ := w
  obtain ⟨slot, found, -⟩ := id dead
  have opened (d : Driver σ) : (do let _ ← Reader.slot n; Reader.guarded d command) (r, s) =
      Reader.guarded d command (r, s) := bind_of_ok (slot_ok found s)
  have kept : Engineless n (after (Reader.guarded driver command) (r, s)) := by
    refine dead.guarded (fun v w' worked => idle ⟨w', ?_⟩) failed
    rw [runs', finished, bind_of_ok ((opened _).trans worked)]
    rfl
  rw [runs, finished, after_bind_pure, after, opened]
  exact kept

/-- An operation that renews the slot but is not carried out leaves it without an engine. -/
theorem Engineless.perform_idle {w : Reader × σ} (dead : Engineless n w) {op : Operation}
    (renews : op.Renews n) (idle : ¬ CarriedOut driver op w) :
    Engineless n (after (perform driver op) w) := by
  obtain ⟨slot, found, -⟩ := id dead
  cases op with
  | cardReset m =>
    obtain rfl : m = n := renews
    exact dead.perform_command idle (restart driver m (driver.cardReset m)) rfl rfl
      fun _ _ _ failed => .of_restart_error found failed
  | cardRequest m timeout message =>
    obtain rfl : m = n := renews
    exact dead.perform_command idle
      (restart driver m (driver.cardRequest m timeout message)) rfl rfl
      fun _ _ _ failed => .of_restart_error found failed
  | setProtocol m protocol =>
    obtain rfl : m = n := renews
    refine dead.perform_command idle (switch driver m protocol) rfl rfl
      fun s _ _ failed => ?_
    rcases switch_cases driver found protocol s with ⟨_, _, selected⟩ | ⟨_, _, refused⟩
    · rw [selected] at failed
      cases failed
    · rw [refused] at failed
      cases failed
      exact dead.of_reader rfl
  | _ => exact renews.elim

/-- **A slot without an engine stays so** as long as nothing renews it. -/
theorem Engineless.perform {w : Reader × σ} (dead : Engineless n w) {op : Operation}
    (idle : ¬ (op.Renews n ∧ CarriedOut driver op w)) :
    Engineless n (after (Reader.perform driver op) w) := by
  by_cases renews : op.Renews n
  · exact dead.perform_idle renews fun carried => idle ⟨renews, carried⟩
  by_cases exchanges : op.Exchanges n
  · cases op with
    | transceive m command =>
      obtain rfl : m = n := exchanges
      obtain ⟨e, w', dead', refused⟩ := transceive_engineless driver dead command
      have failed : Reader.perform driver (.transceive m command) w = .error e w' :=
        bind_of_error (refused driver rfl rfl)
      rwa [after_of_error failed]
    | _ => exact exchanges.elim
  · -- Reports and forgetting take an engine away, and never give one.
    have path : Path fun slot slot' : Slot => slot.engine? = none → slot'.engine? = none :=
      ⟨fun _ => id, fun first second => second ∘ first⟩
    have observe (slot : Slot) (reported : CardStatus) (engineless : slot.engine? = none) :
        (slot.observe reported).engine? = none := by
      unfold Slot.observe
      split
      · rfl
      · exact engineless
    obtain ⟨slot, found, engineless⟩ := dead
    obtain ⟨slot', found', kept⟩ := perform_moves path driver op (fun _ => observe)
      (fun _ _ _ => rfl) (fun resets => absurd resets.renews renews)
      (fun h => absurd h (not_or.mpr ⟨renews, exchanges⟩)) w slot found
    exact ⟨slot', found', kept engineless⟩

theorem Engineless.leads {w w' : Reader × σ} (dead : Engineless n w)
    (leads : Leads driver (fun u op => ¬ (op.Renews n ∧ CarriedOut driver op u)) w w') :
    Engineless n w' :=
  leads.keeps dead fun _ _ dead idle => dead.perform idle

theorem engaged_of_carriedOut {w : Reader × σ} {slot : Slot} (found : w.1.slots[n]? = some slot)
    {protocol : ProtocolId} (carried : CarriedOut driver (.setProtocol n protocol) w) :
    ∃ engine, (after (perform driver (.setProtocol n protocol)) w).1.slots[n]? =
      some (slot.hold (.active engine)) := by
  obtain ⟨r, s⟩ := w
  obtain ⟨w', carried⟩ := carried
  obtain ⟨p, u, carried, -⟩ := bind_eq_ok carried
  have opened (d : Driver σ) : setProtocol d n protocol (r, s) =
      guarded d (switch d n protocol) (r, s) := bind_of_ok (slot_ok found s)
  obtain ⟨s', began, worked⟩ := guarded_unfollowed ((opened driver.unfollowed).symm.trans carried)
  have performed : after (perform driver (.setProtocol n protocol)) (r, s) =
      after (onDevice driver.afterCommand) (after (switch driver n protocol) (r, s')) := by
    show after (finished (setProtocol driver n protocol)) (r, s) = _
    rw [finished, after_bind_pure, after, opened]
    exact after_guarded began
  rcases switch_cases driver found protocol s' with ⟨engine, t, selected⟩ | ⟨e, t, refused⟩
  · rw [performed, after_of_ok selected, after_onDevice]
    exact ⟨engine, modifySlot_found found _⟩
  · have failed : switch driver n protocol (r, s') = .ok p u := worked
    rw [refused] at failed
    cases failed

/-! ## How long a card stays lost -/

/-- **A lost card stays lost until something renews its slot.** After an exchange that lost the
card, and after any operations of which none has reset the card, requested one or selected a
protocol in that slot: every exchange with the slot fails, and it fails in the same way for all
drivers that do the same before and after a command, so no other hook is called. A protocol that is
selected without a reset revives the slot all the same. -/
theorem lost_until_renewed (driver : Driver σ) {w : Reader × σ} {slot : Slot} {id : ProtocolId}
    (found : w.1.slots[n]? = some slot) (lost : slot.handle = some (.lost id)) :
    (∀ later, Leads driver (fun u op => ¬ (op.Renews n ∧ CarriedOut driver op u)) w later →
      ∀ command, ∃ e w', ∀ any : Driver σ, any.beforeCommand = driver.beforeCommand →
        any.afterCommand = driver.afterCommand → transceive any n command later = .error e w') ∧
    ∀ protocol, CarriedOut driver (.setProtocol n protocol) w →
      ∃ engine, (after (perform driver (.setProtocol n protocol)) w).1.slots[n]? =
        some (slot.hold (.active engine)) := by
  have dead : Engineless n w := ⟨slot, found, by rw [Slot.engine?, lost]; rfl⟩
  refine ⟨fun later leads command => ?_, fun protocol => engaged_of_carriedOut found⟩
  obtain ⟨e, w', -, refused⟩ := transceive_engineless driver (dead.leads leads) command
  exact ⟨e, w', refused⟩

/-- The least reader after it was asked to send a command, which its device cannot. -/
def lostWorld : Reader × Unit :=
  after (perform Minimal.driver (.transceive 0 [0x00, 0xA4, 0x00, 0x00]))
    (after (perform Minimal.driver (.cardReset 0))
      (⟨"Minimal reader", .displayAndKeypad, [.unknown 0x00, .unknown 0x32], none⟩, ()))

def lostSlot : Slot :=
  ⟨0x00, ⟨true, false⟩, some [0x3B, 0x80, 0x80, 0x01, 0x01], some (.lost .t0)⟩

theorem lostWorld_slot : lostWorld.1.slots[0]? = some lostSlot := by
  rfl

/-- Looking at the card and resetting another one does not help. -/
theorem lost_until_renewed_minimal :
    lostWorld.1.slots[0]? = some lostSlot ∧ lostSlot.handle = some (.lost .t0) ∧
      ∃ e w', ∀ any : Driver Unit, any.beforeCommand = pure () → any.afterCommand = pure () →
        transceive any 0 [0x00, 0xA4, 0x00, 0x00]
          (after (perform Minimal.driver (.cardReset 1))
            (after (perform Minimal.driver .poll) lostWorld)) = .error e w' := by
  refine ⟨lostWorld_slot, rfl, ?_⟩
  refine (lost_until_renewed Minimal.driver lostWorld_slot rfl).1 _ (.step (.step .stay ?_) ?_) _
  · exact fun renewed => renewed.1
  · exact fun renewed => absurd (show 1 = 0 from renewed.1) (by decide)

/-- **A selection revives a lost card.** The reader goes on with T=0, although the card was not
reset. -/
theorem revived_by_selection :
    (after (perform Minimal.driver (.setProtocol 0 .t0)) lostWorld).1.slots[0]? =
      some (lostSlot.hold (.active (.t0 (.new 0)))) := by
  rfl

end Reader

end CardTerminal
