import CardTerminal.Driver.Minimal
import CardTerminal.Proofs.Reader.Run

/-!
How a card session ends with its card.

The device tells of cards when a slot is queried, when all slots are polled and when it has events,
and the reader takes over what it tells (`Reported`). News of a card, or its ejection, ends the
session with it: the slot is blank (`Slot.Blank`), and stays so until it is renewed. Nothing can be
exchanged over a blank slot, and no driver is asked to.

Main statement: `session_ends_with_card`.
-/

namespace CardTerminal

open CardTerminal.Action

namespace Slot

/-- Nothing is known of the card, and there is no way to talk to it. -/
def Blank (slot : Slot) : Prop :=
  slot.atr = none ∧ slot.handle = none

theorem blank_forget (slot : Slot) : slot.forget.Blank :=
  ⟨rfl, rfl⟩

theorem blank_observe_of_isNews {slot : Slot} {reported : CardStatus}
    (news : slot.isNews reported = true) : (slot.observe reported).Blank := by
  rw [observe, if_pos news]
  exact ⟨rfl, rfl⟩

theorem Blank.observe {slot : Slot} (blank : slot.Blank) (reported : CardStatus) :
    (slot.observe reported).Blank := by
  unfold Slot.observe
  split
  · exact ⟨rfl, rfl⟩
  · exact blank

theorem Blank.path : Path fun slot slot' : Slot => slot.Blank → slot'.Blank :=
  ⟨fun _ => id, fun first second => second ∘ first⟩

end Slot

namespace Reader

variable {σ : Type} {driver : Driver σ} {n : Nat} {reported : CardStatus}

/-- Slot `n` is there, and blank. -/
def Vacant (n : Nat) (w : Reader × σ) : Prop :=
  ∃ slot, w.1.slots[n]? = some slot ∧ slot.Blank

/-! ## Reports -/

/-- Asked about slot `n`, the device reports this status. -/
def Queried (driver : Driver σ) (n : Nat) (reported : CardStatus) (w : Reader × σ) : Prop :=
  ∃ s s', driver.beforeCommand w.2 = .ok () s ∧ driver.cardStatus n s = .ok reported s'

/-- Asked about these slots in turn, the device reports this status when it is the turn of slot `n`.
Only a device that is gone ends the round before that. -/
inductive Polled (driver : Driver σ) (n : Nat) (reported : CardStatus) :
    List Nat → Reader × σ → Prop where
  | now {rest : List Nat} {w : Reader × σ} (queried : Queried driver n reported w) :
      Polled driver n reported (n :: rest) w
  | later {m : Nat} {rest : List Nat} {w : Reader × σ} (other : m ≠ n)
      (connected : ∀ w', cardStatus driver m w ≠ .error .deviceDisconnected w')
      (polled : Polled driver n reported rest (after (cardStatus driver m) w)) :
      Polled driver n reported (m :: rest) w

/-- In this operation the device reports a status of slot `n`, and the reader takes it over. -/
def Reported (driver : Driver σ) (n : Nat) (reported : CardStatus) (w : Reader × σ) :
    Operation → Prop
  | .cardStatus m => m = n ∧ Queried driver n reported w
  | .poll => ∃ s, driver.isPresent w.2 = (true, s) ∧
      Polled driver n reported (List.range w.1.slots.length) (w.1, s)
  | .handleEvent => ∃ reports s, driver.event w.1.statuses w.2 = .ok reports s ∧
      reports[n]? = some reported
  | _ => False

/-- A status that is asked for is observed, whatever the driver says after the command. -/
theorem cardStatus_of_queried {w : Reader × σ} {slot : Slot} (found : w.1.slots[n]? = some slot)
    (queried : Queried driver n reported w) :
    (after (cardStatus driver n) w).1.slots[n]? = some (slot.observe reported) := by
  obtain ⟨r, s⟩ := w
  obtain ⟨s', s'', began, asked⟩ := queried
  rw [after, cardStatus, bind_of_ok (slot_ok found s), ← after, after_guarded (onDevice_ok began),
    after_of_ok (query_ok found asked), after_onDevice, getElem?_modifySlot,
    show r.slots[n]? = some slot from found]
  rfl

theorem Vacant.pollSlots {w : Reader × σ} (vacant : Vacant n w) (numbers : List Nat) :
    Vacant n (after (pollSlots driver numbers) w) := by
  obtain ⟨slot, found, blank⟩ := vacant
  have kept : Moves (At n fun slot slot' => slot.Blank → slot'.Blank)
      (Reader.pollSlots driver numbers) :=
    pollSlots_along (At.way Slot.Blank.path)
      (fun m reported => At.changes Slot.Blank.path fun _ _ blank => blank.observe reported) numbers
  obtain ⟨slot', found', kept⟩ := kept w slot found
  exact ⟨slot', found', kept blank⟩

theorem after_pollSlots_cons {m : Nat} {w : Reader × σ}
    (connected : ∀ w', cardStatus driver m w ≠ .error .deviceDisconnected w') (rest : List Nat) :
    after (pollSlots driver (m :: rest)) w =
      after (pollSlots driver rest) (after (cardStatus driver m) w) := by
  cases asked : cardStatus driver m w with
  | ok status w' =>
    simp only [after, Reader.pollSlots, asked, left]
    cases Reader.pollSlots driver rest w' <;> rfl
  | error e w' =>
    have other : e ≠ .deviceDisconnected := fun gone => connected w' (gone ▸ asked)
    simp only [after, Reader.pollSlots, asked, left]

theorem vacant_of_polled {numbers : List Nat} {w : Reader × σ} {slot : Slot}
    (polled : Polled driver n reported numbers w) (found : w.1.slots[n]? = some slot)
    (news : slot.isNews reported = true) : Vacant n (after (pollSlots driver numbers) w) := by
  induction polled with
  | @now rest w queried =>
    have vacant : Vacant n (after (cardStatus driver n) w) :=
      ⟨_, cardStatus_of_queried found queried, Slot.blank_observe_of_isNews news⟩
    by_cases connected : ∀ w', cardStatus driver n w ≠ .error .deviceDisconnected w'
    · rw [after_pollSlots_cons connected]
      exact vacant.pollSlots rest
    · -- The round ends here, but the report was taken over.
      obtain ⟨w', asked⟩ := Classical.not_forall_not.mp connected
      have ended : pollSlots driver (n :: rest) w = .error .deviceDisconnected w' := by
        simp only [Reader.pollSlots, asked]
      rw [after_of_error ended, ← after_of_error asked]
      exact vacant
  | @later m rest w other connected _ ih =>
    rw [after_pollSlots_cons connected]
    have elsewhere : Moves (At n Eq) (cardStatus driver m) :=
      cardStatus_along (At.way ⟨fun _ => rfl, Eq.trans⟩) fun _ =>
        At.changes ⟨fun _ => rfl, Eq.trans⟩ fun same => absurd same other
    obtain ⟨slot', found', rfl⟩ := elsewhere w slot found
    exact ih found'

/-- **News of a card leaves its slot blank**, whichever way they come. -/
theorem vacant_of_reported {w : Reader × σ} {slot : Slot} {op : Operation}
    (found : w.1.slots[n]? = some slot) (told : Reported driver n reported w op)
    (news : slot.isNews reported = true) : Vacant n (after (perform driver op) w) := by
  obtain ⟨r, s⟩ := w
  cases op with
  | cardStatus m =>
    obtain ⟨rfl, queried⟩ := told
    have performed : after (perform driver (.cardStatus m)) (r, s) =
        after (cardStatus driver m) (r, s) := after_bind_pure _ _ _
    rw [performed]
    exact ⟨_, cardStatus_of_queried found queried, Slot.blank_observe_of_isNews news⟩
  | poll =>
    obtain ⟨s', present, polled⟩ := told
    have performed : after (perform driver .poll) (r, s) = after (poll driver) (r, s) :=
      after_bind_pure _ _ _
    have round : after (poll driver) (r, s) =
        after (pollSlots driver (List.range r.slots.length)) (r, s') := by
      simp only [after, poll]
      rw [show driver.isPresent s = (true, s') from present]
    rw [performed, round]
    exact vacant_of_polled polled found news
  | handleEvent =>
    obtain ⟨reports, s', happened, told⟩ := told
    have performed : after (perform driver .handleEvent) (r, s) =
        ({ r with slots := observeAll r.slots reports }, s') := by
      rw [show after (perform driver .handleEvent) (r, s) = after (handleEvent driver) (r, s) from
        after_bind_pure _ _ _]
      simp only [after, handleEvent_eq, show driver.event r.statuses s = _ from happened, left]
    rw [performed]
    refine ⟨slot.observe reported, ?_, Slot.blank_observe_of_isNews news⟩
    exact (getElem?_observeAll r.slots reports n).trans (by
      rw [show r.slots[n]? = some slot from found, told]
      rfl)
  | _ => exact told.elim

/-! ## Ejection -/

theorem vacant_of_ejected {w w' : Reader × σ} {timeout : Nat} {message : Option String}
    (ejected : cardEject driver n timeout message w = .ok () w') : Vacant n w' := by
  obtain ⟨r, s⟩ := w
  obtain ⟨slot, t, looked, done⟩ := bind_eq_ok ejected
  obtain ⟨found, rfl⟩ := slot_eq_ok looked
  obtain ⟨s', u, -, worked, rfl⟩ := guarded_eq_ok done
  obtain ⟨_, t, gone, forgot⟩ := bind_eq_ok worked
  have same : t.1 = r := by
    rw [← after_of_ok gone, after_onDevice]
  obtain ⟨r', s''⟩ := t
  obtain rfl : r' = r := same
  obtain rfl : (r'.modifySlot n Slot.forget, s'') = u := by
    injection forgot
  rw [after_onDevice]
  exact ⟨slot.forget, modifySlot_found found _, slot.blank_forget⟩

/-! ## Blank slots -/

theorem Vacant.leads {w later : Reader × σ} (vacant : Vacant n w)
    (leads : Leads driver (fun _ op => ¬ op.Renews n) w later) : Vacant n later := by
  refine leads.keeps vacant fun u op vacant stays => ?_
  by_cases exchanges : op.Exchanges n
  · -- An exchange would put the handle back that it used, and there is none.
    cases op with
    | transceive m command =>
      obtain rfl : m = n := exchanges
      obtain ⟨r, s⟩ := u
      obtain ⟨slot, found, blank⟩ := vacant
      have opened : transceive driver m command (r, s) = _ := bind_of_ok (slot_ok found s)
      rw [show after (perform driver (.transceive m command)) (r, s) =
        after (transceive driver m command) (r, s) from after_bind_pure _ _ _, after, opened]
      refine ⟨slot, ?_, blank⟩
      rw [blank.2]
      cases slot.status.present <;> exact found
    | _ => exact exchanges.elim
  · obtain ⟨slot, found, blank⟩ := vacant
    obtain ⟨slot', found', kept⟩ := perform_moves Slot.Blank.path driver op
      (fun _ _ reported blank => blank.observe reported) (fun _ slot _ => slot.blank_forget)
      (fun resets => absurd resets.renews stays)
      (fun h => absurd h (not_or.mpr ⟨stays, exchanges⟩)) u slot found
    exact ⟨slot', found', kept blank⟩

theorem Vacant.refuses {w : Reader × σ} (vacant : Vacant n w) :
    ∃ e, (e = .noCard ∨ e = .notConnected) ∧ ∀ any : Driver σ,
      (∀ command, transceive any n command w = .error e w) ∧
      (∀ address length, readMemory any n address length w = .error e w) ∧
      ∀ address bytes, writeMemory any n address bytes w = .error e w := by
  obtain ⟨r, s⟩ := w
  obtain ⟨slot, found, atr, handle⟩ := vacant
  have kind : (memoryKind n : Op σ MemoryKind) (r, s) =
      .error (if slot.status.present then .notConnected else .noCard) (r, s) := by
    unfold memoryKind
    rw [bind_of_ok (slot_ok found s), handle]
    rfl
  refine ⟨if slot.status.present then .notConnected else .noCard, ?_, fun any => ⟨?_, ?_, ?_⟩⟩
  · cases slot.status.present
    · exact .inl rfl
    · exact .inr rfl
  · intro command
    have opened : transceive any n command (r, s) = _ := bind_of_ok (slot_ok found s)
    rw [opened, handle]
    cases slot.status.present <;> rfl
  · exact fun address length => bind_of_error kind
  · exact fun address bytes => bind_of_error kind

/-! ## Sessions -/

/-- The operation ends the session with the card in slot `n`: it brings news of the card, or ejects
it. -/
def EndsSession (driver : Driver σ) (n : Nat) (w : Reader × σ) (op : Operation) : Prop :=
  (∃ slot reported, w.1.slots[n]? = some slot ∧ Reported driver n reported w op ∧
      slot.isNews reported = true) ∨
    ∃ timeout message w', op = .cardEject n timeout message ∧
      cardEject driver n timeout message w = .ok () w'

theorem EndsSession.vacant {w : Reader × σ} {op : Operation} (ends : EndsSession driver n w op) :
    Vacant n (after (perform driver op) w) := by
  rcases ends with ⟨slot, reported, found, told, news⟩ | ⟨timeout, message, w', rfl, ejected⟩
  · exact vacant_of_reported found told news
  · have performed : after (perform driver (.cardEject n timeout message)) w =
        after (cardEject driver n timeout message) w := after_bind_pure _ _ _
    rw [performed, after_of_ok ejected]
    exact vacant_of_ejected ejected

/-- A slot is renewed for the first time, or not at all. -/
theorem Leads.renewal {w later : Reader × σ} (leads : Leads driver (fun _ _ => True) w later) :
    Leads driver (fun _ op => ¬ op.Renews n) w later ∨
      ∃ u op, Leads driver (fun _ op => ¬ op.Renews n) w u ∧ op.Renews n ∧
        Leads driver (fun _ _ => True) (after (perform driver op) u) later := by
  induction leads with
  | stay => exact .inl .stay
  | @step w' op _ _ ih =>
    rcases ih with quiet | ⟨u, first, quiet, renews, onward⟩
    · by_cases renews : op.Renews n
      · exact .inr ⟨w', op, quiet, renews, .stay⟩
      · exact .inl (.step quiet renews)
    · exact .inr ⟨u, first, quiet, renews, .step onward trivial⟩

/-- **A card session ends with its card.** After news of a card, or its ejection, and until the slot
is renewed by a reset, a request for a card or a selection of a protocol, whatever is done with the
reader: nothing is known of the card, and every exchange with the slot and every access to its
memory fails as for a slot without card or without connection. It fails in the same way for all
drivers and changes nothing, so no hook is called. A handle that the slot holds at any later time
has been put there by such a renewal or since, and at the renewal the slot was blank. -/
theorem session_ends_with_card (driver : Driver σ) {w : Reader × σ} {op : Operation}
    (ends : EndsSession driver n w op) :
    let gone := after (perform driver op) w
    (∀ later, Leads driver (fun _ op => ¬ op.Renews n) gone later →
      (∃ slot, later.1.slots[n]? = some slot ∧ slot.atr = none ∧ slot.handle = none) ∧
      ∃ e, (e = .noCard ∨ e = .notConnected) ∧ ∀ any : Driver σ,
        (∀ command, transceive any n command later = .error e later) ∧
        (∀ address length, readMemory any n address length later = .error e later) ∧
        ∀ address bytes, writeMemory any n address bytes later = .error e later) ∧
    ∀ later slot handle, Leads driver (fun _ _ => True) gone later →
      later.1.slots[n]? = some slot → slot.handle = some handle →
      ∃ u renewal blank, Leads driver (fun _ op => ¬ op.Renews n) gone u ∧
        u.1.slots[n]? = some blank ∧ blank.handle = none ∧ renewal.Renews n ∧
        Leads driver (fun _ _ => True) (after (perform driver renewal) u) later := by
  intro gone
  have vacant : Vacant n gone := ends.vacant
  refine ⟨fun later quiet => ?_, fun later slot handle leads found held => ?_⟩
  · exact ⟨vacant.leads quiet, (vacant.leads quiet).refuses⟩
  · rcases Leads.renewal (n := n) leads with quiet | ⟨u, renewal, quiet, renews, onward⟩
    · obtain ⟨slot', found', -, none⟩ := vacant.leads quiet
      cases found.symm.trans found'
      cases held.symm.trans none
    · obtain ⟨blank, found', -, none⟩ := vacant.leads quiet
      exact ⟨u, renewal, blank, quiet, found', none, renews, onward⟩

/-- The least driver, with cards that are changed all the time. -/
def shuffling : Driver Unit :=
  { Minimal.driver with cardStatus := fun _ => pure ⟨true, true⟩ }

/-- Its reader, with the card in the first slot reset. -/
def dealtWorld : Reader × Unit :=
  after (perform shuffling (.cardReset 0))
    (after (perform shuffling .poll)
      (⟨"Minimal reader", .displayAndKeypad, [.unknown 0x00, .unknown 0x32], none⟩, ()))

/-- The next poll finds another card, and resetting the card in the other slot does not help. -/
theorem session_ends_with_card_shuffled :
    (∃ slot, dealtWorld.1.slots[0]? = some slot ∧ slot.handle.isSome) ∧
      EndsSession shuffling 0 dealtWorld .poll ∧
      ∃ e, ∀ any : Driver Unit, ∀ command,
        transceive any 0 command (after (perform shuffling (.cardReset 1))
          (after (perform shuffling .poll) dealtWorld)) =
        .error e (after (perform shuffling (.cardReset 1))
          (after (perform shuffling .poll) dealtWorld)) := by
  have ends : EndsSession shuffling 0 dealtWorld .poll :=
    .inl ⟨_, ⟨true, true⟩, rfl, ⟨(), rfl, .now ⟨(), (), rfl, rfl⟩⟩, rfl⟩
  have quiet : Leads shuffling (fun _ op => ¬ op.Renews 0)
      (after (perform shuffling .poll) dealtWorld)
      (after (perform shuffling (.cardReset 1)) (after (perform shuffling .poll) dealtWorld)) :=
    .step .stay fun same : 1 = 0 => Nat.one_ne_zero same
  obtain ⟨e, -, refused⟩ := ((session_ends_with_card shuffling ends).1 _ quiet).2
  exact ⟨⟨_, rfl, rfl⟩, ends, e, fun any command => (refused any).1 command⟩

end Reader

end CardTerminal
