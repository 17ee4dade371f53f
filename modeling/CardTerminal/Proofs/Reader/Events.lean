import CardTerminal.Driver.Minimal
import CardTerminal.Proofs.Reader.Run

/-!
What an event leaves of the slots that it is not about.

The device is shown the status of every slot and says what they are now, and what it says is
observed as a report about every slot. A slot whose entry comes back as it was given is told its own
status again. If the last report had told of a change, that status still says so, and the slot takes
it for another change: the card is forgotten, even one that was reset in between
(`forgotten_without_news`). A slot whose last report told of none is left alone by any number of
events about others.

Main statement: `event_about_others`.
-/

namespace CardTerminal

open CardTerminal.Action

/-- A slot that is told its own status forgets its card if the status tells of a change. -/
theorem Slot.observe_own (slot : Slot) :
    slot.observe slot.status = if slot.status.changed then slot.forget else slot := by
  obtain ⟨dad, ⟨present, changed⟩, atr, handle⟩ := slot
  cases changed <;> simp [observe, isNews, forget]

namespace Reader

variable {σ : Type} {driver : Driver σ} {n : Nat}

/-- The device's events are not about slot `n`: its entry comes back as it was given. -/
def Spares (driver : Driver σ) (n : Nat) (w : Reader × σ) : Prop :=
  ∀ reports s', driver.event w.1.statuses w.2 = .ok reports s' → reports[n]? = w.1.statuses[n]?

/-- The device says what has happened. -/
def Answers (driver : Driver σ) (w : Reader × σ) : Prop :=
  ∃ reports s', driver.event w.1.statuses w.2 = .ok reports s'

/-- Nothing is reported about slot `n`, or just what is known of it. -/
def NoNews (driver : Driver σ) (n : Nat) (w : Reader × σ) (op : Operation) : Prop :=
  op.Reports n → op = .handleEvent ∧ Spares driver n w

/-- Nothing is done to slot `n`, except that it is told its own status. -/
def LeftAlone (driver : Driver σ) (n : Nat) (w : Reader × σ) (op : Operation) : Prop :=
  op.Touches n → op = .handleEvent ∧ Spares driver n w

theorem after_handleEvent (w : Reader × σ) :
    after (perform driver .handleEvent) w = after (handleEvent driver) w :=
  after_bind_pure _ _ _

/-- Events about other slots tell a slot its own status. -/
theorem handleEvent_of_answers {w : Reader × σ} {slot : Slot} (found : w.1.slots[n]? = some slot)
    (spares : Spares driver n w) (answers : Answers driver w) :
    (after (perform driver .handleEvent) w).1.slots[n]? = some (slot.observe slot.status) := by
  obtain ⟨r, s⟩ := w
  obtain ⟨reports, s', reported⟩ := answers
  have own : reports[n]? = some slot.status := by
    rw [spares reports s' reported, statuses, List.getElem?_map, found]
    rfl
  rw [after_handleEvent]
  simp only [after, handleEvent_eq, reported]
  exact (getElem?_observeAll r.slots reports n).trans (by rw [found, own]; rfl)

theorem handleEvent_of_not_answers {w : Reader × σ} (silent : ¬ Answers driver w) :
    (after (perform driver .handleEvent) w).1 = w.1 := by
  obtain ⟨r, s⟩ := w
  rw [after_handleEvent]
  simp only [after, handleEvent_eq]
  cases reported : driver.event r.statuses s with
  | ok reports s' => exact absurd ⟨reports, s', reported⟩ silent
  | error e s' => rfl

/-- **What an event about others does to a slot**: nothing, or the card is forgotten. -/
theorem handleEvent_spared {w : Reader × σ} {slot : Slot} (found : w.1.slots[n]? = some slot)
    (spares : Spares driver n w) :
    (slot.status.changed = true ∧ Answers driver w →
      (after (perform driver .handleEvent) w).1.slots[n]? = some slot.forget) ∧
    (slot.status.changed = false ∨ ¬ Answers driver w →
      (after (perform driver .handleEvent) w).1.slots[n]? = some slot) := by
  refine ⟨fun ⟨changed, answers⟩ => ?_, fun calm => ?_⟩
  · rw [handleEvent_of_answers found spares answers, Slot.observe_own, if_pos changed]
  · by_cases answers : Answers driver w
    · have calm : slot.status.changed = false := calm.resolve_right fun silent => silent answers
      rw [handleEvent_of_answers found spares answers, Slot.observe_own, calm]
      rfl
    · rw [handleEvent_of_not_answers answers, found]

/-! ## Runs -/

/-- A slot whose last report told of no change stays as it is while it is left alone. -/
theorem LeftAlone.leads {w later : Reader × σ} {slot : Slot} (found : w.1.slots[n]? = some slot)
    (calm : slot.status.changed = false) (leads : Leads driver (LeftAlone driver n) w later) :
    later.1.slots[n]? = some slot := by
  refine leads.keeps (P := fun u => u.1.slots[n]? = some slot) found fun u op found alone => ?_
  by_cases touches : op.Touches n
  · obtain ⟨rfl, spares⟩ := alone touches
    exact (handleEvent_spared found spares).2 (.inl calm)
  · exact (perform_elsewhere driver touches u).trans found

/-- Without news, a slot goes on saying whether the last report told of a change. -/
theorem NoNews.leads {w later : Reader × σ} {slot : Slot} (found : w.1.slots[n]? = some slot)
    (leads : Leads driver (NoNews driver n) w later) :
    ∃ slot', later.1.slots[n]? = some slot' ∧ slot'.status.changed = slot.status.changed := by
  have path : Path fun slot slot' : Slot => slot'.status.changed = slot.status.changed :=
    ⟨fun _ => rfl, fun first second => second.trans first⟩
  refine leads.keeps (P := fun u => ∃ slot', u.1.slots[n]? = some slot' ∧
    slot'.status.changed = slot.status.changed) ⟨slot, found, rfl⟩ ?_
  rintro u op ⟨slot', found', same⟩ quiet
  -- Nothing but a report sets or clears the flag; to forget the card does not.
  by_cases reports : op.Reports n
  · obtain ⟨rfl, spares⟩ := quiet reports
    obtain ⟨dropped, left⟩ := handleEvent_spared found' spares
    by_cases news : slot'.status.changed = true ∧ Answers driver u
    · exact ⟨slot'.forget, dropped news, same⟩
    · refine ⟨slot', left ?_, same⟩
      rwa [Classical.not_and_iff_not_or_not, Bool.not_eq_true] at news
  · obtain ⟨slot'', found'', same'⟩ := perform_moves path driver op
      (fun h => absurd h reports) (fun _ _ => rfl) (fun _ _ _ => rfl) (fun _ _ _ => rfl)
      u slot' found'
    exact ⟨slot'', found'', same'.trans same⟩

/-- **Events about other slots** leave the whole slot alone, any number of them, if the last report
about it told of no change. Whether it did is all that counts: whatever is done to the slot since
then without a report about it, the next event about others leaves it as much of a card as there
was, but leaves what is known of the card just if the last report told of no change, or nothing is
known, or the device fails to say what has happened. -/
theorem event_about_others (driver : Driver σ) {w : Reader × σ} {slot : Slot}
    (found : w.1.slots[n]? = some slot) :
    (slot.status.changed = false →
      ∀ later, Leads driver (LeftAlone driver n) w later → later.1.slots[n]? = some slot) ∧
    ∀ later, Leads driver (NoNews driver n) w later → Spares driver n later →
      ∃ before next, later.1.slots[n]? = some before ∧
        (after (perform driver .handleEvent) later).1.slots[n]? = some next ∧
        next.status.present = before.status.present ∧
        (next.atr = before.atr ∧ next.handle = before.handle ↔
          slot.status.changed = false ∨ before.atr = none ∧ before.handle = none ∨
            ¬ Answers driver later) := by
  refine ⟨fun calm later leads => LeftAlone.leads found calm leads, fun later leads spares => ?_⟩
  obtain ⟨before, found', same⟩ := NoNews.leads found leads
  obtain ⟨dropped, left⟩ := handleEvent_spared found' spares
  rw [← same]
  by_cases news : before.status.changed = true ∧ Answers driver later
  · refine ⟨before, before.forget, found', dropped news, rfl, ?_⟩
    simp [Slot.forget, news.1, news.2, eq_comm]
  · have calm : before.status.changed = false ∨ ¬ Answers driver later := by
      rwa [Classical.not_and_iff_not_or_not, Bool.not_eq_true] at news
    refine ⟨before, before, found', left calm, rfl, fun _ => ?_, fun _ => ⟨rfl, rfl⟩⟩
    exact calm.imp_right .inr

/-- The least driver, with a card that is changed in the second slot all the time. -/
def restless : Driver Unit :=
  { Minimal.driver with event := fun statuses => pure (statuses.set 1 ⟨true, true⟩) }

theorem restless_spares (w : Reader × Unit) : Spares restless 0 w := by
  intro reports s' reported
  obtain rfl : w.1.statuses.set 1 ⟨true, true⟩ = reports := by
    injection reported
  simp

/-- Its reader after the first poll has found the cards, and the one in the first slot was reset. -/
def noticedWorld : Reader × Unit :=
  after (perform restless (.cardReset 0))
    (after (perform restless .poll)
      (⟨"Minimal reader", .displayAndKeypad, [.unknown 0x00, .unknown 0x32], none⟩, ()))

/-- The first slot, with the card that was reset. -/
def resetSlot (changed : Bool) : Slot :=
  ⟨0x00, ⟨true, changed⟩, some [0x3B, 0x80, 0x80, 0x01, 0x01], some (.active (.t0 (.new 0)))⟩

/-- Once another poll has seen no change, the card outlasts the events in the other slot. -/
theorem event_about_others_restless :
    (after (perform restless .poll) noticedWorld).1.slots[0]? = some (resetSlot false) ∧
      (after (perform restless .handleEvent) (after (perform restless .handleEvent)
        (after (perform restless .poll) noticedWorld))).1.slots[0]? = some (resetSlot false) := by
  have found : (after (perform restless .poll) noticedWorld).1.slots[0]? =
      some (resetSlot false) := by rfl
  refine ⟨found, (event_about_others restless found).1 rfl _ (.step (.step .stay ?_) ?_)⟩
  · exact fun _ => ⟨rfl, restless_spares _⟩
  · exact fun _ => ⟨rfl, restless_spares _⟩

/-- **A card is forgotten without news of it.** It was reset after the poll that found it, and an
event in the other slot takes it away. -/
theorem forgotten_without_news :
    noticedWorld.1.slots[0]? = some (resetSlot true) ∧ Spares restless 0 noticedWorld ∧
      (after (perform restless .handleEvent) noticedWorld).1.slots[0]? =
        some (resetSlot true).forget :=
  ⟨by rfl, restless_spares _, by rfl⟩

end Reader

end CardTerminal
