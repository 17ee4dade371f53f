import CardTerminal.Proofs.Action
import CardTerminal.Reader

/-!
How the parts of a reader's operations run.

Operations look slots up, work with the device and change slots, between what the driver does before
and after a command. Each part has one law about its result, so that operations can be followed
step by step.
-/

namespace CardTerminal.Reader

open CardTerminal.Action

variable {σ α : Type} {r : Reader} {s s' : σ} {n : Nat}

theorem slot_ok {slot : Slot} (found : r.slots[n]? = some slot) (s : σ) :
    (Reader.slot n : Op σ Slot) (r, s) = .ok slot (r, s) := by
  simp only [Reader.slot, found]

theorem slot_error (missing : r.slots[n]? = none) (s : σ) :
    (Reader.slot n : Op σ Slot) (r, s) = .error .invalidSlot (r, s) := by
  simp only [Reader.slot, missing]

theorem slot_eq_ok {slot : Slot} {w : Reader × σ}
    (looked : (Reader.slot n : Op σ Slot) (r, s) = .ok slot w) :
    r.slots[n]? = some slot ∧ w = (r, s) := by
  cases found : r.slots[n]? with
  | some known =>
    rw [slot_ok found s] at looked
    cases looked
    exact ⟨rfl, rfl⟩
  | none =>
    rw [slot_error found s] at looked
    cases looked

theorem onDevice_ok {action : Action σ α} {v : α} (h : action s = .ok v s') :
    onDevice action (r, s) = .ok v (r, s') := by
  simp only [onDevice, h]

theorem onDevice_error {action : Action σ α} {e : Error} (h : action s = .error e s') :
    onDevice action (r, s) = .error e (r, s') := by
  simp only [onDevice, h]

theorem after_onDevice (action : Action σ α) (r : Reader) (s : σ) :
    after (onDevice action) (r, s) = (r, after action s) := by
  simp only [after, onDevice]
  cases action s <;> rfl

theorem getElem?_modifySlot (r : Reader) (n : Nat) (f : Slot → Slot) :
    (r.modifySlot n f).slots[n]? = r.slots[n]?.map f := by
  simp [modifySlot]

theorem modifySlot_found {slot : Slot} (found : r.slots[n]? = some slot) (f : Slot → Slot) :
    (r.modifySlot n f).slots[n]? = some (f slot) := by
  rw [getElem?_modifySlot, found]
  rfl

/-! ## Commands -/

section

variable {driver : Driver σ} {w w' : Reader × σ}

/-- However a command ends, what is left of it is what the driver leaves after it. -/
theorem left_conclude (driver : Driver σ) (ended : EStateM.Result Error (Reader × σ) α) :
    left (conclude driver ended) = after (onDevice driver.afterCommand) (left ended) := by
  cases ended with
  | ok v u => cases h : onDevice driver.afterCommand u <;> simp only [conclude, after, left, h]
  | error e u => cases h : onDevice driver.afterCommand u <;> simp only [conclude, after, left, h]

/-- A command that was begun is followed by what the driver does after it. -/
theorem after_guarded {command : Op σ α} (began : onDevice driver.beforeCommand w = .ok () w') :
    after (guarded driver command) w =
      after (onDevice driver.afterCommand) (after command w') := by
  rw [after, guarded, began]
  exact left_conclude driver (command w')

theorem guarded_of_error {command : Op σ α} {e : Error}
    (failed : onDevice driver.beforeCommand w = .error e w') :
    guarded driver command w = .error e w' := by
  simp only [guarded, failed]

theorem guarded_of_ok {command : Op σ α} {v : α} {r' : Reader} {t t' : σ}
    (began : driver.beforeCommand s = .ok () s') (worked : command (r, s') = .ok v (r', t))
    (ended : driver.afterCommand t = .ok () t') :
    guarded driver command (r, s) = .ok v (r', t') := by
  simp only [guarded, conclude, onDevice_ok began, worked, onDevice_ok ended]

/-- A command that succeeds was begun and did its work, and the driver has heard of its end. -/
theorem guarded_eq_ok {command : Op σ α} {v : α} (done : guarded driver command (r, s) = .ok v w) :
    ∃ s' u, driver.beforeCommand s = .ok () s' ∧ command (r, s') = .ok v u ∧
      w = after (onDevice driver.afterCommand) u := by
  cases began : driver.beforeCommand s with
  | error e s' =>
    rw [guarded_of_error (onDevice_error began)] at done
    cases done
  | ok u s' =>
    have ended := after_of_ok done
    rw [after_guarded (onDevice_ok began)] at ended
    cases worked : command (r, s') with
    | ok v' u =>
      rw [after_of_ok worked] at ended
      simp only [guarded, conclude, onDevice_ok began, worked] at done
      split at done <;> cases done
      exact ⟨s', u, rfl, worked, ended.symm⟩
    | error e u =>
      simp only [guarded, conclude, onDevice_ok began, worked] at done
      split at done <;> cases done

theorem awaited_of_error {command : Op σ (Option α)} {e : Error}
    (failed : onDevice driver.beforeCommand w = .error e w') :
    awaited driver command w = .error e w' := by
  simp only [awaited, failed]

theorem awaited_of_none {command : Op σ (Option α)} {u : Reader × σ}
    (began : onDevice driver.beforeCommand w = .ok () w') (unended : command w' = .ok none u) :
    awaited driver command w = .ok none u := by
  simp only [awaited, began, unended]

theorem awaited_of_ended {command : Op σ (Option α)}
    (began : onDevice driver.beforeCommand w = .ok () w') (ended : ∀ u, command w' ≠ .ok none u) :
    awaited driver command w = conclude driver (command w') := by
  simp only [awaited, began]

/-- A command that may go on for ever is not over yet, or it is a command like all others. -/
theorem awaited_cases (driver : Driver σ) (command : Op σ (Option α)) (w : Reader × σ) :
    (∃ w' u, onDevice driver.beforeCommand w = .ok () w' ∧ command w' = .ok none u ∧
        awaited driver command w = .ok none u) ∨
      awaited driver command w = guarded driver command w ∧
        ∀ w' u, onDevice driver.beforeCommand w = .ok () w' → command w' ≠ .ok none u := by
  cases began : onDevice driver.beforeCommand w with
  | error e w' =>
    exact .inr ⟨(awaited_of_error began).trans (guarded_of_error began).symm, nofun⟩
  | ok v w' =>
    by_cases goesOn : ∃ u, command w' = .ok none u
    · obtain ⟨u, unended⟩ := goesOn
      exact .inl ⟨w', u, rfl, unended, awaited_of_none began unended⟩
    · have ended : ∀ u, command w' ≠ .ok none u := fun u unended => goesOn ⟨u, unended⟩
      refine .inr ⟨?_, by rintro _ u ⟨⟩; exact ended u⟩
      rw [awaited_of_ended began ended, guarded, began]

/-- A command that was begun is left as it is then, or as the driver leaves it after its end. -/
theorem after_awaited (driver : Driver σ) (command : Op σ (Option α)) (w : Reader × σ) :
    (∃ w', onDevice driver.beforeCommand w = .ok () w' ∧
        after (awaited driver command) w = after command w') ∨
      after (awaited driver command) w = after (guarded driver command) w := by
  rcases awaited_cases driver command w with ⟨w', u, began, unended, same⟩ | ⟨same, -⟩
  · exact .inl ⟨w', began, (after_of_ok same).trans (after_of_ok unended).symm⟩
  · exact .inr (congrArg left same)

/-- A command that has not failed was begun, and its work has not failed. -/
theorem awaited_eq_ok {command : Op σ (Option α)} {v : Option α}
    (done : awaited driver command (r, s) = .ok v w) :
    ∃ s' u, driver.beforeCommand s = .ok () s' ∧ command (r, s') = .ok v u := by
  rcases awaited_cases driver command (r, s) with ⟨w', u, began, unended, same⟩ | ⟨same, -⟩
  · cases begun : driver.beforeCommand s with
    | error e s' => cases (onDevice_error begun).symm.trans began
    | ok _ s' =>
      cases (onDevice_ok begun).symm.trans began
      cases same.symm.trans done
      exact ⟨s', _, rfl, unended⟩
  · obtain ⟨s', u, began, worked, -⟩ := guarded_eq_ok (same.symm.trans done)
    exact ⟨s', u, began, worked⟩

end

/-- Whatever an exchange comes to, the handle that it leaves is put into the slot. -/
theorem after_exchange (driver : Driver σ) (n : Nat) (command : Bytes) (handle : Handle)
    (r : Reader) (s : σ) : after (exchange driver n command handle) (r, s) =
      (r.modifySlot n fun slot =>
          { slot with handle := some (handle.transceive driver n command s).2.1 },
        (handle.transceive driver n command s).2.2) := by
  simp only [after, exchange]
  rcases (handle.transceive driver n command s).1 with _ | _ | _ <;> rfl

/-! ## Asking for a status -/

/-- What a slot is asked for is observed, and what is known then is given. -/
theorem query_ok {driver : Driver σ} {slot : Slot} {reported : CardStatus}
    (found : r.slots[n]? = some slot) (asked : driver.cardStatus n s = .ok reported s') :
    (do
      let reported ← onDevice (driver.cardStatus n)
      update n (fun slot => slot.observe reported)
      return (← Reader.slot n).status : Op σ CardStatus) (r, s) =
      .ok (slot.observe reported).status
        (r.modifySlot n (fun slot => slot.observe reported), s') := by
  have observed : (r.modifySlot n (fun slot => slot.observe reported)).slots[n]? =
      some (slot.observe reported) :=
    modifySlot_found found _
  have changed : (update n (fun slot => slot.observe reported) : Op σ Unit) (r, s') =
      .ok () (r.modifySlot n (fun slot => slot.observe reported), s') := rfl
  rw [bind_of_ok (onDevice_ok asked), bind_of_ok changed, bind_of_ok (slot_ok observed s')]
  rfl

theorem cardStatus_eq_ok {driver : Driver σ} {status : CardStatus} {w : Reader × σ}
    (given : cardStatus driver n (r, s) = .ok status w) :
    ∃ slot reported s', r.slots[n]? = some slot ∧ status = (slot.observe reported).status ∧
      w = (r.modifySlot n (fun slot => slot.observe reported), s') := by
  obtain ⟨slot, t, looked, done⟩ := bind_eq_ok given
  obtain ⟨found, rfl⟩ := slot_eq_ok looked
  obtain ⟨s', u, -, worked, rfl⟩ := guarded_eq_ok done
  cases asked : driver.cardStatus n s' with
  | ok reported s'' =>
    rw [query_ok found asked] at worked
    injection worked with same left
    exact ⟨slot, reported, _, found, same.symm, by rw [← left, after_onDevice]⟩
  | error e s'' =>
    rw [bind_of_error (onDevice_error asked)] at worked
    cases worked

/-- Who is not given a status knows nothing new, unless the driver fails after the command. -/
theorem cardStatus_eq_error {driver : Driver σ} {e : Error} {w : Reader × σ}
    (ends : ∀ s, ∃ s', driver.afterCommand s = .ok () s')
    (failed : cardStatus driver n (r, s) = .error e w) : w.1 = r := by
  cases found : r.slots[n]? with
  | none =>
    rw [cardStatus, bind_of_error (slot_error found s)] at failed
    cases failed
    rfl
  | some slot =>
    rw [cardStatus, bind_of_ok (slot_ok found s)] at failed
    cases began : driver.beforeCommand s with
    | error e' s' =>
      rw [guarded_of_error (onDevice_error began)] at failed
      cases failed
      rfl
    | ok u s' =>
      have ended := after_of_error failed
      rw [after_guarded (onDevice_ok began)] at ended
      cases asked : driver.cardStatus n s' with
      | error e' s'' =>
        rw [after_of_error (bind_of_error (onDevice_error asked)), after_onDevice] at ended
        rw [← ended]
      | ok reported s'' =>
        -- The driver has heard of the end, so the status would have been given.
        obtain ⟨final, heard⟩ := ends s''
        simp only [guarded, conclude, onDevice_ok began, query_ok found asked,
          onDevice_ok heard] at failed
        cases failed

end CardTerminal.Reader
