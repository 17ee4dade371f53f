import CardTerminal.Proofs.Exchange
import CardTerminal.Proofs.Pts
import CardTerminal.Proofs.Reader.Lost

/-!
A card that confirms the protocol it is asked for.

The card may leave parameters out of its answer, so how long the answer is shows in its second byte
only. The reader receives two bytes, then as many as these announce, and what comes behind them
stays where it is (`askCard_confirmed`). It does not matter how the device cuts what comes.

Main statement: `protocol_switched`.
-/

namespace CardTerminal.Reader

open CardTerminal.Action

variable {σ : Type}

/-- The reader may ask the card in a slot to switch to a protocol. The card offers it beside its
default one and does not insist on a mode, and the reader has no field length to tell. -/
structure Switchable (r : Reader) (n : Nat) (slot : Slot) (info : Atr.Info) (p : ProtocolId) :
    Prop where
  found : r.slots[n]? = some slot
  atr : ∃ bytes, slot.atr = some bytes ∧ Atr.parse bytes = .ok info
  known : p = .t0 ∨ p = .t1
  offered : info.supports p.number.toUInt8 = true
  other : p.number.toUInt8 ≠ info.defaultProtocol
  negotiable : info.specificMode = false
  silent : r.ifsd = none

/-- The device leaves the protocol to the reader, and to the request the card gives an answer, with
some further bytes behind it. No hook fails. What is to come is delivered as the device likes. -/
structure Answered (driver : Driver σ) (n : Nat) (dad : UInt8) (p : ProtocolId)
    (request answer further : Bytes) (coming : Bytes → σ → Prop) (s : σ) : Prop where
  delivers : driver.toLink.Delivers dad confirmTimeout coming
  sent : ∃ s₁ s₂ s₃, driver.beforeCommand s = .ok () s₁ ∧ driver.setProtocol n p s₁ = .ok none s₂ ∧
    driver.send dad request s₂ = .ok () s₃ ∧ coming (answer ++ further) s₃
  ended : ∀ {s}, coming further s → ∃ s', driver.afterCommand s = .ok () s' ∧ coming further s'

variable {driver : Driver σ} {r : Reader} {n : Nat} {slot : Slot} {info : Atr.Info} {p : ProtocolId}
  {answer further : Bytes} {coming : Bytes → σ → Prop} {s : σ}

/-- The answer of a card that confirms a protocol is received and accepted, and nothing more is
received. -/
theorem askCard_confirmed {link : Link σ} {dad : UInt8} (switchable : Switchable r n slot info p)
    (confirms : Pts.Confirms (Pts.request info p.number.toUInt8) answer p.number.toUInt8)
    (delivers : link.Delivers dad confirmTimeout coming) {s' : σ}
    (sent : link.send dad (Pts.request info p.number.toUInt8) s = .ok () s')
    (comes : coming (answer ++ further) s') :
    ∃ s'', askCard link info dad p s = .ok () s'' ∧ coming further s'' := by
  obtain ⟨accepted, pts0, rest, rfl, length, -⟩ := Pts.confirms_iff.mp confirms
  -- The second byte of the two that come first tells how many follow.
  obtain ⟨s₁, start, comes⟩ : ∃ s₁, link.receiveExactly dad confirmTimeout 2 s' =
      .ok [0xFF, pts0] s₁ ∧ coming (rest ++ further) s₁ :=
    delivers.receiveExactly [0xFF, pts0] comes
  obtain ⟨s₂, others, comes⟩ : ∃ s₂, link.receiveExactly dad confirmTimeout
      (Pts.parameterCount ([0xFF, pts0].getD 1 0) + 1) s₁ = .ok rest s₂ ∧ coming further s₂ :=
    length ▸ delivers.receiveExactly rest comes
  refine ⟨s₂, ?_, comes⟩
  have asked : ¬ (15 < p.number.toUInt8 ∨ p.number.toUInt8 = info.defaultProtocol) := by
    rintro (large | same)
    · rcases switchable.known with rfl | rfl <;> exact absurd large (by decide)
    · exact switchable.other same
  have allowed : ¬ (info.specificMode = true ∨ ¬ info.supports p.number.toUInt8 = true) := by
    simp [switchable.negotiable, switchable.offered]
  unfold askCard
  dsimp only
  rw [if_neg asked, if_neg allowed, bind_of_ok sent, bind_of_ok start, bind_of_ok others]
  rw [List.cons_append, List.cons_append, List.nil_append, accepted]
  rfl

theorem makeEngine_confirmed (switchable : Switchable r n slot info p)
    (confirms : Pts.Confirms (Pts.request info p.number.toUInt8) answer p.number.toUInt8)
    (delivers : driver.toLink.Delivers slot.dad confirmTimeout coming) {s' s'' : σ}
    (prepared : driver.setProtocol n p s = .ok none s')
    (sent : driver.send slot.dad (Pts.request info p.number.toUInt8) s' = .ok () s'')
    (comes : coming (answer ++ further) s'') :
    ∃ s₁, makeEngine driver n slot.dad p (some info) true s = .ok (.new p slot.dad) s₁ ∧
      coming further s₁ := by
  obtain ⟨s₁, asked, comes⟩ := askCard_confirmed switchable confirms delivers sent comes
  have agreed : agree driver.toLink info slot.dad p s' = .ok p s₁ := by
    simp only [agree, asked]
  refine ⟨s₁, ?_, comes⟩
  unfold makeEngine
  rw [bind_of_ok prepared]
  dsimp only
  rw [bind_of_ok agreed]
  rfl

theorem announceIfsd_silent (link : Link σ) (engine : Engine) (s : σ) :
    announceIfsd link none engine s = .ok engine s := by
  cases engine <;> rfl

theorem select_confirmed (switchable : Switchable r n slot info p)
    (confirms : Pts.Confirms (Pts.request info p.number.toUInt8) answer p.number.toUInt8)
    (delivers : driver.toLink.Delivers slot.dad confirmTimeout coming) {s' s'' : σ}
    (prepared : driver.setProtocol n p s = .ok none s')
    (sent : driver.send slot.dad (Pts.request info p.number.toUInt8) s' = .ok () s'')
    (comes : coming (answer ++ further) s'') :
    ∃ s₁, select driver n p (some info) true (r, s) = .ok p
        (r.modifySlot n (Slot.hold (.active ((Engine.new p slot.dad).configure info))), s₁) ∧
      coming further s₁ := by
  obtain ⟨s₁, made, comes⟩ := makeEngine_confirmed switchable confirms delivers prepared sent comes
  refine ⟨s₁, ?_, comes⟩
  have told : announceIfsd driver.toLink r.ifsd ((Engine.new p slot.dad).configure info) s₁ =
      .ok ((Engine.new p slot.dad).configure info) s₁ := by
    rw [switchable.silent, announceIfsd_silent]
  have id : ((Engine.new p slot.dad).configure info).id = p := by
    rw [Engine.id_configure, Engine.id_new]
  unfold select
  rw [bind_of_ok (slot_ok switchable.found s), bind_of_ok (onDevice_ok made), get_bind]
  show (onDevice (announceIfsd driver.toLink r.ifsd ((Engine.new p slot.dad).configure info)) >>=
    _ : Op σ ProtocolId) (r, s₁) = _
  rw [bind_of_ok (onDevice_ok told), id]
  rfl

/-- A protocol that the card confirms is selected, and what comes behind its answer is left. -/
theorem setProtocol_confirmed (switchable : Switchable r n slot info p)
    (confirms : Pts.Confirms (Pts.request info p.number.toUInt8) answer p.number.toUInt8)
    (answered : Answered driver n slot.dad p (Pts.request info p.number.toUInt8) answer further
      coming s) :
    ∃ s', setProtocol driver n p (r, s) = .ok p
        (r.modifySlot n (Slot.hold (.active ((Engine.new p slot.dad).configure info))), s') ∧
      coming further s' := by
  obtain ⟨bytes, known, parsed⟩ := switchable.atr
  obtain ⟨s₁, s₂, s₃, began, prepared, sent, comes⟩ := answered.sent
  obtain ⟨s₄, selected, comes⟩ :=
    select_confirmed switchable confirms answered.delivers prepared sent comes
  obtain ⟨s₅, ended, comes⟩ := answered.ended comes
  refine ⟨s₅, ?_, comes⟩
  have worked : switch driver n p (r, s₁) = .ok p
      (r.modifySlot n (Slot.hold (.active ((Engine.new p slot.dad).configure info))), s₄) := by
    unfold switch
    rw [bind_of_ok (slot_ok switchable.found s₁)]
    simp only [known, parsed, selected]
  unfold setProtocol
  rw [bind_of_ok (slot_ok switchable.found s)]
  exact guarded_of_ok began worked ended

/-- **A request for a protocol is understood, and so is every echo of it.** A request is a message
that selects the protocol with the parameters of the card. A card that echoes it, with all of its
parameters or without some, is talked to in this protocol from then on, by an engine that its answer
to reset configures. Of what the card says, the echo is received and nothing else. -/
theorem protocol_switched (info : Atr.Info) :
    (∀ number < 16,
      Pts.parse (Pts.request info number) = .ok ⟨number, info.ta1, info.tc1, none⟩) ∧
    (∀ number, Pts.request info number = Pts.message number info.ta1 info.tc1) ∧
    ∀ {σ : Type} {driver : Driver σ} {r : Reader} {n : Nat} {slot : Slot} {p : ProtocolId}
      {pts1 pts2 : Option UInt8} {further : Bytes} {coming : Bytes → σ → Prop} {s : σ},
      Switchable r n slot info p → (pts1 = none ∨ pts1 = info.ta1) →
      (pts2 = none ∨ pts2 = info.tc1) →
      Answered driver n slot.dad p (Pts.request info p.number.toUInt8)
        (Pts.message p.number.toUInt8 pts1 pts2) further coming s →
      ∃ s', setProtocol driver n p (r, s) = .ok p
          (r.modifySlot n (Slot.hold (.active ((Engine.new p slot.dad).configure info))), s') ∧
        coming further s' := by
  refine ⟨fun number small => ?_, Pts.request_eq_message info, ?_⟩
  · have low : number % 16 = number := by
      apply UInt8.toNat_inj.mp
      rw [UInt8.toNat_mod]
      exact Nat.mod_eq_of_lt (UInt8.lt_iff_toNat_lt.mp small)
    have read := (Pts.complete_request info number).parse
    rwa [Pts.requested, low] at read
  · intro σ driver r n slot p pts1 pts2 further coming s switchable first second answered
    have confirms := Pts.confirms_message first second p.number.toUInt8
    have low : p.number.toUInt8 % 16 = p.number.toUInt8 := by
      rcases switchable.known with rfl | rfl <;> rfl
    rw [low] at confirms
    exact setProtocol_confirmed switchable confirms answered

/-- A device that says this to whatever it is told, one byte at a time. -/
def piecemeal (said : Bytes) : Driver Bytes where
  name := "piecemeal"
  patience := 1
  attach := return .new "piecemeal" 1
  cardStatus _ := return ⟨true, false⟩
  cardReset _ := return none
  send _ _ := set said
  recv _ _ _ := fun coming => .ok (coming.take 1) (coming.drop 1)

/-- A card that begins with T=0, offers T=1 and gave its speed. -/
def swiftSlot : Slot :=
  ⟨0, ⟨true, false⟩, some [0x3B, 0x90, 0x11, 0x80, 0x01, 0x00], some (.active (.new .t0 0))⟩

def swiftReader : Reader :=
  ⟨"piecemeal", .none, [swiftSlot], none⟩

theorem delivers_piecemeal (said : Bytes) (dad : UInt8) (timeout : Nat) :
    (piecemeal said).toLink.Delivers dad timeout (fun coming left => left = coming) where
  recv := by
    rintro _ coming room rfl some positive
    obtain ⟨b, rest, rfl⟩ := List.exists_cons_of_ne_nil some
    exact ⟨[b], rest, rest, List.cons_ne_nil _ _, positive, rfl, rfl, rfl⟩

/-- The card leaves its speed out of the echo, and two bytes behind the echo are left. -/
theorem protocol_switched_piecemeal :
    Pts.parse (Pts.request Pts.swift 1) = .ok ⟨1, some 0x11, none, none⟩ ∧
      Switchable swiftReader 0 swiftSlot Pts.swift .t1 ∧
      Answered (piecemeal [0xFF, 0x01, 0xFE, 0x90, 0x00]) 0 0 .t1 (Pts.request Pts.swift 1)
        [0xFF, 0x01, 0xFE] [0x90, 0x00] (fun coming left => left = coming) [] ∧
      setProtocol (piecemeal [0xFF, 0x01, 0xFE, 0x90, 0x00]) 0 .t1 (swiftReader, []) = .ok .t1
        (swiftReader.modifySlot 0
          (Slot.hold (.active ((Engine.new .t1 0).configure Pts.swift))), [0x90, 0x00]) := by
  have switchable : Switchable swiftReader 0 swiftSlot Pts.swift .t1 :=
    ⟨rfl, ⟨_, rfl, by rfl⟩, .inr rfl, by decide, by decide, by decide, rfl⟩
  have answered : Answered (piecemeal [0xFF, 0x01, 0xFE, 0x90, 0x00]) 0 0 .t1
      (Pts.request Pts.swift 1) [0xFF, 0x01, 0xFE] [0x90, 0x00]
      (fun coming left => left = coming) [] :=
    ⟨delivers_piecemeal _ 0 confirmTimeout, ⟨_, _, _, rfl, rfl, rfl, rfl⟩,
      fun left => ⟨_, rfl, left⟩⟩
  obtain ⟨understood, -, switched⟩ := protocol_switched Pts.swift
  obtain ⟨left, selected, rfl⟩ := switched switchable (.inl rfl) (.inl rfl) answered
  exact ⟨understood 1 (by decide), switchable, answered, selected⟩

end CardTerminal.Reader
