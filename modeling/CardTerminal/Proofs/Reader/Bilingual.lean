import CardTerminal.Proofs.Exchange
import CardTerminal.Proofs.Pts
import CardTerminal.Reader

/-!
A card that talks T=0 and T=1, behind a driver that may fail.

After a reset the card talks the default protocol of its answer to reset. It talks another one from
the moment it echoes a request for it, and changes its protocol in no other way. The driver leaves
the protocols to the reader. Each of its other hooks may fail at any call, with the card noticing or
not, it gives what the card said in portions of any size, and what the card says to anything but a
request for a protocol is arbitrary.
-/

namespace CardTerminal

open CardTerminal.Action

/-! ## The card and its driver -/

/-- What a card does about protocols. -/
structure Tongue where
  speaks : ProtocolId
  /-- The protocols that it echoed a request for since its last reset, the last one first. -/
  echoed : List ProtocolId
  deriving DecidableEq, Repr

def Tongue.switch (t : Tongue) (p : ProtocolId) : Tongue :=
  ⟨p, p :: t.echoed⟩

/-- What happens when a hook of the driver is called. -/
structure Turn where
  failure : Option Error
  /-- Whether a call that fails has done its work. -/
  done : Bool
  /-- Whether the card echoes a request for a protocol. -/
  willing : Bool
  /-- What the card says to anything else. -/
  answer : Bytes
  /-- How many bytes are given at once, and one more. -/
  portion : Nat
  deriving DecidableEq, Repr

/-- A card that offers both protocols and may be asked to switch, and what happens at each call of
the driver, counted from the first. -/
structure Bilingual where
  atr : Bytes
  info : Atr.Info
  parsed : Atr.parse atr = .ok info
  supports_t0 : info.supports 0 = true
  supports_t1 : info.supports 1 = true
  negotiable : info.specificMode = false
  default : info.defaultProtocol = 0 ∨ info.defaultProtocol = 1
  reader : ReaderInfo
  turn : Nat → Turn
  patience : Nat

namespace Bilingual

/-- The state of the driver and the card. -/
structure State where
  tongue : Tongue
  /-- What the card said and the host has not yet received. -/
  incoming : Bytes
  /-- The reader is selecting a protocol: only then the card heeds requests for one. -/
  selecting : Bool
  /-- How often the driver was called. -/
  calls : Nat
  deriving DecidableEq, Repr

/-- The protocol that a message requests. The message has no byte too few or too many, and the
highest bit of the byte that names the protocol is not used. -/
def requested (bytes : Bytes) : Option ProtocolId :=
  let pts0 := bytes.getD 1 0
  if pts0 < 0x80 ∧ bytes.length = Pts.parameterCount pts0 + 3 then
    match Pts.parse bytes with
    | .ok pts => if pts.protocol = 0 then some .t0 else if pts.protocol = 1 then some .t1 else none
    | .error _ => none
  else none

def hear (turn : Turn) (bytes : Bytes) (s : State) : State :=
  match if s.selecting then requested bytes else none with
  | some p =>
    if turn.willing then { s with tongue := s.tongue.switch p, incoming := bytes }
    else { s with incoming := [] }
  | none => { s with incoming := turn.answer }

variable (x : Bilingual)

/-- The protocol that the card talks after a reset. -/
def initial : ProtocolId :=
  Reader.initialProtocol x.info

def fresh : Tongue :=
  ⟨x.initial, []⟩

/-- One call of the driver, which may fail. -/
def hook {α : Type} (work : Turn → State → α × State) : Action State α := fun s =>
  let called := { s with calls := s.calls + 1 }
  let (value, done) := work (x.turn s.calls) called
  match (x.turn s.calls).failure with
  | none => .ok value done
  | some e => .error e (if (x.turn s.calls).done then done else called)

def driver : Driver State where
  name := "bilingual"
  patience := x.patience
  attach := x.hook fun _ s => (x.reader, s)
  cardStatus _ := x.hook fun _ s => (⟨true, false⟩, s)
  cardReset _ := x.hook fun _ s => (some x.atr, { s with tongue := x.fresh, incoming := [] })
  setProtocol _ _ := fun s => .ok none { s with selecting := true }
  beforeCommand := x.hook fun _ s => ((), { s with selecting := false })
  afterCommand := x.hook fun _ s => ((), s)
  send _ bytes := x.hook fun turn s => ((), hear turn bytes s)
  recv _ room _ := fun s =>
    if s.incoming.isEmpty then .error .timeout { s with calls := s.calls + 1 }
    else x.hook (fun turn s =>
      (s.incoming.take (min room (turn.portion + 1)),
        { s with incoming := s.incoming.drop (min room (turn.portion + 1)) })) s

def unused : State :=
  ⟨x.fresh, [], false, 0⟩

variable {x}

/-! ## Requests for a protocol -/

theorem requested_message {pts0 : UInt8} {parameters : Bytes} {p : ProtocolId}
    (h : (pts0 % 16 = 0 ∧ p = .t0) ∨ (pts0 % 16 = 1 ∧ p = .t1)) (low : pts0 < 0x80)
    (length : parameters.length = Pts.parameterCount pts0) :
    requested (Pts.initial :: pts0 :: parameters ++
      [Bytes.xorAll (Pts.initial :: pts0 :: parameters)]) = some p := by
  have closed := Bytes.xorAll_concat (Pts.initial :: pts0 :: parameters)
  simp only [Pts.initial, List.cons_append] at closed ⊢
  have read : ∃ pts, Pts.parse (0xFF :: pts0 :: (parameters ++
      [Bytes.xorAll (0xFF :: pts0 :: parameters)])) = .ok pts ∧ pts.protocol = pts0 % 16 := by
    simp only [Pts.parse, closed, if_true]
    exact ⟨_, rfl, rfl⟩
  obtain ⟨pts, parsed, protocol⟩ := read
  have fits : (0xFF :: pts0 :: (parameters ++ [Bytes.xorAll (0xFF :: pts0 :: parameters)])).length =
      Pts.parameterCount pts0 + 3 := by
    simp [length]
  simp only [requested, parsed, protocol, fits, List.getD_cons_succ, List.getD_cons_zero, low,
    and_self, if_true]
  rcases h with ⟨h, rfl⟩ | ⟨h, rfl⟩ <;> simp [h]

theorem requested_request (info : Atr.Info) {p : ProtocolId} (h : p = .t0 ∨ p = .t1) :
    requested (Pts.request info p.number.toUInt8) = some p := by
  have length : (info.ta1.toList ++ info.tc1.toList).length =
      info.ta1.isSome.toNat + info.tc1.isSome.toNat := by
    cases info.ta1 <;> cases info.tc1 <;> rfl
  rw [Pts.request_eq]
  apply requested_message
  · unfold Pts.naming
    generalize info.ta1.isSome = ta1, info.tc1.isSome = tc1
    rcases h with rfl | rfl <;> cases ta1 <;> cases tc1 <;> decide
  · unfold Pts.naming
    generalize info.ta1.isSome = ta1, info.tc1.isSome = tc1
    rcases h with rfl | rfl <;> cases ta1 <;> cases tc1 <;> decide
  · rw [length]
    unfold Pts.naming
    generalize info.ta1.isSome = ta1, info.tc1.isSome = tc1
    rcases h with rfl | rfl <;> cases ta1 <;> cases tc1 <;> decide

/-- A supervisory request is none for a protocol. -/
theorem requested_announcement (nad : UInt8) (cs : Checksum) (info : Bytes) :
    requested ((Block.request .ifs info).encode nad cs) = none := by
  have high : ((Block.request .ifs info).encode nad cs).getD 1 0 = 0xC1 := by
    simp [Block.encode, Checksum.append, Block.request, Block.Task.number]
  simp only [requested, high]
  rfl

/-! ## What the driver does to the card -/

/-- A call that is not the beginning of a selection or of a command does not end one either. While
no protocol is being selected, the card stays with the one that it talks. -/
def Quiet (s s' : State) : Prop :=
  s'.selecting = s.selecting ∧ (s.selecting = false → s'.tongue = s.tongue)

theorem Quiet.path : Path Quiet where
  refl _ := ⟨rfl, fun _ => rfl⟩
  trans first second := by
    refine ⟨second.1.trans first.1, fun idle => ?_⟩
    rw [second.2 (first.1.trans idle), first.2 idle]

theorem hook_moves {α : Type} {R : State → State → Prop} {work : Turn → State → α × State}
    (called : ∀ s n, R s { s with calls := n }) (worked : ∀ s turn n,
      R s (work turn { s with calls := n }).2) : Moves R (x.hook work) := by
  intro s
  simp only [after, hook]
  split
  · exact worked ..
  · simp only [left]
    split
    · exact worked ..
    · exact called ..

theorem hear_quiet (turn : Turn) (bytes : Bytes) (s : State) (n : Nat) :
    Quiet s (hear turn bytes { s with calls := n }) := by
  unfold hear
  split
  · -- Something was understood as a request, so the reader is selecting.
    next p understood =>
    split at understood
    · next selecting =>
      refine ⟨?_, fun idle => ?_⟩
      · split <;> rfl
      · rw [selecting] at idle
        cases idle
    · cases understood
  · exact ⟨rfl, fun _ => rfl⟩

theorem receives : x.driver.toLink.Receives fun s s' =>
    (s'.selecting, s'.tongue) = (s.selecting, s.tongue) where
  recv dad room timeout := by
    intro s
    simp only [after, driver]
    split
    · rfl
    · exact hook_moves (R := fun s s' => (s'.selecting, s'.tongue) = (s.selecting, s.tongue))
        (fun _ _ => rfl) (fun _ _ _ => rfl) s

theorem link_quiet : x.driver.toLink.Moves Quiet where
  recv dad room timeout := by
    intro s
    have same := receives (x := x).recv dad room timeout s
    simp only [Prod.mk.injEq] at same
    exact ⟨same.1, fun _ => same.2⟩
  send dad bytes := by
    show Moves Quiet (x.hook fun turn s => ((), hear turn bytes s))
    apply hook_moves
    · exact fun _ _ => ⟨rfl, fun _ => rfl⟩
    · exact fun s turn n => hear_quiet turn bytes s n

/-! ## Asking the card to switch -/

theorem initial_cases (x : Bilingual) :
    (x.initial = .t0 ∧ x.info.defaultProtocol = 0) ∨
      (x.initial = .t1 ∧ x.info.defaultProtocol = 1) := by
  rcases x.default with default | default
  · left
    exact ⟨by simp only [initial, Reader.initialProtocol, default]; rfl, default⟩
  · right
    exact ⟨by simp only [initial, Reader.initialProtocol, default]; rfl, default⟩

/-- The card need not be asked for the protocol that it talks after a reset. -/
theorem askCard_initial (dad : UInt8) (s : State) :
    Reader.askCard x.driver.toLink x.info dad x.initial s = .ok () s := by
  rcases x.initial_cases with ⟨initial, default⟩ | ⟨initial, default⟩
  · simp [Reader.askCard, initial, default, ProtocolId.number]
    rfl
  · simp [Reader.askCard, initial, default, ProtocolId.number]
    rfl

def await (x : Bilingual) (dad : UInt8) (request : Bytes) : Action State Unit := do
  let start ← x.driver.receiveExactly dad Reader.confirmTimeout 2
  let rest ← x.driver.receiveExactly dad Reader.confirmTimeout
    (Pts.parameterCount (start.getD 1 0) + 1)
  match Pts.confirm request (start ++ rest) with
  | .ok _ => return
  | .error e => throw e

theorem askCard_other {p : ProtocolId} (h : p = .t0 ∨ p = .t1) (other : p ≠ x.initial)
    (dad : UInt8) :
    Reader.askCard x.driver.toLink x.info dad p =
      x.driver.send dad (Pts.request x.info p.number.toUInt8) >>= fun _ =>
        x.await dad (Pts.request x.info p.number.toUInt8) := by
  have wanted : ¬ (15 < p.number.toUInt8 ∨ p.number.toUInt8 = x.info.defaultProtocol) := by
    rcases x.initial_cases with ⟨initial, default⟩ | ⟨initial, default⟩ <;>
      rcases h with rfl | rfl <;> simp_all [ProtocolId.number]
  have offered : x.info.supports p.number.toUInt8 = true := by
    rcases h with rfl | rfl
    · exact x.supports_t0
    · exact x.supports_t1
  have possible : ¬ (x.info.specificMode = true ∨ ¬ x.info.supports p.number.toUInt8 = true) := by
    simp [x.negotiable, offered]
  simp only [Reader.askCard, wanted, possible, if_false]
  rfl

theorem send_request {s : State} (selecting : s.selecting = true) {bytes : Bytes} {p : ProtocolId}
    (understood : requested bytes = some p) (dad : UInt8) :
    (∃ s', x.driver.send dad bytes s = .ok () s' ∧
        (s'.tongue = s.tongue.switch p ∨ s'.tongue = s.tongue ∧ s'.incoming = [])) ∨
      ∃ e s', x.driver.send dad bytes s = .error e s' ∧
        (s'.tongue = s.tongue.switch p ∨ s'.tongue = s.tongue) := by
  have heard : ∀ turn n,
      (hear turn bytes { s with calls := n }).tongue = s.tongue.switch p ∨
        (hear turn bytes { s with calls := n }).tongue = s.tongue ∧
          (hear turn bytes { s with calls := n }).incoming = [] := by
    intro turn n
    simp only [hear, selecting, if_true, understood]
    split
    · exact .inl rfl
    · exact .inr ⟨rfl, rfl⟩
  simp only [driver, hook]
  split
  · exact .inl ⟨_, rfl, heard ..⟩
  · refine .inr ⟨_, _, rfl, ?_⟩
    split
    · rcases heard (x.turn s.calls) (s.calls + 1) with switched | ⟨same, -⟩
      · exact .inl switched
      · exact .inr same
    · exact .inr rfl

theorem receiveExactly_silent {s : State} (silent : s.incoming = []) (dad : UInt8)
    (timeout wanted : Nat) :
    ∃ e s', x.driver.receiveExactly dad timeout (wanted + 1) s = .error e s' := by
  refine ⟨.timeout, { s with calls := s.calls + 1 }, ?_⟩
  have : x.driver.recv dad (wanted + 1) timeout s =
      .error .timeout { s with calls := s.calls + 1 } := by
    simp [driver, silent]
  unfold Link.receiveExactly Link.gather
  simp [Link.receive, this]

theorem receiveExactly_keeps (dad : UInt8) (timeout wanted : Nat) :
    Keeps State.tongue (x.driver.receiveExactly dad timeout wanted) := by
  intro s
  exact congrArg Prod.snd (receives.receiveExactly (Keeps.path _) dad timeout wanted s)

theorem await_keeps (dad : UInt8) (request : Bytes) : Keeps State.tongue (x.await dad request) := by
  have keeps := receiveExactly_keeps (x := x) dad Reader.confirmTimeout
  refine (keeps 2).bind fun start => (keeps _).bind fun rest => ?_
  split
  · exact Keeps.pure ()
  · exact Keeps.throw _

/-- A card that is asked for the other protocol has switched if the reader is told so, and may
have if the reader is not. -/
theorem askCard_cases {s : State} (selecting : s.selecting = true) {p : ProtocolId}
    (h : p = .t0 ∨ p = .t1) (other : p ≠ x.initial) (dad : UInt8) :
    (∃ s', Reader.askCard x.driver.toLink x.info dad p s = .ok () s' ∧
        s'.tongue = s.tongue.switch p) ∨
      ∃ e s', Reader.askCard x.driver.toLink x.info dad p s = .error e s' ∧
        (s'.tongue = s.tongue.switch p ∨ s'.tongue = s.tongue) := by
  rw [askCard_other h other]
  -- What the card does is settled when the request is sent; the echo only tells of it.
  rcases send_request (x := x) selecting (requested_request x.info h) dad with
    ⟨s', sent, reached⟩ | ⟨e, s', failed, reached⟩
  · rw [bind_of_ok sent]
    have keeps := await_keeps (x := x) dad (Pts.request x.info p.number.toUInt8)
    cases awaited : x.await dad (Pts.request x.info p.number.toUInt8) s' with
    | ok _ u =>
      left
      refine ⟨u, rfl, ?_⟩
      rw [keeps.ok awaited]
      rcases reached with switched | ⟨-, silent⟩
      · exact switched
      · -- A card that did not switch said nothing, and the reader waits for it in vain.
        obtain ⟨_, _, first, -⟩ := bind_eq_ok awaited
        obtain ⟨e, v, failed⟩ := receiveExactly_silent (x := x) silent dad Reader.confirmTimeout 1
        rw [failed] at first
        cases first
    | error e u =>
      right
      refine ⟨e, u, rfl, ?_⟩
      rw [keeps.error awaited]
      exact reached.imp_right And.left
  · rw [bind_of_error failed]
    exact .inr ⟨e, s', rfl, reached⟩

/-! ## The other hooks -/

theorem beforeCommand_cases (x : Bilingual) (s : State) :
    (∃ s', x.driver.beforeCommand s = .ok () s' ∧ s'.tongue = s.tongue ∧ s'.selecting = false) ∨
      ∃ e s', x.driver.beforeCommand s = .error e s' ∧ s'.tongue = s.tongue := by
  simp only [driver, hook]
  split
  · exact .inl ⟨_, rfl, rfl, rfl⟩
  · refine .inr ⟨_, _, rfl, ?_⟩
    split <;> rfl

theorem afterCommand_keeps : Keeps State.tongue x.driver.afterCommand := by
  show Moves _ (x.hook fun _ s => ((), s))
  exact hook_moves (fun _ _ => rfl) (fun _ _ _ => rfl)

/-- A reset yields the card's answer, and the card talks its default protocol again. -/
theorem cardReset_cases (x : Bilingual) (n : Nat) (s : State) :
    (∃ s', x.driver.cardReset n s = .ok (some x.atr) s' ∧ s'.tongue = x.fresh) ∨
      ∃ e s', x.driver.cardReset n s = .error e s' ∧
        (s'.tongue = x.fresh ∨ s'.tongue = s.tongue) := by
  simp only [driver, hook]
  split
  · exact .inl ⟨_, rfl, rfl⟩
  · refine .inr ⟨_, _, rfl, ?_⟩
    split
    · exact .inl rfl
    · exact .inr rfl

theorem send_announcement_keeps (t : T1) (size : UInt8) :
    Keeps State.tongue (t.send x.driver.toLink (.request .ifs [size])) := by
  show Moves _ (x.hook fun turn s =>
    ((), hear turn ((Block.request .ifs [size]).encode t.nad t.checksum) s))
  apply hook_moves
  · exact fun _ _ => rfl
  · intro s turn n
    -- The reader may be selecting here, so it matters that the block is no request.
    simp only [hear, requested_announcement, ite_self]

/-- Telling the card a field length changes nothing about protocols, and the engine stays one for
its protocol. -/
theorem announceIfsd_spec (ifsd : Option Nat) (engine : Engine) (s : State) :
    ∃ engine' s', Reader.announceIfsd x.driver.toLink ifsd engine s = .ok engine' s' ∧
      engine'.id = engine.id ∧ s'.tongue = s.tongue := by
  unfold Reader.announceIfsd
  split
  · next t ifsd =>
    have receives : x.driver.toLink.Receives fun s s' => s'.tongue = s.tongue :=
      ⟨fun dad room timeout s => congrArg Prod.snd (receives.recv dad room timeout s)⟩
    have keeps := T1.negotiateIfsd_moves receives (Keeps.path State.tongue) t
      (send_announcement_keeps t) ifsd
    cases told : t.negotiateIfsd x.driver.toLink ifsd s with
    | ok t' s' => exact ⟨.t1 t', s', rfl, rfl, keeps.ok told⟩
    | error e s' => exact ⟨_, s', rfl, rfl, keeps.error told⟩
  · exact ⟨_, s, rfl, rfl, rfl⟩

end Bilingual

end CardTerminal
