import CardTerminal.Proofs.T1.InStep

/-!
A T=1 command that is answered was run exactly once.

Every block that the host sends and every answer that it waits for keep the exchange in step
(`run_served`), so an answer means that the card ran the command once, and that the answer is
nothing but the card's own. This holds as long as the host does not start afresh: a RESYNCH takes
the numbers away that tell a repeated block from a new one.

Main statement: over a wire that loses and damages blocks, a command that is answered without a
RESYNCH was run exactly once (`exactly_once`).
-/

namespace CardTerminal.T1

open CardTerminal.Action Wire

variable {μ : Type}

/-! ## What an exchange does not change -/

/-- How an engine addresses, protects and receives blocks, and that its slices fit into them. -/
structure Tuned (nad : UInt8) (cs : Checksum) (whole : Bool) (t : T1) : Prop where
  nad : t.nad = nad
  checksum : t.checksum = cs
  whole : t.blockOriented = whole
  ifsc : t.ifsc ≤ Block.maxInfo

def Verdict.engine : Verdict → T1
  | .proceed t _ | .finished t _ | .outOfStep t | .aborted t | .lost t _ => t

section

variable {nad : UInt8} {cs : Checksum} {whole : Bool} {t : T1}

theorem Tuned.spend (tuned : t.Tuned nad cs whole) (a : Attempt) (reply : Block) :
    (t.spend a reply).engine.Tuned nad cs whole := by
  unfold T1.spend
  split <;> exact tuned

theorem Tuned.numbered (tuned : t.Tuned nad cs whole) (ns nr : Bool) (phase : Phase) :
    { t with ns, nr, phase }.Tuned nad cs whole :=
  ⟨tuned.nad, tuned.checksum, tuned.whole, tuned.ifsc⟩

theorem Tuned.onInformation (tuned : t.Tuned nad cs whole) (a : Attempt) (ns more : Bool)
    (info : Bytes) : (t.onInformation a ns more info).engine.Tuned nad cs whole := by
  have flipped : (if a.sending then { t with ns := !t.ns } else t).Tuned nad cs whole := by
    split
    · exact tuned.numbered _ _ _
    · exact tuned
  unfold T1.onInformation
  split
  · exact tuned.spend a _
  · generalize (if a.sending then { t with ns := !t.ns } else t) = u at flipped
    dsimp only
    split
    · exact flipped.spend _ _
    · split
      · exact flipped.numbered _ _ _
      · exact flipped.numbered _ _ _

theorem Tuned.onRequest (tuned : t.Tuned nad cs whole) (a : Attempt) (task : Block.Task)
    (info : Bytes) : (t.onRequest a task info).engine.Tuned nad cs whole := by
  cases task with
  | wtx => exact tuned
  | ifs =>
    simp only [T1.onRequest, Verdict.engine]
    split
    · next fits => exact ⟨tuned.nad, tuned.checksum, tuned.whole, fits.2⟩
    · exact tuned
  | abort => exact tuned
  | resynch => exact tuned.spend a _
  | unknown number => exact tuned.spend a _

theorem Tuned.react (tuned : t.Tuned nad cs whole) (a : Attempt) (received : Except Error Block) :
    (t.react a received).engine.Tuned nad cs whole := by
  unfold T1.react
  split
  · split
    · exact tuned.spend a _
    · exact tuned
  · split
    · unfold onReceipt
      split
      · exact tuned.numbered _ _ _
      · exact tuned.spend a _
    · exact tuned.onInformation a _ _ _
    · exact tuned.onRequest a _ _
    · exact tuned.spend a _

theorem Tuned.run {σ : Type} (link : Link σ) (tuned : t.Tuned nad cs whole) (patience : Nat)
    (a : Attempt) (s : σ) : (T1.run link patience t a s).2.1.Tuned nad cs whole := by
  induction patience generalizing t a s with
  | zero => exact tuned
  | succ patience ih =>
    unfold T1.run
    split
    · exact tuned
    · split
      next received _ _ =>
      have reacted := tuned.react a received
      split
      · next h =>
        rw [h] at reacted
        exact ih reacted ..
      · next h => rwa [h] at reacted
      · next h => rwa [h] at reacted
      · next h => rwa [h] at reacted
      · next h =>
        rw [h] at reacted
        split <;> exact reacted

end

/-! ## Runs -/

variable {wire : Wire} {app : Application μ} {start : Card μ} {command answer : Bytes}
  {nad : UInt8} {cs : Checksum} {whole : Bool}

theorem InStep.fits {t : T1} {a : Attempt} {c : Card μ} {block : Block}
    (inStep : InStep app start command t a c) (sends : a.Sends t block) :
    block.info.length ≤ Block.maxInfo := by
  rcases sends with ⟨sending, rfl⟩ | ⟨flaw, rfl⟩
  · cases inStep with
    | underway host | arrived host | answered host =>
      rw [host.current]
      exact host.fits
    | pausing quiet | continued quiet => exact absurd sending (by simp [quiet])
  · exact Nat.zero_le _

theorem Tuned.send_eq {t : T1} (tuned : t.Tuned nad cs whole) (block : Block) (s : Wire.State μ) :
    t.send (wire.toLink app nad cs) block s =
      .ok () (wire.carry app nad cs (block.encode nad cs) s) := by
  simp only [send, toLink, tuned.nad, tuned.checksum]

/-- Whatever the wire does to a block and to the answer, the exchange stays in step. -/
theorem InStep.carry {t : T1} {a : Attempt} {s : Wire.State μ} {block : Block}
    (inStep : InStep app start command t a s.card) (sends : a.Sends t block)
    (detects : wire.Detects nad cs whole) :
    let s' := wire.carry app nad cs (block.encode nad cs) s
    InStep app start command t a s'.card ∧ ∃ frame, s'.card.Replies t frame ∧
      Read frame.1 (Block.decode (Block.replyNad nad) cs (heard whole cs s'.incoming)) := by
  intro s'
  rcases carry_cases app detects ⟨block, inStep.fits sends⟩ s with
    ⟨same, unread⟩ | ⟨received, read, card, answer⟩
  · have : s'.card = s.card := same
    rw [this]
    exact ⟨inStep, s.card.ready .none, Card.replies_ready _ t .none, .inr unread⟩
  · have reacted : s'.card = (s.card.react app received).2 := card
    obtain ⟨inStep', replies⟩ := inStep.card_reacts sends read
    rw [reacted]
    exact ⟨inStep', _, replies, answer⟩

/-- What the host receives is what can be read, and receiving it leaves the card alone. -/
theorem listen {t : T1} (tuned : t.Tuned nad cs whole) (timeout : Nat) {s : Wire.State μ}
    {block : Block}
    (read : Read block (Block.decode (Block.replyNad nad) cs (heard whole cs s.incoming))) :
    (∃ received s', t.receive (wire.toLink app nad cs) timeout s = .ok received s' ∧
        s'.card = s.card ∧ Read block (.ok received)) ∨
      ∃ e s', t.receive (wire.toLink app nad cs) timeout s = .error e s' ∧ s'.card = s.card := by
  have keeps : Keeps (fun s : Wire.State μ => (s.card, s.sent))
    (t.receive (wire.toLink app nad cs) timeout) := receive_keeps t timeout
  cases h : t.receive (wire.toLink app nad cs) timeout s with
  | ok received s' =>
    left
    refine ⟨received, s', rfl, congrArg Prod.fst (keeps.ok h), ?_⟩
    have decoded := receive_eq h
    rw [tuned.nad, tuned.checksum, tuned.whole] at decoded
    rwa [decoded] at read
  | error e s' =>
    right
    exact ⟨e, s', rfl, congrArg Prod.fst (keeps.error h)⟩

/-- An exchange that is in step and ends with an answer has served the command. -/
theorem run_served (detects : wire.Detects nad cs whole) {patience : Nat} {t t' : T1}
    {a : Attempt} {s s' : Wire.State μ} (inStep : InStep app start command t a s.card)
    (sends : a.Sends t a.next) (tuned : t.Tuned nad cs whole)
    (h : run (wire.toLink app nad cs) patience t a s = (.answered answer, t', s')) :
    Served app start command t' s'.card answer := by
  induction patience generalizing t a s with
  | zero => cases h
  | succ patience ih =>
    -- One round: a block is carried, what comes back is received, and the host reacts to it.
    obtain ⟨inStep', frame, replies, read⟩ := inStep.carry sends detects
    unfold run at h
    split at h
    · cases h
    next w gone =>
    rw [tuned.send_eq] at gone
    cases gone
    generalize wire.carry app nad cs (a.next.encode nad cs) s = u at *
    split at h
    next received v heard =>
    obtain ⟨same, read⟩ : v.card = u.card ∧ Read frame.1 received := by
      rcases listen tuned (t.timeout * a.stretch) read with
        ⟨block, w, received, same, read⟩ | ⟨e, w, failed, same⟩
      · rw [received] at heard
        cases heard
        exact ⟨same, read⟩
      · rw [failed] at heard
        cases heard
        exact ⟨same, .inr ⟨e, rfl⟩⟩
    have upheld := inStep'.host_reacts tuned.ifsc replies read
    have tuned' := tuned.react a received
    rw [← same] at upheld
    split at h
    · next proceed =>
      rw [proceed] at upheld tuned'
      exact ih upheld.1 upheld.2 tuned' h
    · next finished =>
      rw [finished] at upheld
      cases h
      exact upheld
    · cases h
    · cases h
    · split at h <;> cases h

/-- An exchange begins in step, if the engine and an idle card agree on their numbers. -/
theorem inStep_start {t : T1} {c : Card μ} (ifsc : t.ifsc ≤ Block.maxInfo)
    (expected : c.expected = t.ns) (number : c.number = t.nr) (idle : c.Idle) :
    InStep app c command t (t.start command) c :=
  .underway (sending_advance ifsc (List.nil_append command))
    ⟨rfl, rfl, idle.command, idle.waiting, idle.lastInfo⟩ expected number

theorem resynch_sent {t : T1} (tuned : t.Tuned nad cs whole) (s : Wire.State μ) :
    (t.resynch (wire.toLink app nad cs) s).2.sent =
      s.sent ++ [(Block.request .resynch []).encode nad cs] := by
  have keeps : Keeps (fun s : Wire.State μ => (s.card, s.sent))
    (t.receive (wire.toLink app nad cs) t.timeout) := receive_keeps t t.timeout
  unfold resynch
  split
  · next failed =>
    rw [tuned.send_eq] at failed
    cases failed
  · next gone =>
    rw [tuned.send_eq] at gone
    cases gone
    split
    · next failed =>
      have same := congrArg Prod.snd (keeps.error failed)
      exact same.trans (carry_sent _ s)
    · next received =>
      have same := congrArg Prod.snd (keeps.ok received)
      exact same.trans (carry_sent _ s)

/-- Starting afresh and getting an answer takes a RESYNCH. -/
theorem resynch_of_recover {t t' : T1} (tuned : t.Tuned nad cs whole) {budget : Nat}
    {s s' : Wire.State μ}
    (h : recover (wire.toLink app nad cs) command budget t s = ⟨some (.ok answer), t', s'⟩) :
    s.sent ++ [(Block.request .resynch []).encode nad cs] <+: s'.sent := by
  have moves := moves_sent wire app nad cs
  cases budget with
  | zero => cases h
  | succ budget =>
    have moved := recover_moves_after moves path_sent command
      (recover_moves moves path_sent command budget) t s
    rwa [h, resynch_sent tuned] at moved

/-- **A command that is answered was run exactly once.** Over a wire that loses and damages blocks
in any way, and whatever the card computes: if the engine and an idle card agree on their numbers,
an exchange that ends with an answer and sent no RESYNCH had the card run this one command, the
answer is the card's answer to it, and afterwards the card is idle and the numbers agree again. -/
theorem exactly_once {t t' : T1} {s s' : Wire.State μ}
    (detects : wire.Detects t.nad t.checksum t.blockOriented) (ifsc : t.ifsc ≤ Block.maxInfo)
    (expected : s.card.expected = t.ns) (number : s.card.number = t.nr) (idle : s.card.Idle)
    (h : t.transceive (wire.toLink app t.nad t.checksum) command s = ⟨some (.ok answer), t', s'⟩)
    (quiet : (Block.request .resynch []).encode t.nad t.checksum ∉ s'.sent.drop s.sent.length) :
    Served app s.card command t' s'.card answer := by
  have tuned : t.Tuned t.nad t.checksum t.blockOriented := ⟨rfl, rfl, rfl, ifsc⟩
  have inStep : InStep app s.card command t (t.start command) s.card :=
    inStep_start ifsc expected number idle
  unfold transceive attempt at h
  split at h
  · next answered =>
    cases h
    exact run_served detects inStep (.inl ⟨rfl, rfl⟩) tuned answered
  · cases h
  · cases h
  · next u w lost =>
    -- An answer to a command that was started afresh comes after a RESYNCH.
    have tuned' := tuned.run (wire.toLink app t.nad t.checksum) wire.patience (t.start command) s
    have first := run_moves (moves_sent wire app t.nad t.checksum) path_sent wire.patience t
      (t.start command) s
    rw [show run _ wire.patience t (t.start command) s = (.outOfStep, u, w) from lost]
      at first tuned'
    obtain ⟨posted, first⟩ := first
    obtain ⟨posted', after⟩ := resynch_of_recover tuned' h
    rw [← first, List.append_assoc, List.append_assoc] at after
    rw [← after, List.drop_left] at quiet
    simp at quiet

/-- A card that counts its commands, and repeats each of them in two blocks. -/
def echoing : Application Nat := fun count command =>
  (⟨⟨command.take 2, Nat.le_trans (List.length_take_le ..) (by decide)⟩,
    [⟨(command.drop 2).take 254, List.length_take_le ..⟩]⟩, count + 1)

/-- A wire that loses an R-block and a slice, and damages the beginning of an answer. -/
def faulty : Wire where
  there n := if n = 2 then .lost else .intact
  back n :=
    if n = 0 then .lost
    else if n = 6 then .damaged [0x00, 0x20, 0x02, 0x00, 0x01, 0xFF]
    else .intact
  patience := 20

theorem faulty_detects : faulty.Detects 0 .lrc false where
  there n bytes damaged := by
    simp only [faulty] at damaged
    split at damaged <;> cases damaged
  back n bytes damaged := by
    simp only [faulty] at damaged
    split at damaged
    · cases damaged
    · split at damaged
      · cases damaged
        exact ⟨.commError, rfl⟩
      · cases damaged

def faultyStart : Wire.State Nat :=
  ⟨⟨false, false, 0, [], [], [], none, none⟩, [], []⟩

/-- A command of three slices for that card. -/
def faultyExchange : Exchange (Option Ended) T1 (Wire.State Nat) :=
  { new 0 with ifsc := 2 }.transceive (faulty.toLink echoing 0 .lrc) [1, 2, 3, 4, 5] faultyStart

theorem exactly_once_faulty :
    Served echoing faultyStart.card [1, 2, 3, 4, 5] faultyExchange.engine
      faultyExchange.device.card [1, 2, 3, 4, 5] := by
  have given : faultyExchange.outcome.bind Except.toOption = some [1, 2, 3, 4, 5] := by
    decide +kernel
  obtain ⟨ended, answered, given⟩ := Option.bind_eq_some_iff.mp given
  obtain rfl : ended = .ok [1, 2, 3, 4, 5] := by
    cases ended with
    | ok answer =>
      cases given
      rfl
    | error fault => cases given
  have quiet : (Block.request .resynch []).encode 0 .lrc ∉ faultyExchange.device.sent.drop 0 := by
    decide +kernel
  have idle : faultyStart.card.Idle := ⟨rfl, rfl, by simp [faultyStart]⟩
  refine exactly_once (t := { new 0 with ifsc := 2 }) faulty_detects (by decide) rfl rfl idle ?_
    quiet
  exact congrArg (Exchange.mk · faultyExchange.engine faultyExchange.device) answered

end CardTerminal.T1
