import CardTerminal.Proofs.T1.Wire

/-!
How far an exchange has come, on both sides.

During an exchange that runs one command, host and card are always in one of five positions
(`InStep`): a slice is under way or has arrived, the command was run and answered, the answer pauses
for an R-block or goes on. Whatever is lost or damaged, the card's reaction leads from one position
to another (`InStep.card_reacts`), and so does the host's (`InStep.host_reacts`), until the host has
the whole answer. The numbers of the blocks tell each side whether what it receives is news.
-/

namespace CardTerminal.T1

open CardTerminal.Action Wire

variable {μ : Type}

/-! ## Positions -/

/-- The card took these bytes of a command, and ran nothing since. -/
structure Listening (start : Card μ) (arrived : Bytes) (c : Card μ) : Prop where
  memory : c.memory = start.memory
  ran : c.ran = start.ran
  command : c.command = arrived
  waiting : c.waiting = []
  lastInfo : ∀ sent ∈ c.lastInfo, sent.number = !c.number

/-- The card ran the command once, and these fragments of the answer are not yet sent. -/
structure Ran (app : Application μ) (start : Card μ) (command : Bytes) (waiting : List Fragment)
    (c : Card μ) : Prop where
  memory : c.memory = (app start.memory command).2
  ran : c.ran = start.ran ++ [command]
  command : c.command = []
  waiting : c.waiting = waiting

/-- The host is sending a slice of the command after what it knows to have arrived. -/
structure Sending (command : Bytes) (t : T1) (a : Attempt) (arrived slice : Bytes) : Prop where
  sending : a.sending = true
  answer : a.answer = []
  current : a.current = .information t.ns (!a.rest.isEmpty) slice
  fits : slice.length ≤ Block.maxInfo
  whole : arrived ++ slice ++ a.rest = command

/-- What the host sends: the slice as long as it is sending, or an R-block for the next answer. -/
def Attempt.Sends (a : Attempt) (t : T1) (block : Block) : Prop :=
  (a.sending = true ∧ block = a.current) ∨ ∃ flaw, block = t.receipt flaw

section

variable (app : Application μ) (start : Card μ) (command : Bytes)

/-- The positions of an exchange that runs one command. -/
inductive InStep (t : T1) (a : Attempt) (c : Card μ) : Prop
  /-- The slice has not arrived. -/
  | underway {arrived slice : Bytes} (host : Sending command t a arrived slice)
      (card : Listening start arrived c) (expected : c.expected = t.ns) (number : c.number = t.nr)
  /-- The slice has arrived, more of them follow, and the host does not know. -/
  | arrived {arrived slice : Bytes} (host : Sending command t a arrived slice) (rest : a.rest ≠ [])
      (card : Listening start (arrived ++ slice) c) (expected : c.expected = !t.ns)
      (number : c.number = t.nr) (last : ∃ frame ∈ c.last, frame.1.kind = .receipt c.expected)
  /-- The command was run, and the host does not know. -/
  | answered {arrived slice : Bytes} {first : Fragment} {waiting : List Fragment}
      (host : Sending command t a arrived slice) (rest : a.rest = [])
      (card : Ran app start command waiting c)
      (whole : a.answer ++ contents (first :: waiting) = (app start.memory command).1.bytes)
      (expected : c.expected = !t.ns) (number : c.number = !t.nr)
      (lastInfo : c.lastInfo = some ⟨t.nr, !waiting.isEmpty, first⟩)
      (last : ∃ frame ∈ c.last,
        frame.1.kind = .receipt c.expected ∨ ∃ sent ∈ c.lastInfo, frame = sent.frame)
  /-- The host took all that was sent of the answer, and the card does not know. -/
  | pausing {fragment : Fragment} {waiting : List Fragment} (sending : a.sending = false)
      (card : Ran app start command (fragment :: waiting) c)
      (whole : a.answer ++ contents (fragment :: waiting) = (app start.memory command).1.bytes)
      (expected : c.expected = t.ns) (number : c.number = t.nr)
      (lastInfo : ∃ sent, c.lastInfo = some sent ∧ sent.number = !t.nr)
  /-- The card has gone on with the answer, and the host does not know. -/
  | continued {fragment : Fragment} {waiting : List Fragment} (sending : a.sending = false)
      (card : Ran app start command waiting c)
      (whole : a.answer ++ contents (fragment :: waiting) = (app start.memory command).1.bytes)
      (expected : c.expected = t.ns) (number : c.number = !t.nr)
      (lastInfo : c.lastInfo = some ⟨t.nr, !waiting.isEmpty, fragment⟩)

/-- What the exchange came to: the card ran the command once and is idle, the host has the answer,
and both agree on the numbers of their next blocks. -/
structure Served (t : T1) (c : Card μ) (answer : Bytes) : Prop where
  ran : c.ran = start.ran ++ [command]
  memory : c.memory = (app start.memory command).2
  answer : answer = (app start.memory command).1.bytes
  expected : c.expected = t.ns
  number : c.number = t.nr
  idle : c.Idle

/-- What the host makes of a block keeps the exchange in step, serves the command or gives it up. -/
def Verdict.Upholds (c : Card μ) : Verdict → Prop
  | .proceed t a => InStep app start command t a c ∧ a.Sends t a.next
  | .finished t answer => Served app start command t c answer
  | .outOfStep _ | .aborted _ | .lost _ _ => True

end

/-- What the card sends: an R-block for the next slice, or the I-block that the host waits for. -/
def Card.Replies (c : Card μ) (t : T1) (frame : Frame) : Prop :=
  frame.1.kind = .receipt c.expected ∨
    ∃ sent ∈ c.lastInfo, sent.number = t.nr ∧ frame = sent.frame

variable {app : Application μ} {start : Card μ} {command : Bytes} {t : T1} {a : Attempt}
  {c : Card μ}

/-! ## The card's reactions -/

theorem Card.replies_ready (c : Card μ) (t : T1) (flaw : Block.Flaw) :
    c.Replies t (c.ready flaw) :=
  .inl (kind_receipt ..)

/-- An R-block for the next answer finds nothing to send while the card listens. -/
theorem Listening.onReceipt {arrived : Bytes} (card : Listening start arrived c) :
    c.onReceipt c.number = c.say (c.ready .none) := by
  unfold Card.onReceipt
  rw [card.waiting]
  cases last : c.lastInfo with
  | none => rfl
  | some sent =>
    have := card.lastInfo sent last
    simp [this]

theorem Card.onReceipt_again {sent : Sent} (lastInfo : c.lastInfo = some sent) :
    c.onReceipt sent.number = c.say sent.frame := by
  unfold Card.onReceipt
  rw [lastInfo]
  cases c.waiting <;> simp

/-- An I-block that is not news makes the card send its last block again. -/
theorem Card.onInformation_again {ns : Bool} (stale : c.expected = !ns) {frame : Frame}
    (last : c.last = some frame) (more : Bool) (info : Bytes) :
    c.onInformation app ns more info = c.say frame := by
  have : ns ≠ c.expected := by simp [stale]
  simp only [Card.onInformation, this, if_false, last, Option.getD_some]

/-- Sending a block that the host expects leaves the exchange where it is. -/
theorem InStep.say (inStep : InStep app start command t a c) {frame : Frame}
    (replies : c.Replies t frame) :
    InStep app start command t a (c.say frame).2 ∧ (c.say frame).2.Replies t (c.say frame).1 := by
  refine ⟨?_, replies⟩
  cases inStep with
  | underway host card expected number =>
    exact .underway host ⟨card.memory, card.ran, card.command, card.waiting, card.lastInfo⟩
      expected number
  | arrived host rest card expected number last =>
    refine .arrived host rest
      ⟨card.memory, card.ran, card.command, card.waiting, card.lastInfo⟩ expected number ?_
    rcases replies with kind | ⟨sent, mem, same, -⟩
    · exact ⟨frame, rfl, kind⟩
    · have := card.lastInfo sent mem
      rw [same, number] at this
      simp at this
  | answered host rest card whole expected number lastInfo last =>
    refine .answered host rest ⟨card.memory, card.ran, card.command, card.waiting⟩ whole
      expected number lastInfo ⟨frame, rfl, ?_⟩
    rcases replies with kind | ⟨sent, mem, -, same⟩
    · exact .inl kind
    · exact .inr ⟨sent, mem, same⟩
  | pausing sending card whole expected number lastInfo =>
    exact .pausing sending ⟨card.memory, card.ran, card.command, card.waiting⟩ whole expected
      number lastInfo
  | continued sending card whole expected number lastInfo =>
    exact .continued sending ⟨card.memory, card.ran, card.command, card.waiting⟩ whole expected
      number lastInfo

theorem Card.execute_eq {response : Response} {memory : μ}
    (h : app c.memory c.command = (response, memory)) :
    c.execute app =
      { c with memory, ran := c.ran ++ [c.command], command := [] }.emit response.first
        response.rest := by
  simp only [Card.execute, h]

/-- The slice arrives, and the card asks for the next one or runs the command. -/
theorem InStep.take {arrived slice : Bytes} (host : Sending command t a arrived slice)
    (card : Listening start arrived c) (expected : c.expected = t.ns) (number : c.number = t.nr) :
    let (reply, c') := c.onInformation app t.ns (!a.rest.isEmpty) slice
    InStep app start command t a c' ∧ c'.Replies t reply := by
  by_cases more : a.rest = []
  · -- The last slice makes the command whole, and the card runs it.
    have whole : c.command ++ slice = command := by
      rw [card.command, ← host.whole, more, List.append_nil]
    rcases h : app start.memory command with ⟨response, memory⟩
    have run : app c.memory command = (response, memory) := by rw [card.memory, h]
    have answer : a.answer ++ contents (response.first :: response.rest) =
        (app start.memory command).1.bytes := by
      rw [host.answer, h]
      rfl
    simp only [Card.onInformation, expected, more, List.isEmpty_nil, Bool.not_true, if_true, whole,
      Bool.false_eq_true, if_false]
    rw [Card.execute_eq run]
    refine ⟨.answered host more ⟨?_, ?_, rfl, rfl⟩ answer rfl ?_ ?_ ?_, .inr ⟨_, rfl, number, rfl⟩⟩
    · exact (congrArg Prod.snd h).symm
    · exact congrArg (· ++ [command]) card.ran
    · exact congrArg (!·) number
    · simp only [Card.emit, Card.say, number]
    · exact ⟨_, rfl, .inr ⟨_, rfl, rfl⟩⟩
  · have command_eq : c.command ++ slice = arrived ++ slice := by rw [card.command]
    simp only [Card.onInformation, expected, List.isEmpty_eq_false_iff.mpr more, Bool.not_false,
      if_true]
    refine ⟨?_, Card.replies_ready _ t .none⟩
    refine .arrived host more ⟨card.memory, card.ran, command_eq, card.waiting, ?_⟩ rfl ?_ ?_
    · exact card.lastInfo
    · exact number
    · exact ⟨_, rfl, kind_receipt ..⟩

/-- An R-block for the next answer: the card says again where it is, or goes on. -/
theorem InStep.acknowledge (inStep : InStep app start command t a c) :
    let (reply, c') := c.onReceipt t.nr
    InStep app start command t a c' ∧ c'.Replies t reply := by
  cases inStep with
  | underway host card expected number =>
    rw [← number, card.onReceipt]
    exact (InStep.underway host card expected number).say (c.replies_ready t .none)
  | arrived host rest card expected number last =>
    rw [← number, card.onReceipt]
    exact (InStep.arrived host rest card expected number last).say (c.replies_ready t .none)
  | answered host rest card whole expected number lastInfo last =>
    have again := Card.onReceipt_again lastInfo
    simp only at again
    rw [again]
    exact (InStep.answered host rest card whole expected number lastInfo last).say
      (.inr ⟨_, lastInfo, rfl, rfl⟩)
  | pausing sending card whole expected number lastInfo =>
    -- Only here does the R-block acknowledge anything: the card goes on with its answer.
    obtain ⟨sent, lastInfo, other⟩ := lastInfo
    have next : t.nr ≠ sent.number := by simp [other]
    unfold Card.onReceipt
    rw [lastInfo, card.waiting]
    simp only [next, if_false]
    refine ⟨.continued sending ⟨card.memory, card.ran, card.command, rfl⟩ whole expected ?_ ?_,
      .inr ⟨_, rfl, number, rfl⟩⟩
    · exact congrArg (!·) number
    · simp only [Card.emit, Card.say, number]
  | continued sending card whole expected number lastInfo =>
    have again := Card.onReceipt_again lastInfo
    simp only at again
    rw [again]
    exact (InStep.continued sending card whole expected number lastInfo).say
      (.inr ⟨_, lastInfo, rfl, rfl⟩)

/-- Whether the card reads the host's block or nothing, the exchange stays in step, and the card
replies as the host expects. -/
theorem InStep.card_reacts (inStep : InStep app start command t a c) {block : Block}
    (sends : a.Sends t block) {received : Except Error Block} (read : Read block received) :
    let (reply, c') := c.react app received
    InStep app start command t a c' ∧ c'.Replies t reply := by
  rcases read with rfl | ⟨e, rfl⟩
  · rcases sends with ⟨sending, rfl⟩ | ⟨flaw, rfl⟩
    · cases inStep with
      | underway host card expected number =>
        simp only [Card.react, host.current, kind_information]
        exact InStep.take host card expected number
      | arrived host rest card expected number last =>
        -- The slice has arrived before, and the card says again what it said then.
        obtain ⟨frame, sent, kind⟩ := last
        simp only [Card.react, host.current, kind_information,
          Card.onInformation_again expected sent]
        exact (InStep.arrived host rest card expected number ⟨frame, sent, kind⟩).say (.inl kind)
      | answered host rest card whole expected number lastInfo last =>
        obtain ⟨frame, sent, kind⟩ := last
        simp only [Card.react, host.current, kind_information,
          Card.onInformation_again expected sent]
        refine (InStep.answered host rest card whole expected number lastInfo
          ⟨frame, sent, kind⟩).say ?_
        rcases kind with kind | ⟨info, mem, same⟩
        · exact .inl kind
        · refine .inr ⟨info, mem, ?_, same⟩
          rw [lastInfo] at mem
          cases mem
          rfl
      | pausing quiet => exact absurd sending (by simp [quiet])
      | continued quiet => exact absurd sending (by simp [quiet])
    · simp only [Card.react, receipt, kind_receipt]
      exact inStep.acknowledge
  · exact inStep.say (c.replies_ready t (.of e))

/-! ## The host's reactions -/

/-- Where an exchange is does not depend on what the host sends next, or for how long. -/
theorem InStep.resend (inStep : InStep app start command t a c) (next : Block)
    (retries stretch : Nat) : InStep app start command t { a with next, retries, stretch } c := by
  cases inStep with
  | underway host card expected number =>
    exact .underway ⟨host.sending, host.answer, host.current, host.fits, host.whole⟩ card expected
      number
  | arrived host rest card expected number last =>
    exact .arrived ⟨host.sending, host.answer, host.current, host.fits, host.whole⟩ rest card
      expected number last
  | answered host rest card whole expected number lastInfo last =>
    exact .answered ⟨host.sending, host.answer, host.current, host.fits, host.whole⟩ rest card
      whole expected number lastInfo last
  | pausing sending card whole expected number lastInfo =>
    exact .pausing sending card whole expected number lastInfo
  | continued sending card whole expected number lastInfo =>
    exact .continued sending card whole expected number lastInfo

theorem InStep.spend (inStep : InStep app start command t a c) {block : Block}
    (sends : a.Sends t block) : (t.spend a block).Upholds app start command c := by
  unfold T1.spend
  split
  · trivial
  · exact ⟨inStep.resend _ _ _, sends⟩

theorem sending_advance {arrived rest : Bytes} (ifsc : t.ifsc ≤ Block.maxInfo)
    (whole : arrived ++ rest = command) :
    Sending command t (t.advance rest []) arrived (rest.take t.ifsc) := by
  refine ⟨rfl, rfl, ?_, ?_, ?_⟩
  · have : decide (t.ifsc < rest.length) = !(rest.drop t.ifsc).isEmpty := by
      rw [Bool.eq_iff_iff]
      simp [List.drop_eq_nil_iff]
    simp only [advance, slice, this]
  · rw [List.length_take]
    exact Nat.le_trans (Nat.min_le_left ..) ifsc
  · simp only [advance]
    rw [List.append_assoc, List.take_append_drop, whole]

/-- Without news in it, an R-block is answered by what was sent before. -/
theorem onReceipt_stale {nr : Bool} (stale : a.sending = false ∨ nr = t.ns ∨ a.rest = []) :
    t.onReceipt a nr = t.spend a (if a.sending then a.current else t.receipt .none) := by
  unfold onReceipt
  split
  · next news =>
    rcases stale with quiet | same | nothing
    · simp [quiet] at news
    · simp [same] at news
    · simp [nothing] at news
  · rfl

/-- An R-block: the slice has arrived, or has to be sent again. -/
theorem InStep.hears_receipt (inStep : InStep app start command t a c)
    (ifsc : t.ifsc ≤ Block.maxInfo) :
    (t.onReceipt a c.expected).Upholds app start command c := by
  have again : a.Sends t (if a.sending then a.current else t.receipt .none) := by
    split
    · next sending => exact .inl ⟨sending, rfl⟩
    · exact .inr ⟨.none, rfl⟩
  cases inStep with
  | underway host card expected number =>
    rw [onReceipt_stale (.inr (.inl expected))]
    exact (InStep.underway host card expected number).spend again
  | arrived host rest card expected number last =>
    -- This is the only position in which the number of the R-block is news to the host.
    have next : (!t.ns) ≠ t.ns := by simp
    simp only [onReceipt, host.sending, expected, host.answer, bne_iff_ne.mpr next,
      List.isEmpty_eq_false_iff.mpr rest, Bool.not_false, Bool.and_true, if_true]
    refine ⟨.underway (sending_advance ifsc host.whole) card expected number, .inl ⟨rfl, rfl⟩⟩
  | answered host rest card whole expected number lastInfo last =>
    rw [onReceipt_stale (.inr (.inr rest))]
    exact (InStep.answered host rest card whole expected number lastInfo last).spend again
  | pausing sending card whole expected number lastInfo =>
    rw [onReceipt_stale (.inl sending)]
    exact (InStep.pausing sending card whole expected number lastInfo).spend again
  | continued sending card whole expected number lastInfo =>
    rw [onReceipt_stale (.inl sending)]
    exact (InStep.continued sending card whole expected number lastInfo).spend again

/-- The next part of the answer: the host asks for another one, or has the whole answer. -/
theorem Ran.upholds {fragment : Fragment} {waiting : List Fragment}
    (card : Ran app start command waiting c) (sending : a.sending = false)
    (whole : a.answer ++ contents (fragment :: waiting) = (app start.memory command).1.bytes)
    (expected : c.expected = t.ns) (number : c.number = !t.nr)
    (lastInfo : c.lastInfo = some ⟨t.nr, !waiting.isEmpty, fragment⟩) :
    (t.onInformation a t.nr (!waiting.isEmpty) fragment.1).Upholds app start command c := by
  have answer : a.answer ++ fragment.1 ++ contents waiting =
      (app start.memory command).1.bytes := by
    rw [List.append_assoc]
    exact whole
  simp only [onInformation, sending, Bool.false_and, Bool.false_eq_true, if_false,
    bne_self_eq_false]
  cases waiting with
  | nil =>
    simp only [List.isEmpty_nil, Bool.not_true, Bool.false_eq_true, if_false]
    refine ⟨card.ran, card.memory, ?_, expected, number, ?_⟩
    · rw [← answer]
      exact (List.append_nil _).symm
    · refine ⟨card.command, card.waiting, ?_⟩
      rw [lastInfo, number]
      simp
  | cons fragment' waiting =>
    simp only [List.isEmpty_cons, Bool.not_false, if_true]
    refine ⟨.pausing rfl card answer expected number ?_, .inr ⟨.none, rfl⟩⟩
    exact ⟨_, lastInfo, by simp⟩

/-- The first I-block of an answer says that the whole command has arrived. -/
theorem onInformation_first (sending : a.sending = true) (rest : a.rest = []) (ns more : Bool)
    (info : Bytes) :
    t.onInformation a ns more info =
      { t with ns := !t.ns }.onInformation { a with sending := false } ns more info := by
  simp [onInformation, sending, rest]

/-- Whether the host reads the card's reply or nothing, the exchange stays in step until it is
served or given up. -/
theorem InStep.host_reacts (inStep : InStep app start command t a c)
    (ifsc : t.ifsc ≤ Block.maxInfo) {frame : Frame} (replies : c.Replies t frame)
    {received : Except Error Block} (read : Read frame.1 received) :
    (t.react a received).Upholds app start command c := by
  rcases read with rfl | ⟨e, rfl⟩
  · rcases replies with kind | ⟨sent, mem, number, rfl⟩
    · simp only [react, kind]
      exact inStep.hears_receipt ifsc
    · simp only [react, Sent.kind_frame]
      -- The I-block has the number that the host waits for, so the card has run the command.
      cases inStep with
      | underway host card _ own =>
        have := card.lastInfo sent mem
        rw [number, own] at this
        simp at this
      | arrived host rest card _ own last =>
        have := card.lastInfo sent mem
        rw [number, own] at this
        simp at this
      | answered host rest card whole expected own lastInfo last =>
        rw [lastInfo] at mem
        cases mem
        rw [onInformation_first host.sending rest]
        exact Ran.upholds card rfl whole expected own lastInfo
      | pausing sending card whole expected own lastInfo =>
        obtain ⟨sent', lastInfo, other⟩ := lastInfo
        rw [lastInfo] at mem
        cases mem
        rw [number] at other
        simp at other
      | continued sending card whole expected own lastInfo =>
        rw [lastInfo] at mem
        cases mem
        exact card.upholds sending whole expected own lastInfo
  · simp only [react]
    split
    · exact inStep.spend (.inr ⟨_, rfl⟩)
    · trivial

end CardTerminal.T1
