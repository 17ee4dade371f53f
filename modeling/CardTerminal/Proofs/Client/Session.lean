import CardTerminal.Proofs.Client.Line

/-!
Whose answers a client gets.

A client makes one call after the other on a line to a side that writes whole packets, with silences
anywhere between their bytes. Each call has a number of its own, and takes the first packet that has
this number. Answers to earlier calls that are still on the line are passed over, also those to
calls that were given up. This holds as long as the client begins to read where a packet begins, and
it always does unless a silence came inside a packet (`own_answer_unless_torn`). After such a
silence the rest of the packet is read as if packets began in it, and what a card has put there is
taken for an answer (`forged_answer`).
-/

namespace CardTerminal

theorem Packet.Carries.append {order : ByteOrder} {first second : Bytes}
    {packets others : List (Header × Bytes)} (carries : Carries order first packets)
    (carries' : Carries order second others) :
    Carries order (first ++ second) (packets ++ others) := by
  induction carries with
  | nil => exact carries'
  | cons framed _ ih =>
    rw [List.append_assoc]
    exact .cons framed ih

namespace Client

open Packet (Carries)

variable {π : Type} {respond : Respond π}

/-! ## One call -/

/-- A call that a client makes. -/
structure Turn (π : Type) where
  /-- The client before the call. -/
  client : Client π
  request : Request
  /-- The packets that the other side writes when it gets the request. -/
  written : List (Header × Bytes)

namespace Turn

def xid (t : Turn π) : UInt32 :=
  t.client.xid

def outcome (respond : Respond π) (t : Turn π) : Except Error Bytes :=
  (t.client.exchange respond t.request).1

def after (respond : Respond π) (t : Turn π) : Client π :=
  (t.client.exchange respond t.request).2

def packet (t : Turn π) : Except Error Bytes :=
  Packet.frame (.request t.xid 0) t.request.encode .native

/-- The line as the client finds it when the other side has got the request, if it gets it. -/
def line (respond : Respond π) (t : Turn π) : Line :=
  match t.packet with
  | .ok packet =>
    if t.client.line.hungUp then t.client.line
    else (respond packet t.client.line t.client.peer).1
  | .error _ => t.client.line

/-- The other side adds these packets to what is on the line, with silences where it likes. -/
def Writes (respond : Respond π) (t : Turn π) : Prop :=
  ∃ more, (t.line respond).arrivals = t.client.line.arrivals ++ more ∧
    Carries .native (more.filterMap Line.byte?) t.written

/-- A silence came inside a packet while the client read. -/
def Torn (respond : Respond π) (t : Turn π) : Prop :=
  (t.line respond).Torn (t.after respond).line

theorem xid_after (respond : Respond π) (t : Turn π) : (t.after respond).xid = nextXid t.xid := by
  unfold after exchange
  dsimp only
  split
  · rfl
  · split <;> rfl

/-- Either the request is not sent, or the client waits for the answer. -/
theorem outcome_cases (respond : Respond π) (t : Turn π) :
    (∃ cause, (cause = .commError ∨ ∃ n, cause = .packetTooLarge n) ∧
      t.outcome respond = .error cause ∧ t.line respond = t.client.line ∧
      (t.after respond).line = t.client.line) ∨
    t.outcome respond = ((t.line respond).await t.xid).1 ∧
      (t.after respond).line = ((t.line respond).await t.xid).2 := by
  unfold outcome after line packet exchange xid
  dsimp only
  cases framed : Packet.frame (.request t.client.xid 0) t.request.encode .native with
  | error e =>
    refine .inl ⟨e, .inr ⟨t.request.encode.length, ?_⟩, rfl, rfl, rfl⟩
    unfold Packet.frame at framed
    split at framed
    · cases framed
    · cases framed
      rfl
  | ok packet =>
    dsimp only
    cases t.client.line.hungUp with
    | true => exact .inl ⟨_, .inl rfl, rfl, rfl, rfl⟩
    | false => exact .inr ⟨rfl, rfl⟩

theorem carries_line {t : Turn π} {unread : List (Header × Bytes)} (writes : t.Writes respond)
    (carries : Carries .native t.client.line.bytes unread) :
    Carries .native (t.line respond).bytes (unread ++ t.written) := by
  obtain ⟨more, arrived, written⟩ := writes
  rw [Line.bytes, arrived, List.filterMap_append]
  exact carries.append written

end Turn

/-! ## One call after the other -/

/-- Calls on one connection to a side that writes whole packets, and the client after them. -/
inductive Session (respond : Respond π) : List (Turn π) → Client π → Prop where
  | connected (peer : π) : Session respond [] (.new peer)
  | turn {turns : List (Turn π)} (t : Turn π) (session : Session respond turns t.client)
    (writes : t.Writes respond) : Session respond (turns ++ [t]) (t.after respond)

def writtenBy (turns : List (Turn π)) : List (Header × Bytes) :=
  turns.flatMap Turn.written

/-- What is on the line are whole packets, the last of those that were written. -/
def InStep (written : List (Header × Bytes)) (line : Line) : Prop :=
  ∃ unread, unread <:+ written ∧ Carries .native line.bytes unread

variable {turns : List (Turn π)} {c : Client π} {t : Turn π} {written : List (Header × Bytes)}

/-- What becomes of a call: it passes over packets with other numbers, and then it fails by itself
or takes the first packet with its own. -/
inductive Own (respond : Respond π) (t : Turn π) (written : List (Header × Bytes)) : Prop where
  | failed {skipped rest : List (Header × Bytes)} {cause : Error}
    (unread : skipped ++ rest <:+ written) (others : ∀ packet ∈ skipped, packet.1.xid ≠ t.xid)
    (known : cause = .timeout ∨ cause = .commError ∨ ∃ n, cause = .packetTooLarge n)
    (outcome : t.outcome respond = .error cause)
    (left : Carries .native (t.after respond).line.bytes rest ∨ t.Torn respond)
  | answered {skipped rest : List (Header × Bytes)} {header : Header} {body : Bytes}
    (unread : skipped ++ (header, body) :: rest <:+ written)
    (others : ∀ packet ∈ skipped, packet.1.xid ≠ t.xid) (own : header.xid = t.xid)
    (outcome : t.outcome respond = (Error.check header.error).map (fun _ => body))
    (left : Carries .native (t.after respond).line.bytes rest)

theorem Own.of_fate {packets : List (Header × Bytes)}
    (fate : Line.Fate (t.line respond) t.xid packets (t.outcome respond) (t.after respond).line)
    (last : packets <:+ written) :
    Own respond t written ∧ (¬ t.Torn respond → InStep written (t.after respond).line) := by
  generalize outcome : t.outcome respond = result at fate
  generalize after : (t.after respond).line = line at fate
  cases fate with
  | answered skipped others own left =>
    refine ⟨.answered last others own outcome (after ▸ left), fun _ => ⟨_, ?_, left⟩⟩
    exact (List.suffix_cons _ _).trans ((List.suffix_append _ _).trans last)
  | unanswered skipped others given left =>
    refine ⟨.failed last others (given.imp id .inl) outcome (.inl (after ▸ left)),
      fun _ => ⟨_, ?_, left⟩⟩
    exact (List.suffix_append _ _).trans last
  | torn skipped others torn =>
    -- The only fate that leaves the line out of step.
    have torn' : t.Torn respond := by
      rw [Turn.Torn, after]
      exact torn
    exact ⟨.failed last others (.inl rfl) outcome (.inr torn'), fun whole => absurd torn' whole⟩

/-- A call that begins in step gets nothing but its own answer, and ends in step unless a silence
came inside a packet. -/
theorem InStep.turn (inStep : InStep written t.client.line) (writes : t.Writes respond) :
    Own respond t (written ++ t.written) ∧
      (¬ t.Torn respond → InStep (written ++ t.written) (t.after respond).line) := by
  obtain ⟨unread, last, carries⟩ := inStep
  have carries' := Turn.carries_line writes carries
  have last' : unread ++ t.written <:+ written ++ t.written := by
    obtain ⟨before, cut⟩ := last
    exact ⟨before, by rw [← List.append_assoc, cut]⟩
  rcases t.outcome_cases respond with ⟨cause, known, outcome, same, left⟩ | ⟨outcome, left⟩
  · -- The request was not sent, and nothing was read.
    rw [same, ← left] at carries'
    have nothing : [] ++ (unread ++ t.written) <:+ written ++ t.written := last'
    exact ⟨.failed nothing (fun _ mem => absurd mem List.not_mem_nil) (.inr known) outcome
      (.inl carries'), fun _ => ⟨_, last', carries'⟩⟩
  · have fate := Line.await_fate t.xid carries'
    rw [← outcome, ← left] at fate
    exact Own.of_fate fate last'

theorem Session.inStep (session : Session respond turns c) (sound : ∀ t ∈ turns, ¬ t.Torn respond) :
    InStep (writtenBy turns) c.line := by
  -- On the session: what one call leaves in step, the next begins with.
  induction session with
  | connected peer => exact ⟨[], List.suffix_refl _, .nil⟩
  | turn t session writes ih =>
    have before := ih fun t mem => sound t (List.mem_append_left _ mem)
    have whole := sound t (List.mem_append_right _ List.mem_cons_self)
    rw [writtenBy, List.flatMap_append, List.flatMap_singleton]
    exact (before.turn writes).2 whole

/-! ## The numbers of the calls -/

theorem nextXid_ofNat {n : Nat} (small : n + 1 < UInt32.size) :
    nextXid (UInt32.ofNat n) = UInt32.ofNat (n + 1) := by
  have next : UInt32.ofNat n + 1 = UInt32.ofNat (n + 1) := (UInt32.ofNat_add n 1).symm
  have positive : (1 : UInt32) ≤ UInt32.ofNat (n + 1) := by
    rw [UInt32.le_iff_toNat_le, UInt32.toNat_ofNat_of_lt' small]
    exact Nat.le_add_left 1 n
  rw [nextXid, next]
  show (if UInt32.ofNat (n + 1) ≤ 1 then 1 else UInt32.ofNat (n + 1)) = _
  split
  · next least => exact UInt32.le_antisymm positive least
  · rfl

theorem Session.xid (session : Session respond turns c) (few : turns.length + 1 < UInt32.size) :
    c.xid = UInt32.ofNat (turns.length + 1) := by
  induction session with
  | connected peer => rfl
  | turn t session writes ih =>
    rw [List.length_append, List.length_singleton] at few ⊢
    rw [t.xid_after, Turn.xid, ih (by omega), nextXid_ofNat few]

theorem Session.xids (session : Session respond turns c) (few : turns.length < UInt32.size) :
    turns.map Turn.xid = (List.range turns.length).map (fun n => UInt32.ofNat (n + 1)) := by
  induction session with
  | connected peer => rfl
  | turn t session writes ih =>
    rw [List.length_append, List.length_singleton] at few ⊢
    rw [List.map_append, ih (by omega), List.range_succ, List.map_append]
    congr 1
    exact congrArg (fun x => [x]) (session.xid few)

theorem Session.xids_nodup (session : Session respond turns c)
    (few : turns.length < UInt32.size) : (turns.map Turn.xid).Nodup := by
  rw [session.xids few]
  refine List.pairwise_map.mpr (List.Pairwise.imp_of_mem ?_ List.nodup_range)
  intro a b memA memB differ same
  have lessA := List.mem_range.mp memA
  have lessB := List.mem_range.mp memB
  have same := congrArg UInt32.toNat same
  rw [UInt32.toNat_ofNat_of_lt' (Nat.lt_of_le_of_lt lessA few),
    UInt32.toNat_ofNat_of_lt' (Nat.lt_of_le_of_lt lessB few)] at same
  omega

/-! ## Whole sessions -/

theorem Session.cut {earlier later : List (Turn π)}
    (session : Session respond (earlier ++ t :: later) c) :
    Session respond earlier t.client ∧ t.Writes respond := by
  generalize made : earlier ++ t :: later = turns at session
  -- The last call of the session is this one or one of the later ones.
  induction session generalizing later with
  | connected peer => cases (List.append_eq_nil_iff.mp made).2
  | @turn turns last session writes ih =>
    rcases List.eq_nil_or_concat later with rfl | ⟨others, final, rfl⟩
    · obtain ⟨rfl, same⟩ := List.append_inj' made rfl
      cases same
      exact ⟨session, writes⟩
    · have shorter : (earlier ++ t :: others) ++ [final] = turns ++ [last] := by
        rw [← made]
        simp
      exact ih (List.append_inj' shorter rfl).1

/-- **A call gets its own answer, unless a silence came inside a packet before.** No two of fewer
than `2 ^ 32` calls have the same number. A call fails by itself, or it takes the first packet with
its number from what is left of all that was written, and passes over the packets before it. -/
theorem own_answer_unless_torn (session : Session respond turns c)
    (few : turns.length < UInt32.size) :
    (turns.map Turn.xid).Nodup ∧
      ∀ earlier t later, turns = earlier ++ t :: later → (∀ u ∈ earlier, ¬ u.Torn respond) →
        Own respond t (writtenBy (earlier ++ [t])) := by
  refine ⟨session.xids_nodup few, ?_⟩
  rintro earlier t later rfl sound
  obtain ⟨before, writes⟩ := session.cut
  rw [writtenBy, List.flatMap_append, List.flatMap_singleton]
  exact ((before.inStep sound).turn writes).1

/-! ## Two silences -/

/-- A side that has prepared what arrives after each request. -/
def prepared : Respond (List (List Arrival)) := fun _ line script =>
  match script with
  | [] => (line, [])
  | more :: rest => ({ line with arrivals := line.arrivals ++ more }, rest)

def command : Request :=
  ⟨.transact, 0, [0x00]⟩

def answerBytes (xid : UInt32) (body : Bytes) : Bytes :=
  (Header.reply xid 0 (UInt16.ofNat body.length)).encode .native ++ body

theorem carries_answer (xid : UInt32) {body : Bytes} (short : body.length ≤ Packet.maxPayload) :
    Carries .native (((answerBytes xid body).map Arrival.byte).filterMap Line.byte?)
      [(.reply xid 0 0, body)] := by
  have framed : Packet.frame (.reply xid 0 0) body .native = .ok (answerBytes xid body) :=
    if_pos short
  rw [Line.filterMap_byte, ← List.append_nil (answerBytes xid body)]
  exact .cons framed .nil

/-! ### An answer that is late -/

/-- A call that is given up before its answer comes. -/
def givenUp : Turn (List (List Arrival)) where
  client := .new [.silence :: (answerBytes 1 [0x6A, 0x82]).map .byte,
    (answerBytes 2 [0x90, 0x00]).map .byte]
  request := command
  written := [(.reply 1 0 0, [0x6A, 0x82])]

/-- The call after it, which finds both answers. -/
def repeated : Turn (List (List Arrival)) where
  client := ⟨2, ⟨(answerBytes 1 [0x6A, 0x82]).map .byte, false⟩,
    [(answerBytes 2 [0x90, 0x00]).map .byte]⟩
  request := command
  written := [(.reply 2 0 0, [0x90, 0x00])]

theorem after_givenUp : givenUp.after prepared = repeated.client := by
  have quiet : (givenUp.line prepared).readPacket = (.error .timeout, repeated.client.line) := rfl
  have waited : (givenUp.line prepared).await 1 = (.error .timeout, repeated.client.line) :=
    Line.await_of_error quiet
  rw [Turn.after, exchange_sent rfl rfl]
  show Client.mk 2 ((givenUp.line prepared).await 1).2 _ = _
  rw [waited]
  rfl

/-- An answer that comes too late is passed over by the next call. -/
theorem own_answer_unless_torn_late :
    Session prepared [givenUp, repeated] (repeated.after prepared) ∧
      ([givenUp, repeated] : List (Turn _)).length < UInt32.size ∧ ¬ givenUp.Torn prepared ∧
      Own prepared repeated (writtenBy [givenUp, repeated]) := by
  have first : Session prepared [givenUp] repeated.client := by
    rw [← after_givenUp]
    refine .turn givenUp (.connected _) ⟨_, rfl, ?_⟩
    exact carries_answer 1 (by decide)
  have session : Session prepared [givenUp, repeated] (repeated.after prepared) :=
    .turn repeated first ⟨_, rfl, carries_answer 2 (by decide)⟩
  have few : ([givenUp, repeated] : List (Turn _)).length < UInt32.size := by decide
  have whole : ¬ givenUp.Torn prepared := by
    rintro ⟨_, stream, _, _, head, _, _, _, begun, _, arrived, _⟩
    have some : stream ++ head ≠ [] := fun none => begun (List.append_eq_nil_iff.mp none).2
    obtain ⟨b, more, read⟩ := List.exists_cons_of_ne_nil some
    rw [read] at arrived
    cases arrived
  obtain ⟨-, own⟩ := own_answer_unless_torn session few
  exact ⟨session, few, whole, own [givenUp] repeated [] rfl (by simpa using whole)⟩

/-! ### An answer that is not one -/

/-- What a card answered to the first call: it reads like a packet that answers the second. -/
def disguised : Bytes :=
  answerBytes 2 [0x90, 0x00]

/-- A call that is given up between the header and the body of its answer. -/
def interrupted : Turn (List (List Arrival)) where
  client := .new [((answerBytes 1 disguised).take 12).map .byte ++
      .silence :: ((answerBytes 1 disguised).drop 12).map .byte,
    (answerBytes 2 [0x6A, 0x82]).map .byte]
  request := command
  written := [(.reply 1 0 0, disguised)]

/-- The call after it, which finds the body. -/
def deceived : Turn (List (List Arrival)) where
  client := ⟨2, ⟨disguised.map .byte, false⟩, [(answerBytes 2 [0x6A, 0x82]).map .byte]⟩
  request := command
  written := [(.reply 2 0 0, [0x6A, 0x82])]

theorem after_interrupted : interrupted.after prepared = deceived.client := by
  have torn : (interrupted.line prepared).readPacket = (.error .timeout, deceived.client.line) :=
    rfl
  have waited : (interrupted.line prepared).await 1 = (.error .timeout, deceived.client.line) :=
    Line.await_of_error torn
  rw [Turn.after, exchange_sent rfl rfl]
  show Client.mk 2 ((interrupted.line prepared).await 1).2 _ = _
  rw [waited]
  rfl

/-- A silence inside a packet makes the next call take bytes that a card chose for its answer. -/
theorem forged_answer :
    Session prepared [interrupted, deceived] (deceived.after prepared) ∧
      interrupted.Torn prepared ∧ deceived.outcome prepared = .ok [0x90, 0x00] ∧
      ∀ packet ∈ writtenBy [interrupted, deceived], packet.1.xid = deceived.xid →
        packet.2 = [0x6A, 0x82] := by
  have first : Session prepared [interrupted] deceived.client := by
    rw [← after_interrupted]
    refine .turn interrupted (.connected _) ⟨_, rfl, ?_⟩
    exact carries_answer 1 (by decide)
  refine ⟨.turn deceived first ⟨_, rfl, carries_answer 2 (by decide)⟩, ?_, ?_, by decide⟩
  · refine ⟨[], [], .reply 1 0 0, disguised, (answerBytes 1 disguised).take 12,
      (answerBytes 1 disguised).drop 12, .nil, rfl, by decide, by decide, ?_, ?_⟩
    · rw [after_interrupted]
      rfl
    · rw [after_interrupted]
      exact List.prefix_refl _
  · have read : (deceived.line prepared).readPacket = (.ok (.reply 2 0 2, [0x90, 0x00]),
        ⟨(answerBytes 2 [0x6A, 0x82]).map .byte, false⟩) := rfl
    rw [Turn.outcome, exchange_sent rfl rfl]
    show ((deceived.line prepared).await 2).1 = _
    rw [Line.await_of_packet read]
    rfl

end Client

end CardTerminal
