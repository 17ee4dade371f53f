import CardTerminal.Proofs.T1.ExactlyOnce

/-!
Where an attempt is, and what the host makes of a block there.

Three bits say where an attempt of T=1 is (`Position`): the number of the slice that was sent last,
whether more of the command follows it, and the number that the next part of the answer has. They
can be told from what was sent and heard alone, and they decide what a received block means
(`Meaning`).

Main statement: what an engine makes of a block is told by what it means at the engine's position
(`reaction`), in one of eight ways (`Reaction`).
-/

namespace CardTerminal.T1

/-! ## Positions -/

/-- Where an attempt is. -/
structure Position where
  /-- The number of the slice that was sent last. -/
  ns : Bool
  /-- More of the command follows that slice. -/
  more : Bool
  /-- The number of the next part of the answer. -/
  nr : Bool
  deriving DecidableEq, Repr

/-- What something received means to an attempt. -/
inductive Meaning where
  /-- The next slice may be sent. -/
  | onward
  /-- It is the next part of the answer. -/
  | part (block : Block)
  /-- The card asks for time, or for another field length. -/
  | request
  /-- The card gives the command up. -/
  | abort
  /-- It is an error, or a block that says nothing new. -/
  | flaw
  /-- Nothing was received. -/
  | silence
  deriving DecidableEq, Repr

/-- What something received means at a position. -/
def Position.meaning (p : Position) : Except Error Block → Meaning
  | .error _ => .flaw
  | .ok block =>
    match block.kind with
    | .receipt nr => if p.more ∧ nr ≠ p.ns then .onward else .flaw
    | .information ns _ => if ¬ p.more ∧ ns = p.nr then .part block else .flaw
    | .supervisory .wtx false | .supervisory .ifs false => .request
    | .supervisory .abort false => .abort
    | .supervisory _ _ => .flaw

/-- Whether this brings the exchange further: the next slice, or the next part of the answer. -/
def Meaning.isProgress : Meaning → Bool
  | .onward | .part _ => true
  | .request | .abort | .flaw | .silence => false

def Meaning.part? : Meaning → Option Block
  | .part block => some block
  | .onward | .request | .abort | .flaw | .silence => none

/-- Where the engine is in an attempt. -/
def position (t : T1) (a : Attempt) : Position :=
  ⟨if a.sending then t.ns else !t.ns, a.sending && !a.rest.isEmpty, t.nr⟩

/-! ## Field lengths that the card asks for -/

/-- The field length that the card asks for, if it asks for one that a field can have. -/
def requested : Except Error Block → Option Nat
  | .error _ => none
  | .ok block =>
    let size := (block.info.headD 0).toNat
    if block.kind = .supervisory .ifs false ∧ 1 ≤ size ∧ size ≤ Block.maxInfo then some size
    else none

theorem requested_eq_none {p : Position} {received : Except Error Block}
    (other : p.meaning received ≠ .request) : requested received = none := by
  cases received with
  | error cause => rfl
  | ok block =>
    simp only [requested, ite_eq_right_iff, and_imp]
    intro kind
    simp [Position.meaning, kind] at other

/-! ## Reactions -/

/-- The engine once it knows that the whole command has arrived. -/
def conceded (t : T1) (a : Attempt) : T1 :=
  { t with ns := if a.sending then !t.ns else t.ns }

/-- The block does nothing but keep the exchange going: it is no slice, and does not start
afresh. -/
def Polite (block : Block) : Prop :=
  (∃ nr, block.kind = .receipt nr) ∨ ∃ task, block.kind = .supervisory task true

/-- What an engine makes of something received that means this. -/
inductive Reaction (t : T1) (a : Attempt) : Except Error Block → Meaning → Verdict → Prop
  /-- The next slice is sent. -/
  | onward {receipt : Block} {nr : Bool} (kind : receipt.kind = .receipt nr) (news : nr ≠ t.ns)
      (sending : a.sending = true) (rest : a.rest ≠ []) :
      Reaction t a (.ok receipt) .onward
        (.proceed { t with ns := !t.ns } ({ t with ns := !t.ns }.advance a.rest a.answer))
  /-- More of the answer is asked for. -/
  | part {block : Block} (kind : block.kind = .information t.nr true)
      (rest : a.sending = true → a.rest = []) :
      Reaction t a (.ok block) (.part block)
        (.proceed { t.conceded a with nr := !t.nr }
          { a with
            sending := false
            answer := a.answer ++ block.info
            next := .receipt (!t.nr) .none
            retries := t.retries
            stretch := 1 })
  /-- The answer is whole. -/
  | last {block : Block} (kind : block.kind = .information t.nr false)
      (rest : a.sending = true → a.rest = []) :
      Reaction t a (.ok block) (.part block)
        (.finished { t.conceded a with nr := !t.nr } (a.answer ++ block.info))
  /-- The card has what it asked for. -/
  | request {block reply : Block} (polite : Polite reply) (stretch : Nat) :
      Reaction t a (.ok block) .request
        (.proceed { t with ifsc := (requested (.ok block)).getD t.ifsc }
          { a with next := reply, stretch })
  | abort {block : Block} : Reaction t a (.ok block) .abort (.aborted t)
  /-- The channel failed. -/
  | lost {cause : Error} : Reaction t a (.error cause) .flaw (.lost t cause)
  /-- The slice is sent again, or the card is asked for its block again. -/
  | flaw {received : Except Error Block} {reply : Block}
      (reply_cases : a.sending = true ∧ reply = a.current ∨ Polite reply) :
      Reaction t a received .flaw (t.spend a reply)
  /-- An old block tells at least that the command has arrived. -/
  | stale {block reply : Block} (sending : a.sending = true) (rest : a.rest = [])
      (polite : Polite reply) :
      Reaction t a (.ok block) .flaw
        (T1.spend { t with ns := !t.ns } { a with sending := false } reply)

theorem polite_receipt (t : T1) (flaw : Block.Flaw) : Polite (t.receipt flaw) :=
  .inl ⟨t.nr, kind_receipt ..⟩

theorem kind_response (task : Block.Task) (info : Bytes) (known : task = .wtx ∨ task = .ifs) :
    (Block.response task info).kind = .supervisory task true := by
  rcases known with rfl | rfl <;> simp [Block.response, Block.kind, Block.bit, Nat.testBit,
    Block.Task.number, Block.Task.ofNumber]

theorem reaction_receipt (t : T1) (a : Attempt) {block : Block} {nr : Bool}
    (kind : block.kind = .receipt nr) :
    Reaction t a (.ok block) ((t.position a).meaning (.ok block)) (t.onReceipt a nr) := by
  by_cases news : a.sending = true ∧ nr ≠ t.ns ∧ a.rest ≠ []
  · obtain ⟨sending, other, rest⟩ := news
    have meaning : (t.position a).meaning (.ok block) = .onward := by
      simp [Position.meaning, kind, position, sending, rest, other]
    have verdict : t.onReceipt a nr =
        .proceed { t with ns := !t.ns } ({ t with ns := !t.ns }.advance a.rest a.answer) := by
      simp [onReceipt, sending, rest, other]
    rw [meaning, verdict]
    exact .onward kind other sending rest
  · have stale : a.sending = false ∨ nr = t.ns ∨ a.rest = [] := by
      cases sending : a.sending with
      | false => exact .inl rfl
      | true =>
        by_cases same : nr = t.ns
        · exact .inr (.inl same)
        · exact .inr (.inr (by simpa [sending, same] using news))
    have meaning : (t.position a).meaning (.ok block) = .flaw := by
      rcases stale with quiet | same | nothing
      · simp [Position.meaning, kind, position, quiet]
      · by_cases sending : a.sending = true <;>
          simp [Position.meaning, kind, position, sending, same]
      · simp [Position.meaning, kind, position, nothing]
    rw [meaning, onReceipt_stale stale]
    refine .flaw ?_
    split
    · next sending => exact .inl ⟨sending, rfl⟩
    · exact .inr (polite_receipt t .none)

/-- An I-block: it is news if the whole command was sent, and if it has the right number. -/
theorem reaction_information (t : T1) (a : Attempt) {block : Block} {ns more : Bool}
    (kind : block.kind = .information ns more) :
    Reaction t a (.ok block) ((t.position a).meaning (.ok block))
      (t.onInformation a ns more block.info) := by
  by_cases early : a.sending = true ∧ a.rest ≠ []
  · obtain ⟨sending, rest⟩ := early
    have meaning : (t.position a).meaning (.ok block) = .flaw := by
      simp [Position.meaning, kind, position, sending, rest]
    rw [meaning, onInformation, if_pos (by simp [sending, rest])]
    exact .flaw (.inr (polite_receipt t .other))
  have rest : a.sending = true → a.rest = [] := by simpa using early
  have listening : (a.sending && !a.rest.isEmpty) = false := by
    cases sending : a.sending with
    | true => simp [rest sending]
    | false => rfl
  by_cases same : ns = t.nr
  · subst same
    have meaning : (t.position a).meaning (.ok block) = .part block := by
      simp only [Position.meaning, kind, position, listening]
      rfl
    have engine : (if a.sending = true then { t with ns := !t.ns } else t) = t.conceded a := by
      unfold conceded
      split <;> rfl
    have number : (t.conceded a).nr = t.nr := rfl
    simp only [meaning, onInformation, listening, Bool.false_eq_true, if_false, engine, number,
      bne_self_eq_false]
    cases more with
    | true => exact .part kind rest
    | false => exact .last kind rest
  · have meaning : (t.position a).meaning (.ok block) = .flaw := by
      simp [Position.meaning, kind, position, same]
    rw [meaning]
    cases sending : a.sending with
    | true =>
      have verdict : t.onInformation a ns more block.info =
          T1.spend { t with ns := !t.ns } { a with sending := false } (t.receipt .other) := by
        simp [onInformation, sending, rest sending, same, receipt]
      rw [verdict]
      exact .stale sending (rest sending) (polite_receipt t .other)
    | false =>
      have verdict : t.onInformation a ns more block.info = t.spend a (t.receipt .other) := by
        simp [onInformation, sending, same, spend]
      rw [verdict]
      exact .flaw (.inr (polite_receipt t .other))

theorem reaction_request (t : T1) (a : Attempt) {block : Block} {task : Block.Task}
    (kind : block.kind = .supervisory task false) :
    Reaction t a (.ok block) ((t.position a).meaning (.ok block))
      (t.onRequest a task block.info) := by
  cases task with
  | wtx =>
    have none : requested (.ok block) = none := by simp [requested, kind]
    have same : { t with ifsc := (requested (.ok block)).getD t.ifsc } = t := by rw [none]; rfl
    have granted : Reaction t a (.ok block) .request
        (.proceed { t with ifsc := (requested (.ok block)).getD t.ifsc }
          { a with
            next := .response .wtx [max (block.info.headD 1) 1]
            stretch := (max (block.info.headD 1) 1).toNat }) :=
      .request (.inr ⟨.wtx, kind_response _ _ (.inl rfl)⟩) _
    rw [same] at granted
    simp only [Position.meaning, kind]
    exact granted
  | ifs =>
    have engine : (if 1 ≤ (block.info.headD 0).toNat ∧ (block.info.headD 0).toNat ≤ Block.maxInfo
        then { t with ifsc := (block.info.headD 0).toNat } else t) =
        { t with ifsc := (requested (.ok block)).getD t.ifsc } := by
      simp only [requested, kind, true_and]
      split <;> rfl
    simp only [Position.meaning, kind, onRequest, engine]
    exact .request (.inr ⟨.ifs, kind_response _ _ (.inr rfl)⟩) 1
  | abort =>
    simp only [Position.meaning, kind]
    exact .abort
  | resynch =>
    simp only [Position.meaning, kind]
    exact .flaw (.inr (polite_receipt t .other))
  | unknown number =>
    simp only [Position.meaning, kind]
    exact .flaw (.inr (polite_receipt t .other))

/-- What an engine makes of something received is told by what it means where the engine is. -/
theorem reaction (t : T1) (a : Attempt) (received : Except Error Block) :
    Reaction t a received ((t.position a).meaning received) (t.react a received) := by
  cases received with
  | error cause =>
    simp only [react, Position.meaning]
    split
    · exact .flaw (.inr (polite_receipt t _))
    · exact .lost
  | ok block =>
    cases kind : block.kind with
    | receipt nr =>
      simp only [react, kind]
      exact reaction_receipt t a kind
    | information ns more =>
      simp only [react, kind]
      exact reaction_information t a kind
    | supervisory task response =>
      cases response with
      | false =>
        simp only [react, kind]
        exact reaction_request t a kind
      | true =>
        have flaw : (t.position a).meaning (.ok block) = .flaw := by
          cases task <;> simp [Position.meaning, kind]
        simp only [react, kind, flaw]
        exact .flaw (.inr (polite_receipt t .other))

theorem react_cases (t : T1) (a : Attempt) (received : Except Error Block) :
    ∃ meaning verdict, (t.position a).meaning received = meaning ∧
      t.react a received = verdict ∧ Reaction t a received meaning verdict :=
  ⟨_, _, rfl, rfl, t.reaction a received⟩

theorem spend_eq_proceed {t t' : T1} {a a' : Attempt} {reply : Block}
    (h : t.spend a reply = .proceed t' a') :
    ∃ left, a.retries = left + 1 ∧ t' = t ∧
      a' = { a with next := reply, retries := left, stretch := 1 } := by
  unfold spend at h
  split at h
  · cases h
  · next left retries =>
    cases h
    exact ⟨left, retries, rfl, rfl⟩

theorem spend_cases (t : T1) (a : Attempt) (reply : Block) :
    (∃ t' a', t.spend a reply = .proceed t' a') ∨ t.spend a reply = .outOfStep t := by
  unfold spend
  split
  · exact .inr rfl
  · exact .inl ⟨_, _, rfl⟩

theorem spend_ne_finished {t t' : T1} {a : Attempt} {reply : Block} {answer : Bytes} :
    t.spend a reply ≠ .finished t' answer := by
  rcases t.spend_cases a reply with ⟨_, _, same⟩ | same <;> simp [same]

theorem spend_ne_aborted {t t' : T1} {a : Attempt} {reply : Block} :
    t.spend a reply ≠ .aborted t' := by
  rcases t.spend_cases a reply with ⟨_, _, same⟩ | same <;> simp [same]

/-- An exchange is given up just if the card asks for it. -/
theorem meaning_of_aborted {t t' : T1} {a : Attempt} {received : Except Error Block}
    (verdict : t.react a received = .aborted t') :
    (t.position a).meaning received = .abort := by
  obtain ⟨meaning, v, means, reacts, reaction⟩ := t.react_cases a received
  rw [reacts] at verdict
  rw [means]
  cases reaction with
  | abort => rfl
  | onward => cases verdict
  | part => cases verdict
  | last => cases verdict
  | request => cases verdict
  | lost => cases verdict
  | flaw => exact absurd verdict spend_ne_aborted
  | stale => exact absurd verdict spend_ne_aborted

/-! ## What a reaction does not change -/

theorem engine_spend (t : T1) (a : Attempt) (reply : Block) : (t.spend a reply).engine = t := by
  unfold spend
  split <;> rfl

/-- A reaction changes the numbers at most, and takes what the card asks for. -/
theorem Reaction.engine {t : T1} {a : Attempt} {received : Except Error Block} {meaning : Meaning}
    {verdict : Verdict} (reaction : Reaction t a received meaning verdict)
    (other : meaning ≠ .request → requested received = none) :
    ∃ ns nr, verdict.engine = { t with ns, nr, ifsc := (requested received).getD t.ifsc } := by
  by_cases request : meaning = .request
  · subst request
    cases reaction
    exact ⟨t.ns, t.nr, rfl⟩
  · rw [other request]
    cases reaction with
    | onward => exact ⟨!t.ns, t.nr, rfl⟩
    | part => exact ⟨_, !t.nr, rfl⟩
    | last => exact ⟨_, !t.nr, rfl⟩
    | request => exact absurd rfl request
    | abort => exact ⟨t.ns, t.nr, rfl⟩
    | lost => exact ⟨t.ns, t.nr, rfl⟩
    | flaw => exact ⟨t.ns, t.nr, engine_spend ..⟩
    | stale => exact ⟨!t.ns, t.nr, engine_spend ..⟩

theorem engine_react (t : T1) (a : Attempt) (received : Except Error Block) :
    ∃ ns nr, (t.react a received).engine =
      { t with ns, nr, ifsc := (requested received).getD t.ifsc } :=
  (t.reaction a received).engine requested_eq_none

end CardTerminal.T1
