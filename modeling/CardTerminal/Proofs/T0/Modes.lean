import CardTerminal.Proofs.Apdu
import CardTerminal.Proofs.Exchange
import CardTerminal.Proofs.T0.Card

/-!
Both ways to talk to a T=0 card come to the same.

Whatever the pacing, following the procedure bytes of a card brings every byte of data to the card
and every byte of its reply to the host, once and in order (`transfer_characters`). A reader that
paces the card itself does the same in one go (`transfer_blocks`). So each transfer is as the card
carries it out, and a command is made of the same transfers either way.

Main statement: `modes_agree`.
-/

namespace CardTerminal.T0

open CardTerminal.Action

/-! ## Procedure bytes -/

/-- An instruction byte that is not taken for a status word, nor is its complement. -/
def Plain (ins : UInt8) : Prop :=
  ins &&& 0xF0 ≠ 0x60 ∧ ins &&& 0xF0 ≠ 0x90

instance (ins : UInt8) : Decidable (Plain ins) :=
  inferInstanceAs (Decidable (_ ∧ _))

theorem procedure_null (ins : UInt8) : procedure ins (Pace.null.byte ins) = .null :=
  if_pos rfl

theorem procedure_status (ins : UInt8) (status : Status) :
    procedure ins status.high = .status := by
  have legal := status.legal
  have other : status.high ≠ 0x60 := by
    rcases legal with ⟨-, other⟩ | high
    · exact other
    · rintro same
      rw [same] at high
      exact absurd high (by decide)
  rw [procedure, if_neg other, if_pos (legal.imp_left And.left)]

/-- What is true of the bytes up to 255 is true of all bytes. -/
theorem forall_byte {P : UInt8 → Prop} (all : ∀ n < 256, P (UInt8.ofNat n)) (b : UInt8) : P b := by
  have := all b.toNat b.toNat_lt
  rwa [UInt8.ofNat_toNat] at this

theorem procedure_all {ins : UInt8} (plain : Plain ins) :
    procedure ins (Pace.all.byte ins) = .all := by
  revert plain
  exact forall_byte (P := fun ins => Plain ins → procedure ins (Pace.all.byte ins) = .all)
    (by decide +kernel) ins

theorem procedure_one {ins : UInt8} (plain : Plain ins) :
    procedure ins (Pace.one.byte ins) = .one := by
  revert plain
  exact forall_byte (P := fun ins => Plain ins → procedure ins (Pace.one.byte ins) = .one)
    (by decide +kernel) ins

/-! ## Receiving characters -/

namespace Card

variable {κ : Type} {limit : Nat} {card : Card κ} {cut : Bytes → Nat}

theorem delivers (card : Card κ) (cut : Bytes → Nat) (x : Session κ) (taking : Option (Taking κ))
    (dad : UInt8) (timeout : Nat) :
    (card.characters cut).Delivers dad timeout (fun coming line => line = ⟨x, coming, taking⟩) where
  recv := by
    rintro coming s room rfl some positive
    have length := List.length_pos_iff.mpr some
    refine ⟨coming.take (min room (max 1 (cut coming))),
      coming.drop (min room (max 1 (cut coming))), _, ?_, ?_, List.take_append_drop .., ?_, rfl⟩
    · apply List.length_pos_iff.mp
      rw [List.length_take]
      omega
    · rw [List.length_take]
      omega
    · simp only [characters, if_neg some]

/-- As many characters as are there can be received, however they are cut. -/
theorem receive_coming (x : Session κ) (taking : Option (Taking κ)) (dad : UInt8)
    (timeout : Nat) {wanted : Nat} {coming : Bytes} (enough : wanted ≤ coming.length) :
    (card.characters cut).receiveExactly dad timeout wanted ⟨x, coming, taking⟩ =
      .ok (coming.take wanted) ⟨x, coming.drop wanted, taking⟩ := by
  have comes : (⟨x, coming, taking⟩ : Line κ) =
      ⟨x, coming.take wanted ++ coming.drop wanted, taking⟩ := by
    rw [List.take_append_drop]
  obtain ⟨_, received, rfl⟩ :=
    (delivers card cut x taking dad timeout).receiveExactly (coming.take wanted) comes
  rwa [List.length_take_of_le enough] at received

theorem receive_next (x : Session κ) (taking : Option (Taking κ)) (dad : UInt8) (timeout : Nat)
    (b : UInt8) (coming : Bytes) :
    (card.characters cut).receiveExactly dad timeout 1 ⟨x, b :: coming, taking⟩ =
      .ok [b] ⟨x, coming, taking⟩ :=
  receive_coming x taking dad timeout (by simp)

/-! ## Following the card -/

variable {t : T0} {ins : UInt8} {paces : List Pace} {n : UInt32}

theorem nulls_null (paces : List Pace) : nulls (.null :: paces) = nulls paces + 1 :=
  List.count_cons_self

theorem nulls_one (paces : List Pace) : nulls (.one :: paces) = nulls paces :=
  List.count_cons_of_ne (by decide)

theorem nulls_all (paces : List Pace) : nulls (.all :: paces) = nulls paces :=
  List.count_cons_of_ne (by decide)

theorem converse_coming_status (x : Session κ) (status : Status) (left : Transfer)
    (answer : Bytes) :
    t.converse (card.characters cut) ins n left answer ⟨x, status.bytes, none⟩ =
      ⟨some (.ok (answer ++ status.bytes)), { t with phase := .idle }, .resting x⟩ :=
  converse_status (receive_next x none _ _ status.high [status.low]) (procedure_status ins status)
    (receive_next x none _ _ status.low []) n left answer

theorem converse_coming_null (more : n < t.maxNulls) (left : Transfer) (answer coming : Bytes)
    (x : Session κ) (taking : Option (Taking κ)) :
    t.converse (card.characters cut) ins n left answer
        ⟨x, Pace.null.byte ins :: coming, taking⟩ =
      t.converse (card.characters cut) ins (n + 1) left answer ⟨x, coming, taking⟩ :=
  converse_null (receive_next x taking _ _ _ coming) (procedure_null ins) more left answer

/-- One more null byte than have come is tolerated, if those that are still to come are. -/
theorem tolerated {bound : UInt32} {left : Nat} (few : n.toNat + (left + 1) ≤ bound.toNat) :
    n < bound ∧ (n + 1).toNat + left ≤ bound.toNat := by
  have more : n < bound := UInt32.lt_iff_toNat_lt.mpr (by omega)
  rw [toNat_succ more]
  exact ⟨more, by omega⟩

/-- What the card asks for with this byte. -/
def Asks (ins b : UInt8) (p : Procedure) : Prop :=
  procedure ins b = p ∧ (p = .all ∨ p = .one)

theorem asks_all (plain : Plain ins) : Asks ins (Pace.all.byte ins) .all :=
  ⟨procedure_all plain, .inl rfl⟩

theorem asks_one (plain : Plain ins) : Asks ins (Pace.one.byte ins) .one :=
  ⟨procedure_one plain, .inr rfl⟩

theorem Asks.ne {b : UInt8} {p q : Procedure} (asks : Asks ins b p) (all : q ≠ .all)
    (one : q ≠ .one) : procedure ins b ≠ q := by
  rintro same
  rw [asks.1] at same
  rcases asks.2 with h | h
  · exact all (same.symm.trans h)
  · exact one (same.symm.trans h)

theorem converse_coming_reply {b : UInt8} {p : Procedure} (asks : Asks ins b p) {wanted : Nat}
    {got : Bytes} (amount : p.amount wanted = got.length) (some : got ≠ []) (answer coming : Bytes)
    (x : Session κ) :
    t.converse (card.characters cut) ins n (.incoming wanted) answer
        ⟨x, b :: (got ++ coming), none⟩ =
      t.converse (card.characters cut) ins n (.incoming (wanted - got.length)) (answer ++ got)
        ⟨x, coming, none⟩ := by
  have asked : procedure ins ([b].headD 0) = p := asks.1
  rw [converse_incoming (receive_next x none _ _ b (got ++ coming))
    (asks.ne (by decide) (by decide)) (asks.ne (by decide) (by decide))
    (asks.ne (by decide) (by decide))]
  simp only [asked, amount]
  rw [if_neg fun none => some (List.length_eq_zero_iff.mp none),
    receive_coming x none _ _ (by simp)]
  simp

theorem converse_coming_request {b : UInt8} {p : Procedure} (asks : Asks ins b p) {data : Bytes}
    {count : Nat} (amount : p.amount data.length = count) (positive : 0 < count) (answer : Bytes)
    (x : Session κ) (header taken : Bytes) (judge : Bytes → Status × κ) :
    t.converse (card.characters cut) ins n (.outgoing data) answer
        ⟨x, [b], some ⟨header, taken, paces, judge⟩⟩ =
      t.converse (card.characters cut) ins n (.outgoing (data.drop count)) answer
        (advance header (taken ++ data.take count) judge x paces) := by
  have asked : procedure ins ([b].headD 0) = p := asks.1
  rw [converse_outgoing (receive_next x _ _ _ b [])
    (asks.ne (by decide) (by decide)) (asks.ne (by decide) (by decide))
    (asks.ne (by decide) (by decide))]
  simp only [asked, amount]
  rw [if_neg (Nat.ne_of_gt positive)]
  rfl

theorem converse_give (plain : Plain ins) {reply : Bytes} {wanted : Nat}
    (paced : Paces paces reply.length wanted) (few : n.toNat + nulls paces ≤ t.maxNulls.toNat)
    (answer : Bytes) (x : Session κ) (status : Status) :
    t.converse (card.characters cut) ins n (.incoming wanted) answer
        ⟨x, Card.paced ins paces reply ++ status.bytes, none⟩ =
      ⟨some (.ok (answer ++ (reply ++ status.bytes))), { t with phase := .idle }, .resting x⟩ := by
  generalize moved : reply.length = length at paced
  -- What is left of the reply is moved by what is left of the pacing.
  induction paced generalizing reply answer n with
  | done named =>
    obtain rfl := List.length_eq_zero_iff.mp moved
    exact converse_coming_status x status _ answer
  | null rest ih =>
    rw [nulls_null] at few
    obtain ⟨more, few⟩ := tolerated few
    rw [Card.paced, List.cons_append, converse_coming_null more]
    exact ih few answer moved
  | @one paces length named rest ih =>
    rw [nulls_one] at few
    obtain ⟨b, reply, rfl⟩ := List.exists_cons_of_length_eq_add_one moved
    rw [Card.paced, List.cons_append, List.append_assoc,
      converse_coming_reply (asks_one plain) (by simp [Procedure.amount]) (by simp)]
    refine (ih few (answer ++ [b]) (Nat.succ.inj moved)).trans ?_
    rw [List.append_assoc]
    rfl
  | @all paces named rest ih =>
    rw [nulls_all] at few
    have some : reply ≠ [] := by
      rintro rfl
      cases moved
    rw [Card.paced, List.cons_append, List.append_assoc,
      converse_coming_reply (asks_all plain) moved.symm some, moved, Nat.sub_self]
    refine (ih few (answer ++ reply) rfl).trans ?_
    rw [List.append_assoc]
    rfl

theorem converse_take (plain : Plain ins) {header : Bytes} (same : header.getD 1 0 = ins)
    {data : Bytes} {count : Nat} (paced : Paces paces count data.length)
    (few : n.toNat + nulls paces ≤ t.maxNulls.toNat) (taken : Bytes)
    (judge : Bytes → Status × κ) (x : Session κ) :
    t.converse (card.characters cut) ins n (.outgoing data) []
        (advance header taken judge x paces) =
      ⟨some (.ok (judge (taken ++ data.take count)).1.bytes), { t with phase := .idle },
        .resting ⟨(judge (taken ++ data.take count)).2,
          x.seen ++ [⟨header, taken ++ data.take count⟩]⟩⟩ := by
  generalize sized : data.length = length at paced
  -- What is left of the data is moved by what is left of the pacing.
  induction paced generalizing data taken n with
  | done named =>
    rw [List.take_zero, List.append_nil]
    exact converse_coming_status ⟨_, _⟩ (judge taken).1 _ []
  | @null paces moved named rest ih =>
    rw [nulls_null] at few
    obtain ⟨more, few⟩ := tolerated few
    let line := advance header taken judge x paces
    have next : advance header taken judge x (.null :: paces) =
        ⟨line.session, Pace.null.byte ins :: line.coming, line.taking⟩ := by
      rw [← same]
      rfl
    rw [next, converse_coming_null more]
    exact ih few taken sized
  | @one paces moved named rest ih =>
    rw [nulls_one] at few
    obtain ⟨b, data, rfl⟩ := List.exists_cons_of_length_eq_add_one sized
    have amount : Procedure.one.amount (b :: data).length = 1 := by
      simp [Procedure.amount]
    rw [advance, same, converse_coming_request (asks_one plain) amount (by decide)]
    · refine (ih few (taken ++ [b]) (Nat.succ.inj sized)).trans ?_
      simp
    · simp
  | @all paces named rest ih =>
    rw [nulls_all] at few
    rw [advance, same, converse_coming_request (asks_all plain) sized (by omega)]
    · have whole : data.take (named + 1) = data := List.take_of_length_le (Nat.le_of_eq sized)
      rw [whole, List.drop_of_length_le (Nat.le_of_eq sized)]
      refine (ih few (taken ++ data) rfl).trans ?_
      rw [List.take_nil, List.append_nil]
    · simp

/-! ## Transfers -/

variable {σ : Type} {link : Link σ}

/-- Over this channel, a transfer with the engine is what the card carries out. The device is at
rest before and after it. -/
def Carries (card : Card κ) (limit : Nat) (link : Link σ) (t : T0) (rest : Session κ → σ) :
    Prop :=
  ∀ phase header data wanted x, header.length = 5 → Plain (header.getD 1 0) →
    (card x.state header).Fits limit data.length wanted →
    ∃ phase', T0.transfer link { t with phase } header data wanted (rest x) =
      ⟨some (.ok (card.perform header data x).1), { t with phase := phase' },
        rest (card.perform header data x).2⟩

/-- **Whatever the pacing, a transfer of characters is as the card carries it out.** -/
theorem transfer_characters (card : Card κ) (cut : Bytes → Nat) {t : T0}
    (mode : t.blockOriented = false) (patient : limit ≤ t.maxNulls.toNat) :
    card.Carries limit (card.characters cut) t Line.resting := by
  intro phase header data wanted x _ plain fits
  refine ⟨.idle, ?_⟩
  have single : ¬ t.blockOriented = true := by
    rw [mode]
    decide
  have patience {count : Nat} (few : count ≤ limit) :
      (0 : UInt32).toNat + count ≤ t.maxNulls.toNat := by
    rw [UInt32.toNat_zero, Nat.zero_add]
    exact Nat.le_trans few patient
  unfold transfer
  rw [if_neg single]
  generalize sized : data.length = length at fits
  cases response : card x.state header with
  | take paces count judge =>
    rw [response] at fits
    cases fits with
    | take _ some paced few =>
      have filled : data.isEmpty = false := by
        rw [List.isEmpty_eq_false_iff, ← List.length_pos_iff]
        omega
      have sent : (card.characters cut).send t.dad header (Line.resting x) =
          .ok () (advance header [] judge x paces) := by
        simp only [characters, hear, Line.resting, response]
      subst sized
      simp only [sent, filled]
      refine (converse_take plain rfl paced ?_ [] judge x).trans ?_
      · exact patience few
      simp only [perform, response, List.nil_append]
  | give paces reply status next =>
    rw [response] at fits
    cases fits with
    | give paced few =>
      obtain rfl := List.length_eq_zero_iff.mp sized
      have sent : (card.characters cut).send t.dad header (Line.resting x) =
          .ok () ⟨⟨next, x.seen ++ [⟨header, []⟩]⟩,
            Card.paced (header.getD 1 0) paces reply ++ status.bytes, none⟩ := by
        simp only [characters, hear, Line.resting, response]
      simp only [sent]
      refine (converse_give plain paced ?_ [] _ status).trans ?_
      · exact patience few
      simp only [perform, response, List.nil_append]

theorem length_perform {header data : Bytes} {wanted : Nat} {x : Session κ}
    (fits : (card x.state header).Fits limit data.length wanted) :
    2 ≤ (card.perform header data x).1.length ∧
      (card.perform header data x).1.length ≤ wanted + 2 := by
  unfold perform
  generalize data.length = length at fits
  cases response : card x.state header with
  | take paces count judge => exact ⟨Nat.le_refl 2, Nat.le_add_left 2 wanted⟩
  | give paces reply status next =>
    rw [response] at fits
    cases fits with
    | give paced few =>
      have short := paced.le
      simp only [List.length_append, Status.bytes, List.length_cons, List.length_nil]
      omega

/-- **A reader that paces the card itself carries a transfer out as the card does.** -/
theorem transfer_blocks (card : Card κ) {t : T0} (mode : t.blockOriented = true) :
    card.Carries limit card.blocks t fun x => ⟨x, []⟩ := by
  intro phase header data wanted x five _ fits
  refine ⟨phase, ?_⟩
  obtain ⟨low, high⟩ := length_perform fits
  have sent : card.blocks.send t.dad (header ++ data) ⟨x, []⟩ =
      .ok () ⟨(card.perform header data x).2, (card.perform header data x).1⟩ := by
    simp only [blocks, List.take_left' five, List.drop_left' five]
  have received : card.blocks.receive t.dad (wanted + 2) t.timeout
      ⟨(card.perform header data x).2, (card.perform header data x).1⟩ =
      .ok (card.perform header data x).1 ⟨(card.perform header data x).2, []⟩ := by
    simp only [Link.receive, blocks, List.take_of_length_le high]
  unfold transfer
  rw [if_pos mode]
  simp only [transferBlock, sent, received]
  rw [if_neg (by omega)]

/-! ## Commands -/

theorem length_withP3 {header : Bytes} (five : header.length = 5) (p3 : UInt8) :
    (withP3 header p3).length = 5 := by
  rw [withP3, List.length_append, List.length_take, five]
  rfl

theorem ins_withP3 {header : Bytes} (four : 4 ≤ header.length) (p3 : UInt8) :
    (withP3 header p3).getD 1 0 = header.getD 1 0 := by
  simp only [withP3, List.getD_eq_getElem?_getD]
  rw [List.getElem?_append_left (by rw [List.length_take]; omega),
    List.getElem?_take_of_lt (by decide)]

theorem Carries.fetch {t : T0} {rest : Session κ → σ} (carries : card.Carries limit link t rest)
    (phase : Phase) {header : Bytes} {wanted : Nat} {x : Session κ} (five : header.length = 5)
    (plain : Plain (header.getD 1 0)) (fits : card.FitsFetch limit header wanted x) :
    ∃ phase', T0.fetch link { t with phase } header wanted (rest x) =
      ⟨some (.ok (card.fetch header x).1), { t with phase := phase' },
        rest (card.fetch header x).2⟩ := by
  obtain ⟨fits, again⟩ := fits
  obtain ⟨phase', first⟩ := carries phase header [] wanted x five plain fits
  unfold T0.fetch Card.fetch
  rw [first]
  rcases performed : card.perform header [] x with ⟨answer, y⟩
  by_cases correction : ∃ corrected, answer = [0x6C, corrected]
  · obtain ⟨corrected, rfl⟩ := correction
    refine carries phase' (withP3 header corrected) [] _ y (length_withP3 five corrected) ?_
      (again corrected y performed)
    rwa [ins_withP3 (by omega)]
  · refine ⟨phase', ?_⟩
    dsimp only
    split
    · next corrected same =>
      exact absurd ⟨corrected, Except.ok.inj (Option.some.inj same)⟩ correction
    · split
      · next corrected _ same => exact absurd ⟨corrected, congrArg Prod.fst same⟩ correction
      · next same =>
        cases same
        rfl

theorem Carries.sendAndFetch {t : T0} {rest : Session κ → σ}
    (carries : card.Carries limit link t rest) (phase : Phase) {header data : Bytes} {wanted : Nat}
    {x : Session κ} (five : header.length = 5) (plain : Plain (header.getD 1 0))
    (fits : (card x.state header).Fits limit data.length 0)
    (fetches : ∀ available y, card.perform header data x = ([0x61, available], y) →
      let count := min (Apdu.shortLength available) wanted
      card.FitsFetch limit (getResponse count) count y) :
    ∃ phase', T0.sendAndFetch link { t with phase } header data wanted (rest x) =
      ⟨some (.ok (card.sendAndFetch header data wanted x).1), { t with phase := phase' },
        rest (card.sendAndFetch header data wanted x).2⟩ := by
  obtain ⟨phase', first⟩ := carries phase header data 0 x five plain fits
  unfold T0.sendAndFetch Card.sendAndFetch
  rw [first]
  rcases performed : card.perform header data x with ⟨answer, y⟩
  by_cases more : ∃ available, answer = [0x61, available]
  · obtain ⟨available, rfl⟩ := more
    exact Carries.fetch carries phase' rfl (show Plain 0xC0 by decide)
      (fetches available y performed)
  · refine ⟨phase', ?_⟩
    dsimp only
    split
    · next available same => exact absurd ⟨available, Except.ok.inj (Option.some.inj same)⟩ more
    · split
      · next available _ same => exact absurd ⟨available, congrArg Prod.fst same⟩ more
      · next same =>
        cases same
        rfl

theorem Carries.transceive {t : T0} {rest : Session κ → σ}
    (carries : card.Carries limit link t rest) {command : Bytes} {shape : Apdu.Shape}
    (classified : Apdu.classify command = .ok shape) (short : shape.case.isExtended = false)
    (plain : Plain (command.getD 1 0)) {x : Session κ}
    (fits : card.FitsCommand limit command shape x) :
    ∃ phase, T0.transceive link t command (rest x) =
      ⟨some (.ok (card.exchange command shape x).1), { t with phase },
        rest (card.exchange command shape x).2⟩ := by
  unfold T0.transceive
  rw [classified]
  cases Apdu.short_of_classify classified short with
  | case1 cla ins p1 p2 => exact carries t.phase [cla, ins, p1, p2, 0] [] 0 x rfl plain fits
  | case2 cla ins p1 p2 le => exact carries.fetch t.phase rfl plain fits
  | @case3 cla ins p1 p2 lc data some sized =>
    have taken : (data.take lc.toNat).length = lc.toNat := by
      rw [List.length_take, sized, Nat.min_self]
    have fits : (card x.state [cla, ins, p1, p2, lc]).Fits limit (data.take lc.toNat).length 0 := by
      rw [taken]
      exact fits
    exact carries t.phase [cla, ins, p1, p2, lc] (data.take lc.toNat) 0 x rfl plain fits
  | @case4 cla ins p1 p2 lc data le some sized =>
    have taken : ((data ++ [le]).take lc.toNat).length = lc.toNat := by
      rw [List.length_take, List.length_append, sized, Nat.min_eq_left (Nat.le_add_right _ _)]
    obtain ⟨fits, fetches⟩ := fits
    have fits : (card x.state [cla, ins, p1, p2, lc]).Fits limit
        ((data ++ [le]).take lc.toNat).length 0 := by
      rw [taken]
      exact fits
    have plain : Plain ([cla, ins, p1, p2, lc].getD 1 0) := plain
    exact carries.sendAndFetch t.phase rfl plain fits fetches

end Card

/-- **Character mode and block mode agree.** Whatever a card does, however it paces this and however
the characters are cut, a short command comes to the same answer over a channel of characters and
over a reader that paces the card itself, and the card is asked the same. Both are what the command
comes to for the card, which is asked to repeat a corrected length once, and for an answer that it
holds ready. -/
theorem modes_agree {κ : Type} (t : T0) (card : Card κ) (cut : Bytes → Nat) {command : Bytes}
    {shape : Apdu.Shape} (classified : Apdu.classify command = .ok shape)
    (short : shape.case.isExtended = false) (plain : Plain (command.getD 1 0)) (x : Session κ)
    (fits : card.FitsCommand t.maxNulls.toNat command shape x) :
    ∃ answer state seen engine engine',
      ({ t with blockOriented := false }.transceive (card.characters cut) command (.resting x)) =
        ⟨some (.ok answer), engine, .resting ⟨state, seen⟩⟩ ∧
      ({ t with blockOriented := true }.transceive card.blocks command ⟨x, []⟩) =
        ⟨some (.ok answer), engine', ⟨⟨state, seen⟩, []⟩⟩ ∧
      card.exchange command shape x = (answer, ⟨state, seen⟩) := by
  have single :
      card.Carries t.maxNulls.toNat (card.characters cut) { t with blockOriented := false }
        Card.Line.resting :=
    card.transfer_characters cut rfl (Nat.le_refl _)
  have whole : card.Carries t.maxNulls.toNat card.blocks { t with blockOriented := true }
      fun x => ⟨x, []⟩ :=
    card.transfer_blocks rfl
  obtain ⟨phase, characters⟩ := single.transceive classified short plain fits
  obtain ⟨phase', blocks⟩ := whole.transceive classified short plain fits
  exact ⟨_, _, _, _, _, characters, blocks, rfl⟩

/-- A card that takes data byte by byte and then all at once, holds an answer ready, and corrects
the length that it is asked for. -/
def hesitant : Card Unit := fun _ header =>
  if header.take 4 = [0x00, 0xC0, 0x00, 0x00] then
    if header.getD 4 0 = 4 then
      .give [.null, .one, .null, .all] [1, 2, 3, 4] ⟨0x90, 0x00, by decide⟩ ()
    else .give [.null] [] ⟨0x6C, 0x04, by decide⟩ ()
  else .take [.one, .null, .all, .null] 3 fun _ => (⟨0x61, 0x10, by decide⟩, ())

/-- A command with three bytes of data, which wants 32 bytes. -/
def authenticate : Bytes :=
  [0x00, 0x88, 0x00, 0x00, 0x03, 0xAA, 0xBB, 0xCC, 0x20]

/-- Either way the card is asked three times, and gives four bytes in the end. -/
theorem modes_agree_hesitant :
    ∃ seen engine engine',
      ({ T0.new 0 with blockOriented := false }.transceive (hesitant.characters fun _ => 2)
          authenticate (.resting ⟨(), []⟩)) =
        ⟨some (.ok [1, 2, 3, 4, 0x90, 0x00]), engine, .resting ⟨(), seen⟩⟩ ∧
      ({ T0.new 0 with blockOriented := true }.transceive hesitant.blocks
          authenticate ⟨⟨(), []⟩, []⟩) =
        ⟨some (.ok [1, 2, 3, 4, 0x90, 0x00]), engine', ⟨⟨(), seen⟩, []⟩⟩ ∧
      seen = [⟨[0x00, 0x88, 0x00, 0x00, 0x03], [0xAA, 0xBB, 0xCC]⟩,
        ⟨[0x00, 0xC0, 0x00, 0x00, 0x10], []⟩, ⟨[0x00, 0xC0, 0x00, 0x00, 0x04], []⟩] := by
  have asked : Paces [.one, .null, .all, .null] 3 3 := .one (.null (.all (.null (.done 0))))
  have given : Paces [.null, .one, .null, .all] 4 4 := .null (.one (.null (.all (.done 0))))
  have fits : hesitant.FitsCommand 50 authenticate ⟨.case4Short, 3, 0x20⟩ ⟨(), []⟩ := by
    refine ⟨.take 0 (by decide) asked (by decide), fun available y performed => ?_⟩
    cases performed
    refine ⟨.give (.null (.done _)) (by decide), fun corrected y performed => ?_⟩
    cases performed
    exact .give given (by decide)
  obtain ⟨answer, seen, state, engine, engine', characters, blocks, same⟩ :=
    modes_agree (.new 0) hesitant (fun _ => 2) rfl rfl (by decide) ⟨(), []⟩ fits
  cases same
  exact ⟨_, engine, engine', characters, blocks, rfl⟩

end CardTerminal.T0
