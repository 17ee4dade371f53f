import CardTerminal.Proofs.Handle
import CardTerminal.Proofs.T0.Beats
import CardTerminal.Proofs.T0.Modes
import CardTerminal.Proofs.T0.Rounds

/-!
Every exchange over T=0 has an end, and all of its data is accounted for.

In each round the card's procedure bytes use up patience or data (`Runs`), and there are three
rounds at most. So a card that says something for ever is given up after a number of calls that is
known beforehand, and the engine is then as idle as it was. This takes an engine that can count the
null byte for which it gives the card up: one that tolerates as many as there are numbers for has
none left for it.

Main statement: `transceive_accounted`.
-/

namespace CardTerminal.T0

variable {σ : Type} {link : Link σ}

/-! ## What is done in a round -/

/-- What a header leaves to move: its data or, if it has none, so many bytes of answer. -/
def Transfer.of (data : Bytes) (wanted : Nat) : Transfer :=
  if data.isEmpty then .incoming wanted else .outgoing data

theorem Transfer.data_of (data : Bytes) (wanted : Nat) : (of data wanted).data = data := by
  cases data <;> rfl

theorem Transfer.brings_of_le (data : Bytes) (wanted : Nat) :
    (of data wanted).brings ≤ wanted := by
  cases data with
  | nil => exact Nat.le_refl _
  | cons => exact Nat.zero_le _

theorem Transfer.size_of_le (data : Bytes) (wanted : Nat) :
    (of data wanted).size ≤ data.length + wanted := by
  cases data with
  | nil => exact Nat.le_add_left _ _
  | cons => exact Nat.le_add_right _ _

/-- Over single characters, a round is its header and then these beats and this ending. -/
structure Round.Course (dad : UInt8) (maxNulls : Nat) (r : Round) (beats : List Beat) (tail : Bytes)
    (result : Result) : Prop where
  runs : Runs (r.header.getD 1 0) maxNulls (Transfer.of r.data r.wanted) beats tail result
  seen : transcript r.calls = .sent dad r.header ::
    (beats.flatMap (Beat.signals dad) ++ tail.map .received)
  outcome : r.outcome = conclude (beats.flatMap Beat.incoming) result
  /-- No more null bytes are passed over than are tolerated. -/
  patient : beats.count .null ≤ maxNulls
  overflown : result = none → beats.count .null + 1 = UInt32.size
  /-- The data is sent from its start, in order and each byte at most once. -/
  outgoing : beats.flatMap Beat.outgoing <+: r.data
  /-- No more bytes are stored than are expected. -/
  incoming : (beats.flatMap Beat.incoming).length ≤ r.wanted
  few : r.calls.length ≤ maxNulls + 2 * (r.data.length + r.wanted) + 3

/-- With a reader that paces the card itself, a round is one block and this reply. -/
structure Round.Whole (dad : UInt8) (r : Round) (reply : Bytes) : Prop where
  seen : transcript r.calls = .sent dad (r.header ++ r.data) :: reply.map .received
  outcome : r.outcome = some (.ok reply) ∧ 2 ≤ reply.length ∨
    ∃ e, r.outcome = some (.error (.lost e))
  incoming : reply.length ≤ r.wanted + 2
  few : r.calls.length ≤ 2

/-- Everything that is done in a round is accounted for: it has a header of five bytes and not more
than 256 bytes to move, and it is carried out in the one way or the other. -/
structure Round.Accounted (t : T0) (r : Round) : Prop where
  header : r.header.length = 5
  small : r.data.length + r.wanted ≤ 256
  course : if t.blockOriented then ∃ reply, r.Whole t.dad reply
    else ∃ beats tail result, r.Course t.dad t.maxNulls.toNat beats tail result

theorem Round.Accounted.few {t : T0} {r : Round} (accounted : r.Accounted t) :
    r.calls.length ≤ t.maxNulls.toNat + 515 := by
  have small := accounted.small
  have course := accounted.course
  split at course
  · obtain ⟨reply, whole⟩ := course
    have := whole.few
    omega
  · obtain ⟨beats, tail, result, course⟩ := course
    have := course.few
    omega

/-- A round has an outcome if the engine can count one more null byte than it tolerates. -/
theorem Round.Accounted.outcome_ne_none {t : T0} {r : Round} (accounted : r.Accounted t)
    (countable : t.maxNulls.toNat + 1 < UInt32.size) : r.outcome ≠ none := by
  have course := accounted.course
  split at course
  · obtain ⟨reply, whole⟩ := course
    rcases whole.outcome with ⟨replied, -⟩ | ⟨e, lost⟩
    · rw [replied]
      exact Option.some_ne_none _
    · rw [lost]
      exact Option.some_ne_none _
  · obtain ⟨beats, tail, result, course⟩ := course
    rw [course.outcome]
    rcases result with _ | _ | status
    · have patient := course.patient
      have overflown := course.overflown rfl
      omega
    · exact Option.some_ne_none _
    · exact Option.some_ne_none _

theorem Round.Accounted.length_answer {t : T0} {r : Round} (accounted : r.Accounted t)
    {answer : Bytes} (answered : r.outcome = some (.ok answer)) :
    2 ≤ answer.length ∧ answer.length ≤ r.wanted + 2 := by
  have course := accounted.course
  split at course
  · obtain ⟨reply, whole⟩ := course
    rcases whole.outcome with ⟨replied, long⟩ | ⟨e, lost⟩
    · cases answered.symm.trans replied
      exact ⟨long, whole.incoming⟩
    · cases answered.symm.trans lost
  · obtain ⟨beats, tail, result, course⟩ := course
    have outcome := answered.symm.trans course.outcome
    rcases result with _ | _ | status
    · cases outcome
    · cases outcome
    · have two := course.runs.length_status
      have fits := course.incoming
      cases outcome
      rw [List.length_append]
      omega

/-- Once the header is sent, a transfer of single characters follows the card. -/
theorem transfer_of_sent {t : T0} (mode : t.blockOriented = false) {header : Bytes} {s s' : σ}
    (sent : link.send t.dad header s = .ok () s') (data : Bytes) (wanted : Nat) :
    ∃ phase, t.transfer link header data wanted s =
      converse link { t with phase } (header.getD 1 0) 0 (.of data wanted) [] s' := by
  unfold transfer
  rw [if_neg (by rw [mode]; decide), sent]
  -- Whether data is sent or received depends on whether there is any to send.
  cases data with
  | nil => exact ⟨.receiving, rfl⟩
  | cons => exact ⟨.sending, rfl⟩

theorem round_course (link : Link σ) {t : T0} (mode : t.blockOriented = false)
    (header data : Bytes) (wanted : Nat) (s : σ) : ∃ beats tail result,
      (t.round link header data wanted s).Course t.dad t.maxNulls.toNat beats tail result := by
  have size := Transfer.size_of_le data wanted
  have send := link.adds_send t.dad header
  unfold round
  cases sent : link.watched.send t.dad header (s, []) with
  | error e w =>
    obtain ⟨seen, few⟩ := (send.error sent).fresh
    have unsent : t.transfer link.watched header data wanted (s, []) =
        ⟨some (.error (.lost e)), t, w⟩ := by
      unfold transfer
      rw [if_neg (by rw [mode]; decide), sent]
    rw [unsent]
    exact ⟨[], [], some (.error e), .ends (.silent e), seen, rfl, Nat.zero_le _, nofun,
      List.nil_prefix, Nat.zero_le _, by dsimp only; omega⟩
  | ok _ w =>
    obtain ⟨phase, same⟩ := transfer_of_sent mode sent data wanted
    obtain ⟨beats, tail, result, follows⟩ := converse_follows link { t with phase }
      (header.getD 1 0) 0 (.of data wanted) [] w
    have ⟨runs, seen, outcome, _, overflown⟩ := follows
    rw [tolerance_zero] at runs seen
    rw [UInt32.toNat_zero, Nat.zero_add] at overflown
    obtain ⟨seen, few⟩ := ((send.ok sent).trans seen).fresh
    have outgoing := runs.outgoing_prefix
    have incoming := runs.incoming_le
    rw [Transfer.data_of] at outgoing
    rw [same]
    exact ⟨beats, tail, result, runs, seen, outcome, runs.count_null_le, overflown, outgoing,
      Nat.le_trans incoming (Transfer.brings_of_le ..), by dsimp only at few ⊢; omega⟩

theorem round_whole (link : Link σ) {t : T0} (mode : t.blockOriented = true)
    (header data : Bytes) (wanted : Nat) (s : σ) :
    ∃ reply, (t.round link header data wanted s).Whole t.dad reply := by
  have send := link.adds_send t.dad (header ++ data)
  unfold round transfer transferBlock
  rw [if_pos mode]
  cases sent : link.watched.send t.dad (header ++ data) (s, []) with
  | error e w =>
    obtain ⟨seen, few⟩ := (send.error sent).fresh
    exact ⟨[], seen, .inr ⟨e, rfl⟩, Nat.zero_le _, by dsimp only; omega⟩
  | ok _ w =>
    dsimp only
    cases received : link.watched.receive t.dad (wanted + 2) t.timeout w with
    | error e w' =>
      have silence := link.adds_of_receive_error t.dad t.timeout received
      obtain ⟨seen, few⟩ := ((send.ok sent).trans silence).fresh
      exact ⟨[], seen, .inr ⟨e, rfl⟩, Nat.zero_le _, few⟩
    | ok reply w' =>
      have heard := link.adds_receive t.dad t.timeout received
      obtain ⟨seen, few⟩ := ((send.ok sent).trans heard).fresh
      have fits := Link.length_of_receive received
      dsimp only
      split
      · exact ⟨reply, seen, .inr ⟨_, rfl⟩, fits, few⟩
      · next long => exact ⟨reply, seen, .inl ⟨rfl, Nat.le_of_not_lt long⟩, fits, few⟩

theorem round_accounted (link : Link σ) (t : T0) {header data : Bytes} {wanted : Nat}
    (five : header.length = 5) (small : data.length + wanted ≤ 256) (s : σ) :
    (t.round link header data wanted s).Accounted t where
  header := five
  small := small
  course := by
    split
    · next mode => exact round_whole link mode header data wanted s
    · next mode =>
      exact round_course link (Bool.eq_false_iff.mpr mode) header data wanted s

/-! ## The engine between rounds -/

/-- A transfer changes nothing of an engine but its phase, and one that ends leaves none that is
idle busy. -/
theorem transfer_engine (link : Link σ) (t : T0) (header data : Bytes) (wanted : Nat) (s : σ) :
    ∃ phase, (t.transfer link header data wanted s).engine = { t with phase } ∧
      (t.phase = .idle → (t.transfer link header data wanted s).outcome ≠ none →
        phase = .idle) := by
  have followed (t : T0) (left : Transfer) (s : σ) :
      ∃ phase, (t.converse link (header.getD 1 0) 0 left [] s).engine = { t with phase } ∧
        ((t.converse link (header.getD 1 0) 0 left [] s).outcome ≠ none → phase = .idle) := by
    obtain ⟨_, _, _, follows⟩ := converse_follows link t (header.getD 1 0) 0 left [] (s, [])
    have unwatched := converse_shows link.watched_shows t (header.getD 1 0) 0 left [] (s, [])
    rw [show s = ((s, []) : σ × List ChannelCall).1 from rfl, unwatched]
    exact follows.engine
  unfold transfer
  split
  · refine ⟨t.phase, ?_, fun idle _ => idle⟩
    unfold transferBlock
    split
    · rfl
    · split
      · rfl
      · split <;> rfl
  · split
    · exact ⟨t.phase, rfl, fun idle _ => idle⟩
    · next s' _ =>
      dsimp only
      split
      · obtain ⟨phase, same, ends⟩ := followed { t with phase := .receiving } (.incoming wanted) s'
        exact ⟨phase, same, fun _ => ends⟩
      · obtain ⟨phase, same, ends⟩ := followed { t with phase := .sending } (.outgoing data) s'
        exact ⟨phase, same, fun _ => ends⟩

/-- An engine that is idle is the same after a transfer that ends, however this went. -/
theorem engine_of_transfer {link : Link σ} {t : T0} (idle : t.phase = .idle) {header data : Bytes}
    {wanted : Nat} {s : σ} (ends : (t.transfer link header data wanted s).outcome ≠ none) :
    (t.transfer link header data wanted s).engine = t := by
  obtain ⟨phase, same, stays⟩ := transfer_engine link t header data wanted s
  rw [same, stays idle ends, ← idle]

theorem ne_none_of_hint {high low : UInt8} {outcome : Option Ended}
    (hinted : hint high outcome = some low) : outcome ≠ none := by
  rw [hint_eq_some.mp hinted]
  exact Option.some_ne_none _

theorem engine_of_fetch {link : Link σ} {t : T0} (idle : t.phase = .idle) {header : Bytes}
    {wanted : Nat} {s : σ} (ends : (t.fetch link header wanted s).outcome ≠ none) :
    (t.fetch link header wanted s).engine = t := by
  rw [fetch_eq] at ends ⊢
  dsimp only at ends ⊢
  split
  · next hinted =>
    have first := engine_of_transfer idle (ne_none_of_hint hinted)
    simp only [hinted, first] at ends ⊢
    exact engine_of_transfer idle ends
  · next hinted =>
    rw [hinted] at ends
    exact engine_of_transfer idle ends

theorem engine_of_sendAndFetch {link : Link σ} {t : T0} (idle : t.phase = .idle)
    {header data : Bytes} {wanted : Nat} {s : σ}
    (ends : (t.sendAndFetch link header data wanted s).outcome ≠ none) :
    (t.sendAndFetch link header data wanted s).engine = t := by
  rw [sendAndFetch_eq] at ends ⊢
  dsimp only at ends ⊢
  split
  · next hinted =>
    have first := engine_of_transfer idle (ne_none_of_hint hinted)
    simp only [hinted, first] at ends ⊢
    exact engine_of_fetch idle ends
  · next hinted =>
    rw [hinted] at ends
    exact engine_of_transfer idle ends

/-! ## The rounds of a command -/

theorem Round.Accounted.of_phase {t : T0} {phase : Phase} {r : Round}
    (accounted : r.Accounted { t with phase }) : r.Accounted t :=
  ⟨accounted.header, accounted.small, accounted.course⟩

theorem fetchRounds_accounted (link : Link σ) (t : T0) {header : Bytes} {wanted : Nat}
    (five : header.length = 5) (small : wanted ≤ 256) (s : σ) :
    ∀ r ∈ t.fetchRounds link header wanted s, r.Accounted t := by
  intro r here
  rcases List.mem_cons.mp here with rfl | later
  · exact round_accounted link t five (by simpa using small) s
  · split at later
    · next corrected _ =>
      cases List.mem_singleton.mp later
      obtain ⟨phase, same, -⟩ := transfer_engine link t header [] wanted s
      have short := Apdu.shortLength_le corrected
      rw [same]
      exact (round_accounted link { t with phase } (Card.length_withP3 five corrected)
        (by simpa using short) _).of_phase
    · cases later

theorem sendAndFetchRounds_accounted (link : Link σ) (t : T0) {header data : Bytes} {wanted : Nat}
    (five : header.length = 5) (small : data.length ≤ 256) (le : wanted ≤ 256) (s : σ) :
    ∀ r ∈ t.sendAndFetchRounds link header data wanted s, r.Accounted t := by
  intro r here
  rcases List.mem_cons.mp here with rfl | later
  · exact round_accounted link t five small s
  · split at later
    · next available _ =>
      obtain ⟨phase, same, -⟩ := transfer_engine link t header data 0 s
      dsimp only at later
      rw [same] at later
      exact (fetchRounds_accounted link { t with phase } rfl
        (Nat.le_trans (Nat.min_le_right _ _) le) _ r later).of_phase
    · cases later

/-! ## The whole command -/

namespace Plan

variable {t : T0} {command : Bytes} {s : σ} {x : Exchange (Option Ended) T0 σ}
  {rounds : List Round}

theorem accounted (plan : Plan link t command s x rounds) : ∀ r ∈ rounds, r.Accounted t := by
  cases plan with
  | refused e =>
    intro r here
    cases here
  | transfer classified five own small =>
    intro r here
    cases List.mem_singleton.mp here
    exact round_accounted link t five small s
  | fetch classified five none le => exact fetchRounds_accounted link t five le s
  | sendAndFetch classified five own small le =>
    exact sendAndFetchRounds_accounted link t five small le s

theorem engine (plan : Plan link t command s x rounds) (idle : t.phase = .idle)
    (ends : x.outcome ≠ none) : x.engine = t := by
  cases plan with
  | refused e => rfl
  | transfer => exact engine_of_transfer idle ends
  | fetch => exact engine_of_fetch idle ends
  | sendAndFetch => exact engine_of_sendAndFetch idle ends

/-- If an exchange has no outcome, then its last round has none. -/
theorem outcome_of_none (plan : Plan link t command s x rounds) (unended : x.outcome = none) :
    ∃ r ∈ rounds, r.outcome = none := by
  cases plan with
  | refused e => cases unended
  | transfer => exact ⟨_, List.mem_singleton_self _, (outcome_round ..).trans unended⟩
  | @fetch shape header =>
    obtain ⟨earlier, last, rounds, ends, -⟩ := fetch_concludes link t header shape.le s
    exact ⟨last, rounds ▸ List.mem_concat_self, ends.trans unended⟩
  | @sendAndFetch shape header data =>
    obtain ⟨earlier, last, rounds, ends, -⟩ := sendAndFetch_concludes link t header data shape.le s
    exact ⟨last, rounds ▸ List.mem_concat_self, ends.trans unended⟩

end Plan

/-- An engine that can count one more null byte than it tolerates comes to an end. -/
theorem outcome_ne_none (link : Link σ) {t : T0} (countable : t.maxNulls.toNat + 1 < UInt32.size)
    (command : Bytes) (s : σ) : (t.transceive link command s).outcome ≠ none := by
  intro unended
  have plan := transceive_plan link t command s
  obtain ⟨r, here, unended⟩ := plan.outcome_of_none unended
  exact (plan.accounted r here).outcome_ne_none countable unended

end CardTerminal.T0
