import CardTerminal.Proofs.Apdu
import CardTerminal.Proofs.T0.Card
import CardTerminal.Proofs.Watched

/-!
A command over T=0, from its first header to its end.

A command takes one header, or a second one if the card corrects the length that it is asked for, or
if it holds an answer ready, or a third one if it does both. Every header begins a round of its own
(`T0.rounds`), and all calls of the channel are made in rounds (`transceive_noted`). Which rounds
there are is settled by how the command is written and by what the card hints at
(`transceive_plan`).
-/

namespace CardTerminal

variable {σ : Type} {link : Link σ}

/-- What was noted before does not matter for what is noted. -/
theorem Link.watched_resumes (link : Link σ) (calls : List ChannelCall) :
    Link.Shows (fun w : σ × List ChannelCall => (w.1, calls ++ w.2)) link.watched link.watched where
  send dad bytes := by
    rintro ⟨s, more⟩
    simp only [watched, Action.noted]
    cases link.send dad bytes s <;> simp [Action.see]
  recv dad room timeout := by
    rintro ⟨s, more⟩
    simp only [watched, Action.noted]
    cases link.recv dad room timeout s <;> simp [Action.see]
  patience := rfl

/-- An exchange with the calls that were noted. -/
def Exchange.noting {α ε : Type} (x : Exchange α ε σ) (calls : List ChannelCall) :
    Exchange α ε (σ × List ChannelCall) :=
  ⟨x.outcome, x.engine, (x.device, calls)⟩

namespace T0

/-! ## Rounds -/

/-- A header with its data, and what came of it. -/
structure Round where
  header : Bytes
  data : Bytes
  /-- How many bytes of answer are expected before the status. -/
  wanted : Nat
  /-- The calls of the channel. -/
  calls : List ChannelCall
  outcome : Option Ended

def round (link : Link σ) (t : T0) (header data : Bytes) (wanted : Nat) (s : σ) : Round :=
  let x := t.transfer link.watched header data wanted (s, [])
  ⟨header, data, wanted, x.device.2, x.outcome⟩

/-- What the card wants to be asked for next: the second byte of an answer that is nothing but a
status with this first byte. -/
def hint (high : UInt8) : Option Ended → Option UInt8
  | some (.ok [sw1, sw2]) => if sw1 = high then some sw2 else none
  | _ => none

def fetchRounds (link : Link σ) (t : T0) (header : Bytes) (wanted : Nat) (s : σ) : List Round :=
  let first := t.transfer link header [] wanted s
  t.round link header [] wanted s ::
    match hint 0x6C first.outcome with
    | some corrected =>
      [first.engine.round link (withP3 header corrected) [] (Apdu.shortLength corrected)
        first.device]
    | none => []

/-- The rounds of a command with data that wants a reply. -/
def sendAndFetchRounds (link : Link σ) (t : T0) (header data : Bytes) (wanted : Nat) (s : σ) :
    List Round :=
  let first := t.transfer link header data 0 s
  t.round link header data 0 s ::
    match hint 0x61 first.outcome with
    | some available =>
      let n := min (Apdu.shortLength available) wanted
      first.engine.fetchRounds link (Card.getResponse n) n first.device
    | none => []

/-- The rounds of a command. -/
def rounds (link : Link σ) (t : T0) (command : Bytes) (s : σ) : List Round :=
  match Apdu.classify command with
  | .error _ => []
  | .ok shape =>
    let header := command.take 5
    let data := (command.drop 5).take shape.lc
    match shape.case with
    | .case1 => [t.round link (withP3 header 0) [] 0 s]
    | .case2Short => t.fetchRounds link header shape.le s
    | .case3Short => [t.round link header data 0 s]
    | .case4Short => t.sendAndFetchRounds link header data shape.le s
    | _ => []

/-! ## What follows on a transfer -/

theorem hint_eq_some {high low : UInt8} {outcome : Option Ended} :
    hint high outcome = some low ↔ outcome = some (.ok [high, low]) := by
  unfold hint
  split
  · next sw1 sw2 =>
    rw [Option.ite_none_right_eq_some, Option.some.injEq, Option.some.injEq, Except.ok.injEq,
      List.cons.injEq, List.cons.injEq]
    simp
  · next other => simpa using fun same => other high low same

theorem hint_eq_none {high : UInt8} {outcome : Option Ended}
    (other : ∀ low, outcome ≠ some (.ok [high, low])) : hint high outcome = none := by
  cases hinted : hint high outcome with
  | none => rfl
  | some low => exact absurd (hint_eq_some.mp hinted) (other low)

theorem fetch_eq (link : Link σ) (t : T0) (header : Bytes) (wanted : Nat) (s : σ) :
    t.fetch link header wanted s =
      let first := t.transfer link header [] wanted s
      match hint 0x6C first.outcome with
      | some corrected =>
        first.engine.transfer link (withP3 header corrected) [] (Apdu.shortLength corrected)
          first.device
      | none => first := by
  unfold fetch
  dsimp only
  split
  · next corrected asked => rw [hint_eq_some.mpr asked]
  · next other => rw [hint_eq_none other]

theorem sendAndFetch_eq (link : Link σ) (t : T0) (header data : Bytes) (wanted : Nat) (s : σ) :
    t.sendAndFetch link header data wanted s =
      let first := t.transfer link header data 0 s
      match hint 0x61 first.outcome with
      | some available =>
        let n := min (Apdu.shortLength available) wanted
        first.engine.fetch link (Card.getResponse n) n first.device
      | none => first := by
  unfold sendAndFetch
  dsimp only
  split
  · next available asked =>
    rw [hint_eq_some.mpr asked]
    rfl
  · next other => rw [hint_eq_none other]

/-! ## All calls are made in rounds -/

theorem transfer_noted (link : Link σ) (t : T0) (header data : Bytes) (wanted : Nat) (s : σ)
    (calls : List ChannelCall) : t.transfer link.watched header data wanted (s, calls) =
      (t.transfer link header data wanted s).noting
        (calls ++ (t.round link header data wanted s).calls) := by
  have unwatched := transfer_shows link.watched_shows t header data wanted (s, [])
  have resumed := transfer_shows (link.watched_resumes calls) t header data wanted (s, [])
  rw [List.append_nil] at resumed
  rw [resumed, show s = ((s, []) : σ × List ChannelCall).1 from rfl, unwatched]
  rfl

theorem outcome_round (link : Link σ) (t : T0) (header data : Bytes) (wanted : Nat) (s : σ) :
    (t.round link header data wanted s).outcome = (t.transfer link header data wanted s).outcome :=
  congrArg Exchange.outcome (t.transfer_noted link header data wanted s [])

/-- The card has answered the one round with another length, and the other round asks for this. -/
structure Round.Corrected (first last : Round) (length : UInt8) : Prop where
  asked : first.outcome = some (.ok [0x6C, length])
  header : last.header = withP3 first.header length
  wanted : last.wanted = Apdu.shortLength length

/-- The last of the rounds has this outcome, and expects no more than so many bytes, unless it asks
for a length that the card has corrected. -/
def Concludes (rounds : List Round) (outcome : Option Ended) (wanted : Nat) : Prop :=
  ∃ earlier last, rounds = earlier ++ [last] ∧ last.outcome = outcome ∧
    (last.wanted ≤ wanted ∨
      ∃ front first length, earlier = front ++ [first] ∧ first.Corrected last length)

theorem Concludes.single {r : Round} {wanted : Nat} (le : r.wanted ≤ wanted) :
    Concludes [r] r.outcome wanted :=
  ⟨[], r, rfl, rfl, .inl le⟩

theorem Concludes.cons {rounds : List Round} {outcome : Option Ended} {m n : Nat}
    (concludes : Concludes rounds outcome m) (le : m ≤ n) (r : Round) :
    Concludes (r :: rounds) outcome n := by
  obtain ⟨earlier, last, rfl, ends, expected⟩ := concludes
  refine ⟨r :: earlier, last, rfl, ends, ?_⟩
  rcases expected with few | ⟨front, first, length, rfl, corrected⟩
  · exact .inl (Nat.le_trans few le)
  · exact .inr ⟨r :: front, first, length, rfl, corrected⟩

theorem fetch_concludes (link : Link σ) (t : T0) (header : Bytes) (wanted : Nat) (s : σ) :
    Concludes (t.fetchRounds link header wanted s) (t.fetch link header wanted s).outcome
      wanted := by
  have outcome := outcome_round link t header [] wanted s
  rw [fetch_eq, fetchRounds]
  dsimp only
  cases hinted : hint 0x6C (t.transfer link header [] wanted s).outcome with
  | none =>
    rw [← outcome]
    exact .single (Nat.le_refl _)
  | some length =>
    rw [hint_eq_some, ← outcome] at hinted
    exact ⟨[_], _, rfl, outcome_round .., .inr ⟨[], _, length, rfl, hinted, rfl, rfl⟩⟩

theorem sendAndFetch_concludes (link : Link σ) (t : T0) (header data : Bytes) (wanted : Nat)
    (s : σ) : Concludes (t.sendAndFetchRounds link header data wanted s)
      (t.sendAndFetch link header data wanted s).outcome wanted := by
  have outcome := outcome_round link t header data 0 s
  rw [sendAndFetch_eq, sendAndFetchRounds]
  dsimp only
  cases hint 0x61 (t.transfer link header data 0 s).outcome with
  | none =>
    rw [← outcome]
    exact .single (Nat.zero_le _)
  | some available => exact (fetch_concludes ..).cons (Nat.min_le_right _ _) _

/-! ## Which rounds there are -/

/-- What becomes of a command: it is refused as it is, or it is carried out as it is written. -/
inductive Plan (link : Link σ) (t : T0) (command : Bytes) (s : σ) :
    Exchange (Option Ended) T0 σ → List Round → Prop where
  | refused (e : Error) : Plan link t command s ⟨some (.error (.failed e)), t, s⟩ []
  | transfer {shape : Apdu.Shape} {header data : Bytes}
      (classified : Apdu.classify command = .ok shape) (five : header.length = 5)
      (own : data = (command.drop 5).take shape.lc) (small : data.length ≤ 256) :
      Plan link t command s (t.transfer link header data 0 s) [t.round link header data 0 s]
  | fetch {shape : Apdu.Shape} {header : Bytes} (classified : Apdu.classify command = .ok shape)
      (five : header.length = 5) (none : (command.drop 5).take shape.lc = [])
      (le : shape.le ≤ 256) :
      Plan link t command s (t.fetch link header shape.le s) (t.fetchRounds link header shape.le s)
  | sendAndFetch {shape : Apdu.Shape} {header data : Bytes}
      (classified : Apdu.classify command = .ok shape) (five : header.length = 5)
      (own : data = (command.drop 5).take shape.lc) (small : data.length ≤ 256)
      (le : shape.le ≤ 256) :
      Plan link t command s (t.sendAndFetch link header data shape.le s)
        (t.sendAndFetchRounds link header data shape.le s)

theorem transceive_plan (link : Link σ) (t : T0) (command : Bytes) (s : σ) :
    Plan link t command s (t.transceive link command s) (t.rounds link command s) := by
  unfold transceive rounds
  cases classified : Apdu.classify command with
  | error e => exact .refused e
  | ok shape =>
    have small : ((command.drop 5).take shape.lc).length ≤ shape.lc := List.length_take_le ..
    cases extended : shape.case.isExtended with
    | true =>
      dsimp only
      cases same : shape.case with
      | case2Extended | case3Extended | case4Extended => exact .refused .unsupported
      | _ =>
        rw [same] at extended
        cases extended
    | false =>
      have short := Apdu.short_of_classify classified extended
      have le := short.le_bound
      cases short with
      | case1 => exact .transfer classified rfl rfl (by decide)
      | case2 => exact .fetch classified rfl rfl le
      | @case3 _ _ _ _ lc =>
        exact .transfer classified rfl rfl (Nat.le_trans small (Nat.le_of_lt lc.toNat_lt))
      | @case4 _ _ _ _ lc =>
        exact .sendAndFetch classified rfl rfl (Nat.le_trans small (Nat.le_of_lt lc.toNat_lt)) le

theorem length_fetchRounds_le (link : Link σ) (t : T0) (header : Bytes) (wanted : Nat) (s : σ) :
    (t.fetchRounds link header wanted s).length ≤ 2 := by
  rw [fetchRounds, List.length_cons]
  split
  · exact Nat.le_refl _
  · exact Nat.le_succ _

theorem length_sendAndFetchRounds_le (link : Link σ) (t : T0) (header data : Bytes) (wanted : Nat)
    (s : σ) : (t.sendAndFetchRounds link header data wanted s).length ≤ 3 := by
  rw [sendAndFetchRounds, List.length_cons]
  split
  · exact Nat.succ_le_succ (length_fetchRounds_le ..)
  · exact Nat.le_of_ble_eq_true rfl

theorem data_of_fetchRounds (link : Link σ) (t : T0) (header : Bytes) (wanted : Nat) (s : σ) :
    ∀ r ∈ t.fetchRounds link header wanted s, r.data = [] := by
  intro r here
  rcases List.mem_cons.mp here with rfl | later
  · rfl
  · split at later
    · cases List.mem_singleton.mp later
      rfl
    · cases later

namespace Plan

variable {t : T0} {command : Bytes} {s : σ} {x : Exchange (Option Ended) T0 σ}
  {rounds : List Round}

theorem length_le (plan : Plan link t command s x rounds) : rounds.length ≤ 3 := by
  cases plan with
  | refused e => exact Nat.zero_le _
  | transfer => exact Nat.le_of_ble_eq_true rfl
  | fetch => exact Nat.le_succ_of_le (length_fetchRounds_le ..)
  | sendAndFetch => exact length_sendAndFetchRounds_le ..

/-- The data of the command is that of the first round, and the other rounds have none. -/
theorem data (plan : Plan link t command s x rounds) {first : Round} {later : List Round}
    (begun : rounds = first :: later) :
    (∃ shape, Apdu.classify command = .ok shape ∧
      first.data = (command.drop 5).take shape.lc) ∧ ∀ r ∈ later, r.data = [] := by
  cases plan with
  | refused e => cases begun
  | transfer classified five own small =>
    cases begun
    exact ⟨⟨_, classified, own⟩, fun r here => absurd here List.not_mem_nil⟩
  | @fetch shape header classified five none le =>
    have data := data_of_fetchRounds link t header shape.le s
    rw [begun] at data
    obtain ⟨rfl, -⟩ := List.cons.inj begun
    exact ⟨⟨shape, classified, none.symm⟩, fun r here => data r (List.mem_cons_of_mem _ here)⟩
  | sendAndFetch classified five own small le =>
    obtain ⟨rfl, rfl⟩ := List.cons.inj begun
    refine ⟨⟨_, classified, own⟩, ?_⟩
    intro r here
    split at here
    · exact data_of_fetchRounds link _ _ _ _ r here
    · cases here

end Plan

end T0

end CardTerminal
