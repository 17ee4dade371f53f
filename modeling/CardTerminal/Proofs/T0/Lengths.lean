import CardTerminal.Proofs.T0.Accounts

/-!
How long the answer to a command over T=0 is.

An answer is no longer than the last round of the command expects. This is what the command asks
for, or less, as long as the host says how much it wants: a command without a wanted length expects
none, and of an answer that the card holds ready no more is fetched than was asked for. But a card
that corrects a length has the last word, also where it corrects upwards.

Main statement: `length_of_answer`.
-/

namespace CardTerminal.T0

variable {σ : Type}

/-! ## The last round -/

theorem Plan.concludes {link : Link σ} {t : T0} {command : Bytes} {s : σ}
    {x : Exchange (Option Ended) T0 σ} {rounds : List Round} (plan : Plan link t command s x rounds)
    {answer : Bytes}
    (answered : x.outcome = some (.ok answer)) :
    ∃ shape, Apdu.classify command = .ok shape ∧ Concludes rounds (some (.ok answer)) shape.le := by
  rw [← answered]
  cases plan with
  | refused e => cases answered
  | transfer classified =>
    rw [← outcome_round]
    exact ⟨_, classified, .single (Nat.zero_le _)⟩
  | fetch classified => exact ⟨_, classified, fetch_concludes ..⟩
  | sendAndFetch classified => exact ⟨_, classified, sendAndFetch_concludes ..⟩

/-- An answer is that of the last round, which expects what the command wants, or what the card has
made of this. -/
theorem last_round (link : Link σ) (t : T0) (command : Bytes) (s : σ) {answer : Bytes}
    (answered : (t.transceive link command s).outcome = some (.ok answer)) :
    ∃ shape earlier last, Apdu.classify command = .ok shape ∧
      t.rounds link command s = earlier ++ [last] ∧ last.Accounted t ∧
      last.outcome = some (.ok answer) ∧
      (last.wanted ≤ shape.le ∨
        ∃ front first length, earlier = front ++ [first] ∧ first.Corrected last length) := by
  have plan := transceive_plan link t command s
  obtain ⟨shape, classified, earlier, last, rounds, ends, expected⟩ := plan.concludes answered
  refine ⟨shape, earlier, last, classified, rounds, plan.accounted last ?_, ends, expected⟩
  rw [rounds]
  exact List.mem_concat_self

/-! ## The answer -/

/-- A T=0 card answers with 256 bytes and a status at most. -/
theorem length_of_transceive (link : Link σ) (t : T0) (command : Bytes) (s : σ) {answer : Bytes}
    (answered : (t.transceive link command s).outcome = some (.ok answer)) :
    answer.length ≤ 258 := by
  obtain ⟨_, _, last, -, -, accounted, ends, -⟩ := last_round link t command s answered
  have small := accounted.small
  have fits := (accounted.length_answer ends).2
  omega

/-- **An answer is no longer than was asked for, unless the card has corrected the length.** Over
any channel, with any engine in either mode and whatever is received, an answer ends with two status
bytes, and before them it has no more bytes than the command wants; or the last round was a
repetition for which the card has named a length that is greater, and then it has no more bytes than
this. -/
theorem length_of_answer (link : Link σ) (t : T0) {command : Bytes} {shape : Apdu.Shape}
    (classified : Apdu.classify command = .ok shape) (s : σ) {answer : Bytes}
    (answered : (t.transceive link command s).outcome = some (.ok answer)) :
    2 ≤ answer.length ∧
      (answer.length ≤ shape.le + 2 ∨
        ∃ front first last length, t.rounds link command s = front ++ [first, last] ∧
          first.Corrected last length ∧ last.outcome = some (.ok answer) ∧
          shape.le < Apdu.shortLength length ∧
          answer.length ≤ Apdu.shortLength length + 2) := by
  obtain ⟨shape', earlier, last, classified', rounds, accounted, ends, expected⟩ :=
    last_round link t command s answered
  cases classified.symm.trans classified'
  obtain ⟨two, fits⟩ := accounted.length_answer ends
  refine ⟨two, ?_⟩
  rcases expected with few | ⟨front, first, length, rfl, corrected⟩
  · left
    omega
  · rw [corrected.wanted] at fits
    by_cases more : shape.le < Apdu.shortLength length
    · right
      refine ⟨front, first, last, length, ?_, corrected, ends, more, fits⟩
      rw [rounds, List.append_assoc]
      rfl
    · left
      omega

/-- A channel that carries whole answers, these in turn. -/
def answering : Link (List Bytes) where
  send _ _ := pure ()
  recv _ _ _ := fun replies =>
    match replies with
    | [] => .error .timeout []
    | reply :: replies => .ok reply replies
  patience := 0

/-- A command with one byte of data, which wants one byte. -/
def challenge : Bytes :=
  [0x00, 0x88, 0x00, 0x00, 0x01, 0xAA, 0x01]

/-- An answer of four bytes is held ready, and nothing is given of it but all. -/
def unyielding : List Bytes :=
  [[0x61, 0x04], [0x6C, 0x04], [1, 2, 3, 4, 0x90, 0x00]]

/-- One byte is wanted, and one is asked for at first; but then all four are asked for, and given.
-/
theorem length_of_answer_unyielding :
    Apdu.classify challenge = .ok ⟨.case4Short, 1, 1⟩ ∧
      ({ T0.new 0 with blockOriented := true }.transceive answering challenge unyielding).outcome =
        some (.ok [1, 2, 3, 4, 0x90, 0x00]) ∧
      ∃ front first last length,
        { T0.new 0 with blockOriented := true }.rounds answering challenge unyielding =
          front ++ [first, last] ∧
        first.Corrected last length ∧ 1 < Apdu.shortLength length := by
  have answered : ({ T0.new 0 with blockOriented := true }.transceive answering challenge
      unyielding).outcome = some (.ok [1, 2, 3, 4, 0x90, 0x00]) := rfl
  refine ⟨rfl, answered, ?_⟩
  obtain ⟨-, few | ⟨front, first, last, length, rounds, corrected, -, more, -⟩⟩ :=
    length_of_answer answering _ rfl unyielding answered
  · exact absurd few (by decide)
  · exact ⟨front, first, last, length, rounds, corrected, more⟩

end CardTerminal.T0
