import CardTerminal.Proofs.T1.Slices

/-!
Recovery from errors in T=1 comes to an end.

Every answer to a flaw uses up a retry, and only progress gives the retries back; every new start
uses up one of the times that a command may be started afresh, and nothing gives these back. So an
exchange in which the card makes progress so often, and asks for something so often, is over after
so many blocks (`allowance`).

Main statement: an exchange sends no more blocks than its allowance, and if the host is that patient
it ends by itself (`recovery_ends`). What an exchange that ends comes to does not depend on how long
it is followed (`transceive_ended`).
-/

namespace CardTerminal.T1

variable {σ : Type}

/-! ## Retries of an attempt -/

/-- How much of what was heard is progress. -/
def progress (heard : List Meaning) : Nat :=
  heard.countP Meaning.isProgress

theorem progress_append (first second : List Meaning) :
    progress (first ++ second) = progress first + progress second :=
  List.countP_append

/-- How many blocks may be sent for what was heard, if the command may be sent so many times: one
for each progress and each request, and all the retries after each progress and each new start. -/
def allowance (retries : Nat) (heard : List Meaning) (times : Nat) : Nat :=
  retries * (progress heard + times) + progress heard + heard.count .request

theorem allowance_append (retries : Nat) (first second : List Meaning) (m n : Nat) :
    allowance retries (first ++ second) (m + n) =
      allowance retries first m + allowance retries second n := by
  simp only [allowance, progress_append, List.count_append, Nat.mul_add]
  omega

theorem allowance_mono (retries : Nat) (heard : List Meaning) {m n : Nat} (h : m ≤ n) :
    allowance retries heard m ≤ allowance retries heard n := by
  have more : retries * (progress heard + m) ≤ retries * (progress heard + n) :=
    Nat.mul_le_mul_left _ (by omega)
  simp only [allowance]
  omega

/-- The retries that are left, and those that were spent on what was heard. -/
structure Spending (budget : Nat) (heard : List Meaning) (left : Nat) : Prop where
  length : heard.length = progress heard + heard.count .request + heard.count .flaw
  whole : heard.count .flaw + left ≤ budget * (progress heard + 1)
  recent : ∀ before between, heard = before ++ between → progress between = 0 →
    between.count .flaw + left ≤ budget

theorem Spending.none (budget : Nat) : Spending budget [] budget := by
  refine ⟨rfl, by simp [progress], ?_⟩
  intro before between split _
  obtain ⟨-, rfl⟩ := List.append_eq_nil_iff.mp split.symm
  simp

section

variable {budget left : Nat} {heard : List Meaning}

theorem Spending.progress (spending : Spending budget heard left) {meaning : Meaning}
    (news : meaning.isProgress = true) : Spending budget (heard ++ [meaning]) budget := by
  have counted : T1.progress (heard ++ [meaning]) = T1.progress heard + 1 := by
    simp [T1.progress, news]
  have request : meaning ≠ .request := by rintro rfl; cases news
  have flaw : meaning ≠ .flaw := by rintro rfl; cases news
  have requests : (heard ++ [meaning]).count .request = heard.count .request := by
    simp [List.count_append, request]
  have flaws : (heard ++ [meaning]).count .flaw = heard.count .flaw := by
    simp [List.count_append, flaw]
  have length := spending.length
  have whole := spending.whole
  refine ⟨?_, ?_, ?_⟩
  · rw [counted, requests, flaws, List.length_append, List.length_singleton]
    omega
  · rw [counted, flaws, Nat.mul_add_one budget (_ + 1)]
    omega
  · -- Nothing but the end of what was heard is without progress.
    intro before between split none
    rcases List.eq_nil_or_concat between with rfl | ⟨between, last, rfl⟩
    · simp
    · rw [List.concat_eq_append, ← List.append_assoc] at split
      obtain ⟨-, same⟩ := List.append_inj' split rfl
      cases same
      simp [T1.progress, news] at none

theorem Spending.more (spending : Spending budget heard left) {meaning : Meaning} {left' : Nat}
    (kind : meaning = .request ∧ left' = left ∨ meaning = .flaw ∧ left' + 1 = left) :
    Spending budget (heard ++ [meaning]) left' := by
  have none : T1.progress [meaning] = 0 := by
    rcases kind with ⟨rfl, -⟩ | ⟨rfl, -⟩ <;> rfl
  have counted : T1.progress (heard ++ [meaning]) = T1.progress heard := by
    rw [progress_append, none, Nat.add_zero]
  -- Either way the flaws and the retries left come to the same.
  have flaws (before : List Meaning) :
      (before ++ [meaning]).count .flaw + left' = before.count .flaw + left := by
    rw [List.count_append]
    rcases kind with ⟨rfl, rfl⟩ | ⟨rfl, rfl⟩
    · simp
    · simp only [List.count_singleton_self]
      omega
  have length := spending.length
  have whole := spending.whole
  refine ⟨?_, ?_, ?_⟩
  · rw [counted, List.length_append, List.length_singleton, List.count_append, List.count_append]
    rcases kind with ⟨rfl, -⟩ | ⟨rfl, -⟩ <;> simp <;> omega
  · rw [counted, flaws]
    exact whole
  · intro before between split quiet
    rcases List.eq_nil_or_concat between with rfl | ⟨between, last, rfl⟩
    · have all := spending.recent heard [] (List.append_nil _).symm rfl
      have fewer := flaws []
      simp only [List.nil_append, List.count_nil, Nat.zero_add] at fewer all ⊢
      omega
    · rw [List.concat_eq_append, ← List.append_assoc] at split
      obtain ⟨rfl, same⟩ := List.append_inj' split rfl
      cases same
      rw [List.concat_eq_append, progress_append] at quiet
      rw [List.concat_eq_append, flaws]
      exact spending.recent before between rfl (by omega)

end

section

variable {u v t t' : T1} {a a' : Attempt} {command : Bytes} {past turns : List Turn}
  {received : Except Error Block} {ending : Ending}

theorem Spending.proceed (spending : Spending u.retries (meanings (.start u) past) a.retries)
    (tracks : Tracks u past t a) (same : t.retries = u.retries)
    (verdict : t.react a received = .proceed t' a') :
    Spending u.retries (meanings (.start u) (past ++ [⟨a.next, some received⟩])) a'.retries := by
  rw [tracks.meanings]
  obtain ⟨meaning, w, means, reacts, reaction⟩ := t.react_cases a received
  rw [reacts] at verdict
  rw [means]
  cases reaction with
  | onward =>
    cases verdict
    simp only [advance, same]
    exact spending.progress rfl
  | part =>
    cases verdict
    simp only [same]
    exact spending.progress rfl
  | last => cases verdict
  | request =>
    cases verdict
    exact spending.more (.inl ⟨rfl, rfl⟩)
  | abort => cases verdict
  | lost => cases verdict
  | flaw =>
    obtain ⟨left, retries, rfl, rfl⟩ := spend_eq_proceed verdict
    exact spending.more (.inr ⟨rfl, retries.symm⟩)
  | stale =>
    obtain ⟨left, retries, rfl, rfl⟩ := spend_eq_proceed verdict
    exact spending.more (.inr ⟨rfl, retries.symm⟩)

theorem Reached.spending (reached : Reached u command past t a) :
    Spending u.retries (meanings (.start u) past) a.retries := by
  induction reached with
  | start => exact .none u.retries
  | proceed reached verdict ih =>
    have same := congrArg T1.retries reached.engine
    exact ih.proceed reached.tracks same verdict

theorem length_meanings (p : Position) (turns : List Turn) :
    (meanings p turns).length = turns.length := by
  induction turns generalizing p with
  | nil => rfl
  | cons turn turns ih => simp [meanings, ih]

/-- What an attempt has sent is within its allowance, but for what it sends at its end. -/
theorem Reached.length_le (reached : Reached u command past t a) (final : List Turn) :
    (past ++ final).length ≤
      allowance u.retries (meanings (.start u) (past ++ final)) 1 + final.length := by
  have spending := reached.spending
  have length := spending.length
  have whole := spending.whole
  rw [length_meanings] at length
  have before : past.length ≤ allowance u.retries (meanings (.start u) past) 1 := by
    rw [allowance]
    omega
  have grows := allowance_append u.retries (meanings (.start u) past)
    (meanings ((Position.start u).along past) final) 1 0
  rw [meanings_append, List.length_append, grows]
  omega

/-- An attempt is within its allowance, but for what it sends at its end. -/
theorem Concluded.length_le (concluded : Concluded u command turns ending v) :
    turns.length ≤ allowance u.retries (meanings (.start u) turns) 1 +
      if ending = .outOfStep then 1 else 2 := by
  cases concluded with
  | @unfinished past t a reached =>
    have length := reached.length_le []
    simp only [List.append_nil, List.length_nil] at length
    exact Nat.le_trans length (Nat.add_le_add_left (by simp) _)
  | unsent reached e => exact Nat.le_trans (reached.length_le _) (Nat.add_le_add_left (by simp) _)
  | answered reached verdict =>
    exact Nat.le_trans (reached.length_le _) (Nat.add_le_add_left (by simp) _)
  | outOfStep reached verdict => exact reached.length_le _
  | lost reached verdict =>
    exact Nat.le_trans (reached.length_le _) (Nat.add_le_add_left (by simp) _)
  | aborted reached verdict fault => exact reached.length_le _

/-- What the first of some turns meant is what the first of their meanings say. -/
theorem meanings_split {p : Position} {turns : List Turn} {first second : List Meaning}
    (split : meanings p turns = first ++ second) :
    ∃ before after, turns = before ++ after ∧ meanings p before = first ∧
      after.length = second.length := by
  have length : turns.length = first.length + second.length := by
    rw [← length_meanings p turns, split, List.length_append]
  refine ⟨turns.take first.length, turns.drop first.length, (List.take_append_drop ..).symm, ?_, ?_⟩
  · rw [← List.take_append_drop first.length turns, meanings_append] at split
    refine (List.append_inj split ?_).1
    rw [length_meanings, List.length_take, length]
    omega
  · rw [List.length_drop, length]
    omega

/-- Between one progress and the next, no more flaws are answered than there are retries. -/
theorem Concluded.recent (concluded : Concluded u command turns ending v)
    {before between after : List Meaning} {next : Meaning}
    (split : meanings (.start u) turns = before ++ between ++ next :: after)
    (quiet : progress between = 0) : between.count .flaw ≤ u.retries := by
  obtain ⟨earlier, later, rfl, heard, length⟩ := meanings_split split
  cases later with
  | nil => simp at length
  | cons turn later =>
  rcases concluded.turn rfl with ⟨-, past, t, a, received, reached, verdict, rfl⟩ |
    ⟨t, a, reached, -⟩
  · -- The card gave up in between, or just before: that is no flaw.
    rw [reached.tracks.meanings, meaning_of_aborted verdict] at heard
    rcases List.eq_nil_or_concat between with rfl | ⟨between, last, rfl⟩
    · simp
    · rw [List.concat_eq_append, ← List.append_assoc] at heard
      obtain ⟨front, same⟩ := List.append_inj' heard rfl
      cases same
      rw [List.concat_eq_append, progress_append] at quiet
      have recent := reached.spending.recent before between front (by omega)
      rw [List.concat_eq_append, List.count_append]
      simp
      omega
  · have recent := reached.spending.recent before between heard quiet
    omega

theorem Concluded.count_resynch (concluded : Concluded u command turns ending v) :
    (turns.map Turn.sent).count (.request .resynch []) = 0 := by
  rw [List.count_eq_zero]
  intro sent
  obtain ⟨turn, told, same⟩ := List.mem_map.mp sent
  obtain ⟨before, after, split⟩ := List.append_of_mem told
  have kind : turn.sent.kind = .supervisory .resynch false := by
    rw [same]
    decide
  rcases concluded.turn split with ⟨rfl, -⟩ | ⟨t, a, reached, next⟩
  · cases kind
  · rw [next] at kind
    rcases reached.tracks.next with ⟨-, next⟩ | ⟨nr, polite⟩ | ⟨task, polite⟩
    · rw [next, reached.tracks.current] at kind
      cases kind
    · rw [polite] at kind
      cases kind
    · rw [polite] at kind
      cases kind

end

/-! ## Exchanges -/

def Passage.heard : Passage → List Meaning
  | .attempt u turns => meanings (.start u) turns
  | .resynch _ => []

section

variable {command : Bytes} {phase : Phase} {budget : Nat} {t v : T1} {story : List Passage}
  {outcome : Option Ended}

/-- How many more times the command may be sent. -/
def starts : Phase → Nat → Nat
  | .alive, budget => budget + 1
  | .resynching, budget => budget

/-- An exchange is within its allowance, but for what it takes to start afresh and to end. -/
theorem Told.length_le (told : Told command phase budget t story outcome v) :
    (story.flatMap Passage.turns).length ≤
      allowance t.retries (story.flatMap Passage.heard) (starts phase budget) +
        (budget + starts phase budget + 1) := by
  induction told with
  | @ended budget t v turns ending outcome concluded ends =>
    have length := concluded.length_le
    have last : ending ≠ .outOfStep := by
      rintro rfl
      cases ends
    rw [if_neg last] at length
    have more := allowance_mono t.retries (meanings (.start t) turns) (Nat.le_add_left 1 budget)
    simp only [List.flatMap_cons, List.flatMap_nil, List.append_nil, Passage.turns, Passage.heard,
      starts]
    omega
  | @outOfStep budget t u v turns story outcome concluded told ih =>
    have length := concluded.length_le
    have same : u.retries = t.retries := by rw [concluded.engine]
    rw [same] at ih
    calc ((Passage.attempt t turns :: story).flatMap Passage.turns).length
        = turns.length + (story.flatMap Passage.turns).length := List.length_append
      _ ≤ (allowance t.retries (meanings (.start t) turns) 1 + 1) +
            (allowance t.retries (story.flatMap Passage.heard) budget + (budget + budget + 1)) :=
          Nat.add_le_add length ih
      _ = allowance t.retries (meanings (.start t) turns ++ story.flatMap Passage.heard)
            (1 + budget) + (budget + (budget + 1) + 1) := by
          rw [allowance_append]
          omega
      _ = _ := by rw [Nat.add_comm 1 budget]; rfl
  | exhausted t => exact Nat.zero_le _
  | @refused budget t v story outcome heard told ih =>
    have more := allowance_mono t.retries (story.flatMap Passage.heard) (Nat.le_add_right budget 1)
    simp only [List.flatMap_cons, Passage.turns, Passage.heard, List.length_append,
      List.length_singleton, List.nil_append, starts] at ih ⊢
    omega
  | @agreed budget t v story outcome heard told ih =>
    have same : t.renewed.retries = t.retries := rfl
    simp only [same, List.flatMap_cons, Passage.turns, Passage.heard, List.length_append,
      List.length_singleton, List.nil_append, starts] at ih ⊢
    omega

/-- The card is asked to start afresh at most as often as the budget says. -/
theorem Told.count_resynch (told : Told command phase budget t story outcome v) :
    ((story.flatMap Passage.turns).map Turn.sent).count (.request .resynch []) ≤ budget := by
  induction told with
  | ended concluded ends =>
    have none := concluded.count_resynch
    simp only [List.flatMap_cons, List.flatMap_nil, List.append_nil, Passage.turns, none]
    exact Nat.zero_le _
  | outOfStep concluded told ih =>
    rw [List.flatMap_cons, List.map_append, List.count_append]
    simp only [Passage.turns, concluded.count_resynch, Nat.zero_add]
    exact ih
  | exhausted t => exact Nat.le_refl _
  | refused heard told ih =>
    simp only [List.flatMap_cons, Passage.turns, List.map_append, List.map_cons, List.map_nil,
      List.count_append, List.count_singleton_self]
    omega
  | agreed heard told ih =>
    simp only [List.flatMap_cons, Passage.turns, List.map_append, List.map_cons, List.map_nil,
      List.count_append, List.count_singleton_self]
    omega

end

/-! ## Patience -/

section

variable (link : Link σ) (patience : Nat)

/-- Receiving takes no patience: it is single blocks that a host waits for. -/
theorem gather_patience (dad : UInt8) (timeout wanted : Nat) (s : σ) :
    { link with patience }.gather dad timeout wanted s = link.gather dad timeout wanted s := by
  have receive (wanted : Nat) :
      { link with patience }.receive dad wanted timeout = link.receive dad wanted timeout := rfl
  fun_induction Link.gather link dad timeout wanted s with
  | case1 s => simp [Link.gather]
  | case2 wanted s some e s' failed => simp [Link.gather, some, receive, failed]
  | case3 wanted s some s' nothing => simp [Link.gather, some, receive, nothing]
  | case4 wanted s some b bs s' received more ending rest ih =>
    rw [Link.gather, if_neg some, receive, received]
    simp only [ih, rest]

theorem receive_patience (t : T1) (timeout : Nat) :
    t.receive { link with patience } timeout = t.receive link timeout := by
  have exactly (dad : UInt8) (timeout wanted : Nat) :
      { link with patience }.receiveExactly dad timeout wanted =
        link.receiveExactly dad timeout wanted := by
    funext s
    simp only [Link.receiveExactly, gather_patience]
  simp only [T1.receive, Block.receive, exactly]
  rfl

theorem run_patience (rounds : Nat) (t : T1) (a : Attempt) (s : σ) :
    run { link with patience } rounds t a s = run link rounds t a s := by
  have hear (t : T1) (a : Attempt) : t.hear { link with patience } a = t.hear link a := by
    funext s
    simp only [T1.hear, receive_patience]
  induction rounds generalizing t a s with
  | zero => rfl
  | succ rounds ih =>
    rw [run_succ, run_succ]
    simp only [hear, ih]
    rfl

theorem resynch_patience (t : T1) : t.resynch { link with patience } = t.resynch link := by
  funext s
  simp only [resynch, receive_patience]
  rfl

variable {link} {patience}

/-- An attempt that takes fewer rounds than it may ends by itself, whatever it may take. -/
theorem run_rounds {rounds rounds' : Nat} {t : T1} {a : Attempt} {s : σ}
    (short : (turns link rounds t a s).length < rounds)
    (short' : (turns link rounds t a s).length < rounds') :
    (run link rounds t a s).1 ≠ .unfinished ∧
      run link rounds' t a s = run link rounds t a s := by
  induction rounds generalizing rounds' t a s with
  | zero => cases short
  | succ rounds ih =>
    cases rounds' with
    | zero => cases short'
    | succ rounds' =>
    rw [turns] at short short'
    rw [run_succ, run_succ]
    cases send : t.send link a.next s with
    | error e s' => exact ⟨by simp, rfl⟩
    | ok v s' =>
      simp only [send] at short short'
      dsimp only
      cases verdict : t.react a (t.hear link a s').1 with
      | proceed t' a' =>
        simp only [verdict, List.length_cons, Nat.add_lt_add_iff_right] at short short'
        exact ih short short'
      | finished t' answer => exact ⟨by simp, rfl⟩
      | outOfStep t' => exact ⟨by simp, rfl⟩
      | lost t' cause => exact ⟨by simp, rfl⟩
      | aborted t' =>
        dsimp only
        cases t'.send link (.response .abort []) (t.hear link a s').2 with
        | error e s'' => exact ⟨by simp, rfl⟩
        | ok v s'' => exact ⟨by simp, rfl⟩

/-- An attempt that has ended is the same however much longer it may take. -/
theorem run_ended {rounds rounds' : Nat} {t : T1} {a : Attempt} {s : σ} (more : rounds ≤ rounds')
    (ended : (run link rounds t a s).1 ≠ .unfinished) :
    run link rounds' t a s = run link rounds t a s := by
  induction rounds generalizing rounds' t a s with
  | zero => exact absurd rfl ended
  | succ rounds ih =>
    obtain ⟨rounds', rfl⟩ := Nat.exists_eq_add_of_le' (Nat.le_trans (Nat.le_add_left 1 rounds) more)
    rw [run_succ] at ended ⊢
    rw [run_succ]
    cases send : t.send link a.next s with
    | error e s' => rfl
    | ok v s' =>
      rw [send] at ended
      dsimp only at ended ⊢
      cases verdict : t.react a (t.hear link a s').1 with
      | proceed t' a' =>
        rw [verdict] at ended
        exact ih (Nat.le_of_add_le_add_right more) ended
      | _ => rfl

theorem attempt_ended {t : T1} {command : Bytes} {s : σ} (more : link.patience ≤ patience)
    (ended : (t.attempt link command s).1 ≠ .unfinished) :
    t.attempt { link with patience } command s = t.attempt link command s :=
  (run_patience link patience ..).trans (run_ended more ended)

theorem recover_ended {command : Bytes} {budget : Nat} {t : T1} {s : σ}
    (more : link.patience ≤ patience) (ended : (recover link command budget t s).outcome ≠ none) :
    recover { link with patience } command budget t s = recover link command budget t s := by
  induction budget generalizing t s with
  | zero => rfl
  | succ budget ih =>
    rw [recover] at ended ⊢
    rw [recover, resynch_patience link patience t]
    generalize t.resynch link s = asked at ended ⊢
    obtain ⟨_ | _, s'⟩ := asked
    · exact ih ended
    · dsimp only at ended ⊢
      generalize { t with ns := false, nr := false, phase := .alive : T1 } = u at ended ⊢
      have same : u.attempt { link with patience } command s' = u.attempt link command s' := by
        refine attempt_ended more fun unfinished => ended ?_
        generalize u.attempt link command s' = attempted at unfinished ⊢
        obtain ⟨ending, t', s''⟩ := attempted
        obtain rfl : ending = .unfinished := unfinished
        rfl
      rw [same]
      generalize u.attempt link command s' = attempted at ended ⊢
      obtain ⟨ending, t', s''⟩ := attempted
      cases ending with
      | outOfStep => exact ih ended
      | _ => rfl

/-- **What an exchange ends with does not depend on patience.** However much longer a host would
have followed it, it comes to the same. -/
theorem transceive_ended {command : Bytes} {t : T1} {s : σ} (more : link.patience ≤ patience)
    (ended : (t.transceive link command s).outcome ≠ none) :
    t.transceive { link with patience } command s = t.transceive link command s := by
  rw [transceive] at ended ⊢
  rw [transceive]
  have same : t.attempt { link with patience } command s = t.attempt link command s := by
    refine attempt_ended more fun unfinished => ended ?_
    generalize t.attempt link command s = attempted at unfinished ⊢
    obtain ⟨ending, t', s'⟩ := attempted
    obtain rfl : ending = .unfinished := unfinished
    rfl
  rw [same]
  generalize t.attempt link command s = attempted at ended ⊢
  obtain ⟨ending, t', s'⟩ := attempted
  cases ending with
  | outOfStep => exact recover_ended more ended
  | _ => rfl

/-- These passages take less patience than there is. -/
def Quick (link : Link σ) (patience : Nat) (story : List Passage) : Prop :=
  ∀ u turns, .attempt u turns ∈ story →
    turns.length < link.patience ∧ turns.length < patience

theorem attempt_quick {u : T1} {command : Bytes} {s : σ} {story : List Passage}
    (quick : Quick link patience story)
    (told : .attempt u (turns link link.patience u (u.start command) s) ∈ story) :
    (u.attempt link command s).1 ≠ .unfinished ∧
      u.attempt { link with patience } command s = u.attempt link command s := by
  obtain ⟨short, short'⟩ := quick u _ told
  obtain ⟨ends, same⟩ := run_rounds short short'
  exact ⟨ends, (run_patience link patience ..).trans same⟩

theorem recover_quick {command : Bytes} {budget : Nat} {t : T1} {s : σ}
    (quick : Quick link patience (recovery link command budget t s)) :
    (recover link command budget t s).outcome ≠ none ∧
      recover { link with patience } command budget t s = recover link command budget t s := by
  induction budget generalizing t s with
  | zero => exact ⟨by simp [recover], rfl⟩
  | succ budget ih =>
    rw [recovery] at quick
    rw [recover, recover, resynch_patience link patience t]
    generalize t.resynch link s = asked at quick ⊢
    obtain ⟨_ | _, s'⟩ := asked
    · exact ih fun u turns told => quick u turns (List.mem_cons_of_mem _ told)
    · simp only [renewed] at quick
      generalize { t with ns := false, nr := false, phase := .alive : T1 } = u at quick ⊢
      obtain ⟨ends, same⟩ := attempt_quick quick (List.mem_cons_of_mem _ List.mem_cons_self)
      simp only [same]
      generalize u.attempt link command s' = attempted at quick ends ⊢
      obtain ⟨ending, t', s''⟩ := attempted
      cases ending with
      | answered answer => exact ⟨by simp, rfl⟩
      | faulted fault => exact ⟨by simp, rfl⟩
      | unfinished => exact absurd rfl ends
      | outOfStep =>
        exact ih fun u turns told =>
          quick u turns (List.mem_cons_of_mem _ (List.mem_cons_of_mem _ told))

theorem transceive_quick {command : Bytes} {t : T1} {s : σ}
    (quick : Quick link patience (t.story link command s)) :
    (t.transceive link command s).outcome ≠ none ∧
      t.transceive { link with patience } command s = t.transceive link command s := by
  rw [story] at quick
  rw [transceive, transceive]
  obtain ⟨ends, same⟩ := attempt_quick quick List.mem_cons_self
  simp only [same]
  generalize t.attempt link command s = attempted at quick ends ⊢
  obtain ⟨ending, t', s'⟩ := attempted
  cases ending with
  | answered answer => exact ⟨by simp, rfl⟩
  | faulted fault => exact ⟨by simp, rfl⟩
  | unfinished => exact absurd rfl ends
  | outOfStep => exact recover_quick fun u turns told => quick u turns (List.mem_cons_of_mem _ told)

end

/-! ## The end -/

theorem length_le_story {story : List Passage} {u : T1} {turns : List Turn}
    (told : .attempt u turns ∈ story) : turns.length ≤ (story.flatMap Passage.turns).length := by
  obtain ⟨earlier, later, rfl⟩ := List.append_of_mem told
  simp only [List.flatMap_append, List.flatMap_cons, Passage.turns, List.length_append]
  omega

/-- **Recovery comes to an end.** Over any channel, if what is heard is progress at most `news`
times and a request at most `asked` times: the host sends no more blocks than it is allowed to, asks
the card to start afresh no more often than it may, and answers no more flaws between one progress
and the next than it has retries. A host whose patience is greater than this comes to an end by
itself, and how great it is does not matter. -/
theorem recovery_ends (link : Link σ) (t : T1) (command : Bytes) (s : σ) (news asked : Nat)
    (fewNews : progress ((t.story link command s).flatMap Passage.heard) ≤ news)
    (fewAsked : ((t.story link command s).flatMap Passage.heard).count .request ≤ asked) :
    let bound := t.retries * (news + t.resyncs + 1) + news + asked + 2 * (t.resyncs + 1)
    (posted (t.transceive link.watched command (s, [])).device.2 =
        t.postAll (t.story link command s) ∧
      (t.postAll (t.story link command s)).length ≤ bound) ∧
      (((t.story link command s).flatMap Passage.turns).map Turn.sent).count
        (.request .resynch []) ≤ t.resyncs ∧
      (∀ u turns, .attempt u turns ∈ t.story link command s → ∀ before between next after,
        meanings (.start u) turns = before ++ between ++ next :: after → progress between = 0 →
          between.count .flaw ≤ t.retries) ∧
      (bound < link.patience → (t.transceive link command s).outcome ≠ none ∧
        ∀ patience, bound < patience →
          t.transceive { link with patience } command s = t.transceive link command s) := by
  intro bound
  have told := transceive_told link t command s
  have few : ((t.story link command s).flatMap Passage.turns).length ≤ bound := by
    have length := told.length_le
    have more : t.retries * (progress ((t.story link command s).flatMap Passage.heard) +
        (t.resyncs + 1)) ≤ t.retries * (news + t.resyncs + 1) :=
      Nat.mul_le_mul_left _ (by omega)
    simp only [allowance, starts] at length
    simp only [bound]
    omega
  have each {u : T1} {turns : List Turn} (told : .attempt u turns ∈ t.story link command s) :
      turns.length ≤ bound :=
    Nat.le_trans (length_le_story told) few
  refine ⟨⟨posted_story link t command s, ?_⟩, told.count_resynch, ?_, ?_⟩
  · rw [postAll, List.length_map]
    exact few
  · intro u turns sent before between next after split quiet
    obtain ⟨earlier, later, place⟩ := List.append_of_mem sent
    obtain ⟨⟨ending, v, concluded⟩, engine⟩ := told.attempt place
    have same : u.retries = t.retries := by rw [engine]
    rw [← same]
    exact concluded.recent split quiet
  · intro patient
    refine ⟨?_, fun patience patient' => ?_⟩
    · exact (@transceive_quick _ link link.patience command t s fun u turns told =>
        ⟨Nat.lt_of_le_of_lt (each told) patient, Nat.lt_of_le_of_lt (each told) patient⟩).1
    · exact (transceive_quick fun u turns told =>
        ⟨Nat.lt_of_le_of_lt (each told) patient, Nat.lt_of_le_of_lt (each told) patient'⟩).2

/-- A card that asks for time, loses its way, and finds it again. -/
def wayward : List Block :=
  [.request .wtx [2], .receipt false .other, .information true false [], .receipt true .none,
    .receipt true .none, .response .resynch [], .information false false [0x90, 0x00]]

theorem recovery_ends_wayward :
    (wide.postAll (wide.story (reciting 30) [0x00, 0xB0] wayward)).length ≤ 25 ∧
      (wide.transceive (reciting 30) [0x00, 0xB0] wayward).outcome ≠ none ∧
      wide.transceive { reciting 30 with patience := 300 } [0x00, 0xB0] wayward =
        wide.transceive (reciting 30) [0x00, 0xB0] wayward := by
  obtain ⟨⟨-, few⟩, -, -, ends⟩ := recovery_ends (reciting 30) wide [0x00, 0xB0] wayward 1 1
    (by decide +kernel) (by decide +kernel)
  obtain ⟨ends, same⟩ := ends (by decide)
  exact ⟨few, ends, same 300 (by decide)⟩

end CardTerminal.T1
