import CardTerminal.Proofs.T1.Reaction
import CardTerminal.Proofs.Watched

/-!
What is said in an exchange of T=1.

A host sends a block, hears something or nothing, and sends the next one. The turns of an attempt
(`turns`) are what it sent and what it then heard; the story of an exchange (`story`) is its
attempts and what was said between them. The host knows nothing of the card but what it heard, so
what an attempt does is told without the channel: a point of an attempt is reached (`Reached`) by
turns that end in a reaction that goes on, and an attempt is concluded (`Concluded`) by one that
does not.

Main statements: the turns of every attempt lead to its end (`run_concluded`), the passages of a
story to the end of the exchange (`transceive_told`), and the blocks of a story are those that the
driver was given to send, in order (`posted_story`).
-/

namespace CardTerminal.T1

open CardTerminal.Action

variable {σ τ : Type}

/-! ## Stories -/

/-- A block that the host sends, and what it then hears. It hears nothing if the block could not be
sent, or if it does not wait for an answer. -/
structure Turn where
  sent : Block
  heard : Option (Except Error Block)

/-- The turns of an attempt. -/
def turns (link : Link σ) : Nat → T1 → Attempt → σ → List Turn
  | 0, _, _, _ => []
  | patience + 1, t, a, s =>
    match t.send link a.next s with
    | .error _ _ => [⟨a.next, none⟩]
    | .ok _ s =>
      ⟨a.next, some (t.hear link a s).1⟩ ::
        match t.react a (t.hear link a s).1 with
        | .proceed t' a' => turns link patience t' a' (t.hear link a s).2
        | .aborted _ => [⟨.response .abort [], none⟩]
        | .finished _ _ | .outOfStep _ | .lost _ _ => []

/-- What an exchange is made of. -/
inductive Passage where
  /-- The command is sent, by the engine as it is then. -/
  | attempt (engine : T1) (turns : List Turn)
  /-- The card is asked to start afresh. -/
  | resynch (heard : Option (Except Error Block))

def Passage.turns : Passage → List Turn
  | .attempt _ turns => turns
  | .resynch heard => [⟨.request .resynch [], heard⟩]

/-- What comes back when the card is asked to start afresh. -/
def hearResynch (link : Link σ) (t : T1) (s : σ) : Option (Except Error Block) :=
  match t.send link (.request .resynch []) s with
  | .error _ _ => none
  | .ok _ s =>
    match t.receive link t.timeout s with
    | .error e _ => some (.error e)
    | .ok block _ => some (.ok block)

/-- The engine after both sides have started afresh. -/
def renewed (t : T1) : T1 :=
  { t with ns := false, nr := false, phase := .alive }

/-- The story of starting afresh, until the command is answered or the budget is used up. -/
def recovery (link : Link σ) (command : Bytes) : Nat → T1 → σ → List Passage
  | 0, _, _ => []
  | budget + 1, t, s =>
    .resynch (t.hearResynch link s) ::
      match t.resynch link s with
      | (false, s) => recovery link command budget t s
      | (true, s) =>
        .attempt t.renewed (turns link link.patience t.renewed (t.renewed.start command) s) ::
          match t.renewed.attempt link command s with
          | (.outOfStep, t, s) => recovery link command budget t s
          | _ => []

/-- The story of an exchange. -/
def story (link : Link σ) (t : T1) (command : Bytes) (s : σ) : List Passage :=
  .attempt t (turns link link.patience t (t.start command) s) ::
    match t.attempt link command s with
    | (.outOfStep, t, s) => recovery link command t.resyncs t s
    | _ => []

/-! ## Attempts without the channel -/

/-- An attempt that began with engine `u` has come to engine `t` and attempt `a` by these turns. -/
inductive Reached (u : T1) (command : Bytes) : List Turn → T1 → Attempt → Prop
  | start : Reached u command [] u (u.start command)
  | proceed {past : List Turn} {t t' : T1} {a a' : Attempt} {received : Except Error Block}
      (reached : Reached u command past t a) (verdict : t.react a received = .proceed t' a') :
      Reached u command (past ++ [⟨a.next, some received⟩]) t' a'

/-- The host confirms that the card gave the command up. -/
def Turn.farewell : Turn :=
  ⟨.response .abort [], none⟩

/-- An attempt that began with engine `u` ended so, and with this engine, after these turns. -/
inductive Concluded (u : T1) (command : Bytes) : List Turn → Ending → T1 → Prop
  | unfinished {past : List Turn} {t : T1} {a : Attempt} (reached : Reached u command past t a) :
      Concluded u command past .unfinished t
  | unsent {past : List Turn} {t : T1} {a : Attempt} (reached : Reached u command past t a)
      (e : Error) : Concluded u command (past ++ [⟨a.next, none⟩]) (.faulted (.lost e)) t
  | answered {past : List Turn} {t t' : T1} {a : Attempt} {received : Except Error Block}
      {answer : Bytes} (reached : Reached u command past t a)
      (verdict : t.react a received = .finished t' answer) :
      Concluded u command (past ++ [⟨a.next, some received⟩]) (.answered answer) t'
  | outOfStep {past : List Turn} {t t' : T1} {a : Attempt} {received : Except Error Block}
      (reached : Reached u command past t a) (verdict : t.react a received = .outOfStep t') :
      Concluded u command (past ++ [⟨a.next, some received⟩]) .outOfStep t'
  | lost {past : List Turn} {t t' : T1} {a : Attempt} {received : Except Error Block}
      {cause : Error} (reached : Reached u command past t a)
      (verdict : t.react a received = .lost t' cause) :
      Concluded u command (past ++ [⟨a.next, some received⟩]) (.faulted (.lost cause)) t'
  | aborted {past : List Turn} {t t' : T1} {a : Attempt} {received : Except Error Block}
      (reached : Reached u command past t a) (verdict : t.react a received = .aborted t')
      (fault : Fault) :
      Concluded u command (past ++ [⟨a.next, some received⟩, .farewell]) (.faulted fault) t'

theorem run_concluded (link : Link σ) {u t : T1} {a : Attempt} {command : Bytes} {past : List Turn}
    (reached : Reached u command past t a) (patience : Nat) (s : σ) :
    Concluded u command (past ++ turns link patience t a s) (run link patience t a s).1
      (run link patience t a s).2.1 := by
  induction patience generalizing past t a s with
  | zero =>
    rw [turns, List.append_nil]
    exact .unfinished reached
  | succ patience ih =>
    rw [run_succ, turns]
    cases t.send link a.next s with
    | error e s' => exact .unsent reached e
    | ok v s' =>
      dsimp only
      cases verdict : t.react a (t.hear link a s').1 with
      | proceed t' a' =>
        have onward := ih (.proceed reached verdict) (t.hear link a s').2
        rwa [List.append_assoc] at onward
      | finished t' answer => exact .answered reached verdict
      | outOfStep t' => exact .outOfStep reached verdict
      | lost t' cause => exact .lost reached verdict
      | aborted t' =>
        dsimp only
        cases t'.send link (.response .abort []) (t.hear link a s').2 with
        | error e s'' => exact .aborted reached verdict (.lost e)
        | ok v s'' => exact .aborted reached verdict (.failed .cardAborted)

/-- Every turn is taken at a point that was reached before it. -/
theorem Reached.turn {u t : T1} {a : Attempt} {command : Bytes} {past before after : List Turn}
    {turn : Turn} (reached : Reached u command past t a) (split : past = before ++ turn :: after) :
    ∃ t' a', Reached u command before t' a' ∧ turn.sent = a'.next := by
  induction reached generalizing after with
  | start => simp at split
  | @proceed past t t' a a' received reached verdict ih =>
    rcases List.eq_nil_or_concat after with rfl | ⟨after, last, rfl⟩
    · obtain ⟨rfl, same⟩ := List.append_inj' split rfl
      cases same
      exact ⟨t, a, reached, rfl⟩
    · rw [List.concat_eq_append, ← List.cons_append, ← List.append_assoc] at split
      exact ih (List.append_inj' split rfl).1

/-- The host says nothing but what is next, unless it takes leave of a card that gave up. -/
theorem Concluded.turn {u v : T1} {command : Bytes} {turns before after : List Turn} {turn : Turn}
    {ending : Ending} (concluded : Concluded u command turns ending v)
    (split : turns = before ++ turn :: after) :
    (turn = .farewell ∧ ∃ past t a received, Reached u command past t a ∧
        t.react a received = .aborted v ∧ before = past ++ [⟨a.next, some received⟩]) ∨
      ∃ t a, Reached u command before t a ∧ turn.sent = a.next := by
  -- The last turn is at the point that was reached last, and the others are before it.
  have last {past : List Turn} {t : T1} {a : Attempt} {heard : Option (Except Error Block)}
      {before after : List Turn} {turn : Turn} (reached : Reached u command past t a)
      (split : past ++ [⟨a.next, heard⟩] = before ++ turn :: after) :
      ∃ t a, Reached u command before t a ∧ turn.sent = a.next := by
    rcases List.eq_nil_or_concat after with rfl | ⟨after, last, rfl⟩
    · obtain ⟨rfl, same⟩ := List.append_inj' split rfl
      cases same
      exact ⟨t, a, reached, rfl⟩
    · rw [List.concat_eq_append, ← List.cons_append, ← List.append_assoc] at split
      exact reached.turn (List.append_inj' split rfl).1
  cases concluded with
  | unfinished reached => exact .inr (reached.turn split)
  | unsent reached e => exact .inr (last reached split)
  | answered reached verdict => exact .inr (last reached split)
  | outOfStep reached verdict => exact .inr (last reached split)
  | lost reached verdict => exact .inr (last reached split)
  | @aborted past t t' a received reached verdict fault =>
    rw [show past ++ [⟨a.next, some received⟩, .farewell] =
      past ++ [⟨a.next, some received⟩] ++ [.farewell] by simp] at split
    rcases List.eq_nil_or_concat after with rfl | ⟨after, final, rfl⟩
    · obtain ⟨earlier, same⟩ := List.append_inj' split rfl
      cases same
      exact .inl ⟨rfl, past, t, a, received, reached, verdict, earlier.symm⟩
    · rw [List.concat_eq_append, ← List.cons_append, ← List.append_assoc] at split
      exact .inr (last reached (List.append_inj' split rfl).1)

/-! ## What an exchange does not change -/

/-- The bytes of a block of this engine, and the node that they are for. -/
def post (t : T1) (block : Block) : UInt8 × Bytes :=
  (t.nad, block.encode t.nad t.checksum)

/-- The field lengths that the card asked for, in order. -/
def requests (turns : List Turn) : List Nat :=
  turns.filterMap fun turn => turn.heard.bind requested

/-- The field length in force: the last one that was asked for, or else the one from before. -/
def inForce (ifsc : Nat) (requests : List Nat) : Nat :=
  requests.getLast?.getD ifsc

theorem inForce_append (ifsc : Nat) (first second : List Nat) :
    inForce ifsc (first ++ second) = inForce (inForce ifsc first) second := by
  simp only [inForce, List.getLast?_append]
  cases second.getLast? <;> rfl

theorem requests_append (first second : List Turn) :
    requests (first ++ second) = requests first ++ requests second :=
  List.filterMap_append

theorem inForce_heard (ifsc : Nat) (past : List Turn) (sent : Block)
    (received : Except Error Block) :
    inForce ifsc (requests (past ++ [⟨sent, some received⟩])) =
      (requested received).getD (inForce ifsc (requests past)) := by
  rw [requests_append, inForce_append]
  cases h : requested received <;> simp [requests, inForce, h]

/-- A point of an attempt has the engine that the attempt began with, but for its numbers, and for
the field length that the card asked for. -/
theorem Reached.engine {u t : T1} {a : Attempt} {command : Bytes} {past : List Turn}
    (reached : Reached u command past t a) :
    t = { u with ns := t.ns, nr := t.nr, ifsc := inForce u.ifsc (requests past) } := by
  induction reached with
  | start => rfl
  | @proceed past t t' a a' received reached verdict ih =>
    obtain ⟨ns, nr, engine⟩ := t.engine_react a received
    rw [verdict] at engine
    rw [inForce_heard]
    rw [ih] at engine
    cases engine
    rfl

theorem Concluded.engine {u v : T1} {command : Bytes} {turns : List Turn} {ending : Ending}
    (concluded : Concluded u command turns ending v) :
    v = { u with ns := v.ns, nr := v.nr, ifsc := inForce u.ifsc (requests turns) } := by
  -- The last reaction changes the engine as all others do.
  have last {past : List Turn} {t : T1} {a : Attempt} (reached : Reached u command past t a)
      (received : Except Error Block) :
      (t.react a received).engine =
        { u with
          ns := (t.react a received).engine.ns
          nr := (t.react a received).engine.nr
          ifsc := inForce u.ifsc (requests (past ++ [⟨a.next, some received⟩])) } := by
    obtain ⟨ns, nr, engine⟩ := t.engine_react a received
    rw [engine, inForce_heard, reached.engine]
  cases concluded with
  | unfinished reached => exact reached.engine
  | unsent reached e =>
    rw [requests_append]
    simpa [requests] using reached.engine
  | @answered past t t' a received answer reached verdict =>
    have engine := last reached received
    rwa [verdict] at engine
  | @outOfStep past t t' a received reached verdict =>
    have engine := last reached received
    rwa [verdict] at engine
  | @lost past t t' a received cause reached verdict =>
    have engine := last reached received
    rwa [verdict] at engine
  | @aborted past t t' a received reached verdict fault =>
    have engine := last reached received
    rw [verdict] at engine
    have same : requests (past ++ [⟨a.next, some received⟩, .farewell]) =
        requests (past ++ [⟨a.next, some received⟩]) := by
      cases h : requested received <;> simp [requests, Turn.farewell, h]
    rwa [same]

theorem Concluded.resyncs {u v : T1} {command : Bytes} {turns : List Turn} {ending : Ending}
    (concluded : Concluded u command turns ending v) : v.resyncs = u.resyncs := by
  rw [concluded.engine]

theorem Concluded.post {u v : T1} {command : Bytes} {turns : List Turn} {ending : Ending}
    (concluded : Concluded u command turns ending v) : v.post = u.post := by
  rw [concluded.engine]
  rfl

/-! ## Exchanges without the channel -/

/-- What an ending means for the exchange. An attempt out of step is not the end of it, and one that
went on for as long as it was followed leaves it without an outcome. -/
def Ending.outcome? : Ending → Option (Option Ended)
  | .answered answer => some (some (.ok answer))
  | .faulted fault => some (some (.error fault))
  | .unfinished => some none
  | .outOfStep => none

/-- An exchange ended so, and with this engine, after these passages: either with an attempt, or
with asking the card to start afresh, which may still be done so many times. -/
inductive Told (command : Bytes) :
    Phase → Nat → T1 → List Passage → Option Ended → T1 → Prop
  | ended {budget : Nat} {t v : T1} {turns : List Turn} {ending : Ending}
      {outcome : Option Ended} (concluded : Concluded t command turns ending v)
      (ends : ending.outcome? = some outcome) :
      Told command .alive budget t [.attempt t turns] outcome v
  | outOfStep {budget : Nat} {t u v : T1} {turns : List Turn} {story : List Passage}
      {outcome : Option Ended} (concluded : Concluded t command turns .outOfStep u)
      (told : Told command .resynching budget u story outcome v) :
      Told command .alive budget t (.attempt t turns :: story) outcome v
  | exhausted (t : T1) :
      Told command .resynching 0 t [] (some (.error (.lost .commError)))
        { t with phase := .resynching }
  | refused {budget : Nat} {t v : T1} {story : List Passage} {outcome : Option Ended}
      (heard : Option (Except Error Block))
      (told : Told command .resynching budget t story outcome v) :
      Told command .resynching (budget + 1) t (.resynch heard :: story) outcome v
  | agreed {budget : Nat} {t v : T1} {story : List Passage} {outcome : Option Ended}
      (heard : Option (Except Error Block))
      (told : Told command .alive budget t.renewed story outcome v) :
      Told command .resynching (budget + 1) t (.resynch heard :: story) outcome v

theorem attempt_concluded (link : Link σ) (t : T1) (command : Bytes) (s : σ) :
    Concluded t command (turns link link.patience t (t.start command) s)
      (t.attempt link command s).1 (t.attempt link command s).2.1 :=
  run_concluded link .start link.patience s

theorem recover_told (link : Link σ) (command : Bytes) (budget : Nat) (t : T1) (s : σ) :
    Told command .resynching budget t (recovery link command budget t s)
      (recover link command budget t s).outcome (recover link command budget t s).engine := by
  induction budget generalizing t s with
  | zero => exact .exhausted t
  | succ budget ih =>
    rw [recovery, recover]
    rcases t.resynch link s with ⟨_ | _, s'⟩
    · exact .refused _ (ih t s')
    · refine .agreed _ ?_
      simp only [renewed]
      generalize { t with ns := false, nr := false, phase := .alive : T1 } = u
      have concluded := attempt_concluded link u command s'
      generalize u.attempt link command s' = attempted at concluded ⊢
      obtain ⟨ending, t', s''⟩ := attempted
      cases ending with
      | outOfStep => exact .outOfStep concluded (ih t' s'')
      | _ => exact .ended concluded rfl

theorem transceive_told (link : Link σ) (t : T1) (command : Bytes) (s : σ) :
    Told command .alive t.resyncs t (t.story link command s) (t.transceive link command s).outcome
      (t.transceive link command s).engine := by
  rw [story, transceive]
  have concluded := attempt_concluded link t command s
  generalize t.attempt link command s = attempted at concluded ⊢
  obtain ⟨ending, t', s'⟩ := attempted
  cases ending with
  | outOfStep =>
    have budget : t'.resyncs = t.resyncs := concluded.resyncs
    simp only [budget]
    exact .outOfStep concluded (recover_told link command t.resyncs t' s')
  | _ => exact .ended concluded rfl

/-- The field lengths that the card asked for in a passage. What it asks for in place of starting
afresh is refused with all else it might say then. -/
def Passage.requests : Passage → List Nat
  | .attempt _ turns => T1.requests turns
  | .resynch _ => []

/-- Every attempt of a story is one, by the engine that the exchange began with but for its numbers,
and for the field length that the card has asked for. -/
theorem Told.attempt {command : Bytes} {phase : Phase} {budget : Nat} {t u v : T1}
    {story earlier later : List Passage} {outcome : Option Ended} {turns : List Turn}
    (told : Told command phase budget t story outcome v)
    (split : story = earlier ++ .attempt u turns :: later) :
    (∃ ending w, Concluded u command turns ending w) ∧
      u = { t with
        ns := u.ns
        nr := u.nr
        phase := u.phase
        ifsc := inForce t.ifsc (earlier.flatMap Passage.requests) } := by
  induction told generalizing earlier with
  | @ended budget t v turns' ending outcome concluded ends =>
    cases earlier with
    | nil =>
      cases split
      exact ⟨⟨ending, v, concluded⟩, rfl⟩
    | cons first earlier => simp at split
  | @outOfStep budget t u' v turns' story outcome concluded told ih =>
    cases earlier with
    | nil =>
      cases split
      exact ⟨⟨.outOfStep, u', concluded⟩, rfl⟩
    | cons first earlier =>
      cases split
      obtain ⟨ending, engine⟩ := ih rfl
      refine ⟨ending, ?_⟩
      rw [List.flatMap_cons, inForce_append]
      rw [concluded.engine] at engine
      exact engine
  | exhausted t => simp at split
  | @refused budget t v story outcome heard told ih =>
    cases earlier with
    | nil => cases split
    | cons first earlier =>
      cases split
      exact @ih earlier rfl
  | @agreed budget t v story outcome heard told ih =>
    cases earlier with
    | nil => cases split
    | cons first earlier =>
      cases split
      exact @ih earlier rfl

theorem Told.answered {command : Bytes} {phase : Phase} {budget : Nat} {t v : T1}
    {story : List Passage} {outcome : Option Ended} {answer : Bytes}
    (told : Told command phase budget t story outcome v)
    (answered : outcome = some (.ok answer)) :
    ∃ earlier u turns, story = earlier ++ [.attempt u turns] ∧
      Concluded u command turns (.answered answer) v := by
  induction told with
  | @ended budget t v turns ending outcome concluded ends =>
    cases ending with
    | answered answer' =>
      cases ends
      cases answered
      exact ⟨[], t, turns, rfl, concluded⟩
    | faulted fault =>
      cases ends
      cases answered
    | unfinished =>
      cases ends
      cases answered
    | outOfStep => cases ends
  | outOfStep concluded told ih =>
    obtain ⟨earlier, u, turns, rfl, concluded⟩ := ih answered
    exact ⟨_ :: earlier, u, turns, rfl, concluded⟩
  | exhausted t => cases answered
  | refused heard told ih =>
    obtain ⟨earlier, u, turns, rfl, concluded⟩ := ih answered
    exact ⟨_ :: earlier, u, turns, rfl, concluded⟩
  | agreed heard told ih =>
    obtain ⟨earlier, u, turns, rfl, concluded⟩ := ih answered
    exact ⟨_ :: earlier, u, turns, rfl, concluded⟩

/-! ## The blocks that the driver sends -/

/-- What the driver was given to send, and to whom. -/
def posted (calls : List ChannelCall) : List (UInt8 × Bytes) :=
  calls.filterMap fun call =>
    match call with
    | .send dad bytes _ => some (dad, bytes)
    | .recv _ _ _ _ => none

theorem watched_receives (link : Link σ) :
    link.watched.Receives fun w w' : σ × List ChannelCall => posted w'.2 = posted w.2 where
  recv dad room timeout := by
    rintro ⟨s, calls⟩
    simp only [after, Link.watched, noted]
    cases link.recv dad room timeout s <;> simp [left, posted]

theorem posted_send (link : Link σ) (t : T1) (block : Block) (w : σ × List ChannelCall) :
    posted (after (t.send link.watched block) w).2 = posted w.2 ++ [t.post block] := by
  obtain ⟨s, calls⟩ := w
  simp only [after, T1.send, Link.watched, noted, post]
  cases link.send t.nad (block.encode t.nad t.checksum) s <;> simp [left, posted]

theorem posted_hear (link : Link σ) (t : T1) (a : Attempt) (w : σ × List ChannelCall) :
    posted (t.hear link.watched a w).2.2 = posted w.2 :=
  hear_moves (watched_receives link) (Keeps.path fun w : σ × List ChannelCall => posted w.2) t a w

theorem post_engine {t u : T1} (nad : u.nad = t.nad) (checksum : u.checksum = t.checksum) :
    u.post = t.post := by
  funext block
  simp only [post, nad, checksum]

theorem posted_run (link : Link σ) (patience : Nat) (t : T1) (a : Attempt)
    (w : σ × List ChannelCall) :
    posted (run link.watched patience t a w).2.2.2 =
      posted w.2 ++ (turns link.watched patience t a w).map fun turn => t.post turn.sent := by
  induction patience generalizing t a w with
  | zero => simp [run, turns]
  | succ patience ih =>
    have sent := posted_send link t a.next w
    rw [run_succ, turns]
    cases send : t.send link.watched a.next w with
    | error e w' =>
      rw [after_of_error send] at sent
      exact sent
    | ok v w' =>
      rw [after_of_ok send, ← posted_hear link t a w'] at sent
      dsimp only
      obtain ⟨ns, nr, engine⟩ := t.engine_react a (t.hear link.watched a w').1
      have same : (t.react a (t.hear link.watched a w').1).engine.post = t.post :=
        post_engine (by rw [engine]) (by rw [engine])
      cases verdict : t.react a (t.hear link.watched a w').1 with
      | proceed t' a' =>
        rw [verdict] at same
        change t'.post = t.post at same
        simp only [ih, same, sent, List.map_cons, List.append_assoc, List.singleton_append]
      | finished t' answer => simpa using sent
      | outOfStep t' => simpa using sent
      | lost t' cause => simpa using sent
      | aborted t' =>
        rw [verdict] at same
        change t'.post = t.post at same
        have farewell := posted_send link t' (.response .abort []) (t.hear link.watched a w').2
        rw [sent, same] at farewell
        dsimp only
        cases bye : t'.send link.watched (.response .abort []) (t.hear link.watched a w').2 with
        | error e w'' =>
          rw [after_of_error bye] at farewell
          simpa using farewell
        | ok v w'' =>
          rw [after_of_ok bye] at farewell
          simpa using farewell

/-- What the engine posts in these passages. -/
def postAll (t : T1) (passages : List Passage) : List (UInt8 × Bytes) :=
  (passages.flatMap Passage.turns).map fun turn => t.post turn.sent

theorem postAll_resynch (t : T1) (heard : Option (Except Error Block)) (story : List Passage) :
    t.postAll (.resynch heard :: story) = t.post (.request .resynch []) :: t.postAll story :=
  rfl

theorem postAll_attempt (t u : T1) (turns : List Turn) (story : List Passage) :
    t.postAll (.attempt u turns :: story) =
      (turns.map fun turn => t.post turn.sent) ++ t.postAll story := by
  simp only [postAll, List.flatMap_cons, Passage.turns, List.map_append]

theorem postAll_engine {t u : T1} (same : u.post = t.post) : u.postAll = t.postAll := by
  funext story
  simp only [postAll, same]

theorem posted_resynch (link : Link σ) (t : T1) (w : σ × List ChannelCall) :
    posted (t.resynch link.watched w).2.2 = posted w.2 ++ [t.post (.request .resynch [])] := by
  have sent := posted_send link t (.request .resynch []) w
  have receive := receive_moves (watched_receives link)
    (Keeps.path fun w : σ × List ChannelCall => posted w.2) t t.timeout
  unfold resynch
  cases send : t.send link.watched (.request .resynch []) w with
  | error e w' =>
    rw [after_of_error send] at sent
    exact sent
  | ok v w' =>
    rw [after_of_ok send] at sent
    dsimp only
    cases received : t.receive link.watched t.timeout w' with
    | error e w'' => exact (receive.error received).trans sent
    | ok block w'' => exact (receive.ok received).trans sent

/-- After an attempt, what was posted is what it sent and what came then. -/
theorem posted_attempt {t u : T1} {turns : List Turn} {story : List Passage}
    {w w' w'' : σ × List ChannelCall} (same : u.post = t.post)
    (sent : posted w'.2 = posted w.2 ++ turns.map fun turn => t.post turn.sent)
    (rest : posted w''.2 = posted w'.2 ++ u.postAll story) :
    posted w''.2 = posted w.2 ++ t.postAll (.attempt t turns :: story) := by
  rw [rest, sent, postAll_engine same, postAll_attempt, List.append_assoc]

theorem posted_recover (link : Link σ) (command : Bytes) (budget : Nat) (t : T1)
    (w : σ × List ChannelCall) :
    posted (recover link.watched command budget t w).device.2 =
      posted w.2 ++ t.postAll (recovery link.watched command budget t w) := by
  induction budget generalizing t w with
  | zero => simp [recover, recovery, postAll]
  | succ budget ih =>
    have resynch := posted_resynch link t w
    rw [recover, recovery, postAll_resynch, List.append_cons, ← resynch]
    generalize t.resynch link.watched w = answer
    obtain ⟨_ | _, w'⟩ := answer
    · exact ih t w'
    · have renewed : t.renewed.postAll = t.postAll := rfl
      rw [← renewed]
      simp only [T1.renewed]
      generalize { t with ns := false, nr := false, phase := .alive : T1 } = u
      have sent := posted_run link link.patience u (u.start command) w'
      have concluded := attempt_concluded link.watched u command w'
      change posted (u.attempt link.watched command w').2.2.2 = _ at sent
      generalize u.attempt link.watched command w' = attempted at sent concluded ⊢
      obtain ⟨ending, t', w''⟩ := attempted
      cases ending with
      | outOfStep => exact posted_attempt concluded.post sent (ih t' w'')
      | _ => exact posted_attempt rfl sent (List.append_nil _).symm

theorem posted_transceive (link : Link σ) (t : T1) (command : Bytes) (w : σ × List ChannelCall) :
    posted (t.transceive link.watched command w).device.2 =
      posted w.2 ++ t.postAll (t.story link.watched command w) := by
  have sent := posted_run link link.patience t (t.start command) w
  have concluded := attempt_concluded link.watched t command w
  change posted (t.attempt link.watched command w).2.2.2 = _ at sent
  rw [transceive, story]
  generalize t.attempt link.watched command w = attempted at sent concluded ⊢
  obtain ⟨ending, t', w'⟩ := attempted
  cases ending with
  | outOfStep =>
    exact posted_attempt concluded.post sent (posted_recover link command t'.resyncs t' w')
  | _ => exact posted_attempt rfl sent (List.append_nil _).symm

/-! ## Watching does not change the story -/

variable {π : τ → σ} {link' : Link τ} {link : Link σ}

theorem turns_shows (shows : Link.Shows π link' link) (patience : Nat) (t : T1) (a : Attempt)
    (s : τ) : turns link patience t a (π s) = turns link' patience t a s := by
  induction patience generalizing t a s with
  | zero => rfl
  | succ patience ih =>
    rw [turns, turns, send_shows shows]
    cases t.send link' a.next s with
    | error e s' => rfl
    | ok v s' =>
      simp only [Action.see, hear_shows shows]
      cases t.react a (t.hear link' a s').1 with
      | proceed t' a' =>
        dsimp only
        rw [ih]
      | _ => rfl

theorem hearResynch_shows (shows : Link.Shows π link' link) (t : T1) (s : τ) :
    t.hearResynch link (π s) = t.hearResynch link' s := by
  unfold hearResynch
  rw [send_shows shows]
  cases t.send link' (.request .resynch []) s with
  | error e s' => rfl
  | ok v s' =>
    simp only [Action.see, receive_shows shows t t.timeout s']
    cases t.receive link' t.timeout s' <;> rfl

theorem recovery_shows (shows : Link.Shows π link' link) (command : Bytes) (budget : Nat) (t : T1)
    (s : τ) : recovery link command budget t (π s) = recovery link' command budget t s := by
  induction budget generalizing t s with
  | zero => rfl
  | succ budget ih =>
    rw [recovery, recovery, hearResynch_shows shows, resynch_shows shows]
    rcases t.resynch link' s with ⟨_ | _, s'⟩
    · simp only [ih]
    · simp only [turns_shows shows, attempt_shows shows, shows.patience]
      rcases t.renewed.attempt link' command s' with ⟨ending, t', s''⟩
      cases ending with
      | outOfStep => simp only [Outcome.see, ih]
      | _ => rfl

theorem story_shows (shows : Link.Shows π link' link) (t : T1) (command : Bytes) (s : τ) :
    t.story link command (π s) = t.story link' command s := by
  rw [story, story, turns_shows shows, attempt_shows shows, shows.patience]
  rcases t.attempt link' command s with ⟨ending, t', s'⟩
  cases ending with
  | outOfStep => simp only [Outcome.see, recovery_shows shows]
  | _ => rfl

/-- **The blocks of a story are those that the driver is given to send, in order.** -/
theorem posted_story (link : Link σ) (t : T1) (command : Bytes) (s : σ) :
    posted (t.transceive link.watched command (s, [])).device.2 =
      t.postAll (t.story link command s) := by
  rw [posted_transceive, ← story_shows link.watched_shows t command (s, [])]
  rfl

/-- A card that says these blocks one after the other, whatever it hears, and then falls silent. -/
def reciting (patience : Nat) : Link (List Block) where
  send _ _ := pure ()
  recv _ _ _ blocks :=
    match blocks with
    | [] => .error .timeout []
    | block :: blocks => .ok (block.encode (Block.replyNad 0) .lrc) blocks
  patience

def wide : T1 :=
  { new 0 with blockOriented := true }

end CardTerminal.T1
