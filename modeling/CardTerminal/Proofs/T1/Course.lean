import CardTerminal.Proofs.T1.Story

/-!
The course of an attempt.

Where an attempt is can be told from its turns (`Position.along`), and so can what everything heard
in it meant (`meanings`). The engine that has come there by these turns is always at the same
position (`Reached.tracks`), so what its reactions say of its state they also say of the turns.
-/

namespace CardTerminal.T1

/-! ## Positions told from turns -/

/-- Before anything was sent, all of the command is still to come. -/
def Position.start (u : T1) : Position :=
  ⟨u.ns, true, u.nr⟩

/-- Sending a slice leads to its position. -/
def Position.send (p : Position) (sent : Block) : Position :=
  match sent.kind with
  | .information ns more => { p with ns, more }
  | .receipt _ | .supervisory _ _ => p

/-- What is heard at a position, if anything is. -/
def Position.sense (p : Position) : Option (Except Error Block) → Meaning
  | none => .silence
  | some received => p.meaning received

/-- The position after a part of the answer, or after something else. -/
def Position.take (p : Position) : Meaning → Position
  | .part _ => { p with nr := !p.nr }
  | .onward | .request | .abort | .flaw | .silence => p

def Position.after (p : Position) (turn : Turn) : Position :=
  (p.send turn.sent).take ((p.send turn.sent).sense turn.heard)

def Position.along (p : Position) (turns : List Turn) : Position :=
  turns.foldl Position.after p

def meanings (p : Position) : List Turn → List Meaning
  | [] => []
  | turn :: turns => (p.send turn.sent).sense turn.heard :: meanings (p.after turn) turns

theorem Position.along_concat (p : Position) (turns : List Turn) (turn : Turn) :
    p.along (turns ++ [turn]) = (p.along turns).after turn := by
  rw [along, List.foldl_append]
  rfl

theorem meanings_append (p : Position) (first second : List Turn) :
    meanings p (first ++ second) = meanings p first ++ meanings (p.along first) second := by
  induction first generalizing p with
  | nil => rfl
  | cons turn first ih =>
    simp only [List.cons_append, meanings, ih]
    rfl

theorem Position.send_polite (p : Position) {block : Block} (polite : Polite block) :
    p.send block = p := by
  rcases polite with ⟨nr, kind⟩ | ⟨task, kind⟩ <;> simp [send, kind]

/-! ## Positions of the engine -/

/-- The engine is where the turns say, once the next block is sent. -/
structure Tracks (u : T1) (past : List Turn) (t : T1) (a : Attempt) : Prop where
  position : ((Position.start u).along past).send a.next = t.position a
  current : a.current.kind = .information (t.position a).ns (!a.rest.isEmpty)
  arrived : a.sending = false → a.rest = []
  next : a.sending = true ∧ a.next = a.current ∨ Polite a.next

section

variable {u t t' : T1} {a a' : Attempt} {past : List Turn} {received : Except Error Block}

theorem Tracks.more (tracks : Tracks u past t a) : (t.position a).more = !a.rest.isEmpty := by
  unfold T1.position
  cases sending : a.sending with
  | true => rfl
  | false => simp [tracks.arrived sending]

/-- Sending a repeated slice, or a block that is no slice, does not move the position. -/
theorem Tracks.send (tracks : Tracks u past t a) {block : Block}
    (repeats : block = a.current ∨ Polite block) {p : Position} (ns : p.ns = (t.position a).ns)
    (more : p.more = (t.position a).more) : p.send block = p := by
  rcases repeats with rfl | polite
  · rw [Position.send, tracks.current, ← ns, ← tracks.more, ← more]
  · exact p.send_polite polite

theorem Tracks.along (tracks : Tracks u past t a) (received : Except Error Block) :
    (Position.start u).along (past ++ [⟨a.next, some received⟩]) =
      (t.position a).take ((t.position a).meaning received) := by
  rw [Position.along_concat, Position.after]
  simp only [tracks.position, Position.sense]

theorem Tracks.meanings (tracks : Tracks u past t a) (received : Except Error Block) :
    meanings (.start u) (past ++ [⟨a.next, some received⟩]) =
      T1.meanings (.start u) past ++ [(t.position a).meaning received] := by
  rw [meanings_append]
  simp only [T1.meanings, tracks.position, Position.sense]

theorem tracks_advance {u t : T1} {past : List Turn} {command answer : Bytes}
    (nr : ((Position.start u).along past).nr = t.nr) :
    Tracks u past t (t.advance command answer) := by
  have more : decide (t.ifsc < command.length) = !(command.drop t.ifsc).isEmpty := by
    rw [Bool.eq_iff_iff]
    simp [List.drop_eq_nil_iff]
  refine ⟨?_, ?_, (fun quiet => by cases quiet), .inl ⟨rfl, rfl⟩⟩
  · simp only [advance, slice, Position.send, kind_information, T1.position, more, nr, if_true,
      Bool.true_and]
  · simp only [advance, slice, kind_information, T1.position, more, if_true]

theorem Tracks.proceed (tracks : Tracks u past t a)
    (verdict : t.react a received = .proceed t' a') :
    Tracks u (past ++ [⟨a.next, some received⟩]) t' a' := by
  have along := tracks.along received
  obtain ⟨meaning, v, means, reacts, reaction⟩ := t.react_cases a received
  rw [reacts] at verdict
  rw [means] at along
  cases reaction with
  | onward kind news sending rest =>
    cases verdict
    refine tracks_advance ?_
    rw [along]
    rfl
  | part kind rest =>
    cases verdict
    have whole : a.rest = [] := by
      cases sending : a.sending with
      | true => exact rest sending
      | false => exact tracks.arrived sending
    refine ⟨?_, ?_, fun _ => whole, .inr (.inl ⟨!t.nr, kind_receipt ..⟩)⟩
    · rw [along, Position.send_polite _ (.inl ⟨!t.nr, kind_receipt ..⟩)]
      cases sending : a.sending <;>
        simp [Position.take, T1.position, conceded, sending, whole]
    · rw [tracks.current]
      cases sending : a.sending <;> simp [T1.position, conceded, sending]
  | last kind rest => cases verdict
  | request polite stretch =>
    cases verdict
    refine ⟨?_, tracks.current, tracks.arrived, .inr polite⟩
    rw [along]
    exact tracks.send (.inr polite) rfl rfl
  | abort => cases verdict
  | lost => cases verdict
  | flaw replies =>
    obtain ⟨left, retries, rfl, rfl⟩ := spend_eq_proceed verdict
    refine ⟨?_, tracks.current, tracks.arrived, replies⟩
    rw [along]
    exact tracks.send (replies.imp_left And.right) rfl rfl
  | @stale block reply sending rest polite =>
    obtain ⟨left, retries, rfl, rfl⟩ := spend_eq_proceed verdict
    have same : T1.position { t with ns := !t.ns }
        { a with sending := false, next := reply, retries := left, stretch := 1 } =
          t.position a := by
      simp [T1.position, sending, rest]
    refine ⟨?_, ?_, fun _ => rest, .inr polite⟩
    · rw [along, same]
      exact tracks.send (.inr polite) rfl rfl
    · rw [same]
      exact tracks.current

/-! ## Going on -/

/-- The host goes on to the next slice. -/
structure Advances (t : T1) (a : Attempt) (received : Except Error Block) (t' : T1)
    (a' : Attempt) : Prop where
  sending : a.sending = true
  rest : a.rest ≠ []
  news : ∃ receipt nr, received = .ok receipt ∧ receipt.kind = .receipt nr ∧ nr ≠ t.ns
  engine : t' = { t with ns := !t.ns }
  attempt : a' = t'.advance a.rest a.answer

/-- The host stays with the slice that it sent last. -/
structure Stays (t : T1) (a : Attempt) (t' : T1) (a' : Attempt) : Prop where
  current : a'.current = a.current
  rest : a'.rest = a.rest
  ns : (t'.position a').ns = (t.position a).ns
  next : a'.next = a.current ∨ Polite a'.next

theorem proceed_cases (verdict : t.react a received = .proceed t' a') :
    Advances t a received t' a' ∨ Stays t a t' a' := by
  obtain ⟨meaning, v, means, reacts, reaction⟩ := t.react_cases a received
  rw [reacts] at verdict
  cases reaction with
  | onward kind news sending rest =>
    cases verdict
    exact .inl ⟨sending, rest, ⟨_, _, rfl, kind, news⟩, rfl, rfl⟩
  | part kind rest =>
    cases verdict
    refine .inr ⟨rfl, rfl, ?_, .inr (.inl ⟨!t.nr, kind_receipt ..⟩)⟩
    cases sending : a.sending <;> simp [T1.position, conceded, sending]
  | last kind rest => cases verdict
  | request polite stretch =>
    cases verdict
    exact .inr ⟨rfl, rfl, rfl, .inr polite⟩
  | abort => cases verdict
  | lost => cases verdict
  | flaw replies =>
    obtain ⟨left, retries, rfl, rfl⟩ := spend_eq_proceed verdict
    exact .inr ⟨rfl, rfl, rfl, replies.imp_left And.right⟩
  | stale sending rest polite =>
    obtain ⟨left, retries, rfl, rfl⟩ := spend_eq_proceed verdict
    refine .inr ⟨rfl, rfl, ?_, .inr polite⟩
    simp [T1.position, sending]

theorem Reached.tracks {command : Bytes} (reached : Reached u command past t a) :
    Tracks u past t a := by
  induction reached with
  | start => exact tracks_advance rfl
  | proceed reached verdict ih => exact ih.proceed verdict

end

end CardTerminal.T1
