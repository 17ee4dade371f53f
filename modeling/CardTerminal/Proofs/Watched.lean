import CardTerminal.Proofs.Exchange
import CardTerminal.Protocol.Handle

/-!
Exchanges that are watched.

A watched driver does what the driver does, and notes every call of its byte channel with what came
of it. An exchange depends on the device only through what its hooks give, so watching it changes
nothing: seen without the notes, a watched exchange is the exchange (`Handle.transceive_watched`).

What is seen of a state is a function of it, and a driver may be seen as another one through it
(`Link.Shows`); the notes are the part that is not seen.
-/

namespace CardTerminal

variable {σ τ α β : Type}

/-! ## Actions seen from outside -/

namespace Action

/-- What is seen of a result. -/
def see (π : τ → σ) : EStateM.Result Error τ α → EStateM.Result Error σ α
  | .ok v t => .ok v (π t)
  | .error e t => .error e (π t)

/-- Seen through `π`, the one action is the other. -/
def Shows (π : τ → σ) (x' : Action τ α) (x : Action σ α) : Prop :=
  ∀ t, x (π t) = see π (x' t)

namespace Shows

variable {π : τ → σ} {x' : Action τ α} {x : Action σ α}

theorem ok (shows : Shows π x' x) {t t' : τ} {v : α} (h : x' t = .ok v t') :
    x (π t) = .ok v (π t') := by
  rw [shows, h, see]

theorem error (shows : Shows π x' x) {t t' : τ} {e : Error} (h : x' t = .error e t') :
    x (π t) = .error e (π t') := by
  rw [shows, h, see]

theorem pure (v : α) : Shows π (pure v) (pure v : Action σ α) :=
  fun _ => rfl

theorem throw (e : Error) : Shows π (throw e) (throw e : Action σ α) :=
  fun _ => rfl

theorem bind (shows : Shows π x' x) {f' : α → Action τ β} {f : α → Action σ β}
    (continues : ∀ v, Shows π (f' v) (f v)) : Shows π (x' >>= f') (x >>= f) := by
  intro t
  cases first : x' t with
  | ok v t' => rw [bind_of_ok (shows.ok first), bind_of_ok first, continues]
  | error e t' => rw [bind_of_error (shows.error first), bind_of_error first, see]

theorem ite {c : Prop} [Decidable c] {y' : Action τ α} {y : Action σ α} (first : Shows π x' x)
    (second : Shows π y' y) : Shows π (if c then x' else y') (if c then x else y) := by
  split
  · exact first
  · exact second

end Shows

/-- Seen through `π`, the one action is the other, and all of its state, seen or not, changes in
this way. -/
structure Mirrors (π : τ → σ) (R : τ → τ → Prop) (x' : Action τ α) (x : Action σ α) : Prop where
  shows : Shows π x' x
  moves : Moves R x'

namespace Mirrors

variable {π : τ → σ} {R : τ → τ → Prop} {x' : Action τ α} {x : Action σ α}

theorem pure (path : Path R) (v : α) : Mirrors π R (pure v) (pure v : Action σ α) :=
  ⟨Shows.pure v, Moves.pure path v⟩

theorem throw (path : Path R) (e : Error) : Mirrors π R (throw e) (throw e : Action σ α) :=
  ⟨Shows.throw e, Moves.throw path e⟩

theorem bind (path : Path R) (first : Mirrors π R x' x) {f' : α → Action τ β} {f : α → Action σ β}
    (continues : ∀ v, Mirrors π R (f' v) (f v)) : Mirrors π R (x' >>= f') (x >>= f) :=
  ⟨first.shows.bind fun v => (continues v).shows,
    Moves.bind path first.moves fun v => (continues v).moves⟩

theorem ite {c : Prop} [Decidable c] {y' : Action τ α} {y : Action σ α} (first : Mirrors π R x' x)
    (second : Mirrors π R y' y) : Mirrors π R (if c then x' else y') (if c then x else y) :=
  ⟨Shows.ite first.shows second.shows, Moves.ite first.moves second.moves⟩

end Mirrors

end Action

open CardTerminal.Action

/-- Seen through `π`, the one byte channel is the other. -/
structure Link.Shows (π : τ → σ) (link' : Link τ) (link : Link σ) : Prop where
  send : ∀ dad bytes, Action.Shows π (link'.send dad bytes) (link.send dad bytes)
  recv : ∀ dad room timeout,
    Action.Shows π (link'.recv dad room timeout) (link.recv dad room timeout)
  patience : link'.patience = link.patience

variable {π : τ → σ} {link' : Link τ} {link : Link σ}

/-! ## Receiving -/

namespace Link.Shows

theorem receive (shows : Link.Shows π link' link) (dad : UInt8) (room timeout : Nat) :
    Action.Shows π (link'.receive dad room timeout) (link.receive dad room timeout) := by
  intro t
  simp only [Link.receive, shows.recv dad room timeout t]
  cases link'.recv dad room timeout t <;> rfl

theorem gather (shows : Link.Shows π link' link) (dad : UInt8) (timeout wanted : Nat) (t : τ) :
    link.gather dad timeout wanted (π t) =
      ((link'.gather dad timeout wanted t).1, see π (link'.gather dad timeout wanted t).2) := by
  have receive := fun room => shows.receive dad room timeout
  fun_induction Link.gather link' dad timeout wanted t with
  | case1 t =>
    rw [Link.gather, if_pos rfl]
    rfl
  | case2 wanted t some e t' failed =>
    simp only [Link.gather, if_neg some, (receive wanted).error failed, see]
  | case3 wanted t some t' nothing =>
    simp only [Link.gather, if_neg some, (receive wanted).ok nothing, see]
  | case4 wanted t some b bs t' received more ending rest ih =>
    rw [Link.gather, if_neg some, (receive wanted).ok received]
    simp only [ih, rest]

theorem receiveExactly (shows : Link.Shows π link' link) (dad : UInt8) (timeout wanted : Nat) :
    Action.Shows π (link'.receiveExactly dad timeout wanted)
      (link.receiveExactly dad timeout wanted) := by
  intro t
  simp only [Link.receiveExactly, shows.gather]
  rcases link'.gather dad timeout wanted t with ⟨bytes, _ | _⟩ <;> rfl

theorem block (shows : Link.Shows π link' link) (dad : UInt8) (cs : Checksum) (timeout : Nat)
    (whole : Bool) : Action.Shows π (Block.receive link' dad cs timeout whole)
      (Block.receive link dad cs timeout whole) := by
  unfold Block.receive
  split
  · exact shows.receive dad _ timeout
  · refine Shows.bind (shows.receiveExactly dad timeout _) fun header => ?_
    have rest := shows.receiveExactly dad timeout ((header.getD 2 0).toNat + cs.length)
    have whole := rest.bind fun rest =>
      (Shows.pure (header ++ rest) : Action.Shows π _ _)
    exact Shows.ite ((Shows.throw _).bind fun _ => whole) whole

end Link.Shows

def Exchange.see {ε : Type} (π : τ → σ) (x : Exchange α ε τ) : Exchange α ε σ :=
  ⟨x.outcome, x.engine, π x.device⟩

/-! ## T=0 -/

namespace T0

theorem converse_shows (shows : Link.Shows π link' link) (t : T0) (ins : UInt8) (nulls : UInt32)
    (left : Transfer) (answer : Bytes) (s : τ) :
    t.converse link ins nulls left answer (π s) =
      (t.converse link' ins nulls left answer s).see π := by
  have receive := shows.receiveExactly t.dad t.timeout
  fun_induction converse link' t ins nulls left answer s with
  | case1 nulls left answer s e s' failed =>
    rw [converse, (receive 1).error failed]
    rfl
  | case2 nulls left answer s first s' received b null overflown =>
    rw [converse, (receive 1).ok received]
    simp only [show procedure ins (first.headD 0) = _ from null, dif_pos overflown]
    rfl
  | case3 nulls left answer s first s' received b null fits mute =>
    rw [converse, (receive 1).ok received]
    simp only [show procedure ins (first.headD 0) = _ from null, dif_neg fits, if_pos mute]
    rfl
  | case4 nulls left answer s first s' received b null fits more ih =>
    rw [converse, (receive 1).ok received]
    simp only [show procedure ins (first.headD 0) = _ from null, dif_neg fits, if_neg more]
    exact ih
  | case5 nulls left answer s first s' received b status e s'' failed =>
    rw [converse, (receive 1).ok received]
    simp only [show procedure ins (first.headD 0) = _ from status, (receive 1).error failed]
    rfl
  | case6 nulls left answer s first s' received b status second s'' received' =>
    rw [converse, (receive 1).ok received]
    simp only [show procedure ins (first.headD 0) = _ from status, (receive 1).ok received']
    rfl
  | case7 nulls left answer s first s' received b unexpected =>
    rw [converse, (receive 1).ok received]
    simp only [show procedure ins (first.headD 0) = _ from unexpected]
    rfl
  | case8 nulls answer s first s' received b data null status unexpected n none =>
    rw [converse_outgoing ((receive 1).ok received) null status unexpected]
    exact if_pos none
  | case9 nulls answer s first s' received b data e s'' null status unexpected n some failed =>
    rw [converse_outgoing ((receive 1).ok received) null status unexpected]
    refine (if_neg some).trans ?_
    rw [(shows.send _ _).error failed]
    rfl
  | case10 nulls answer s first s' received b data _ s'' null status unexpected n some sent ih =>
    rw [converse_outgoing ((receive 1).ok received) null status unexpected]
    refine (if_neg some).trans ?_
    rw [(shows.send _ _).ok sent]
    exact ih
  | case11 nulls answer s first s' received b wanted null status unexpected n none =>
    rw [converse_incoming ((receive 1).ok received) null status unexpected]
    exact if_pos none
  | case12 nulls answer s first s' received b wanted e s'' null status unexpected n some failed =>
    rw [converse_incoming ((receive 1).ok received) null status unexpected]
    refine (if_neg some).trans ?_
    rw [(receive _).error failed]
    rfl
  | case13 nulls answer s first s' received b wanted got s'' null status unexpected n some more
      ih =>
    rw [converse_incoming ((receive 1).ok received) null status unexpected]
    refine (if_neg some).trans ?_
    rw [(receive _).ok more]
    exact ih

theorem transfer_shows (shows : Link.Shows π link' link) (t : T0) (header data : Bytes)
    (wanted : Nat) (s : τ) :
    t.transfer link header data wanted (π s) = (t.transfer link' header data wanted s).see π := by
  unfold transfer
  split
  · unfold transferBlock
    rw [shows.send]
    cases link'.send t.dad (header ++ data) s with
    | error e s' => rfl
    | ok u s' =>
      simp only [Action.see, shows.receive t.dad (wanted + 2) t.timeout s']
      cases link'.receive t.dad (wanted + 2) t.timeout s' with
      | error e s'' => rfl
      | ok answer s'' =>
        dsimp only [Action.see]
        split <;> rfl
  · rw [shows.send]
    cases link'.send t.dad header s with
    | error e s' => rfl
    | ok u s' =>
      dsimp only [Action.see]
      split <;> exact converse_shows shows ..

theorem fetch_shows (shows : Link.Shows π link' link) (t : T0) (header : Bytes) (wanted : Nat)
    (s : τ) : t.fetch link header wanted (π s) = (t.fetch link' header wanted s).see π := by
  unfold fetch
  rw [transfer_shows shows]
  dsimp only [Exchange.see]
  split
  · exact transfer_shows shows ..
  · rfl

theorem sendAndFetch_shows (shows : Link.Shows π link' link) (t : T0) (header data : Bytes)
    (wanted : Nat) (s : τ) : t.sendAndFetch link header data wanted (π s) =
      (t.sendAndFetch link' header data wanted s).see π := by
  unfold sendAndFetch
  rw [transfer_shows shows]
  dsimp only [Exchange.see]
  split
  · exact fetch_shows shows ..
  · rfl

theorem transceive_shows (shows : Link.Shows π link' link) (t : T0) (command : Bytes) (s : τ) :
    t.transceive link command (π s) = (t.transceive link' command s).see π := by
  unfold transceive
  cases Apdu.classify command with
  | error e => rfl
  | ok shape =>
    dsimp only
    split
    · exact transfer_shows shows ..
    · exact fetch_shows shows ..
    · exact transfer_shows shows ..
    · exact sendAndFetch_shows shows ..
    · rfl

end T0

/-! ## T=1 -/

namespace T1

theorem send_shows (shows : Link.Shows π link' link) (t : T1) (block : Block) :
    Action.Shows π (t.send link' block) (t.send link block) :=
  shows.send t.nad _

theorem receive_shows (shows : Link.Shows π link' link) (t : T1) (timeout : Nat) :
    Action.Shows π (t.receive link' timeout) (t.receive link timeout) := by
  refine Shows.bind (shows.block t.nad t.checksum timeout t.blockOriented) fun bytes => ?_
  split
  · exact Shows.throw _
  · exact Shows.ite (Shows.throw _) (Shows.pure _)

def Outcome.see (π : τ → σ) (x : Outcome τ) : Outcome σ :=
  (x.1, x.2.1, π x.2.2)

theorem hear_shows (shows : Link.Shows π link' link) (t : T1) (a : Attempt) (s : τ) :
    t.hear link a (π s) = ((t.hear link' a s).1, π (t.hear link' a s).2) := by
  rw [hear, hear, receive_shows shows]
  cases t.receive link' (t.timeout * a.stretch) s <;> rfl

theorem run_shows (shows : Link.Shows π link' link) (patience : Nat) (t : T1) (a : Attempt)
    (s : τ) : run link patience t a (π s) = Outcome.see π (run link' patience t a s) := by
  induction patience generalizing t a s with
  | zero => rfl
  | succ patience ih =>
    rw [run_succ, run_succ, send_shows shows]
    cases t.send link' a.next s with
    | error e s' => rfl
    | ok u s' =>
      simp only [Action.see, hear_shows shows]
      -- The verdict depends on what is heard, and not on the device.
      cases t.react a (t.hear link' a s').1 with
      | proceed t' a' => exact ih ..
      | aborted t' =>
        dsimp only
        rw [send_shows shows]
        cases t'.send link' (.response .abort []) (t.hear link' a s').2 <;> rfl
      | _ => rfl

theorem resynch_shows (shows : Link.Shows π link' link) (t : T1) (s : τ) :
    t.resynch link (π s) = ((t.resynch link' s).1, π (t.resynch link' s).2) := by
  unfold resynch
  rw [send_shows shows]
  cases t.send link' (.request .resynch []) s with
  | error e s' => rfl
  | ok u s' =>
    simp only [Action.see, receive_shows shows t t.timeout s']
    cases t.receive link' t.timeout s' <;> rfl

theorem attempt_shows (shows : Link.Shows π link' link) (t : T1) (command : Bytes) (s : τ) :
    t.attempt link command (π s) = Outcome.see π (t.attempt link' command s) := by
  rw [attempt, attempt, shows.patience]
  exact run_shows shows ..

theorem recover_shows (shows : Link.Shows π link' link) (command : Bytes) (budget : Nat) (t : T1)
    (s : τ) : recover link command budget t (π s) = (recover link' command budget t s).see π := by
  induction budget generalizing t s with
  | zero => rfl
  | succ budget ih =>
    simp only [recover, resynch_shows shows]
    rcases t.resynch link' s with ⟨agreed, s'⟩
    cases agreed with
    | false => exact ih t s'
    | true =>
      simp only [attempt_shows shows]
      rcases attempt link' _ command s' with ⟨ending, t', s''⟩
      cases ending with
      | outOfStep => exact ih t' s''
      | _ => rfl

theorem transceive_shows (shows : Link.Shows π link' link) (t : T1) (command : Bytes) (s : τ) :
    t.transceive link command (π s) = (t.transceive link' command s).see π := by
  simp only [transceive, attempt_shows shows]
  rcases t.attempt link' command s with ⟨ending, t', s'⟩
  cases ending with
  | outOfStep => exact recover_shows shows ..
  | _ => rfl

end T1

/-! ## The block protocol of readers -/

namespace Gbp

theorem send_shows (shows : Link.Shows π link' link) (g : Gbp) (block : Block) :
    Action.Shows π (g.send link' block) (g.send link block) :=
  shows.send g.dad _

theorem receive_shows (shows : Link.Shows π link' link) (g : Gbp) (s : τ) :
    g.receive link (π s) = ((g.receive link' s).1, π (g.receive link' s).2) := by
  simp only [receive, shows.block g.dad .lrc g.timeout false s]
  cases Block.receive link' g.dad .lrc g.timeout false s <;> rfl

theorem run_shows (shows : Link.Shows π link' link) (g : Gbp) (request : Bytes) (budget : Nat)
    (next : Block) (s : τ) : g.run link request budget next (π s) =
      ((g.run link' request budget next s).1, π (g.run link' request budget next s).2) := by
  induction budget generalizing next s with
  | zero =>
    unfold run
    rw [send_shows shows]
    cases g.send link' next s with
    | error e s' => rfl
    | ok u s' =>
      simp only [Action.see, receive_shows shows]
      generalize g.react request _ = verdict
      cases verdict <;> rfl
  | succ budget ih =>
    unfold run
    rw [send_shows shows]
    cases g.send link' next s with
    | error e s' => rfl
    | ok u s' =>
      simp only [Action.see, receive_shows shows]
      generalize g.react request _ = verdict
      cases verdict with
      | repeated reply => exact ih ..
      | _ => rfl

theorem resynch_shows (shows : Link.Shows π link' link) (g : Gbp) (s : τ) :
    g.resynch link (π s) = ((g.resynch link' s).1, π (g.resynch link' s).2) := by
  unfold resynch
  rw [send_shows shows]
  cases g.send link' (.request .resynch []) s with
  | error e s' => rfl
  | ok u s' =>
    simp only [Action.see, receive_shows shows]
    rcases g.receive link' s' with ⟨_ | _, s''⟩ <;> rfl

theorem transceive_shows (shows : Link.Shows π link' link) (g : Gbp) (request : Bytes) (s : τ) :
    g.transceive link request (π s) = (g.transceive link' request s).see π := by
  have attempt (g : Gbp) (s : τ) : g.attempt link request (π s) =
      ((g.attempt link' request s).1, π (g.attempt link' request s).2) :=
    run_shows shows g request g.retries (g.carry request) s
  have finish (g : Gbp) (outcome : Ended) (s : τ) :
      g.finish outcome (π s) = (g.finish outcome s).see π := by
    cases outcome <;> rfl
  unfold transceive
  split
  · rfl
  · rw [attempt]
    rcases g.attempt link' request s with ⟨_ | outcome, s'⟩
    · dsimp only
      rw [resynch_shows shows]
      rcases g.resynch link' s' with ⟨_ | _, s''⟩
      · rfl
      · dsimp only
        rw [attempt]
        rcases Gbp.attempt link' _ request s'' with ⟨_ | outcome, final⟩
        · rfl
        · exact finish ..
    · exact finish ..

end Gbp

/-! ## Handles -/

/-- Seen through `π`, exchanges with the one driver are exchanges with the other. -/
structure Driver.Shows (π : τ → σ) (driver' : Driver τ) (driver : Driver σ) : Prop
    extends Link.Shows π driver'.toLink driver.toLink where
  transparent : ∀ slot command,
    Action.Shows π (driver'.transparent slot command) (driver.transparent slot command)
  escape : ∀ slot command,
    Action.Shows π (driver'.escape slot command) (driver.escape slot command)

variable {driver' : Driver τ} {driver : Driver σ}

theorem Engine.delegate_shows (engine : Engine) {call' : Action τ Bytes} {call : Action σ Bytes}
    (shows : Action.Shows π call' call) (s : τ) :
    engine.delegate call (π s) = (engine.delegate call' s).see π := by
  rw [delegate, delegate, shows]
  cases call' s <;> rfl

theorem Engine.transceive_shows (shows : Driver.Shows π driver' driver) (slot : Nat)
    (command : Bytes) (engine : Engine) (s : τ) :
    engine.transceive driver slot command (π s) =
      (engine.transceive driver' slot command s).see π := by
  cases engine with
  | t0 t =>
    exact congrArg (Exchange.mapEngine Engine.t0) (t.transceive_shows shows.toShows command s)
  | t1 t =>
    exact congrArg (Exchange.mapEngine Engine.t1) (t.transceive_shows shows.toShows command s)
  | gbp g =>
    exact congrArg (fun x => x.ended.mapEngine Engine.gbp)
      (g.transceive_shows shows.toShows command s)
  | transparent => exact delegate_shows _ (shows.transparent slot command) s
  | escape => exact delegate_shows _ (shows.escape slot command) s
  | memory kind => rfl

theorem Handle.transceive_shows (shows : Driver.Shows π driver' driver) (slot : Nat)
    (command : Bytes) (handle : Handle) (s : τ) :
    handle.transceive driver slot command (π s) =
      ((handle.transceive driver' slot command s).1, (handle.transceive driver' slot command s).2.1,
        π (handle.transceive driver' slot command s).2.2) := by
  cases handle with
  | lost id => rfl
  | active engine =>
    simp only [transceive, Engine.transceive_shows shows]
    rfl

/-- Exchanges with the driver change the device in this way. -/
structure Driver.Moves (R : σ → σ → Prop) (driver : Driver σ) : Prop
    extends Link.Moves R driver.toLink where
  transparent : ∀ slot command, Action.Moves R (driver.transparent slot command)
  escape : ∀ slot command, Action.Moves R (driver.escape slot command)

variable {R : σ → σ → Prop}

theorem Engine.delegate_moves (engine : Engine) {call : Action σ Bytes}
    (moves : Action.Moves R call) (s : σ) : R s (engine.delegate call s).device := by
  unfold delegate
  split
  · next called => exact moves.ok called
  · next failed => exact moves.error failed

theorem Engine.transceive_moves (moves : Driver.Moves R driver) (path : Path R) (slot : Nat)
    (command : Bytes) (engine : Engine) (s : σ) :
    R s (engine.transceive driver slot command s).device := by
  cases engine with
  | t0 t => exact t.transceive_moves moves.toMoves path command s
  | t1 t => exact t.transceive_moves moves.toMoves path command s
  | gbp g => exact g.transceive_moves moves.toMoves path command s
  | transparent => exact delegate_moves _ (moves.transparent slot command) s
  | escape => exact delegate_moves _ (moves.escape slot command) s
  | memory kind => exact path.refl s

theorem Handle.transceive_moves (moves : Driver.Moves R driver) (path : Path R) (slot : Nat)
    (command : Bytes) (handle : Handle) (s : σ) :
    R s (handle.transceive driver slot command s).2.2 := by
  cases handle with
  | lost id => exact path.refl s
  | active engine => exact engine.transceive_moves moves path slot command s

/-! ## Watching -/

/-- A call of a byte channel, and what came of it. -/
inductive ChannelCall where
  | send (dad : UInt8) (bytes : Bytes) (outcome : Except Error Unit)
  | recv (dad : UInt8) (room timeout : Nat) (outcome : Except Error Bytes)

/-- An action that is noted with what came of it. -/
def Action.noted {κ : Type} (note : Except Error α → κ) (x : Action σ α) : Action (σ × List κ) α :=
  fun (s, notes) =>
  match x s with
  | .ok v s => .ok v (s, notes ++ [note (.ok v)])
  | .error e s => .error e (s, notes ++ [note (.error e)])

def Action.unnoted {κ : Type} (x : Action σ α) : Action (σ × κ) α := fun (s, notes) =>
  match x s with
  | .ok v s => .ok v (s, notes)
  | .error e s => .error e (s, notes)

theorem Action.noted_shows {κ : Type} (note : Except Error α → κ) (x : Action σ α) :
    Action.Shows Prod.fst (x.noted note) x := by
  rintro ⟨s, notes⟩
  simp only [noted]
  cases x s <;> rfl

theorem Action.unnoted_shows {κ : Type} (x : Action σ α) :
    Action.Shows (Prod.fst : σ × κ → σ) x.unnoted x := by
  rintro ⟨s, notes⟩
  simp only [unnoted]
  cases x s <;> rfl

/-- The byte channel, with all its calls noted in order. -/
def Link.watched (link : Link σ) : Link (σ × List ChannelCall) where
  send dad bytes := (link.send dad bytes).noted (.send dad bytes)
  recv dad room timeout := (link.recv dad room timeout).noted (.recv dad room timeout)
  patience := link.patience

/-- The driver, with all calls of its byte channel noted in order. -/
def Driver.watched (driver : Driver σ) : Driver (σ × List ChannelCall) where
  toLink := driver.toLink.watched
  name := driver.name
  attach := driver.attach.unnoted
  close := driver.close.unnoted
  activate := driver.activate.unnoted
  deactivate := driver.deactivate.unnoted
  changeParity parity := (driver.changeParity parity).unnoted
  changeSpeed speed := (driver.changeSpeed speed).unnoted
  cardStatus slot := (driver.cardStatus slot).unnoted
  cardReset slot := (driver.cardReset slot).unnoted
  cardRequest slot timeout message := (driver.cardRequest slot timeout message).unnoted
  cardEject slot timeout message := (driver.cardEject slot timeout message).unnoted
  output message := (driver.output message).unnoted
  performVerify slot timeout message command :=
    (driver.performVerify slot timeout message command).unnoted
  setProtocol slot protocol := (driver.setProtocol slot protocol).unnoted
  transparent slot command := (driver.transparent slot command).unnoted
  readMemory slot protocol address length :=
    (driver.readMemory slot protocol address length).unnoted
  writeMemory slot protocol address bytes :=
    (driver.writeMemory slot protocol address bytes).unnoted
  escape slot command := (driver.escape slot command).unnoted
  event statuses := (driver.event statuses).unnoted
  hangUp := driver.hangUp.unnoted
  beforeCommand := driver.beforeCommand.unnoted
  afterCommand := driver.afterCommand.unnoted
  isPresent := fun (s, calls) => ((driver.isPresent s).1, (driver.isPresent s).2, calls)

theorem Link.watched_shows (link : Link σ) : Link.Shows Prod.fst link.watched link where
  send _ _ := Action.noted_shows _ _
  recv _ _ _ := Action.noted_shows _ _
  patience := rfl

theorem Driver.watched_shows (driver : Driver σ) : Driver.Shows Prod.fst driver.watched driver where
  toShows := driver.toLink.watched_shows
  transparent _ _ := Action.unnoted_shows _
  escape _ _ := Action.unnoted_shows _

/-- **Watching an exchange changes nothing about it.** -/
theorem Handle.transceive_watched (driver : Driver σ) (slot : Nat) (command : Bytes)
    (handle : Handle) (s : σ) (calls : List ChannelCall) :
    handle.transceive driver slot command s =
      ((handle.transceive driver.watched slot command (s, calls)).1,
        (handle.transceive driver.watched slot command (s, calls)).2.1,
        (handle.transceive driver.watched slot command (s, calls)).2.2.1) :=
  handle.transceive_shows driver.watched_shows slot command (s, calls)

end CardTerminal
