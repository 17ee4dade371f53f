import CardTerminal.Proofs.Action
import CardTerminal.Server

/-!
Everything that can happen to a server, and what is seen of it.

Clients connect, send, read and hang up when they like, sockets fail, the service changes its own
state now and then, and in between the server makes its moves, in any order (`Step`). What is seen
of a run is logged, and so is what clients take of the bytes written to them. Seen from one client,
a run is a story with a simple course (`Story`): the client is let in, and then its packets are
read, handed to the service and answered one after the other, until its connection ends and the
service is told. `Told` says that every client's part of the log is such a story and fits what its
connection is at and what the queue holds of it; every step keeps it (`Told.step`).
-/

namespace CardTerminal.Server

variable {ω : Type}

/-- Something that is seen of a server. -/
inductive Sight where
  | accepted (n : Nat)
  | read (n : Nat) (xid : UInt32) (payload : Bytes)
  | processed (peer : Peer) (payload : Bytes) (answer : Except Error Bytes)
  | wrote (n : Nat) (packet : Bytes)
  /-- A socket fails. -/
  | broken (n : Nat)
  | closed (peer : Peer)

namespace Sight

def client : Sight → Nat
  | accepted n | read n _ _ | wrote n _ | broken n => n
  | processed peer _ _ | closed peer => peer.id

end Sight

def Event.peer : Event → Peer
  | request peer _ | closed peer => peer

/-- The connection waits for its socket: there is something to read or to write. -/
def Task.Faces : Task → Prop
  | .reading | .replying _ _ => True
  | .awaiting _ | .ended => False

def sight (host : Host ω) (s : Server ω) : Move → List Sight
  | .accept => [.accepted s.accepted]
  | .handle =>
    match s.queue with
    | [] => []
    | .request peer payload :: _ =>
      match host.process peer payload s.world with
      | some (answer, _) => [.processed peer payload answer]
      | none => []
    | .closed peer :: _ => [.closed peer]
  | .read n =>
    match s.connections[n]?.bind fun c => Packet.split order c.inbound with
    | some (header, payload, _) => [.read n header.xid payload]
    | none => []
  | .write n =>
    match s.connections[n]? with
    | some ⟨_, .replying xid answer, _, _, false⟩ =>
      match replyPacket xid answer with
      | .ok packet => [.wrote n packet]
      | .error _ => []
    | _ => []

/-- What a service does of itself, between the events of its clients. -/
def Host.Stirs (host : Host ω) (w w' : ω) : Prop :=
  w' = Action.after host.tick w ∨ w' = Action.after host.event w ∨ w' = Action.after host.hangUp w

/-- One thing that happens to a server: what is seen of it, and what a client takes by it. -/
inductive Step (host : Host ω) (s : Server ω) :
    List Sight → List (Nat × Bytes) → Server ω → Prop where
  | move {m : Move} {s' : Server ω} (can : s.move host m = some s') :
    Step host s (s.sight host m) [] s'
  | connect (uid : UInt32) : Step host s [] [] (s.connect uid)
  | send (n : Nat) (bytes : Bytes) : Step host s [] [] (s.send n bytes)
  | receive {n : Nat} {c : Connection} {front rest : Bytes} (found : s.connections[n]? = some c)
    (written : c.outbound = front ++ rest) :
    Step host s [] [(n, front)] (s.modify n fun c => { c with outbound := rest })
  | hangUp (n : Nat) : Step host s [] [] (s.hangUp n)
  /-- A connection cannot read or write any more. -/
  | breakOff {n : Nat} {c : Connection} (inside : n < s.accepted)
    (found : s.connections[n]? = some c) (faces : c.task.Faces) :
    Step host s [.broken n] [] (s.finish ⟨n, c.uid⟩)
  | stir {w : ω} (stirred : host.Stirs s.world w) : Step host s [] [] { s with world := w }

/-- A run of a server, with what is seen of it and what is taken by its clients, in the order of
time. -/
inductive Run (host : Host ω) (start : Server ω) :
    List Sight → List (Nat × Bytes) → Server ω → Prop where
  | start : Run host start [] [] start
  | step {log seen : List Sight} {taken more : List (Nat × Bytes)} {s s' : Server ω}
    (run : Run host start log taken s) (step : Step host s seen more s') :
    Run host start (log ++ seen) (taken ++ more) s'

/-- Moves that are made one after the other, each if it can be made then: what is seen of them, and
the server after them. -/
def make (host : Host ω) : List Move → Server ω → List Sight × Server ω
  | [], s => ([], s)
  | m :: rest, s =>
    match s.move host m with
    | some s' =>
      let (seen, last) := make host rest s'
      (s.sight host m ++ seen, last)
    | none => make host rest s

/-! ## What a step changes -/

/-- Nothing happens inside the server: connections may be added, and bytes may move at their far
ends. -/
structure Outside (s s' : Server ω) : Prop where
  limit : s'.limit = s.limit
  accepted : s'.accepted = s.accepted
  connected : s'.connected = s.connected
  queue : s'.queue = s.queue
  length : s.connections.length ≤ s'.connections.length
  connection : ∀ n c', s'.connections[n]? = some c' →
    (∃ c, s.connections[n]? = some c ∧ c'.uid = c.uid ∧ c'.task = c.task ∧
      (c.hungUp = true → c'.hungUp = true)) ∨
    s.connections.length ≤ n ∧ c'.task = .reading

/-- What a connection that ends was up to. -/
def Connection.Fails (c : Connection) : Prop :=
  c.task = .reading ∧ c.hungUp = true ∨
    ∃ xid answer, c.task = .replying xid answer ∧
      (c.hungUp = true ∨ ∃ e, replyPacket xid answer = .error e)

theorem Connection.Fails.faces {c : Connection} (fails : c.Fails) : c.task.Faces := by
  rcases fails with ⟨reading, -⟩ | ⟨xid, answer, replying, -⟩
  · rw [reading]
    trivial
  · rw [replying]
    trivial

/-- What a move comes to. -/
inductive Made (host : Host ω) (s : Server ω) : List Sight → Server ω → Prop where
  | accept (room : s.connected < s.limit) (waiting : s.accepted < s.connections.length) :
    Made host s [.accepted s.accepted]
      { s with accepted := s.accepted + 1, connected := s.connected + 1 }
  | read {n : Nat} {c : Connection} {header : Header} {payload rest : Bytes}
    (inside : n < s.accepted) (found : s.connections[n]? = some c) (reading : c.task = .reading)
    (whole : Packet.split order c.inbound = some (header, payload, rest)) :
    Made host s [.read n header.xid payload]
      { s.modify n (fun c => { c with task := .awaiting header.xid, inbound := rest }) with
        queue := s.queue ++ [.request ⟨n, c.uid⟩ payload] }
  | process {peer : Peer} {payload : Bytes} {queue : List Event} {answer : Except Error Bytes}
    {world : ω} (next : s.queue = .request peer payload :: queue)
    (answered : host.process peer payload s.world = some (answer, world)) :
    Made host s [.processed peer payload answer]
      { s.modify peer.id (deliver answer) with queue, world }
  | write {n : Nat} {c : Connection} {xid : UInt32} {answer : Except Error Bytes} {packet : Bytes}
    (inside : n < s.accepted) (found : s.connections[n]? = some c)
    (replying : c.task = .replying xid answer) (framed : replyPacket xid answer = .ok packet) :
    Made host s [.wrote n packet]
      (s.modify n (fun c => { c with task := .reading, outbound := c.outbound ++ packet }))
  | fail {n : Nat} {c : Connection} (inside : n < s.accepted) (found : s.connections[n]? = some c)
    (fails : c.Fails) : Made host s [] (s.finish ⟨n, c.uid⟩)
  | closed {peer : Peer} {queue : List Event} (next : s.queue = .closed peer :: queue) :
    Made host s [.closed peer]
      { s with queue, connected := s.connected - 1, world := host.closed peer s.world }

/-- What a step comes to. -/
inductive Change (host : Host ω) (s : Server ω) : List Sight → Server ω → Prop where
  | made {seen : List Sight} {s' : Server ω} (made : Made host s seen s') : Change host s seen s'
  | outside {s' : Server ω} (outside : Outside s s') (same : s'.world = s.world) :
    Change host s [] s'
  | stir {w : ω} (stirred : host.Stirs s.world w) : Change host s [] { s with world := w }
  | breakOff {n : Nat} {c : Connection} (inside : n < s.accepted)
    (found : s.connections[n]? = some c) (faces : c.task.Faces) :
    Change host s [.broken n] (s.finish ⟨n, c.uid⟩)

variable {host : Host ω} {s s' : Server ω} {seen log : List Sight} {taken more : List (Nat × Bytes)}
  {n : Nat}

theorem getElem?_modify (s : Server ω) (m n : Nat) (f : Connection → Connection) :
    (s.modify m f).connections[n]? =
      if m = n then s.connections[n]?.map f else s.connections[n]? := by
  simp only [modify, List.getElem?_modify]
  split <;> simp

theorem getElem?_modify_self {c : Connection} (found : s.connections[n]? = some c)
    (f : Connection → Connection) : (s.modify n f).connections[n]? = some (f c) := by
  rw [getElem?_modify, if_pos rfl, found]
  rfl

theorem getElem?_modify_of_ne {m : Nat} (ne : m ≠ n) (f : Connection → Connection) :
    (s.modify n f).connections[m]? = s.connections[m]? := by
  rw [getElem?_modify, if_neg ne.symm]

@[simp] theorem length_modify (s : Server ω) (n : Nat) (f : Connection → Connection) :
    (s.modify n f).connections.length = s.connections.length := by
  simp [modify]

@[simp] theorem accepted_modify (s : Server ω) (n : Nat) (f : Connection → Connection) :
    (s.modify n f).accepted = s.accepted :=
  rfl

@[simp] theorem queue_modify (s : Server ω) (n : Nat) (f : Connection → Connection) :
    (s.modify n f).queue = s.queue :=
  rfl

theorem Outside.modify (s : Server ω) (n : Nat) {f : Connection → Connection}
    (far : ∀ c, (f c).uid = c.uid ∧ (f c).task = c.task ∧ (c.hungUp = true → (f c).hungUp = true)) :
    Outside s (s.modify n f) where
  limit := rfl
  accepted := rfl
  connected := rfl
  queue := rfl
  length := Nat.le_of_eq (length_modify s n f).symm
  connection := by
    intro m c' found
    rw [getElem?_modify] at found
    by_cases same : n = m
    · rw [if_pos same] at found
      obtain ⟨c, found', rfl⟩ := Option.map_eq_some_iff.mp found
      exact .inl ⟨c, found', far c⟩
    · rw [if_neg same] at found
      exact .inl ⟨c', found, rfl, rfl, id⟩

theorem Outside.connect (s : Server ω) (uid : UInt32) : Outside s (s.connect uid) where
  limit := rfl
  accepted := rfl
  connected := rfl
  queue := rfl
  length := by simp [Server.connect]
  connection := by
    intro n c' found
    rcases Nat.lt_or_ge n s.connections.length with old | new
    · rw [Server.connect, List.getElem?_append_left old] at found
      exact .inl ⟨c', found, rfl, rfl, id⟩
    · rw [Server.connect, List.getElem?_append_right new] at found
      obtain rfl := List.mem_singleton.mp (List.mem_of_getElem? found)
      exact .inr ⟨new, rfl⟩

theorem read_made {c : Connection} (inside : n < s.accepted)
    (found : s.connections[n]? = some c) (can : s.read n c = some s') :
    Made host s (s.sight host (.read n)) s' := by
  have seen : s.sight host (.read n) = match Packet.split order c.inbound with
      | some (header, payload, _) => [.read n header.xid payload]
      | none => [] := by
    simp only [sight, found, Option.bind_some]
  rw [seen]
  unfold read at can
  split at can
  · next header payload rest reading whole =>
    simp only [whole]
    cases can
    exact .read inside found reading whole
  · next reading partial' =>
    simp only [partial']
    split at can
    · next gone =>
      cases can
      exact .fail inside found (.inl ⟨reading, gone⟩)
    · cases can
  · cases can

theorem write_made {c : Connection} (inside : n < s.accepted)
    (found : s.connections[n]? = some c) (can : s.write n c = some s') :
    Made host s (s.sight host (.write n)) s' := by
  obtain ⟨uid, task, inbound, outbound, hungUp⟩ := c
  unfold write at can
  split at can
  · next xid answer replying =>
    obtain rfl : task = .replying xid answer := replying
    simp only [sight, found]
    split at can
    · next packet framed here =>
      obtain rfl : hungUp = false := here
      simp only [framed]
      cases can
      exact .write inside found rfl framed
    · next failed =>
      cases can
      -- Nothing was written: the client is gone, or the answer makes no packet.
      cases hungUp with
      | true => exact .fail inside found (.inr ⟨xid, answer, rfl, .inl rfl⟩)
      | false =>
        cases framed : replyPacket xid answer with
        | ok packet => exact absurd rfl (failed packet framed)
        | error e =>
          simp only [framed]
          exact .fail inside found (.inr ⟨xid, answer, rfl, .inr ⟨e, framed⟩⟩)
  · cases can

/-- **All that a move can come to.** -/
theorem made_of_move {m : Move} (can : s.move host m = some s') :
    Made host s (s.sight host m) s' := by
  cases m with
  | accept =>
    simp only [move, accept] at can
    split at can
    · next free =>
      cases can
      exact .accept free.1 free.2
    · cases can
  | handle =>
    cases next : s.queue with
    | nil =>
      simp only [move, handle, next] at can
      cases can
    | cons e queue =>
      cases e with
      | request peer payload =>
        simp only [move, handle, next, Option.map_eq_some_iff] at can
        obtain ⟨⟨answer, world⟩, answered, rfl⟩ := can
        simp only [sight, next, answered]
        exact .process next answered
      | closed peer =>
        simp only [move, handle, next] at can
        cases can
        simp only [sight, next]
        exact .closed next
  | read n =>
    simp only [move] at can
    split at can
    · next inside =>
      obtain ⟨c, found, can⟩ := Option.bind_eq_some_iff.mp can
      exact read_made inside found can
    · cases can
  | write n =>
    simp only [move] at can
    split at can
    · next inside =>
      obtain ⟨c, found, can⟩ := Option.bind_eq_some_iff.mp can
      exact write_made inside found can
    · cases can

/-- **All that a step can come to.** -/
theorem Step.change (step : Step host s seen more s') : Change host s seen s' := by
  cases step with
  | move can => exact .made (made_of_move can)
  | connect uid => exact .outside (.connect s uid) rfl
  | send n bytes => exact .outside (.modify s n fun c => ⟨rfl, rfl, id⟩) rfl
  | receive found written => exact .outside (.modify s _ fun c => ⟨rfl, rfl, id⟩) rfl
  | hangUp n => exact .outside (.modify s n fun c => ⟨rfl, rfl, fun _ => rfl⟩) rfl
  | breakOff inside found faces => exact .breakOff inside found faces
  | stir stirred => exact .stir stirred

/-- A client that takes a packet takes the bytes in front of what it leaves. -/
theorem step_of_receive (host : Host ω) {header : Header} {body : Bytes}
    (received : s.receive n = some (header, body, s')) :
    ∃ front, Step host s [] [(n, front)] s' := by
  simp only [Server.receive, Option.bind_eq_bind, Option.bind_eq_some_iff] at received
  obtain ⟨c, found, ⟨header', body', rest⟩, whole, same⟩ := received
  cases same
  have front : ∃ k, rest = c.outbound.drop k := by
    simp only [Packet.split] at whole
    split at whole
    · cases whole
    · split at whole
      · cases whole
        exact ⟨_, rfl⟩
      · cases whole
  obtain ⟨k, rfl⟩ := front
  exact ⟨c.outbound.take k, .receive found (List.take_append_drop k c.outbound).symm⟩

/-! ## The story of a client -/

/-- The course of what is seen of client `n`, with what the queue holds of it and what its
connection is at. -/
inductive Story (n : Nat) (uid : UInt32) : List Sight → List Event → Task → Prop where
  | asked : Story n uid [] [] .reading
  | accepted : Story n uid [.accepted n] [] .reading
  | read {own : List Sight} (story : Story n uid own [] .reading) (xid : UInt32)
    (payload : Bytes) :
    Story n uid (own ++ [.read n xid payload]) [.request ⟨n, uid⟩ payload] (.awaiting xid)
  | processed {own : List Sight} {xid : UInt32} {payload : Bytes}
    (story : Story n uid own [.request ⟨n, uid⟩ payload] (.awaiting xid))
    (answer : Except Error Bytes) :
    Story n uid (own ++ [.processed ⟨n, uid⟩ payload answer]) [] (.replying xid answer)
  | wrote {own : List Sight} {xid : UInt32} {answer : Except Error Bytes} {packet : Bytes}
    (story : Story n uid own [] (.replying xid answer))
    (framed : replyPacket xid answer = .ok packet) :
    Story n uid (own ++ [.wrote n packet]) [] .reading
  | ended {own : List Sight} {task : Task} (story : Story n uid own [] task)
    (faces : task.Faces) : Story n uid own [.closed ⟨n, uid⟩] .ended
  | broken {own : List Sight} {task : Task} (story : Story n uid own [] task)
    (faces : task.Faces) : Story n uid (own ++ [.broken n]) [.closed ⟨n, uid⟩] .ended
  | closed {own : List Sight} (story : Story n uid own [.closed ⟨n, uid⟩] .ended) :
    Story n uid (own ++ [.closed ⟨n, uid⟩]) [] .ended

namespace Story

variable {uid : UInt32} {own : List Sight} {events : List Event} {task : Task}

/-- Nothing is queued of a client whose connection waits for its socket. -/
theorem nothing_queued (story : Story n uid own events task) (faces : task.Faces) :
    events = [] := by
  cases story <;> first | rfl | exact faces.elim

theorem of_nothing (story : Story n uid own events task) (unseen : own = [])
    (unqueued : events = []) : task = .reading := by
  cases story <;> simp_all

/-- A queued request is the only event of its client, whose connection awaits the answer. -/
theorem of_request {peer : Peer} {payload : Bytes} {rest : List Event}
    (story : Story n uid own (.request peer payload :: rest) task) :
    peer = ⟨n, uid⟩ ∧ rest = [] ∧ ∃ xid, task = .awaiting xid := by
  cases story with
  | read story xid payload => exact ⟨rfl, rfl, xid, rfl⟩

theorem of_closed {peer : Peer} {rest : List Event}
    (story : Story n uid own (.closed peer :: rest) task) :
    peer = ⟨n, uid⟩ ∧ rest = [] ∧ task = .ended := by
  cases story <;> exact ⟨rfl, rfl, rfl⟩

theorem queued_le_one (story : Story n uid own events task) : events.length ≤ 1 := by
  cases story <;> simp

/-- The service is told once that a client is gone, when there is no more event of it. -/
theorem of_gone (story : Story n uid own events task) {peer : Peer}
    (gone : Sight.closed peer ∈ own) : events = [] ∧ task = .ended := by
  -- Every other turn begins with an event or with a connection that has not ended, so it cannot
  -- follow the one that tells the service.
  induction story with
  | asked => cases gone
  | accepted => simp at gone
  | read story xid payload ih =>
    simp only [List.mem_append, List.mem_singleton, reduceCtorEq, or_false] at gone
    exact absurd (ih gone).2 (by simp)
  | processed story answer ih =>
    simp only [List.mem_append, List.mem_singleton, reduceCtorEq, or_false] at gone
    exact absurd (ih gone).1 (by simp)
  | wrote story framed ih =>
    simp only [List.mem_append, List.mem_singleton, reduceCtorEq, or_false] at gone
    exact absurd (ih gone).2 (by simp)
  | ended story faces ih =>
    rw [(ih gone).2] at faces
    exact faces.elim
  | broken story faces ih =>
    simp only [List.mem_append, List.mem_singleton, reduceCtorEq, or_false] at gone
    rw [(ih gone).2] at faces
    exact faces.elim
  | closed story ih => exact ⟨rfl, rfl⟩

/-- Nothing is seen of a client after the service was told that it is gone. -/
theorem closed_last (story : Story n uid own events task) :
    own.Pairwise fun earlier _ => ∀ peer, earlier ≠ .closed peer := by
  -- What is seen while the story goes on is seen before the service is told.
  have snoc {own : List Sight} {events : List Event} {task : Task} (x : Sight)
      (story : Story n uid own events task) (goesOn : events ≠ [] ∨ task ≠ .ended)
      (ih : own.Pairwise fun earlier _ => ∀ peer, earlier ≠ .closed peer) :
      (own ++ [x]).Pairwise fun earlier _ => ∀ peer, earlier ≠ .closed peer := by
    refine List.pairwise_append.mpr ⟨ih, List.pairwise_singleton _ _, ?_⟩
    rintro earlier before - - peer rfl
    obtain ⟨nothing, ended⟩ := story.of_gone before
    exact goesOn.elim (· nothing) (· ended)
  induction story with
  | asked => exact .nil
  | accepted => exact List.pairwise_singleton _ _
  | read story xid payload ih => exact snoc _ story (.inr (by simp)) ih
  | processed story answer ih => exact snoc _ story (.inr (by simp)) ih
  | wrote story framed ih => exact snoc _ story (.inr (by simp)) ih
  | ended story faces ih => exact ih
  | broken story faces ih =>
    refine snoc _ story (.inr ?_) ih
    rintro rfl
    exact faces
  | closed story ih => exact snoc _ story (.inl (by simp)) ih

end Story

/-! ## The stories of all clients -/

/-- What is seen of one client. -/
def about (n : Nat) (log : List Sight) : List Sight :=
  log.filter (·.client = n)

/-- What the queue holds of one client. -/
def pending (n : Nat) (queue : List Event) : List Event :=
  queue.filter (·.peer.id = n)

/-- Every client's part of the log is a story that fits the state of the server. Of those who have
not been let in, nothing is seen yet. -/
structure Told (log : List Sight) (s : Server ω) : Prop where
  fits : s.accepted ≤ s.connections.length
  early : ∀ n, s.accepted ≤ n → about n log = [] ∧ pending n s.queue = []
  story : ∀ n c, s.connections[n]? = some c →
    Story n c.uid (about n log) (pending n s.queue) c.task

theorem mem_about {x : Sight} : x ∈ about n log ↔ x ∈ log ∧ x.client = n := by
  simp [about]

theorem mem_pending {e : Event} {queue : List Event} :
    e ∈ pending n queue ↔ e ∈ queue ∧ e.peer.id = n := by
  simp [pending]

theorem about_append (n : Nat) (log seen : List Sight) :
    about n (log ++ seen) = about n log ++ about n seen :=
  List.filter_append ..

theorem about_of_client (mine : ∀ x ∈ seen, x.client = n) : about n seen = seen :=
  List.filter_eq_self.mpr fun x mem => decide_eq_true (mine x mem)

theorem about_of_other {m : Nat} (mine : ∀ x ∈ seen, x.client = n) (other : m ≠ n) :
    about m seen = [] :=
  List.filter_eq_nil_iff.mpr fun x mem => by simp [mine x mem, other.symm]

theorem pending_enqueue {queue : List Event} {e : Event}
    (nothing : pending e.peer.id queue = []) : pending e.peer.id (queue ++ [e]) = [e] := by
  rw [pending, List.filter_append, show queue.filter _ = [] from nothing]
  simp

theorem pending_enqueue_of_ne {m : Nat} (queue : List Event) {e : Event} (ne : m ≠ e.peer.id) :
    pending m (queue ++ [e]) = pending m queue := by
  simp [pending, ne.symm]

theorem pending_cons_self (e : Event) (queue : List Event) :
    pending e.peer.id (e :: queue) = e :: pending e.peer.id queue :=
  List.filter_cons_of_pos (by simp)

theorem pending_cons_of_ne {m : Nat} {e : Event} (queue : List Event) (other : m ≠ e.peer.id) :
    pending m (e :: queue) = pending m queue :=
  List.filter_cons_of_neg (by simpa using other.symm)

namespace Told

theorem new (limit : Nat) (world : ω) : Told [] (Server.new limit world) where
  fits := Nat.le_refl 0
  early _ _ := ⟨rfl, rfl⟩
  story n c found := by cases found

theorem story_of_accepted (told : Told log s) (inside : n < s.accepted) :
    ∃ c, s.connections[n]? = some c ∧
      Story n c.uid (about n log) (pending n s.queue) c.task := by
  have found := List.getElem?_eq_getElem (Nat.lt_of_lt_of_le inside told.fits)
  exact ⟨_, found, told.story n _ found⟩

theorem accepted_of_mem (told : Told log s) {x : Sight} (mem : x ∈ log) :
    x.client < s.accepted := by
  refine Nat.lt_of_not_le fun outside => ?_
  have mem' : x ∈ about x.client log := mem_about.mpr ⟨mem, rfl⟩
  rw [(told.early _ outside).1] at mem'
  cases mem'

theorem accepted_of_queued (told : Told log s) {e : Event} (queued : e ∈ s.queue) :
    e.peer.id < s.accepted := by
  refine Nat.lt_of_not_le fun outside => ?_
  have mem : e ∈ pending e.peer.id s.queue := mem_pending.mpr ⟨queued, rfl⟩
  rw [(told.early _ outside).2] at mem
  cases mem

/-- The client of an event is in the server, and has a story that goes on with the event. -/
theorem of_queue (told : Told log s) {e : Event} {queue : List Event} (next : s.queue = e :: queue)
    (client : e.peer.id = n) :
    ∃ c, n < s.accepted ∧ s.connections[n]? = some c ∧
      Story n c.uid (about n log) (e :: pending n queue) c.task := by
  have inside : n < s.accepted := by
    rw [← client]
    exact told.accepted_of_queued (by rw [next]; exact List.mem_cons_self)
  obtain ⟨c, found, story⟩ := told.story_of_accepted inside
  refine ⟨c, inside, found, ?_⟩
  rwa [next, ← client, pending_cons_self, client] at story

/-- One client's story goes on, and nothing happens to the others. -/
theorem next (told : Told log s) {c : Connection} {f : Connection → Connection}
    (inside : n < s.accepted) (found : s.connections[n]? = some c)
    (mine : ∀ x ∈ seen, x.client = n) (accepted : s'.accepted = s.accepted)
    (connections : s'.connections = (s.modify n f).connections) (uid : (f c).uid = c.uid)
    (others : ∀ m, m ≠ n → pending m s'.queue = pending m s.queue)
    (story : Story n c.uid (about n log ++ seen) (pending n s'.queue) (f c).task) :
    Told (log ++ seen) s' where
  fits := by
    rw [accepted, connections, length_modify]
    exact told.fits
  early m outside := by
    rw [accepted] at outside
    have ne : m ≠ n := by omega
    rw [about_append, about_of_other mine ne, List.append_nil, others m ne]
    exact told.early m outside
  story m d found' := by
    rw [connections] at found'
    rw [about_append]
    by_cases same : m = n
    · obtain rfl := same
      rw [getElem?_modify_self found] at found'
      obtain rfl := Option.some.inj found'
      rw [about_of_client mine, uid]
      exact story
    · rw [getElem?_modify_of_ne same] at found'
      rw [about_of_other mine same, List.append_nil, others m same]
      exact told.story m d found'

theorem outside (told : Told log s) (out : Outside s s') : Told log s' where
  fits := by
    rw [out.accepted]
    exact Nat.le_trans told.fits out.length
  early n := by
    rw [out.accepted, out.queue]
    exact told.early n
  story n c' found := by
    rw [out.queue]
    rcases out.connection n c' found with ⟨c, found, uid, task, -⟩ | ⟨new, reading⟩
    · rw [uid, task]
      exact told.story n c found
    · obtain ⟨nothing, nothing'⟩ := told.early n (Nat.le_trans told.fits new)
      rw [nothing, nothing', reading]
      exact .asked

theorem accept (told : Told log s) (waiting : s.accepted < s.connections.length) :
    Told (log ++ [.accepted s.accepted])
      { s with accepted := s.accepted + 1, connected := s.connected + 1 } where
  fits := waiting
  early n outside := by
    have ne : n ≠ s.accepted := Nat.ne_of_gt outside
    have mine : ∀ x ∈ [Sight.accepted s.accepted], x.client = s.accepted := by
      simp [Sight.client]
    rw [about_append, about_of_other mine ne, List.append_nil]
    exact told.early n (Nat.le_of_lt outside)
  story n c found := by
    have mine : ∀ x ∈ [Sight.accepted s.accepted], x.client = s.accepted := by
      simp [Sight.client]
    have story := told.story n c found
    rw [about_append]
    by_cases same : n = s.accepted
    · -- The story of the client that is let in begins here.
      obtain rfl := same
      obtain ⟨nothing, nothing'⟩ := told.early s.accepted (Nat.le_refl _)
      rw [about_of_client mine, nothing, story.of_nothing nothing nothing']
      show Story s.accepted c.uid _ (pending s.accepted s.queue) _
      rw [nothing']
      exact .accepted
    · rw [about_of_other mine same, List.append_nil]
      exact story

theorem finish (told : Told log s) {c : Connection} (inside : n < s.accepted)
    (found : s.connections[n]? = some c) (faces : c.task.Faces) (mine : ∀ x ∈ seen, x.client = n)
    (ends : ∀ own, Story n c.uid own [] c.task →
      Story n c.uid (own ++ seen) [.closed ⟨n, c.uid⟩] .ended) :
    Told (log ++ seen) (s.finish ⟨n, c.uid⟩) := by
  have story := told.story n c found
  have nothing := story.nothing_queued faces
  rw [nothing] at story
  have queued : pending n (s.queue ++ [.closed ⟨n, c.uid⟩]) = [.closed ⟨n, c.uid⟩] :=
    pending_enqueue (e := .closed ⟨n, c.uid⟩) nothing
  refine told.next inside found mine rfl rfl rfl
    (fun m ne => pending_enqueue_of_ne s.queue (e := .closed ⟨n, c.uid⟩) ne) ?_
  exact queued ▸ ends _ story

theorem made (told : Told log s) (made : Made host s seen s') : Told (log ++ seen) s' := by
  cases made with
  | accept room waiting => exact told.accept waiting
  | @read n c header payload rest inside found reading whole =>
    have story := told.story n c found
    have nothing := story.nothing_queued (by rw [reading]; trivial)
    rw [nothing, reading] at story
    have queued : pending n (s.queue ++ [.request ⟨n, c.uid⟩ payload]) =
        [.request ⟨n, c.uid⟩ payload] :=
      pending_enqueue (e := .request ⟨n, c.uid⟩ payload) nothing
    refine told.next inside found (by simp [Sight.client]) rfl rfl rfl
      (fun m ne => pending_enqueue_of_ne s.queue (e := .request ⟨n, c.uid⟩ payload) ne) ?_
    show Story n c.uid _ (pending n (s.queue ++ [.request ⟨n, c.uid⟩ payload])) _
    rw [queued]
    exact story.read header.xid payload
  | @process peer payload queue answer world next answered =>
    obtain ⟨n, uid⟩ := peer
    obtain ⟨c, inside, found, story⟩ := told.of_queue (n := n) next rfl
    obtain ⟨same, nothing, xid, awaiting⟩ := story.of_request
    obtain rfl : uid = c.uid := congrArg Peer.uid same
    rw [nothing, awaiting] at story
    refine told.next inside found (by simp [Sight.client]) rfl rfl ?_ (fun m ne => ?_) ?_
    · simp only [deliver, awaiting]
    · rw [next, pending_cons_of_ne _ ne]
    · simp only [deliver, awaiting]
      exact nothing ▸ story.processed _
  | @write n c xid answer packet inside found replying framed =>
    have story := told.story n c found
    have nothing := story.nothing_queued (by rw [replying]; trivial)
    rw [nothing, replying] at story
    refine told.next inside found (by simp [Sight.client]) rfl rfl rfl (fun m ne => rfl) ?_
    exact nothing ▸ story.wrote framed
  | @fail n c inside found fails =>
    refine told.finish inside found fails.faces (fun x mem => by cases mem) fun own story => ?_
    rw [List.append_nil]
    exact story.ended fails.faces
  | @closed peer queue next =>
    obtain ⟨n, uid⟩ := peer
    obtain ⟨c, inside, found, story⟩ := told.of_queue (n := n) next rfl
    obtain ⟨same, nothing, ended⟩ := story.of_closed
    obtain rfl : uid = c.uid := congrArg Peer.uid same
    rw [nothing, ended] at story
    -- The connection has ended before; only the queue changes.
    have untouched : s.connections = (s.modify n id).connections := (List.modify_id ..).symm
    refine told.next (f := id) inside found (by simp [Sight.client]) rfl untouched rfl
      (fun m ne => ?_) ?_
    · rw [next, pending_cons_of_ne _ ne]
    · rw [id, ended]
      exact nothing ▸ story.closed

/-- **Every step goes on with the stories.** -/
theorem step (told : Told log s) (step : Step host s seen more s') : Told (log ++ seen) s' := by
  cases step.change with
  | made made => exact told.made made
  | outside out same =>
    rw [List.append_nil]
    exact told.outside out
  | stir stirred =>
    rw [List.append_nil]
    exact ⟨told.fits, told.early, told.story⟩
  | breakOff inside found faces =>
    exact told.finish inside found faces (by simp [Sight.client]) fun own story =>
      story.broken faces

end Told

theorem Run.make {start : Server ω} (run : Run host start log taken s) (moves : List Move) :
    Run host start (log ++ (make host moves s).1) taken (make host moves s).2 := by
  induction moves generalizing log s with
  | nil =>
    simp only [Server.make, List.append_nil]
    exact run
  | cons m rest ih =>
    simp only [Server.make]
    cases can : s.move host m with
    | none => exact ih run
    | some s' =>
      have made := run.step (.move can)
      rw [List.append_nil] at made
      have onward := ih made
      rwa [List.append_assoc] at onward

theorem Run.told {limit : Nat} {world : ω} (run : Run host (.new limit world) log taken s) :
    Told log s := by
  induction run with
  | start => exact .new limit world
  | step run step ih => exact ih.step step

end CardTerminal.Server
