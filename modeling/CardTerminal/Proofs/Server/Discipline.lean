import CardTerminal.Driver.Minimal
import CardTerminal.Proofs.Server.Replies
import CardTerminal.Proofs.Service.Run
import Mathlib.Data.List.Nodup
import Mathlib.Data.List.Perm.Subperm

/-!
What a server keeps in every run, whatever clients do and in whatever order things happen.

The server counts its clients by what it is told: one more when a client is let in, one less when
the service hears that it is gone. The count is that of the clients let in of whom it has not heard
that yet (`Counted`), so there are never more than the limit, and the queue holds at most one event
of each of them. A client that is gone has no more events, so the service never works for it again,
and the locks that it had are given up for good (`Run.released`).

Main statement: `orderly_run`.
-/

namespace CardTerminal

open CardTerminal.Action

namespace Server

section Counting

variable {ω : Type} {host : Host ω} {s s' : Server ω} {seen log : List Sight}
  {taken more : List (Nat × Bytes)} {n : Nat}

def Sight.accepted? : Sight → Option Nat
  | accepted n => some n
  | _ => none

/-- The client of which the service hears that it is gone. -/
def Sight.closed? : Sight → Option Nat
  | closed peer => some peer.id
  | _ => none

def acceptedIn (log : List Sight) : List Nat :=
  log.filterMap Sight.accepted?

/-- The clients that the service knows to be gone. -/
def closedIn (log : List Sight) : List Nat :=
  log.filterMap Sight.closed?

/-- The clients let in that the service does not know to be gone. -/
def present (log : List Sight) : List Nat :=
  (acceptedIn log).filter (· ∉ closedIn log)

theorem mem_closedIn : n ∈ closedIn log ↔ ∃ peer, Sight.closed peer ∈ log ∧ peer.id = n := by
  simp only [closedIn, List.mem_filterMap]
  refine ⟨fun ⟨seen, mem, is⟩ => ?_, fun ⟨peer, mem, is⟩ => ⟨_, mem, congrArg some is⟩⟩
  cases seen with
  | closed peer => exact ⟨peer, mem, Option.some.inj is⟩
  | _ => cases is

/-- Whoever still has something to do or to be told is not known to be gone. -/
theorem Told.not_closed (told : Told log s) {c : Connection} (found : s.connections[n]? = some c)
    (goesOn : pending n s.queue ≠ [] ∨ c.task ≠ .ended) : n ∉ closedIn log := by
  intro gone
  obtain ⟨peer, mem, rfl⟩ := mem_closedIn.mp gone
  have mem' : Sight.closed peer ∈ about peer.id log := mem_about.mpr ⟨mem, rfl⟩
  obtain ⟨nothing, ended⟩ := (told.story _ c found).of_gone mem'
  exact goesOn.elim (· nothing) (· ended)

theorem Told.queued_present (told : Told log s) {e : Event} (queued : e ∈ s.queue) :
    e.peer.id < s.accepted ∧ e.peer.id ∉ closedIn log := by
  have mem : e ∈ pending e.peer.id s.queue := mem_pending.mpr ⟨queued, rfl⟩
  have inside := told.accepted_of_queued queued
  obtain ⟨c, found, -⟩ := told.story_of_accepted inside
  exact ⟨inside, told.not_closed found (.inl (List.ne_nil_of_mem mem))⟩

/-- The service hears of a client only what happened before it was gone. -/
theorem Told.nothing_after_closed (told : Told log s) {before after : List Sight}
    (split : log = before ++ after) {peer : Peer} (gone : Sight.closed peer ∈ before) :
    ∀ seen ∈ after, seen.client ≠ peer.id := by
  intro seen later same
  have own : about peer.id log = about peer.id before ++ about peer.id after := by
    rw [split, about_append]
  have first : Sight.closed peer ∈ about peer.id before := mem_about.mpr ⟨gone, rfl⟩
  have second : seen ∈ about peer.id after := mem_about.mpr ⟨later, same⟩
  have mem : Sight.closed peer ∈ log := split ▸ List.mem_append_left _ gone
  obtain ⟨c, -, story⟩ := told.story_of_accepted (told.accepted_of_mem mem)
  have last : (about peer.id log).Pairwise fun earlier _ => ∀ peer, earlier ≠ .closed peer :=
    story.closed_last
  rw [own, List.pairwise_append] at last
  exact last.2.2 _ first _ second peer rfl

/-- Clients are let in one after the other, and those who are present are counted. -/
structure Counted (limit : Nat) (log : List Sight) (s : Server ω) : Prop where
  limit : s.limit = limit
  accepted : acceptedIn log = List.range s.accepted
  connected : s.connected = (present log).length
  room : s.connected ≤ s.limit

/-- What neither lets a client in nor tells the service that one is gone counts for nothing. -/
theorem Counted.of_uncounted {limit : Nat} (counted : Counted limit log s)
    (seen : List Sight) (uncounted : ∀ x ∈ seen, x.accepted? = none ∧ x.closed? = none)
    (limit' : s'.limit = s.limit) (accepted : s'.accepted = s.accepted)
    (connected : s'.connected = s.connected) : Counted limit (log ++ seen) s' := by
  have noneIn : acceptedIn seen = [] := List.filterMap_eq_nil_iff.mpr fun x mem =>
    (uncounted x mem).1
  have noneOut : closedIn seen = [] := List.filterMap_eq_nil_iff.mpr fun x mem =>
    (uncounted x mem).2
  have sameIn : acceptedIn (log ++ seen) = acceptedIn log := by
    rw [acceptedIn, List.filterMap_append]
    exact (congrArg (acceptedIn log ++ ·) noneIn).trans (List.append_nil _)
  have sameOut : closedIn (log ++ seen) = closedIn log := by
    rw [closedIn, List.filterMap_append]
    exact (congrArg (closedIn log ++ ·) noneOut).trans (List.append_nil _)
  refine ⟨limit'.trans counted.limit, ?_, ?_, ?_⟩
  · rw [sameIn, accepted, counted.accepted]
  · rw [connected, counted.connected, present, present, sameIn, sameOut]
  · rw [connected, limit']
    exact counted.room

theorem Counted.accept {limit : Nat} (counted : Counted limit log s) (told : Told log s)
    (room : s.connected < s.limit) :
    Counted limit (log ++ [.accepted s.accepted])
      { s with accepted := s.accepted + 1, connected := s.connected + 1 } := by
  have fresh : s.accepted ∉ closedIn log := by
    intro gone
    obtain ⟨peer, mem, same⟩ := mem_closedIn.mp gone
    have inside : peer.id < s.accepted := told.accepted_of_mem mem
    exact absurd same (Nat.ne_of_lt inside)
  have more : acceptedIn (log ++ [.accepted s.accepted]) = acceptedIn log ++ [s.accepted] := by
    simp [acceptedIn, Sight.accepted?]
  have same : closedIn (log ++ [.accepted s.accepted]) = closedIn log := by
    simp [closedIn, Sight.closed?]
  refine ⟨counted.limit, ?_, ?_, room⟩
  · rw [more, counted.accepted, ← List.range_succ]
  · rw [present, more, same, List.filter_append, List.filter_cons_of_pos (by simpa using fresh)]
    simp [counted.connected, present]

theorem Counted.closed {limit : Nat} (counted : Counted limit log s) (told : Told log s)
    {peer : Peer} {queue : List Event} (next : s.queue = .closed peer :: queue) (world : ω) :
    0 < s.connected ∧ Counted limit (log ++ [.closed peer])
      { s with queue, connected := s.connected - 1, world } := by
  obtain ⟨inside, here⟩ := told.queued_present (e := .closed peer) (by rw [next]; simp)
  have mem : peer.id ∈ present log := by
    refine List.mem_filter.mpr ⟨?_, decide_eq_true here⟩
    rw [counted.accepted]
    exact List.mem_range.mpr inside
  have distinct : (present log).Nodup := by
    rw [present, counted.accepted]
    exact List.nodup_range.filter _
  have sameIn : acceptedIn (log ++ [.closed peer]) = acceptedIn log := by
    simp [acceptedIn, Sight.accepted?]
  have more : closedIn (log ++ [.closed peer]) = closedIn log ++ [peer.id] := by
    simp [closedIn, Sight.closed?]
  have left : present (log ++ [.closed peer]) = (present log).erase peer.id :=
    calc present (log ++ [.closed peer])
        = (acceptedIn log).filter (· ∉ closedIn log ++ [peer.id]) := by
          rw [present, sameIn, more]
      _ = (present log).filter (· != peer.id) := by
          rw [present, List.filter_filter]
          refine List.filter_congr fun m _ => Bool.eq_iff_iff.mpr ?_
          simp [and_comm]
      _ = (present log).erase peer.id := (distinct.erase_eq_filter _).symm
  refine ⟨?_, counted.limit, ?_, ?_, ?_⟩
  · rw [counted.connected]
    exact List.length_pos_of_mem mem
  · rw [sameIn, counted.accepted]
  · rw [left, List.length_erase_of_mem mem, counted.connected]
  · exact Nat.le_trans (Nat.sub_le _ _) counted.room

theorem Counted.step {limit : Nat} (counted : Counted limit log s) (told : Told log s)
    (step : Step host s seen more s') : Counted limit (log ++ seen) s' := by
  cases step.change with
  | outside out same =>
    exact counted.of_uncounted [] (by simp) out.limit out.accepted out.connected
  | stir stirred => exact counted.of_uncounted [] (by simp) rfl rfl rfl
  | breakOff inside found faces =>
    exact counted.of_uncounted _ (by simp [Sight.accepted?, Sight.closed?]) rfl rfl rfl
  | made made =>
    cases made with
    | accept room waiting => exact counted.accept told room
    | closed next => exact (counted.closed told next _).2
    | _ =>
      refine counted.of_uncounted _ ?_ rfl rfl rfl
      simp [Sight.accepted?, Sight.closed?]

theorem Run.counted {limit : Nat} {world : ω} (run : Run host (.new limit world) log taken s) :
    Counted (max limit 1) log s := by
  induction run with
  | start => exact ⟨rfl, rfl, rfl, Nat.zero_le _⟩
  | step run step ih => exact ih.step run.told step

/-- The queue holds at most one event of each client that is present. -/
theorem Counted.queue_le {limit : Nat} (counted : Counted limit log s) (told : Told log s) :
    s.queue.length ≤ s.connected := by
  -- No client has two events in the queue, and whoever has one is present.
  have distinct : (s.queue.map (·.peer.id)).Nodup := by
    rw [List.nodup_iff_count_le_one]
    intro n
    have queued : (s.queue.map (·.peer.id)).count n = (pending n s.queue).length := by
      rw [List.count, List.countP_map, List.countP_eq_length_filter]
      rfl
    rw [queued]
    rcases Nat.lt_or_ge n s.accepted with inside | outside
    · obtain ⟨c, -, story⟩ := told.story_of_accepted inside
      exact story.queued_le_one
    · rw [(told.early n outside).2]
      exact Nat.zero_le 1
  have here : s.queue.map (·.peer.id) ⊆ present log := by
    intro n mem
    obtain ⟨e, queued, rfl⟩ := List.mem_map.mp mem
    obtain ⟨inside, here⟩ := told.queued_present queued
    refine List.mem_filter.mpr ⟨?_, decide_eq_true here⟩
    rw [counted.accepted]
    exact List.mem_range.mpr inside
  rw [counted.connected, ← List.length_map (·.peer.id)]
  exact (List.subperm_of_subset distinct here).length_le

end Counting

/-! ## The locks of clients that are gone -/

section Reader

open Service

variable {σ : Type} {driver : Driver σ}

theorem process_world {peer : Peer} {payload : Bytes} {w w' : World σ}
    {answer : Except Error Bytes}
    (answered : (readerHost driver).process peer payload w = some (answer, w')) :
    w' = respond driver w (.request peer payload) := by
  simp only [readerHost] at answered
  simp only [respond, after]
  split at answered <;> cases answered
  · next processed => rw [processed, left]
  · next processed => rw [processed, left]

theorem closed_world (driver : Driver σ) (peer : Peer) (w : World σ) :
    (readerHost driver).closed peer w = respond driver w (.closed peer) := by
  simp only [readerHost, respond, after]
  cases Service.closed peer w <;> rfl

theorem mem_of_request {peer : Peer} {payload : Bytes} {w : World σ} {held : Lock}
    (mem : held ∈ (respond driver w (.request peer payload)).locks.held) :
    held ∈ w.locks.held ∨ held.owner = peer.id := by
  rw [locks_respond] at mem
  simp only [World.lockCall] at mem
  cases ordered : w.orderOf peer payload with
  | error e =>
    rw [ordered] at mem
    exact .inl mem
  | ok order =>
    rw [ordered] at mem
    cases order with
    | lock slot kind => exact Locks.mem_of_call mem
    | unlock slot handle => exact Locks.mem_of_call mem
    | _ => exact .inl mem

theorem mem_of_closed {peer : Peer} {w : World σ} {held : Lock}
    (mem : held ∈ (respond driver w (.closed peer)).locks.held) :
    held ∈ w.locks.held ∧ held.owner ≠ peer.id := by
  obtain ⟨mem, other⟩ := List.mem_filter.mp mem
  exact ⟨mem, by simpa using other⟩

theorem locks_of_stirs {w w' : World σ} (stirs : (readerHost driver).Stirs w w') :
    w'.locks = w.locks := by
  rcases stirs with rfl | rfl | rfl
  · exact locks_respond driver w .tick
  · exact locks_respond driver w .event
  · exact locks_respond driver w .hangUp

/-- A client that the service knows to be gone never has a lock again. -/
theorem Run.released {limit : Nat} {world : World σ} {log : List Sight}
    {taken : List (Nat × Bytes)} {s : Server (World σ)}
    (run : Run (readerHost driver) (.new limit world) log taken s) :
    ∀ n ∈ closedIn log, ∀ held ∈ s.world.locks.held, held.owner ≠ n := by
  induction run with
  | start => simp [closedIn]
  | @step log seen taken more s s' run step ih =>
    intro n gone held mem
    have told := run.told
    have earlier (nothing : closedIn seen = []) : n ∈ closedIn log := by
      rw [closedIn, List.filterMap_append] at gone
      refine (List.mem_append.mp gone).resolve_right fun now => ?_
      rw [show seen.filterMap Sight.closed? = [] from nothing] at now
      cases now
    cases step.change with
    | outside out same => exact ih n (earlier rfl) held (same ▸ mem)
    | stir stirred =>
      have same := locks_of_stirs stirred
      exact ih n (earlier rfl) held (same ▸ mem)
    | breakOff inside found faces => exact ih n (earlier rfl) held mem
    | made made =>
      cases made with
      | @process peer payload queue answer world next answered =>
        -- Whoever a request comes from is still there, and no one else gets a lock by it.
        obtain ⟨-, here⟩ := told.queued_present (e := .request peer payload) (by rw [next]; simp)
        obtain rfl := process_world answered
        rcases mem_of_request mem with old | new
        · exact ih n (earlier rfl) held old
        · intro same
          have gone' := earlier rfl
          rw [← same, new] at gone'
          exact here gone'
      | @closed peer queue next =>
        have mem' : held ∈ ((readerHost driver).closed peer s.world).locks.held := mem
        rw [closed_world] at mem'
        obtain ⟨old, other⟩ := mem_of_closed mem'
        rw [closedIn, List.filterMap_append] at gone
        rcases List.mem_append.mp gone with before | now
        · exact ih n before held old
        · obtain rfl : n = peer.id := by simpa [Sight.closed?] using now
          exact other
      | _ => exact ih n (earlier rfl) held mem

/-! ## Order in every run -/

/-- **Every run of a server is orderly**, whatever its clients do and in whatever order things
happen. The clients connected are those that were let in and that the service does not know to be
gone; they are never more than the limit, and none is taken off a count of zero. Events wait for the
service only of these, one of each. Every client is sent replies that carry the transaction numbers
of its first requests, in their order; what it has taken and what waits for it are these replies.
Nothing is seen of a client, and so nothing is processed for it, after the service has heard that it
is gone, and it has no lock from then on. -/
theorem orderly_run (driver : Driver σ) {limit : Nat} {world : World σ} {log : List Sight}
    {taken : List (Nat × Bytes)} {s : Server (World σ)}
    (run : Run (readerHost driver) (.new limit world) log taken s) :
    s.connected = (present log).length ∧ s.connected ≤ max limit 1 ∧
    (∀ peer queue, s.queue = .closed peer :: queue → 0 < s.connected) ∧
    s.queue.length ≤ s.connected ∧
    (∀ n, (packets n log).map xid? <+: (requests n log).map fun request => some request.1) ∧
    (∀ n c, s.connections[n]? = some c →
      takenBy n taken ++ c.outbound = (packets n log).flatten) ∧
    (∀ before after, log = before ++ after → ∀ peer, Sight.closed peer ∈ before →
      ∀ seen ∈ after, seen.client ≠ peer.id) ∧
    ∀ peer, Sight.closed peer ∈ log → ∀ held ∈ s.world.locks.held, held.owner ≠ peer.id := by
  have told := run.told
  have counted := run.counted
  refine ⟨counted.connected, counted.limit ▸ counted.room, ?_, counted.queue_le told, ?_,
    run.delivered.whole, ?_, ?_⟩
  · intro peer queue next
    exact (counted.closed told next s.world).1
  · intro n
    rcases Nat.lt_or_ge n s.accepted with inside | outside
    · obtain ⟨c, -, story⟩ := told.story_of_accepted inside
      obtain ⟨first, answers, served, due⟩ := story.served
      rw [packets, served.xids]
      exact due.requests_first.map _
    · rw [packets, (told.early n outside).1]
      exact List.nil_prefix
  · intro before after split peer gone
    exact told.nothing_after_closed split gone
  · intro peer gone
    exact run.released peer.id (mem_closedIn.mpr ⟨peer, gone, rfl⟩)

def idleWorld : World Unit :=
  Service.start ⟨"Minimal reader", .displayAndKeypad, [.unknown 0x00, .unknown 0x32], none⟩
    none [] (fun _ => .ok ()) ()

/-- A packet that asks for an exclusive lock on the first slot. -/
def lockPacket : Bytes :=
  Header.encode (.request 7 5) order ++ [0x01, 0x00, 0x82, 0x01, 0x01]

/-- A client that takes the first slot for itself and is told so. -/
def lockTaken : List Sight × Server (World Unit) :=
  make (readerHost Minimal.driver) [.accept, .read 0, .handle, .write 0]
    ((connect 1000 (.new 1 idleWorld)).send 0 lockPacket)

def lockGivenUp : List Sight × Server (World Unit) :=
  make (readerHost Minimal.driver) [.read 0, .handle] (lockTaken.2.hangUp 0)

theorem lockTaken_run :
    Run (readerHost Minimal.driver) (.new 1 idleWorld) lockTaken.1 [] lockTaken.2 :=
  ((Run.start.step (.connect 1000)).step (.send 0 lockPacket)).make
    [.accept, .read 0, .handle, .write 0]

/-- The lock is there while the client is, and given up after it. -/
theorem orderly_run_locking :
    Run (readerHost Minimal.driver) (.new 1 idleWorld)
      (lockTaken.1 ++ lockGivenUp.1) [] lockGivenUp.2 ∧
    (packets 0 lockTaken.1).map xid? = [some 7] ∧
    lockTaken.2.world.locks.held = [⟨0, 1000, 0, .exclusive, 1⟩] ∧
    ∀ held ∈ lockGivenUp.2.world.locks.held, held.owner ≠ 0 := by
  have run : Run (readerHost Minimal.driver) (.new 1 idleWorld)
      (lockTaken.1 ++ lockGivenUp.1) [] lockGivenUp.2 := by
    have onward := (lockTaken_run.step (.hangUp 0)).make [.read 0, .handle]
    rwa [List.append_nil] at onward
  have gone : 0 ∈ closedIn (lockTaken.1 ++ lockGivenUp.1) := by decide +kernel
  obtain ⟨peer, mem, same⟩ := mem_closedIn.mp gone
  obtain ⟨-, -, -, -, -, -, -, released⟩ := orderly_run Minimal.driver run
  exact ⟨run, by decide +kernel, by decide +kernel, same ▸ released peer mem⟩

end Reader

end Server

end CardTerminal
