import CardTerminal.Proofs.Server.Discipline
import CardTerminal.Proofs.Server.Rest
import CardTerminal.Proofs.Service.Answers

/-!
Who is answered.

An answer that fits into a packet reaches the client, and every error does. One that does not fit
ends the connection instead, and the client hears nothing (`Run.excused`). Only the answer of a card
to a command can be so long.

Main statement: `answered_unless_oversized`.
-/

namespace CardTerminal.Server

open Service

section Ends

variable {ω : Type} {host : Host ω} {s s' : Server ω} {seen log : List Sight}
  {taken : List (Nat × Bytes)} {n : Nat}

def Sight.broken? : Sight → Option Nat
  | broken n => some n
  | _ => none

def brokenIn (log : List Sight) : List Nat :=
  log.filterMap Sight.broken?

/-- The service answered a request of this client with more than a packet can hold. -/
def Oversized (n : Nat) (log : List Sight) : Prop :=
  ∃ payload body, (payload, .ok body) ∈ answers n log ∧ Packet.maxPayload < body.length

/-- There is a reason why a connection has ended: the client is gone, its socket failed, or it had
to be given an oversized answer. -/
def Excused (n : Nat) (c : Connection) (log : List Sight) : Prop :=
  c.hungUp = true ∨ n ∈ brokenIn log ∨ Oversized n log

/-- Just the answers that are too long make no packet. -/
theorem replyPacket_eq_error {xid : UInt32} {answer : Except Error Bytes} {e : Error}
    (unframed : replyPacket xid answer = .error e) :
    ∃ body, answer = .ok body ∧ Packet.maxPayload < body.length := by
  cases answer with
  | ok body =>
    refine ⟨body, rfl, ?_⟩
    simp only [replyPacket, Packet.frame] at unframed
    split at unframed
    · cases unframed
    · omega
  | error e' =>
    simp only [replyPacket, Packet.frame] at unframed
    cases unframed

theorem replyPacket_of_oversized (xid : UInt32) {body : Bytes}
    (long : Packet.maxPayload < body.length) :
    replyPacket xid (.ok body) = .error (.packetTooLarge body.length) :=
  if_neg (Nat.not_le.mpr long)

theorem Excused.later {c c' : Connection} (excused : Excused n c log)
    (hungUp : c.hungUp = true → c'.hungUp = true) : Excused n c' (log ++ seen) := by
  rcases excused with gone | broken | ⟨payload, body, answered, long⟩
  · exact .inl (hungUp gone)
  · refine .inr (.inl ?_)
    rw [brokenIn, List.filterMap_append]
    exact List.mem_append_left _ broken
  · refine .inr (.inr ⟨payload, body, ?_, long⟩)
    rw [answers, about_append, List.filterMap_append]
    exact List.mem_append_left _ answered

theorem Told.mem_answers (told : Told log s) {c : Connection} (found : s.connections[n]? = some c)
    {xid : UInt32} {answer : Except Error Bytes} (replying : c.task = .replying xid answer) :
    ∃ payload, (payload, answer) ∈ answers n log := by
  obtain ⟨requests, earlier, -, due⟩ := (told.story n c found).served
  rw [replying] at due
  obtain ⟨payload, -, answered⟩ := due
  exact ⟨payload, by rw [answers, answered]; simp⟩

theorem Told.excused_of_fails (told : Told log s) {c : Connection}
    (found : s.connections[n]? = some c) (fails : c.Fails) : Excused n c log := by
  rcases fails with ⟨-, gone⟩ | ⟨xid, answer, replying, gone | ⟨e, unframed⟩⟩
  · exact .inl gone
  · exact .inl gone
  · obtain ⟨payload, answered⟩ := told.mem_answers found replying
    obtain ⟨body, rfl, long⟩ := replyPacket_eq_error unframed
    exact .inr (.inr ⟨payload, body, answered, long⟩)

/-- A connection that is changed and ends is excused, if all that ended before were. -/
theorem excused_modify {f : Connection → Connection}
    (before : ∀ n c, s.connections[n]? = some c → c.task = .ended → Excused n c log)
    (changed : ∀ c, s.connections[n]? = some c → (f c).task = .ended →
      Excused n (f c) (log ++ seen))
    (m : Nat) (c' : Connection) (found : (s.modify n f).connections[m]? = some c')
    (ended : c'.task = .ended) : Excused m c' (log ++ seen) := by
  rw [getElem?_modify] at found
  by_cases same : n = m
  · obtain rfl := same
    rw [if_pos rfl] at found
    obtain ⟨c, found', rfl⟩ := Option.map_eq_some_iff.mp found
    exact changed c found' ended
  · rw [if_neg same] at found
    exact (before m c' found ended).later id

/-- **No connection ends without a reason.** -/
theorem Run.excused {limit : Nat} {world : ω} (run : Run host (.new limit world) log taken s) :
    ∀ n c, s.connections[n]? = some c → c.task = .ended → Excused n c log := by
  induction run with
  | start =>
    intro n c found
    cases found
  | @step log seen taken more s s' run step ih =>
    have told := run.told
    cases step.change with
    | outside out same =>
      intro n c' found ended
      rcases out.connection n c' found with ⟨c, found', -, task, hungUp⟩ | ⟨-, reading⟩
      · exact (ih n c found' (task ▸ ended)).later hungUp
      · rw [reading] at ended
        cases ended
    | stir stirred => exact fun n c found ended => (ih n c found ended).later id
    | breakOff inside found faces =>
      refine excused_modify ih fun c found ended => ?_
      refine .inr (.inl ?_)
      rw [brokenIn, List.filterMap_append]
      exact List.mem_append_right _ (List.mem_singleton.mpr rfl)
    | made made =>
      cases made with
      | accept room waiting => exact fun n c found ended => (ih n c found ended).later id
      | read inside found reading whole =>
        exact excused_modify ih fun c found ended => by cases ended
      | process next answered =>
        refine excused_modify ih fun c found ended => ?_
        -- Handing an answer over ends no connection.
        unfold deliver at ended ⊢
        split at ended
        · cases ended
        · exact (ih _ c found ended).later id
      | write inside found replying framed =>
        exact excused_modify ih fun c found ended => by cases ended
      | @fail n c inside found fails =>
        refine excused_modify ih fun c' found' ended => ?_
        obtain rfl : c = c' := Option.some.inj (found.symm.trans found')
        exact (told.excused_of_fails found fails).later id
      | closed next => exact fun n c found ended => (ih n c found ended).later id

/-- At rest, every request of a connection that has not ended is read and answered, unless the
service is busy. -/
theorem Told.served_at_rest (told : Told log s) (rest : AtRest host s) (free : ¬ Busy host s)
    {c : Connection} (inside : n < s.accepted) (found : s.connections[n]? = some c)
    (goesOn : c.task ≠ .ended) :
    Packet.split order c.inbound = none ∧
      Served (requests n log) (answers n log) (packets n log) := by
  have nothing : pending n s.queue = [] := by
    rw [rest.queue.resolve_right free]
    rfl
  have story := told.story n c found
  rw [nothing] at story
  obtain ⟨first, earlier, served, due⟩ := story.served
  cases task : c.task with
  | reading =>
    rw [task] at due
    obtain ⟨rfl, rfl⟩ := due
    exact ⟨rest.nothing_to_read inside found task, served⟩
  | awaiting xid =>
    rw [task] at due
    obtain ⟨peer, payload, queued, -⟩ := due
    cases queued
  | replying xid answer => exact absurd task (rest.not_replying inside found)
  | ended => exact absurd task goesOn

end Ends

/-- **Every request that comes to an end is answered, unless the answer is oversized.** An answer
fits into a packet, except perhaps that of a card to a command, over an engine whose answers may be
of any length; and only a command over an engine that may go on for ever has no answer.

However a server came to where it is, every move leaves less to do, and what a client has taken and
what waits for it are the packets written to it. A client that is there and whose socket works has
been given an oversized answer, which ends its connection without a word, or its connection goes on:
when no move is left and the service is not at a command that never ends, all the packets that the
client sent are read, and those written to it answer them one for one. -/
theorem answered_unless_oversized {σ : Type} (driver : Driver σ) :
    (∀ peer payload w body w', Service.process driver peer payload w = .ok (some body) w' →
      body.length ≤ Packet.maxPayload ∨
        ∃ slot command, w.orderOf peer payload = .ok (.transact slot command) ∧
          w.service.reader.Talks slot Engine.Unbounded) ∧
    (∀ peer payload w w', Service.process driver peer payload w = .ok none w' →
      ∃ slot command, w.orderOf peer payload = .ok (.transact slot command) ∧
        w.service.reader.Talks slot Engine.Endless) ∧
    ∀ limit world log taken s, Run (readerHost driver) (.new limit world) log taken s →
      (∀ m s', s.move (readerHost driver) m = some s' → s'.toDo < s.toDo) ∧
      (∀ n c, s.connections[n]? = some c →
        takenBy n taken ++ c.outbound = (packets n log).flatten) ∧
      ∀ n c, n < s.accepted → s.connections[n]? = some c → c.hungUp = false →
        n ∉ brokenIn log →
        (∀ xid body, c.task = .replying xid (.ok body) → Packet.maxPayload < body.length →
          s.move (readerHost driver) (.write n) = some (s.finish ⟨n, c.uid⟩)) ∧
        (Oversized n log ∨ n ∉ closedIn log ∧ c.task ≠ .ended ∧
          (AtRest (readerHost driver) s → Busy (readerHost driver) s ∨
            Packet.split order c.inbound = none ∧
              Served (requests n log) (answers n log) (packets n log))) := by
  refine ⟨fun peer payload w body w' => length_of_process,
    fun peer payload w w' => endless_of_process, fun limit world log taken s run => ?_⟩
  have told := run.told
  refine ⟨fun m s' can => toDo_of_made (made_of_move can), run.delivered.whole,
    fun n c inside found here works => ⟨fun xid body replying long => ?_, ?_⟩⟩
  · simp only [move, if_pos inside, found, Option.bind_some, write, replying,
      replyPacket_of_oversized xid long]
  · by_cases oversized : Oversized n log
    · exact .inl oversized
    · have goesOn : c.task ≠ .ended := by
        intro ended
        rcases run.excused n c found ended with gone | broken | long
        · rw [here] at gone
          cases gone
        · exact works broken
        · exact oversized long
      refine .inr ⟨told.not_closed found (.inr goesOn), goesOn, fun rest => ?_⟩
      exact (Classical.em (Busy (readerHost driver) s)).imp_right fun free =>
        told.served_at_rest rest free inside found goesOn

/-- The client that takes a lock is answered, and the answer is there to be taken. -/
theorem answered_unless_oversized_locking :
    Served (requests 0 lockTaken.1) (answers 0 lockTaken.1) (packets 0 lockTaken.1) ∧
      (requests 0 lockTaken.1).length = 1 ∧
      ∃ c, lockTaken.2.connections[0]? = some c ∧ c.outbound = (packets 0 lockTaken.1).flatten := by
  have inside : 0 < lockTaken.2.accepted := by decide +kernel
  have here : lockTaken.2.connections[0]?.map Connection.hungUp = some false := by decide +kernel
  obtain ⟨c, found, writable⟩ := Option.map_eq_some_iff.mp here
  have works : 0 ∉ brokenIn lockTaken.1 := by decide +kernel
  have rest : AtRest (readerHost Minimal.driver) lockTaken.2 :=
    atRest_of_moves (Option.isNone_iff_eq_none.mp (by decide +kernel))
  have short : ¬ Oversized 0 lockTaken.1 := by
    have fit : ((answers 0 lockTaken.1).all fun answer =>
        (answer.2.toOption.getD []).length ≤ Packet.maxPayload) = true := by decide +kernel
    rintro ⟨payload, body, answered, long⟩
    have bound := List.all_eq_true.mp fit _ answered
    exact absurd long (Nat.not_lt.mpr (of_decide_eq_true bound))
  have free : ¬ Busy (readerHost Minimal.driver) lockTaken.2 := by
    have empty : lockTaken.2.queue = [] := by decide +kernel
    rintro ⟨peer, payload, queue, next, -⟩
    rw [empty] at next
    cases next
  obtain ⟨-, -, onward⟩ := answered_unless_oversized Minimal.driver
  obtain ⟨-, whole, connections⟩ :=
    onward 1 idleWorld lockTaken.1 [] lockTaken.2 lockTaken_run
  obtain ⟨-, oversized | ⟨-, -, served⟩⟩ := connections 0 c inside found writable works
  · exact absurd oversized short
  · obtain ⟨-, served⟩ := (served rest).resolve_left free
    exact ⟨served, by decide +kernel, c, found, whole 0 c found⟩

end CardTerminal.Server
