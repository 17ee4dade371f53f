import CardTerminal.Proofs.Server.Run
import Mathlib.Algebra.Order.Ring.Nat

/-!
A server that is left to itself comes to rest.

Every move uses up some of what there is to do: a client to let in, bytes to read, an event to
handle, an answer to write (`toDo_of_made`). So whatever moves are made, only so many can follow one
another before clients do something again. In particular the moves that `settle` makes are enough
(`settle_rests`). At rest the queue is empty, or the service is at a request that it never answers
(`AtRest.queue`); connections are read as far as there is a packet (`AtRest.nothing_to_read`), and
none has an answer to write (`AtRest.not_replying`).
-/

namespace CardTerminal.Server

variable {ω : Type} {host : Host ω} {s s' : Server ω} {seen : List Sight} {n : Nat}

/-- What a connection has to do apart from its packets. -/
def Task.toDo : Task → Nat
  | .reading => 2
  | .awaiting _ | .replying _ _ => 3
  | .ended => 0

def Connection.toDo (c : Connection) : Nat :=
  3 * c.inbound.length + c.task.toDo

def toDo (s : Server ω) : Nat :=
  s.queue.length + (s.connections.map Connection.toDo).sum + (s.connections.length - s.accepted)

/-- No move can happen. -/
def AtRest (host : Host ω) (s : Server ω) : Prop :=
  ∀ m, s.move host m = none

/-! ## Every move uses something up -/

theorem sum_map_modify {α : Type} {l : List α} {n : Nat} {a : α} (found : l[n]? = some a)
    (f : α → α) (g : α → Nat) :
    ((l.modify n f).map g).sum + g a = (l.map g).sum + g (f a) := by
  induction l generalizing n with
  | nil => cases found
  | cons b l ih =>
    cases n with
    | zero =>
      obtain rfl : b = a := Option.some.inj found
      simp only [List.modify_zero_cons, List.map_cons, List.sum_cons]
      omega
    | succ n =>
      have rest := ih (n := n) found
      simp only [List.modify_succ_cons, List.map_cons, List.sum_cons]
      omega

theorem sum_toDo_modify {c : Connection} (found : s.connections[n]? = some c)
    (f : Connection → Connection) :
    ((s.modify n f).connections.map Connection.toDo).sum + c.toDo =
      (s.connections.map Connection.toDo).sum + (f c).toDo :=
  sum_map_modify found f Connection.toDo

theorem toDo_deliver (answer : Except Error Bytes) (c : Connection) :
    (deliver answer c).toDo = c.toDo := by
  obtain ⟨uid, task, inbound, outbound, hungUp⟩ := c
  cases task <;> rfl

theorem sum_toDo_deliver (s : Server ω) (n : Nat) (answer : Except Error Bytes) :
    ((s.modify n (deliver answer)).connections.map Connection.toDo).sum =
      (s.connections.map Connection.toDo).sum := by
  cases found : s.connections[n]? with
  | none =>
    rw [modify, List.modify_eq_self (List.getElem?_eq_none_iff.mp found)]
  | some c =>
    have same := sum_toDo_modify found (deliver answer)
    rw [toDo_deliver] at same
    omega

theorem length_of_split {bytes payload rest : Bytes} {header : Header}
    (whole : Packet.split order bytes = some (header, payload, rest)) :
    rest.length + Header.size ≤ bytes.length := by
  unfold Packet.split at whole
  split at whole
  · cases whole
  · next decoded =>
    have long : Header.size ≤ bytes.length := by
      unfold Header.decode at decoded
      split at decoded
      · simp [Header.size]
      · cases decoded
    simp only at whole
    split at whole
    · cases whole
      simp only [List.length_drop]
      omega
    · cases whole

theorem Connection.Fails.toDo {c : Connection} (fails : c.Fails) : 2 ≤ c.task.toDo := by
  rcases fails with ⟨reading, -⟩ | ⟨xid, answer, replying, -⟩
  · simp [reading, Task.toDo]
  · simp [replying, Task.toDo]

/-- **Every move leaves less to do.** -/
theorem toDo_of_made (made : Made host s seen s') : s'.toDo < s.toDo := by
  cases made with
  | accept room waiting =>
    simp only [toDo]
    omega
  | @read n c header payload rest inside found reading whole =>
    have sum := sum_toDo_modify found fun c =>
      { c with task := .awaiting header.xid, inbound := rest }
    -- The header that is read pays for the queued event and for what awaiting takes.
    have shorter := length_of_split whole
    simp only [Connection.toDo, reading, Task.toDo, Header.size] at sum shorter
    simp only [toDo, length_modify, accepted_modify, List.length_append, List.length_singleton]
    omega
  | @process peer payload queue answer world next answered =>
    have sum := sum_toDo_deliver s peer.id answer
    simp only [toDo, next, sum, length_modify, accepted_modify, List.length_cons]
    omega
  | @write n c xid answer packet inside found replying framed =>
    have sum := sum_toDo_modify found fun c =>
      { c with task := .reading, outbound := c.outbound ++ packet }
    simp only [Connection.toDo, replying, Task.toDo] at sum
    simp only [toDo, length_modify, accepted_modify, queue_modify]
    omega
  | @fail n c inside found fails =>
    have sum := sum_toDo_modify found fun c => { c with task := .ended }
    have some := fails.toDo
    simp only [Connection.toDo, Task.toDo] at sum some
    simp only [toDo, finish, length_modify, accepted_modify, List.length_append,
      List.length_singleton]
    omega
  | @closed peer queue next =>
    simp only [toDo, next, List.length_cons]
    omega

/-! ## Settling -/

/-- What there is to do is less than the effort that a server is given to settle. -/
theorem toDo_le_effort (s : Server ω) : s.toDo ≤ s.effort := by
  -- The six of each connection cover its task and letting it in.
  have fold (connections : List Connection) (start : Nat) :
      start + (connections.map Connection.toDo).sum + connections.length ≤
        connections.foldl (fun n c => n + 3 * c.inbound.length + 6) start := by
    induction connections generalizing start with
    | nil => exact Nat.le_refl _
    | cons c rest ih =>
      have more := ih (start + 3 * c.inbound.length + 6)
      have small : c.task.toDo ≤ 3 := by cases c.task <;> simp [Task.toDo]
      simp only [List.map_cons, List.sum_cons, List.length_cons, List.foldl_cons, Connection.toDo]
      omega
  calc s.toDo
      ≤ s.queue.length + (s.connections.map Connection.toDo).sum + s.connections.length :=
        Nat.add_le_add_left (Nat.sub_le _ _) _
    _ ≤ s.effort := fold s.connections s.queue.length

theorem atRest_of_moves (none : s.moves.findSome? (s.move host) = none) : AtRest host s := by
  rw [List.findSome?_eq_none_iff] at none
  intro m
  cases m with
  | accept => exact none _ (by simp [moves])
  | handle => exact none _ (by simp [moves])
  | read n =>
    by_cases inside : n < s.accepted
    · exact none _ (by simp [moves, inside])
    · simp only [move, if_neg inside]
  | write n =>
    by_cases inside : n < s.accepted
    · exact none _ (by simp [moves, inside])
    · simp only [move, if_neg inside]

theorem settleWithin_rests (host : Host ω) {budget : Nat} {s : Server ω}
    (enough : s.toDo ≤ budget) : AtRest host (settleWithin host budget s) := by
  induction budget generalizing s with
  | zero =>
    intro m
    cases can : s.move host m with
    | none => exact can
    | some s' => exact absurd (toDo_of_made (made_of_move can)) (by omega)
  | succ budget ih =>
    unfold settleWithin
    split
    · next s' found =>
      obtain ⟨m, -, can⟩ := List.exists_of_findSome?_eq_some found
      have less := toDo_of_made (made_of_move can)
      exact ih (by omega)
    · next none => exact atRest_of_moves none

/-- **A server that settles comes to rest.** -/
theorem settle_rests (host : Host ω) (s : Server ω) : AtRest host (s.settle host) :=
  settleWithin_rests host s.toDo_le_effort

/-- The service is at a request that it never answers. -/
def Busy (host : Host ω) (s : Server ω) : Prop :=
  ∃ peer payload queue, s.queue = .request peer payload :: queue ∧
    host.process peer payload s.world = none

theorem AtRest.queue (rest : AtRest host s) : s.queue = [] ∨ Busy host s := by
  have still := rest .handle
  cases next : s.queue with
  | nil => exact .inl rfl
  | cons e queue =>
    cases e with
    | request peer payload =>
      simp only [move, handle, next, Option.map_eq_none_iff] at still
      exact .inr ⟨peer, payload, queue, next, still⟩
    | closed peer =>
      simp only [move, handle, next] at still
      cases still

theorem AtRest.nothing_to_read (rest : AtRest host s) {c : Connection} (inside : n < s.accepted)
    (found : s.connections[n]? = some c) (reading : c.task = .reading) :
    Packet.split order c.inbound = none := by
  have still := rest (.read n)
  simp only [move, if_pos inside, found, Option.bind_some, read, reading] at still
  cases whole : Packet.split order c.inbound with
  | none => rfl
  | some packet =>
    rw [whole] at still
    cases still

theorem AtRest.not_replying (rest : AtRest host s) {c : Connection} (inside : n < s.accepted)
    (found : s.connections[n]? = some c) {xid : UInt32} {answer : Except Error Bytes} :
    c.task ≠ .replying xid answer := by
  intro replying
  have still := rest (.write n)
  simp only [move, if_pos inside, found, Option.bind_some, write, replying] at still
  split at still <;> cases still

end CardTerminal.Server
