import CardTerminal.Proofs.Server.Run

/-!
How the packets that a client is sent belong to those that it sent.

The packets written to a client answer the packets read from it one by one, from the first on, each
with the transaction number of its request and with what the service made of its payload (`Served`).
At any time all of them are answered but the last, and what is left to do about the last one shows
from what the connection is at (`Due`).

The bytes that a client has taken, and those that wait for it, are these packets and nothing else
(`Delivered`).

Main statements: `Story.served` and `Run.delivered`.
-/

namespace CardTerminal.Server

/-- The number and payload of a packet that is read. -/
def Sight.request? : Sight → Option (UInt32 × Bytes)
  | read _ xid payload => some (xid, payload)
  | _ => none

/-- The payload that the service is given, and its answer. -/
def Sight.answer? : Sight → Option (Bytes × Except Error Bytes)
  | processed _ payload answer => some (payload, answer)
  | _ => none

def Sight.packet? : Sight → Option Bytes
  | wrote _ packet => some packet
  | _ => none

def requests (n : Nat) (log : List Sight) : List (UInt32 × Bytes) :=
  (about n log).filterMap Sight.request?

def answers (n : Nat) (log : List Sight) : List (Bytes × Except Error Bytes) :=
  (about n log).filterMap Sight.answer?

def packets (n : Nat) (log : List Sight) : List Bytes :=
  (about n log).filterMap Sight.packet?

def xid? (packet : Bytes) : Option UInt32 :=
  (Header.decode order packet).map Header.xid

theorem xid?_of_frame {header : Header} {body packet : Bytes}
    (framed : Packet.frame header body order = .ok packet) : xid? packet = some header.xid := by
  unfold Packet.frame at framed
  split at framed
  · cases framed
    simp [xid?, Header.decode_encode]
  · cases framed

theorem xid?_replyPacket {xid : UInt32} {answer : Except Error Bytes} {packet : Bytes}
    (framed : replyPacket xid answer = .ok packet) : xid? packet = some xid := by
  cases answer with
  | ok body => exact xid?_of_frame framed
  | error e => exact xid?_of_frame framed

/-- Requests, the answers to them and the packets that carry these, one for one. -/
inductive Served :
    List (UInt32 × Bytes) → List (Bytes × Except Error Bytes) → List Bytes → Prop where
  | none : Served [] [] []
  | more {requests : List (UInt32 × Bytes)} {answers : List (Bytes × Except Error Bytes)}
    {packets : List Bytes} (served : Served requests answers packets) {xid : UInt32}
    {answer : Except Error Bytes} {packet : Bytes} (payload : Bytes)
    (framed : replyPacket xid answer = .ok packet) :
    Served (requests ++ [(xid, payload)]) (answers ++ [(payload, answer)]) (packets ++ [packet])

theorem Served.xids {requests : List (UInt32 × Bytes)} {answers : List (Bytes × Except Error Bytes)}
    {packets : List Bytes} (served : Served requests answers packets) :
    packets.map xid? = requests.map (fun request => some request.1) := by
  induction served with
  | none => rfl
  | more served payload framed ih => simp [ih, xid?_replyPacket framed]

/-- What is there of a client's requests and answers beyond those that were served. -/
def Due (own : List Sight) (events : List Event) (task : Task) (requests : List (UInt32 × Bytes))
    (answers : List (Bytes × Except Error Bytes)) : Prop :=
  let read := own.filterMap Sight.request?
  let answered := own.filterMap Sight.answer?
  match task with
  | .reading => read = requests ∧ answered = answers
  | .awaiting xid => ∃ peer payload,
    events = [.request peer payload] ∧ read = requests ++ [(xid, payload)] ∧ answered = answers
  | .replying xid answer => ∃ payload,
    read = requests ++ [(xid, payload)] ∧ answered = answers ++ [(payload, answer)]
  | .ended => read = requests ∧ answered = answers ∨
    ∃ xid payload answer,
      read = requests ++ [(xid, payload)] ∧ answered = answers ++ [(payload, answer)]

theorem Due.ended {own : List Sight} {task : Task} {requests : List (UInt32 × Bytes)}
    {answers : List (Bytes × Except Error Bytes)} (due : Due own [] task requests answers)
    (faces : task.Faces) (events : List Event) : Due own events .ended requests answers := by
  cases task with
  | reading => exact .inl due
  | replying xid answer =>
    obtain ⟨payload, read, answered⟩ := due
    exact .inr ⟨xid, payload, answer, read, answered⟩
  | awaiting xid => exact faces.elim
  | ended => exact faces.elim

/-- At most the last request is unanswered. -/
theorem Due.requests_first {own : List Sight} {events : List Event} {task : Task}
    {requests : List (UInt32 × Bytes)} {answers : List (Bytes × Except Error Bytes)}
    (due : Due own events task requests answers) :
    requests <+: own.filterMap Sight.request? := by
  have exact' (read : own.filterMap Sight.request? = requests) :
      requests <+: own.filterMap Sight.request? := read ▸ List.prefix_refl _
  have oneMore (last : UInt32 × Bytes)
      (read : own.filterMap Sight.request? = requests ++ [last]) :
      requests <+: own.filterMap Sight.request? := read ▸ List.prefix_append _ _
  cases task with
  | reading => exact exact' due.1
  | awaiting xid =>
    obtain ⟨-, payload, -, read, -⟩ := due
    exact oneMore _ read
  | replying xid answer =>
    obtain ⟨payload, read, -⟩ := due
    exact oneMore _ read
  | ended =>
    rcases due with ⟨read, -⟩ | ⟨xid, payload, answer, read, -⟩
    · exact exact' read
    · exact oneMore _ read

/-- **The packets written to a client answer its requests**, one for one and from the first on. -/
theorem Story.served {n : Nat} {uid : UInt32} {own : List Sight} {events : List Event} {task : Task}
    (story : Story n uid own events task) :
    ∃ requests answers, Served requests answers (own.filterMap Sight.packet?) ∧
      Due own events task requests answers := by
  induction story with
  | asked => exact ⟨[], [], .none, rfl, rfl⟩
  | accepted => exact ⟨[], [], .none, rfl, rfl⟩
  | read story xid payload ih =>
    obtain ⟨requests, answers, served, read, answered⟩ := ih
    refine ⟨requests, answers, ?_, _, payload, rfl, ?_, ?_⟩
    · simpa [Sight.packet?, List.filterMap_cons] using served
    · simp [Sight.request?, read]
    · simp [Sight.answer?, answered, List.filterMap_cons]
  | @processed own xid payload story answer ih =>
    obtain ⟨requests, answers, served, peer, payload', queued, read, answered⟩ := ih
    -- The payload that is processed is that of the request which is due.
    obtain ⟨-, rfl⟩ := Event.request.inj (List.singleton_inj.mp queued)
    refine ⟨requests, answers, ?_, payload, ?_, ?_⟩
    · simpa [Sight.packet?, List.filterMap_cons] using served
    · simp [Sight.request?, read, List.filterMap_cons]
    · simp [Sight.answer?, answered]
  | wrote story framed ih =>
    obtain ⟨requests, answers, served, payload, read, answered⟩ := ih
    refine ⟨_, _, ?_, rfl, rfl⟩
    simpa [Sight.request?, Sight.answer?, Sight.packet?, read, answered, List.filterMap_cons] using
      served.more payload framed
  | ended story faces ih =>
    obtain ⟨requests, answers, served, due⟩ := ih
    exact ⟨requests, answers, served, due.ended faces _⟩
  | broken story faces ih =>
    obtain ⟨requests, answers, served, due⟩ := ih
    refine ⟨requests, answers, ?_, ?_⟩
    · simpa [Sight.packet?, List.filterMap_cons] using served
    · simpa [Due, Sight.request?, Sight.answer?, List.filterMap_cons] using due.ended faces []
  | closed story ih =>
    obtain ⟨requests, answers, served, due⟩ := ih
    refine ⟨requests, answers, ?_, ?_⟩
    · simpa [Sight.packet?, List.filterMap_cons] using served
    · simpa [Due, Sight.request?, Sight.answer?, List.filterMap_cons] using due

/-! ## What reaches the client -/

variable {ω : Type} {host : Host ω} {s s' : Server ω} {log seen : List Sight}
  {taken more : List (Nat × Bytes)}

/-- The bytes that a client has taken. -/
def takenBy (n : Nat) (taken : List (Nat × Bytes)) : Bytes :=
  (taken.filter (·.1 = n)).flatMap (·.2)

theorem takenBy_append (n : Nat) (taken more : List (Nat × Bytes)) :
    takenBy n (taken ++ more) = takenBy n taken ++ takenBy n more := by
  rw [takenBy, List.filter_append, List.flatMap_append]
  rfl

theorem takenBy_self (n : Nat) (bytes : Bytes) : takenBy n [(n, bytes)] = bytes := by
  simp [takenBy]

theorem takenBy_of_ne {m n : Nat} (other : m ≠ n) (bytes : Bytes) :
    takenBy m [(n, bytes)] = [] := by
  simp [takenBy, other.symm]

theorem packets_append (n : Nat) (log seen : List Sight) :
    packets n (log ++ seen) = packets n log ++ packets n seen := by
  rw [packets, about_append, List.filterMap_append]
  rfl

theorem packets_of_none (n : Nat) (silent : ∀ x ∈ seen, x.packet? = none) :
    packets n seen = [] :=
  List.filterMap_eq_nil_iff.mpr fun x mem => silent x (mem_about.mp mem).1

/-- What a client has taken and what waits for it are the packets written to it, whole and in
order. -/
structure Delivered (log : List Sight) (taken : List (Nat × Bytes)) (s : Server ω) : Prop where
  early : ∀ n, s.connections.length ≤ n → takenBy n taken = []
  whole : ∀ n c, s.connections[n]? = some c →
    takenBy n taken ++ c.outbound = (packets n log).flatten

namespace Delivered

/-- As long as nothing is written and nothing is taken, there is nothing to deliver. -/
theorem quiet (delivered : Delivered log taken s) (told : Told log s)
    (silent : ∀ x ∈ seen, x.packet? = none)
    (length : s.connections.length ≤ s'.connections.length)
    (same : ∀ n c', s'.connections[n]? = some c' →
      (∃ c, s.connections[n]? = some c ∧ c'.outbound = c.outbound) ∨
        s.connections.length ≤ n ∧ c'.outbound = []) :
    Delivered (log ++ seen) (taken ++ []) s' where
  early n outside := by
    rw [List.append_nil]
    exact delivered.early n (Nat.le_trans length outside)
  whole n c' found := by
    rw [List.append_nil, packets_append, packets_of_none n silent, List.append_nil]
    rcases same n c' found with ⟨c, found, outbound⟩ | ⟨new, nothing⟩
    · rw [outbound]
      exact delivered.whole n c found
    · rw [delivered.early n new, nothing, packets,
        (told.early n (Nat.le_trans told.fits new)).1]
      rfl

/-- A connection that is changed at its near end, but nothing is written to it. -/
theorem modify (delivered : Delivered log taken s) (told : Told log s)
    (silent : ∀ x ∈ seen, x.packet? = none) {n : Nat} {f : Connection → Connection}
    (connections : s'.connections = (s.modify n f).connections)
    (keeps : ∀ c, (f c).outbound = c.outbound) :
    Delivered (log ++ seen) (taken ++ []) s' := by
  have length : s.connections.length = s'.connections.length := by
    rw [connections, length_modify]
  refine delivered.quiet told silent (Nat.le_of_eq length) fun m c' found => ?_
  rw [connections, getElem?_modify] at found
  by_cases here : n = m
  · rw [if_pos here] at found
    obtain ⟨c, old, rfl⟩ := Option.map_eq_some_iff.mp found
    exact .inl ⟨c, old, keeps c⟩
  · rw [if_neg here] at found
    exact .inl ⟨c', found, rfl⟩

theorem made (delivered : Delivered log taken s) (told : Told log s) (made : Made host s seen s') :
    Delivered (log ++ seen) (taken ++ []) s' := by
  cases made with
  | accept room waiting =>
    exact delivered.quiet told (by simp [Sight.packet?]) (Nat.le_refl _) fun n c found =>
      .inl ⟨c, found, rfl⟩
  | read inside found reading whole =>
    exact delivered.modify told (by simp [Sight.packet?]) rfl fun _ => rfl
  | @process peer payload queue answer world next answered =>
    refine delivered.modify told (f := deliver answer) (by simp [Sight.packet?]) rfl fun c => ?_
    unfold deliver
    split <;> rfl
  | @write n c xid answer packet inside found replying framed =>
    refine ⟨fun m outside => ?_, fun m c' found' => ?_⟩
    · rw [length_modify] at outside
      rw [List.append_nil]
      exact delivered.early m outside
    · rw [List.append_nil, packets_append]
      by_cases here : m = n
      · -- The packet is written behind those that the client has not taken.
        subst here
        rw [getElem?_modify_self found] at found'
        obtain rfl := Option.some.inj found'
        have own : packets m [Sight.wrote m packet] = [packet] := by
          simp [packets, about, Sight.client, Sight.packet?]
        rw [own, List.flatten_concat, ← delivered.whole m c found, List.append_assoc]
      · rw [getElem?_modify_of_ne here] at found'
        have none : packets m [Sight.wrote n packet] = [] := by
          rw [packets, about_of_other (by simp [Sight.client]) here]
          rfl
        rw [none, List.append_nil]
        exact delivered.whole m c' found'
  | fail inside found fails =>
    exact delivered.modify told (fun x mem => by cases mem) rfl fun _ => rfl
  | closed next =>
    exact delivered.quiet told (by simp [Sight.packet?]) (Nat.le_refl _) fun n c found =>
      .inl ⟨c, found, rfl⟩

theorem receive (delivered : Delivered log taken s) {n : Nat} {c : Connection}
    {front rest : Bytes} (found : s.connections[n]? = some c)
    (written : c.outbound = front ++ rest) :
    Delivered (log ++ []) (taken ++ [(n, front)])
      (s.modify n fun c => { c with outbound := rest }) where
  early m outside := by
    rw [length_modify] at outside
    have inside := (List.getElem?_eq_some_iff.mp found).1
    have other : m ≠ n := by omega
    rw [takenBy_append, takenBy_of_ne other, List.append_nil]
    exact delivered.early m outside
  whole m c' found' := by
    rw [takenBy_append, List.append_nil]
    by_cases here : m = n
    · subst here
      rw [getElem?_modify_self found] at found'
      obtain rfl := Option.some.inj found'
      rw [takenBy_self, List.append_assoc, ← delivered.whole m c found, written]
    · rw [getElem?_modify_of_ne here] at found'
      rw [takenBy_of_ne here, List.append_nil]
      exact delivered.whole m c' found'

theorem step (delivered : Delivered log taken s) (told : Told log s)
    (step : Step host s seen more s') : Delivered (log ++ seen) (taken ++ more) s' := by
  cases step with
  | move can => exact delivered.made told (made_of_move can)
  | connect uid =>
    refine delivered.quiet told (by simp) (by simp [connect]) fun n c found => ?_
    rcases Nat.lt_or_ge n s.connections.length with old | new
    · rw [connect, List.getElem?_append_left old] at found
      exact .inl ⟨c, found, rfl⟩
    · rw [connect, List.getElem?_append_right new] at found
      obtain rfl := List.mem_singleton.mp (List.mem_of_getElem? found)
      exact .inr ⟨new, rfl⟩
  | send n bytes => exact delivered.modify told (by simp) rfl fun _ => rfl
  | receive found written => exact delivered.receive found written
  | hangUp n => exact delivered.modify told (by simp) rfl fun _ => rfl
  | breakOff inside found faces =>
    exact delivered.modify told (by simp [Sight.packet?]) rfl fun _ => rfl
  | stir stirred =>
    exact delivered.quiet told (by simp) (Nat.le_refl _) fun n c found => .inl ⟨c, found, rfl⟩

end Delivered

/-- **What reaches a client are the packets written to it**, whole and in order. -/
theorem Run.delivered {limit : Nat} {world : ω} (run : Run host (.new limit world) log taken s) :
    Delivered log taken s := by
  induction run with
  | start => exact ⟨fun _ _ => rfl, fun n c found => by cases found⟩
  | step run step ih => exact ih.step run.told step

end CardTerminal.Server
