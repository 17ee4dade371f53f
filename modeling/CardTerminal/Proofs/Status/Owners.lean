import CardTerminal.Proofs.Service.Publishing
import Mathlib.Logic.Function.Basic

/-!
Who owns a record of the status file.

Processes share the records and go by the numbers in them alone: a record belongs to the process
whose number it holds, as long as this process runs. Processes begin and die at any time, and one
that dies leaves its number behind. The file may hold anything to begin with.

What a process writes is in the record at once, and the flush behind it may still fail. Then the
process is told that it failed, and a claim leaves a record with the number of a process that does
not know it as its own.

A process that has claimed a record finds its own number there until it gives the record up
(`Sharing.Owned`). So whatever a process writes goes to a record that is its own or that it may take
(`Sharing.Owned.after_cases`), and to no record of another process that runs
(`Sharing.Owned.spares`).

Main statement: `records_not_stolen`, with what a successor finds in `records_not_stolen_succeeded`.
-/

namespace CardTerminal.Status

/-! ## Claims -/

/-- The process that holds this number runs. No process has a number that is too large. -/
def Holder.Sees (p : Holder) (pid : UInt32) : Prop :=
  pid.toNat ≤ maxPid ∧ p.runs pid = true

/-- The record is unused, the process's own, or that of a process that does not run. -/
def Record.Open (p : Holder) (r : Record) : Prop :=
  r.pid = 0 ∨ r.pid = p.self ∨ ¬ p.Sees r.pid

/-- The record that a claim takes: the one that it names, if this is open, or the first one that is
open, if it names none. -/
def Table.Takes (p : Holder) (t : Table) (index : Option Nat) (n : Nat) : Prop :=
  (∃ r, t[n]? = some r ∧ r.Open p) ∧
    match index with
    | some i => n = i
    | none => ∀ k < n, ∀ r, t[k]? = some r → ¬ r.Open p

theorem Record.isFree_iff {p : Holder} {r : Record} : r.isFree p = true ↔ r.Open p := by
  simp only [isFree, isAlive, Open, Holder.Sees, Bool.or_eq_true, decide_eq_true_eq,
    Bool.not_eq_true', Bool.and_eq_false_iff, decide_eq_false_iff_not]
  grind

namespace Table

variable {p : Holder} {t : Table} {index : Option Nat} {n : Nat}

theorem freeIndex_eq_some_iff : t.freeIndex p index = some n ↔ t.Takes p index n := by
  cases index with
  | some i =>
    constructor
    · intro free
      obtain ⟨r, stored, isFree⟩ := isFree_of_freeIndex free
      refine ⟨⟨r, stored, Record.isFree_iff.mp isFree⟩, ?_⟩
      grind [freeIndex]
    · rintro ⟨⟨r, stored, isOpen⟩, rfl⟩
      simp only [freeIndex, stored, Record.isFree_iff.mpr isOpen, if_true]
  | none =>
    rw [freeIndex, List.findIdx?_eq_some_iff_getElem]
    constructor
    · rintro ⟨inside, isFree, earlier⟩
      refine ⟨⟨t[n], List.getElem?_eq_getElem inside, Record.isFree_iff.mp isFree⟩, ?_⟩
      intro k before r stored isOpen
      obtain ⟨_, rfl⟩ := List.getElem?_eq_some_iff.mp stored
      exact earlier k before (Record.isFree_iff.mpr isOpen)
    · rintro ⟨⟨r, stored, isOpen⟩, earlier⟩
      obtain ⟨inside, rfl⟩ := List.getElem?_eq_some_iff.mp stored
      refine ⟨inside, Record.isFree_iff.mpr isOpen, fun k before isFree => ?_⟩
      exact earlier k before _ (List.getElem?_eq_getElem _) (Record.isFree_iff.mp isFree)

/-- A claim takes the record that it may take, and succeeds if the flush does. If there is no such
record, it fails and changes nothing. -/
theorem claim_cases (p : Holder) (t : Table) (index : Option Nat) (flush : Except IoFailure Unit) :
    (∃ n, t.Takes p index n ∧
        t.claim p index flush = (flush.map fun _ => n, t.set n (.heldBy p.self))) ∨
      (∀ n, ¬ t.Takes p index n) ∧ t.claim p index flush = (.error .addressInUse, t) := by
  cases free : t.freeIndex p index with
  | some n => exact .inl ⟨n, freeIndex_eq_some_iff.mp free, by simp only [claim, free]⟩
  | none =>
    refine .inr ⟨fun n takes => ?_, by simp only [claim, free]⟩
    rw [freeIndex_eq_some_iff.mpr takes] at free
    cases free

end Table

/-! ## Processes that share the records -/

/-- The records, and the processes that share them. -/
structure Sharing where
  table : Table
  /-- Whether a process with this number runs. -/
  runs : UInt32 → Bool
  /-- The record that a process has claimed and not given up since. -/
  claimed : UInt32 → Option Nat

/-- What a process does with its record, and how the flush behind it turns out. -/
inductive Deed where
  | claim (index : Option Nat) (flush : Except IoFailure Unit)
  | publish (reader : Reader) (flush : Except IoFailure Unit)
  | release (flush : Except IoFailure Unit)

/-- What happens to processes that share records. -/
inductive Event where
  | begins (pid : UInt32)
  | dies (pid : UInt32)
  | does (pid : UInt32) (deed : Deed)

namespace Sharing

def holder (m : Sharing) (pid : UInt32) : Holder :=
  ⟨pid, m.runs⟩

/-- What a deed of a process leaves behind. Only a claim that succeeds gives the process a record,
and the record is given up even if this fails. -/
def after (m : Sharing) (pid : UInt32) : Deed → Sharing
  | .claim index flush =>
    match m.table.claim (m.holder pid) index flush with
    | (.ok n, table) => { m with table, claimed := Function.update m.claimed pid (some n) }
    | (.error _, table) => { m with table }
  | .publish reader flush =>
    match m.claimed pid with
    | some n => { m with table := (m.table.update n (Service.describe reader) flush).2 }
    | none => m
  | .release flush =>
    match m.claimed pid with
    | some n =>
      { m with
        table := (m.table.release n flush).2
        claimed := Function.update m.claimed pid none }
    | none => m

/-- What an event leaves behind. A process that dies does not clear its record. -/
def next (m : Sharing) : Event → Sharing
  | .begins pid =>
    { m with
      runs := Function.update m.runs pid true
      claimed := Function.update m.claimed pid none }
  | .dies pid => { m with runs := Function.update m.runs pid false }
  | .does pid deed => m.after pid deed

/-- Processes have numbers that a process can have, only a process that runs does anything, and it
has one record at a time. -/
def Allows (m : Sharing) : Event → Prop
  | .begins pid => m.runs pid = false ∧ pid ≠ 0 ∧ pid.toNat ≤ maxPid
  | .dies pid => m.runs pid = true
  | .does pid (.claim _ _) => m.runs pid = true ∧ m.claimed pid = none
  | .does pid _ => m.runs pid = true

theorem Allows.runs {m : Sharing} {pid : UInt32} {deed : Deed}
    (allowed : m.Allows (.does pid deed)) : m.runs pid = true := by
  cases deed with
  | claim index flush => exact allowed.1
  | publish reader flush => exact allowed
  | release flush => exact allowed

/-- Nobody has claimed a record yet. The records may hold anything. -/
structure Fresh (m : Sharing) : Prop where
  numbers : ∀ pid, m.runs pid = true → pid ≠ 0 ∧ pid.toNat ≤ maxPid
  unclaimed : ∀ pid, m.claimed pid = none

/-- What can become of processes that share records. -/
inductive Reached (first : Sharing) : Sharing → Prop where
  | first : Reached first first
  | next {m : Sharing} {event : Event} (reached : Reached first m) (allowed : m.Allows event) :
      Reached first (m.next event)

/-! ## What processes write -/

/-- A process that runs has its number in the record that it has claimed. -/
structure Owned (m : Sharing) : Prop where
  numbers : ∀ pid, m.runs pid = true → pid ≠ 0 ∧ pid.toNat ≤ maxPid
  records : ∀ pid n, m.runs pid = true → m.claimed pid = some n →
    ∃ r, m.table[n]? = some r ∧ r.pid = pid

variable {first m : Sharing} {pid : UInt32} {deed : Deed}

/-- A deed changes nothing, or one record that is open to the process, which holds the process's
number afterwards unless it has been given up. -/
theorem Owned.after_cases (owned : m.Owned) (allowed : m.Allows (.does pid deed)) :
    m.after pid deed = m ∨
      ∃ n r r' claimed, m.table[n]? = some r ∧ r.Open (m.holder pid) ∧
        (∀ k, claimed = some k → k = n ∧ r'.pid = pid) ∧
        m.after pid deed =
          { m with
            table := m.table.set n r'
            claimed := Function.update m.claimed pid claimed } := by
  have runs := allowed.runs
  cases deed with
  | claim index flush =>
    obtain ⟨n, ⟨⟨r, stored, isOpen⟩, -⟩, taken⟩ | ⟨-, refused⟩ :=
      m.table.claim_cases (m.holder pid) index flush
    · cases flush with
      | ok u =>
        refine .inr ⟨n, r, .heldBy pid, some n, stored, isOpen, ?_,
          by simp only [after, taken, Except.map]; rfl⟩
        rintro k ⟨⟩
        exact ⟨rfl, rfl⟩
      | error failure =>
        have kept : Function.update m.claimed pid none = m.claimed := by
          rw [← allowed.2, Function.update_eq_self]
        refine .inr ⟨n, r, .heldBy pid, none, stored, isOpen, nofun, ?_⟩
        simp only [after, taken, Except.map, kept]
        rfl
    · exact .inl (by simp only [after, refused])
  | publish reader flush =>
    cases claimed : m.claimed pid with
    | none => exact .inl (by simp only [after, claimed])
    | some n =>
      obtain ⟨r, stored, own⟩ := owned.records pid n runs claimed
      have kept : Function.update m.claimed pid (some n) = m.claimed := by
        rw [← claimed, Function.update_eq_self]
      refine .inr ⟨n, r, Service.describe reader r, some n, stored, .inr (.inl own), ?_,
        by simp only [after, claimed, Table.update, stored, kept]⟩
      rintro k ⟨⟩
      exact ⟨rfl, (Service.pid_describe reader r).trans own⟩
  | release flush =>
    cases claimed : m.claimed pid with
    | none => exact .inl (by simp only [after, claimed])
    | some n =>
      obtain ⟨r, stored, own⟩ := owned.records pid n runs claimed
      exact .inr ⟨n, r, .empty, none, stored, .inr (.inl own), nofun,
        by simp only [after, claimed, Table.release]⟩

theorem Owned.not_open (owned : m.Owned) {r : Record} (other : r.pid ≠ pid)
    (alive : m.runs r.pid = true) : ¬ r.Open (m.holder pid) := by
  rintro (unused | own | dead)
  · exact (owned.numbers r.pid alive).1 unused
  · exact other own
  · exact dead ⟨(owned.numbers r.pid alive).2, alive⟩

/-- No deed changes a record of another process that runs. -/
theorem Owned.spares (owned : m.Owned) (allowed : m.Allows (.does pid deed)) {k : Nat} {r : Record}
    (stored : m.table[k]? = some r) (other : r.pid ≠ pid)
    (alive : m.runs r.pid = true) : (m.after pid deed).table[k]? = some r := by
  obtain same | ⟨n, r₀, r', claimed, stored₀, isOpen, -, after⟩ := owned.after_cases allowed
  · rw [same]
    exact stored
  · have elsewhere : n ≠ k := by
      rintro rfl
      cases stored.symm.trans stored₀
      exact owned.not_open other alive isOpen
    rw [after]
    exact (List.getElem?_set_ne elsewhere).trans stored

theorem runs_after (m : Sharing) (pid : UInt32) (deed : Deed) :
    (m.after pid deed).runs = m.runs := by
  cases deed <;> simp only [after] <;> repeat' split
  all_goals rfl

theorem Owned.after (owned : m.Owned) (allowed : m.Allows (.does pid deed)) :
    (m.after pid deed).Owned where
  numbers := by
    rw [runs_after]
    exact owned.numbers
  records := by
    intro q k alive claimed
    rw [runs_after] at alive
    -- The process finds the number that it wrote; the others find theirs because they are spared.
    by_cases own : q = pid
    · subst own
      obtain same | ⟨n, r, r', given, stored, -, holds, after⟩ := owned.after_cases allowed
      · rw [same] at claimed ⊢
        exact owned.records q k alive claimed
      · rw [after] at claimed ⊢
        obtain ⟨rfl, number⟩ := holds k (Function.update_self q given m.claimed ▸ claimed)
        have room := (List.getElem?_eq_some_iff.mp stored).1
        exact ⟨r', List.getElem?_set_self room, number⟩
    · have claimed : m.claimed q = some k := by
        obtain same | ⟨n, r, r', given, -, -, -, after⟩ := owned.after_cases allowed
        · rwa [same] at claimed
        · rw [after] at claimed
          exact (Function.update_of_ne own given m.claimed).symm.trans claimed
      obtain ⟨r, stored, number⟩ := owned.records q k alive claimed
      exact ⟨r, owned.spares allowed stored (number ▸ own) (number ▸ alive), number⟩

theorem Owned.next (owned : m.Owned) {event : Event} (allowed : m.Allows event) :
    (m.next event).Owned := by
  cases event with
  | begins pid =>
    obtain ⟨-, number⟩ := allowed
    -- What began has claimed nothing, even if an earlier process had its number.
    have others : ∀ q ≠ pid, (m.next (.begins pid)).runs q = m.runs q ∧
        (m.next (.begins pid)).claimed q = m.claimed q := by
      intro q other
      simp only [Sharing.next, Function.update_of_ne other, and_self]
    constructor
    · intro q alive
      by_cases own : q = pid
      · exact own ▸ number
      · exact owned.numbers q ((others q own).1 ▸ alive)
    · intro q k alive claimed
      by_cases own : q = pid
      · subst own
        simp only [Sharing.next, Function.update_self] at claimed
        cases claimed
      · exact owned.records q k ((others q own).1 ▸ alive) ((others q own).2 ▸ claimed)
  | dies pid =>
    have ran : ∀ q, (m.next (.dies pid)).runs q = true → m.runs q = true := by
      intro q alive
      by_cases own : q = pid
      · exact own ▸ allowed
      · exact Function.update_of_ne own false m.runs ▸ alive
    exact ⟨fun q alive => owned.numbers q (ran q alive),
      fun q k alive => owned.records q k (ran q alive)⟩
  | does pid deed => exact owned.after allowed

theorem Fresh.owned (fresh : m.Fresh) : m.Owned where
  numbers := fresh.numbers
  records := by
    intro pid n _ claimed
    cases (fresh.unclaimed pid).symm.trans claimed

theorem Reached.owned (reached : first.Reached m) (fresh : first.Fresh) : m.Owned := by
  induction reached with
  | first => exact fresh.owned
  | next _ allowed ih => exact ih.next allowed

end Sharing

end CardTerminal.Status
