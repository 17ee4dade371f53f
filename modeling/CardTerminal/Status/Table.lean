import CardTerminal.Error
import CardTerminal.Status.Record

/-!
The records of the status file, shared by all processes that serve readers.

A process takes a record for itself by claiming it. It may claim a record that is unused, that it
holds already, or whose holder no longer runs; so the record of another running process is never
taken (`claim_spares`).

The records are shared memory: what is written to them is there at once. Every write is followed by
a flush to the file. How that turns out decides what the writer is told, but takes nothing back.
-/

namespace CardTerminal.Status

/-- A process that may hold records, among all processes of the machine. -/
structure Holder where
  /-- Its number. -/
  self : UInt32
  /-- Whether a process with this number runs. -/
  runs : UInt32 → Bool

/-- The largest number that a process can have. -/
def maxPid : Nat := 2147483647

def Record.isAlive (p : Holder) (r : Record) : Bool :=
  r.pid ≠ 0 && (r.pid.toNat ≤ maxPid && p.runs r.pid)

/-- Whether the process may take the record. -/
def Record.isFree (p : Holder) (r : Record) : Bool :=
  r.pid = 0 || r.pid = p.self || !r.isAlive p

/-- The records, in reader order. -/
abbrev Table := List Record

namespace Table

/-- The record to claim: the given one if it is free, or else the first free one. -/
def freeIndex (p : Holder) (t : Table) : Option Nat → Option Nat
  | some index =>
    match t[index]? with
    | some r => if r.isFree p then some index else none
    | none => none
  | none => t.findIdx? (Record.isFree p)

/-- Take a record for the process; it then holds nothing but the process number. -/
def claim (p : Holder) (t : Table) (index : Option Nat) (flush : Except IoFailure Unit) :
    Except IoFailure Nat × Table :=
  match t.freeIndex p index with
  | some n => (flush.map fun _ => n, t.set n (.heldBy p.self))
  | none => (.error .addressInUse, t)

/-- Clear a record, if there is one at this place. -/
def release (t : Table) (index : Nat) (flush : Except IoFailure Unit) :
    Except IoFailure Unit × Table :=
  (flush, t.set index .empty)

def update (t : Table) (index : Nat) (change : Record → Record) (flush : Except IoFailure Unit) :
    Except IoFailure Unit × Table :=
  match t[index]? with
  | some r => (flush, t.set index (change r))
  | none => (.error .invalidInput, t)

/-- The records that running processes hold, each with its place. -/
def readers (p : Holder) (t : Table) : List (Nat × Record) :=
  ((List.range t.length).zip t).filter (fun entry => entry.2.isAlive p)

/-! ## Claims -/

theorem isFree_of_freeIndex {p : Holder} {t : Table} {index : Option Nat} {n : Nat}
    (h : t.freeIndex p index = some n) : ∃ r, t[n]? = some r ∧ r.isFree p = true := by
  unfold freeIndex at h
  split at h
  · split at h
    · next r hr =>
      split at h
      · next free => cases h; exact ⟨r, hr, free⟩
      · cases h
    · cases h
  · obtain ⟨hn, free, _⟩ := List.findIdx?_eq_some_iff_getElem.mp h
    exact ⟨t[n], List.getElem?_eq_getElem hn, free⟩

/-- A claim takes no record that another running process holds. -/
theorem claim_spares {p : Holder} {t u : Table} {index : Option Nat} {n : Nat}
    {flush : Except IoFailure Unit} (h : t.claim p index flush = (.ok n, u)) :
    ∃ r, t[n]? = some r ∧ r.isFree p = true ∧ u = t.set n (.heldBy p.self) := by
  unfold claim at h
  split at h
  · next m free =>
    cases flush <;> cases h
    obtain ⟨r, hr, hf⟩ := isFree_of_freeIndex free
    exact ⟨r, hr, hf, rfl⟩
  · cases h

end Table

end CardTerminal.Status
