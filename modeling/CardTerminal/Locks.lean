import CardTerminal.Request

/-!
Locks on slots.

A client may hold any number of locks on a slot. Locks of different clients on one slot have to be
shared, and their clients have to be run by the same user. Every lock has a handle of its own, which
is never given out again.
-/

namespace CardTerminal

/-- A client, as long as it is connected. -/
abbrev ClientId := Nat

/-- A lock. -/
structure Lock where
  slot : Nat
  /-- The user who runs the client. -/
  uid : UInt32
  owner : ClientId
  kind : LockKind
  handle : UInt32
  deriving DecidableEq, Repr

/-- Whether another client's lock keeps a client from having a lock. -/
def Lock.excludes (held : Lock) (owner : ClientId) (uid : UInt32) (slot : Nat) (kind : LockKind) :
    Bool :=
  held.slot = slot && held.owner ≠ owner
    && (held.kind = .exclusive || kind = .exclusive || held.uid ≠ uid)

/-- The locks on the slots of a reader. -/
structure Locks where
  held : List Lock
  /-- The handle of the next lock, while there are any left. -/
  next : Option UInt32
  deriving DecidableEq, Repr

namespace Locks

/-- The user of a client whose user is not known. -/
def unknownUid : UInt32 := 4294967294

def none : Locks :=
  ⟨[], some 1⟩

/-- The handle after this one. -/
def following (handle : UInt32) : Option UInt32 :=
  if handle.toNat + 1 < UInt32.size then some (handle + 1) else .none

def lock (l : Locks) (owner : ClientId) (uid : UInt32) (slot : Nat) (kind : LockKind) :
    Except Error (UInt32 × Locks) :=
  if l.held.any (·.excludes owner uid slot kind) then .error .locked
  else
    match l.next with
    | .none => .error .noMemory
    | some handle =>
      .ok (handle, ⟨l.held ++ [⟨slot, uid, owner, kind, handle⟩], following handle⟩)

def unlock (l : Locks) (owner : ClientId) (slot : Nat) (handle : UInt32) : Except Error Locks :=
  match l.held.findIdx? (fun h => h.owner = owner && h.slot = slot && h.handle = handle) with
  | some n => .ok { l with held := l.held.eraseIdx n }
  | .none => .error .noLock

def releaseAll (l : Locks) (owner : ClientId) : Locks :=
  { l with held := l.held.filter (·.owner ≠ owner) }

/-- A client may talk to the card in a slot unless another one has it to itself. -/
def checkAccess (l : Locks) (owner : ClientId) (slot : Nat) : Except Error Unit :=
  if l.held.any (fun h => h.slot = slot && h.kind = .exclusive && h.owner ≠ owner) then
    .error .locked
  else .ok ()

end Locks

end CardTerminal
