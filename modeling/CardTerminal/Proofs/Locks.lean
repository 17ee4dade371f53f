import CardTerminal.Locks

/-!
What a lock table keeps, whatever clients do and in whatever order.

A call either is granted or leaves the table as it was, so everything follows from what one call
does. `Locks.Sound` says of a table and of the handles that were given out so far that locks of
different clients on one slot get along, that handles only grow, and that the next handle is above
all of them. Every call keeps it (`Sound.call`), and so does every run (`Sound.run`).

Main statement: the discipline of a run from the empty table, and what each call does after it
(`run_discipline`).
-/

namespace CardTerminal

/-- Two locks that may be held at one time: on one slot, locks of different clients are shared, and
the same user runs their clients. -/
def Lock.Compatible (a b : Lock) : Prop :=
  a.slot = b.slot → a.owner ≠ b.owner → a.kind = .shared ∧ b.kind = .shared ∧ a.uid = b.uid

/-- The lock that a client means when it names a slot and a handle. -/
def Lock.Named (held : Lock) (owner : ClientId) (slot : Nat) (handle : UInt32) : Prop :=
  held.owner = owner ∧ held.slot = slot ∧ held.handle = handle

namespace Locks

/-- A call on a lock table. -/
inductive Call where
  | lock (owner : ClientId) (uid : UInt32) (slot : Nat) (kind : LockKind)
  | unlock (owner : ClientId) (slot : Nat) (handle : UInt32)
  | releaseAll (owner : ClientId)
  deriving DecidableEq, Repr

/-- The answer to a call, with the handle of a lock that was granted, and the table after it. -/
def call (l : Locks) : Call → Except Error (Option UInt32) × Locks
  | .lock owner uid slot kind =>
    match l.lock owner uid slot kind with
    | .ok (handle, l') => (.ok (some handle), l')
    | .error e => (.error e, l)
  | .unlock owner slot handle =>
    match l.unlock owner slot handle with
    | .ok l' => (.ok .none, l')
    | .error e => (.error e, l)
  | .releaseAll owner => (.ok .none, l.releaseAll owner)

def givenBy : Except Error (Option UInt32) → List UInt32
  | .ok (some handle) => [handle]
  | _ => []

/-- The handles that calls give out, in their order, and the table after the calls. -/
def run : Locks → List Call → List UInt32 × Locks
  | l, [] => ([], l)
  | l, c :: calls =>
    let (answer, l) := l.call c
    let (given, l) := run l calls
    (givenBy answer ++ given, l)

/-- The highest handle there is. -/
def lastHandle : UInt32 := 4294967295

/-- A lock of another client stands in the way of this one. -/
def Conflict (l : Locks) (owner : ClientId) (uid : UInt32) (slot : Nat) (kind : LockKind) : Prop :=
  ∃ held ∈ l.held, held.slot = slot ∧ held.owner ≠ owner ∧
    (held.kind = .exclusive ∨ kind = .exclusive ∨ held.uid ≠ uid)

/-- What a table and the handles given out so far keep. -/
structure Sound (given : List UInt32) (l : Locks) : Prop where
  compatible : ∀ a ∈ l.held, ∀ b ∈ l.held, a.Compatible b
  ascending : given.Pairwise (· < ·)
  /-- A lock that is held was given its handle. -/
  known : ∀ a ∈ l.held, a.handle ∈ given
  /-- Every lock that is held has a handle of its own. -/
  distinct : (l.held.map Lock.handle).Nodup
  fresh : ∀ handle, l.next = some handle → ∀ h ∈ given, h < handle
  spent : l.next = .none → lastHandle ∈ given

/-! ## What one call does -/

theorem excludes_iff {held : Lock} {owner : ClientId} {uid : UInt32} {slot : Nat}
    {kind : LockKind} :
    held.excludes owner uid slot kind = true ↔ held.slot = slot ∧ held.owner ≠ owner ∧
      (held.kind = .exclusive ∨ kind = .exclusive ∨ held.uid ≠ uid) := by
  simp [Lock.excludes, and_assoc, or_assoc]

theorem lock_of_conflict {l : Locks} {owner : ClientId} {uid : UInt32} {slot : Nat}
    {kind : LockKind} (h : l.Conflict owner uid slot kind) :
    l.lock owner uid slot kind = .error .locked := by
  obtain ⟨held, mem, excludes⟩ := h
  have : l.held.any (·.excludes owner uid slot kind) = true :=
    List.any_eq_true.mpr ⟨held, mem, excludes_iff.mpr excludes⟩
  simp [lock, this]

theorem not_excluded {l : Locks} {owner : ClientId} {uid : UInt32} {slot : Nat} {kind : LockKind}
    (h : ¬ l.Conflict owner uid slot kind) :
    l.held.any (·.excludes owner uid slot kind) = false := by
  rw [List.any_eq_false]
  intro held mem excludes
  exact h ⟨held, mem, excludes_iff.mp excludes⟩

theorem lock_of_spent {l : Locks} {owner : ClientId} {uid : UInt32} {slot : Nat} {kind : LockKind}
    (h : ¬ l.Conflict owner uid slot kind) (next : l.next = .none) :
    l.lock owner uid slot kind = .error .noMemory := by
  simp [lock, not_excluded h, next]

theorem lock_of_next {l : Locks} {owner : ClientId} {uid : UInt32} {slot : Nat} {kind : LockKind}
    {handle : UInt32} (h : ¬ l.Conflict owner uid slot kind) (next : l.next = some handle) :
    l.lock owner uid slot kind =
      .ok (handle, ⟨l.held ++ [⟨slot, uid, owner, kind, handle⟩], following handle⟩) := by
  simp [lock, not_excluded h, next]

/-- A lock that is granted has the next handle, and no other client's lock was in its way. -/
theorem lock_eq_ok {l l' : Locks} {owner : ClientId} {uid : UInt32} {slot : Nat} {kind : LockKind}
    {handle : UInt32} (h : l.lock owner uid slot kind = .ok (handle, l')) :
    ¬ l.Conflict owner uid slot kind ∧ l.next = some handle ∧
      l' = ⟨l.held ++ [⟨slot, uid, owner, kind, handle⟩], following handle⟩ := by
  by_cases conflict : l.Conflict owner uid slot kind
  · rw [lock_of_conflict conflict] at h
    cases h
  · cases next : l.next with
    | none =>
      rw [lock_of_spent conflict next] at h
      cases h
    | some handle' =>
      rw [lock_of_next conflict next] at h
      cases h
      exact ⟨conflict, rfl, rfl⟩

/-- What unlocking does: it takes the first lock that is meant out of the table. -/
theorem unlock_cases (l : Locks) (owner : ClientId) (slot : Nat) (handle : UInt32) :
    (l.unlock owner slot handle = .error .noLock ∧ ∀ a ∈ l.held, ¬ a.Named owner slot handle) ∨
      ∃ before found after, l.held = before ++ found :: after ∧ found.Named owner slot handle ∧
        l.unlock owner slot handle = .ok ⟨before ++ after, l.next⟩ := by
  unfold unlock
  split
  · next n found =>
    right
    obtain ⟨hn, named, -⟩ := List.findIdx?_eq_some_iff_getElem.mp found
    refine ⟨l.held.take n, l.held[n], l.held.drop (n + 1), ?_, ?_, ?_⟩
    · rw [List.getElem_cons_drop, List.take_append_drop]
    · simpa [Lock.Named, and_assoc] using named
    · rw [List.eraseIdx_eq_take_drop_succ]
  · next found =>
    left
    rw [List.findIdx?_eq_none_iff] at found
    refine ⟨rfl, fun a mem named => ?_⟩
    have := found a mem
    simp [named.1, named.2.1, named.2.2] at this

theorem toNat_lastHandle : lastHandle.toNat = 4294967295 := rfl

theorem following_eq_none {handle : UInt32} (h : following handle = .none) :
    handle = lastHandle := by
  unfold following at h
  split at h
  · cases h
  · next top =>
    have := handle.toNat_lt
    simp only [UInt32.size] at top
    apply UInt32.toNat_inj.mp
    rw [toNat_lastHandle]
    omega

theorem lt_of_following {handle handle' : UInt32} (h : following handle = some handle') :
    handle < handle' := by
  unfold following at h
  split at h
  · next room =>
    cases h
    simp only [UInt32.size] at room
    rw [UInt32.lt_iff_toNat_lt, UInt32.toNat_add]
    simp only [UInt32.toNat_one]
    omega
  · cases h

/-! ## What every call keeps -/

namespace Sound

theorem empty : Sound [] Locks.none where
  compatible := by simp [Locks.none]
  ascending := List.Pairwise.nil
  known := by simp [Locks.none]
  distinct := List.nodup_nil
  fresh := by simp
  spent := by simp [Locks.none]

theorem sublist {given : List UInt32} {l : Locks} (hs : Sound given l) {held : List Lock}
    (h : held.Sublist l.held) : Sound given { l with held } where
  compatible a ha b hb := hs.compatible a (h.subset ha) b (h.subset hb)
  ascending := hs.ascending
  known a ha := hs.known a (h.subset ha)
  distinct := hs.distinct.sublist (h.map Lock.handle)
  fresh := hs.fresh
  spent := hs.spent

theorem lastHandle_not_mem {given : List UInt32} {l : Locks} (hs : Sound given l) {handle : UInt32}
    (next : l.next = some handle) : lastHandle ∉ given := by
  intro mem
  have below := hs.fresh handle next lastHandle mem
  have := handle.toNat_lt
  rw [UInt32.lt_iff_toNat_lt, toNat_lastHandle] at below
  omega

theorem lock {given : List UInt32} {l l' : Locks} (hs : Sound given l) {owner : ClientId}
    {uid : UInt32} {slot : Nat} {kind : LockKind} {handle : UInt32}
    (h : l.lock owner uid slot kind = .ok (handle, l')) : Sound (given ++ [handle]) l' := by
  obtain ⟨conflict, next, rfl⟩ := lock_eq_ok h
  have fresh := hs.fresh handle next
  -- The new lock gets along with every other one, since none of them was in its way.
  have compatible : ∀ a ∈ l.held, a.slot = slot → a.owner ≠ owner →
      a.kind = .shared ∧ kind = .shared ∧ a.uid = uid := by
    intro a ha hslot howner
    have free : ¬ (a.kind = .exclusive ∨ kind = .exclusive ∨ a.uid ≠ uid) :=
      fun blocked => conflict ⟨a, ha, hslot, howner, blocked⟩
    simp only [not_or, Decidable.not_not] at free
    obtain ⟨ha, hkind, huid⟩ := free
    refine ⟨?_, ?_, huid⟩
    · cases hk : a.kind
      · rfl
      · exact absurd hk ha
    · cases kind
      · rfl
      · exact absurd rfl hkind
  refine ⟨?_, ?_, ?_, ?_, ?_, ?_⟩
  · intro a ha b hb hslot howner
    rcases List.mem_append.mp ha with ha | ha <;> rcases List.mem_append.mp hb with hb | hb
    · exact hs.compatible a ha b hb hslot howner
    · cases List.mem_singleton.mp hb
      exact compatible a ha hslot howner
    · cases List.mem_singleton.mp ha
      obtain ⟨hb, ha, huid⟩ := compatible b hb hslot.symm (Ne.symm howner)
      exact ⟨ha, hb, huid.symm⟩
    · cases List.mem_singleton.mp ha
      cases List.mem_singleton.mp hb
      exact absurd rfl howner
  · rw [List.pairwise_append]
    refine ⟨hs.ascending, List.pairwise_singleton _ _, fun a ha b hb => ?_⟩
    cases List.mem_singleton.mp hb
    exact fresh a ha
  · intro a ha
    rcases List.mem_append.mp ha with ha | ha
    · exact List.mem_append_left _ (hs.known a ha)
    · cases List.mem_singleton.mp ha
      simp
  · simp only [List.map_append, List.map_cons, List.map_nil]
    rw [List.nodup_append]
    refine ⟨hs.distinct, by simp, fun a ha b hb => ?_⟩
    cases List.mem_singleton.mp hb
    obtain ⟨held, mem, rfl⟩ := List.mem_map.mp ha
    exact UInt32.ne_of_lt (fresh held.handle (hs.known held mem))
  · intro handle' following a ha
    have above := lt_of_following following
    rcases List.mem_append.mp ha with ha | ha
    · exact UInt32.lt_trans (fresh a ha) above
    · cases List.mem_singleton.mp ha
      exact above
  · intro following
    rw [following_eq_none following]
    simp

theorem call {given : List UInt32} {l : Locks} (hs : Sound given l) (c : Call) :
    Sound (given ++ givenBy (l.call c).1) (l.call c).2 := by
  cases c with
  | lock owner uid slot kind =>
    simp only [Locks.call]
    cases h : l.lock owner uid slot kind with
    | ok granted => exact hs.lock h
    | error e => simpa [givenBy] using hs
  | unlock owner slot handle =>
    simp only [Locks.call]
    rcases unlock_cases l owner slot handle with ⟨h, -⟩ | ⟨before, found, after, held, -, h⟩
    · simpa [h, givenBy] using hs
    · rw [h]
      simp only [givenBy, List.append_nil]
      apply hs.sublist
      rw [held]
      exact List.Sublist.append_left (List.sublist_cons_self _ _) _
  | releaseAll owner =>
    simp only [Locks.call, givenBy, List.append_nil]
    exact hs.sublist List.filter_sublist

theorem run {given : List UInt32} {l : Locks} (hs : Sound given l) (calls : List Call) :
    Sound (given ++ (l.run calls).1) (l.run calls).2 := by
  induction calls generalizing given l with
  | nil => simpa [Locks.run] using hs
  | cons c calls ih =>
    have := ih (hs.call c)
    simpa [Locks.run, List.append_assoc] using this

theorem named_unique {given : List UInt32} {l : Locks} (hs : Sound given l)
    {before after : List Lock} {found : Lock} (held : l.held = before ++ found :: after)
    {owner : ClientId} {slot : Nat} {handle : UInt32} (named : found.Named owner slot handle) :
    ∀ a ∈ before ++ after, ¬ a.Named owner slot handle := by
  intro a ha other
  have distinct := hs.distinct
  rw [held, List.map_append, List.map_cons, List.perm_middle.nodup_iff, List.nodup_cons] at distinct
  apply distinct.1
  rw [← List.map_append, named.2.2, ← other.2.2]
  exact List.mem_map_of_mem ha

end Sound

/-! ## Exclusive locks -/

def Call.Frees (held : Lock) : Call → Prop
  | .lock .. => False
  | .unlock owner slot handle => held.Named owner slot handle
  | .releaseAll owner => held.owner = owner

/-- A lock is held until its owner gives it up. -/
theorem mem_call {l : Locks} {held : Lock} (mem : held ∈ l.held) {c : Call}
    (kept : ¬ c.Frees held) : held ∈ (l.call c).2.held := by
  cases c with
  | lock owner uid slot kind =>
    simp only [call]
    cases h : l.lock owner uid slot kind with
    | ok granted =>
      obtain ⟨-, -, rest⟩ := lock_eq_ok (show l.lock owner uid slot kind = .ok (_, _) from h)
      simp only [rest]
      exact List.mem_append_left _ mem
    | error e => exact mem
  | unlock owner slot handle =>
    simp only [call]
    rcases unlock_cases l owner slot handle with ⟨h, -⟩ | ⟨before, found, after, held', named, h⟩
    · simpa only [h] using mem
    · rw [h]
      rw [held'] at mem
      rcases List.mem_append.mp mem with mem | mem
      · exact List.mem_append_left _ mem
      · rcases List.mem_cons.mp mem with rfl | mem
        · exact absurd named kept
        · exact List.mem_append_right _ mem
  | releaseAll owner =>
    simp only [call, releaseAll]
    rw [List.mem_filter]
    exact ⟨mem, by simpa [Call.Frees] using kept⟩

def Call.owner : Call → ClientId
  | .lock owner .. | .unlock owner .. | .releaseAll owner => owner

theorem mem_of_call {l : Locks} {held : Lock} {c : Call} (mem : held ∈ (l.call c).2.held) :
    held ∈ l.held ∨ held.owner = c.owner := by
  cases c with
  | lock owner uid slot kind =>
    simp only [call] at mem
    cases h : l.lock owner uid slot kind with
    | ok granted =>
      obtain ⟨-, -, rest⟩ := lock_eq_ok (show l.lock owner uid slot kind = .ok (_, _) from h)
      simp only [h, rest] at mem
      rcases List.mem_append.mp mem with mem | mem
      · exact .inl mem
      · exact .inr (by rw [List.mem_singleton.mp mem]; rfl)
    | error e =>
      simp only [h] at mem
      exact .inl mem
  | unlock owner slot handle =>
    simp only [call] at mem
    rcases unlock_cases l owner slot handle with ⟨h, -⟩ | ⟨before, found, after, held', -, h⟩
    · simp only [h] at mem
      exact .inl mem
    · simp only [h] at mem
      rw [held']
      rcases List.mem_append.mp mem with mem | mem
      · exact .inl (List.mem_append_left _ mem)
      · exact .inl (List.mem_append_right _ (List.mem_cons_of_mem _ mem))
  | releaseAll owner => exact .inl ((List.mem_filter.mp mem).1)

/-- An exclusive lock keeps the others' locks off its slot. -/
theorem Sound.owner_eq {given : List UInt32} {l : Locks} (hs : Sound given l) {held other : Lock}
    (mem : held ∈ l.held) (exclusive : held.kind = .exclusive) (mem' : other ∈ l.held)
    (slot : other.slot = held.slot) : other.owner = held.owner := by
  by_cases same : other.owner = held.owner
  · exact same
  · obtain ⟨-, shared, -⟩ := hs.compatible other mem' held mem slot same
    rw [exclusive] at shared
    cases shared

theorem checkAccess_of_exclusive {l : Locks} {held : Lock} (mem : held ∈ l.held)
    (exclusive : held.kind = .exclusive) {owner : ClientId} (other : owner ≠ held.owner) :
    l.checkAccess owner held.slot = .error .locked := by
  have : l.held.any (fun h => h.slot = held.slot && h.kind = .exclusive && h.owner ≠ owner) =
      true := by
    rw [List.any_eq_true]
    exact ⟨held, mem, by simp [exclusive, Ne.symm other]⟩
  simp only [checkAccess, this, if_true]

/-! ## The discipline of a run -/

/-- After any calls from the empty table, locks get along and the handles given out ascend. A lock
is refused if another client's is in its way, then also when the highest handle is spent, and
otherwise added under a handle above all earlier ones. Unlocking takes exactly the lock that is
meant out of the table, and a client that is gone leaves none of its locks and all of the others'.
What is refused changes nothing. -/
theorem run_discipline (calls : List Call) :
    let given := (Locks.none.run calls).1
    let l := (Locks.none.run calls).2
    (∀ a ∈ l.held, ∀ b ∈ l.held, a.Compatible b) ∧
    given.Pairwise (· < ·) ∧
    (∀ owner uid slot kind,
      (l.Conflict owner uid slot kind →
        l.call (.lock owner uid slot kind) = (.error .locked, l)) ∧
      (¬ l.Conflict owner uid slot kind → lastHandle ∈ given →
        l.call (.lock owner uid slot kind) = (.error .noMemory, l)) ∧
      (¬ l.Conflict owner uid slot kind → lastHandle ∉ given →
        ∃ handle next, (∀ h ∈ given, h < handle) ∧
          l.call (.lock owner uid slot kind) =
            (.ok (some handle), ⟨l.held ++ [⟨slot, uid, owner, kind, handle⟩], next⟩))) ∧
    (∀ owner slot handle,
      (l.call (.unlock owner slot handle) = (.error .noLock, l) ∧
        ∀ a ∈ l.held, ¬ a.Named owner slot handle) ∨
      ∃ before found after, l.held = before ++ found :: after ∧
        found.Named owner slot handle ∧ (∀ a ∈ before ++ after, ¬ a.Named owner slot handle) ∧
        l.call (.unlock owner slot handle) = (.ok .none, ⟨before ++ after, l.next⟩)) ∧
    (∀ owner, ∃ kept, l.call (.releaseAll owner) = (.ok .none, ⟨kept, l.next⟩) ∧
      kept.Sublist l.held ∧ ∀ a, a ∈ kept ↔ a ∈ l.held ∧ a.owner ≠ owner) := by
  intro given l
  have hs : Sound given l := by simpa using Sound.empty.run calls
  refine ⟨hs.compatible, hs.ascending, ?_, ?_, ?_⟩
  · intro owner uid slot kind
    refine ⟨?_, ?_, ?_⟩
    · intro conflict
      simp only [call, lock_of_conflict conflict]
    · intro conflict spent
      cases next : l.next with
      | none => simp only [call, lock_of_spent conflict next]
      | some handle => exact absurd spent (hs.lastHandle_not_mem next)
    · intro conflict unspent
      cases next : l.next with
      | none => exact absurd (hs.spent next) unspent
      | some handle =>
        refine ⟨handle, following handle, hs.fresh handle next, ?_⟩
        simp only [call, lock_of_next conflict next]
  · intro owner slot handle
    rcases unlock_cases l owner slot handle with ⟨h, none⟩ | ⟨before, found, after, held, named, h⟩
    · left
      exact ⟨by simp only [call, h], none⟩
    · right
      refine ⟨before, found, after, held, named, hs.named_unique held named, ?_⟩
      simp only [call, h]
  · intro owner
    refine ⟨l.held.filter (·.owner ≠ owner), rfl, List.filter_sublist, ?_⟩
    intro a
    simp [List.mem_filter]

end Locks

end CardTerminal
