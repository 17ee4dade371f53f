import CardTerminal.Buffer

/-!
A buffer is a bounded queue of bytes.

What the queue is to do is said with the storage in one piece: the bytes that wait, the position of
the first one, and the cells of the storage (`Queue`). A call that asks for more than there is, or
than there is room for, is refused (`Call.Exceeds`); any other one appends, removes from the front
or overwrites (`Queue.serve`), and the cells tell which bytes lie behind the tail when they are
counted. A buffer, which is its storage in three stretches, does the same at every call
(`view_call`).

Main statement: `refines_queue`.
-/

namespace CardTerminal

namespace Bytes

/-- Bytes with others written over them, from a place on. -/
def overwrite (old : Bytes) (place : Nat) (data : Bytes) : Bytes :=
  old.take place ++ data ++ old.drop (place + data.length)

theorem overwrite_append (first second data : Bytes) :
    overwrite (first ++ second) first.length data = first ++ data ++ second.drop data.length := by
  rw [overwrite, List.take_left, ← List.drop_drop, List.drop_left]

theorem overwrite_within (before old after data : Bytes) {place : Nat}
    (fits : place + data.length ≤ old.length) :
    overwrite (before ++ old ++ after) (before.length + place) data =
      before ++ overwrite old place data ++ after := by
  have front : (before ++ old ++ after).take (before.length + place) =
      before ++ old.take place := by
    rw [List.append_assoc, List.take_length_add_append, List.take_append_of_le_length (by omega)]
  have back : (before ++ old ++ after).drop (before.length + place + data.length) =
      old.drop (place + data.length) ++ after := by
    rw [Nat.add_assoc, List.append_assoc, List.drop_length_add_append,
      List.drop_append_of_le_length fits]
  rw [overwrite, front, back, overwrite]
  simp only [List.append_assoc]

end Bytes

namespace Buffer

/-! ## What operations give -/

theorem put_of_fits {b : Buffer} {data : Bytes} (fits : data.length ≤ b.room.length) :
    b.put data = .ok ⟨b.spent, b.unread ++ data, b.room.drop data.length⟩ :=
  if_pos fits

theorem advanceHead_of_le {b : Buffer} {n : Nat} (there : n ≤ b.unread.length) :
    b.advanceHead n = .ok ⟨b.spent ++ b.unread.take n, b.unread.drop n, b.room⟩ :=
  if_pos there

theorem size_readFrom (b : Buffer) (source : Except IoFailure Bytes) :
    (b.readFrom source).2.size = b.size := by
  have compacted := size_compact b
  unfold readFrom
  dsimp only
  split
  · exact compacted
  · split
    · exact compacted
    · simp only [size, List.length_append, List.length_drop, List.length_take] at compacted ⊢
      omega

theorem length_room_compact (b : Buffer) : b.compact.room.length = b.size - b.unread.length := by
  simp only [compact, size, List.length_drop, List.length_append]

/-- There is no room in a compacted buffer just if all that it holds is unread. -/
theorem isEmpty_room_compact (b : Buffer) :
    b.compact.room.isEmpty = true ↔ b.unread.length = b.size := by
  rw [List.isEmpty_iff_length_eq_zero, length_room_compact]
  simp only [size]
  omega

/-- A successful read appends what it got, and only a full buffer refuses a source that has
something to give. -/
theorem readFrom_ok (b : Buffer) (data : Bytes) (roomy : b.unread.length < b.size) :
    ∃ got after, b.readFrom (.ok data) = (.ok got, after) ∧ got ≤ data.length ∧
      (data ≠ [] → 0 < got) ∧ after.unread = b.unread ++ data.take got := by
  have room := b.length_room_compact
  have notFull : ¬ b.compact.room.isEmpty = true :=
    mt b.isEmpty_room_compact.mp (Nat.ne_of_lt roomy)
  refine ⟨_, _, by simp only [readFrom, notFull]; rfl, ?_, ?_, ?_⟩
  · exact List.length_take_le' ..
  · intro some
    rw [List.length_take]
    have := List.length_pos_iff.mpr some
    omega
  · show b.unread ++ _ = b.unread ++ _
    rw [List.length_take, List.take_eq_take_min]

theorem readFrom_error (b : Buffer) (failure : IoFailure) (roomy : b.unread.length < b.size) :
    b.readFrom (.error failure) = (.error failure, b.compact) := by
  have notFull : ¬ b.compact.room.isEmpty = true :=
    mt b.isEmpty_room_compact.mp (Nat.ne_of_lt roomy)
  simp only [readFrom, notFull]
  rfl

theorem get_eq (b : Buffer) (n : Nat) :
    b.get n = if n ≤ b.unread.length then
      .ok (b.unread.take n, ⟨b.spent ++ b.unread.take n, b.unread.drop n, b.room⟩)
    else .error .insufficientSpace := by
  unfold get peek advanceHead
  split
  · rfl
  · rfl

/-! ## Calls -/

inductive Call where
  | put (data : Bytes)
  | putByte (byte : UInt8)
  | get (n : Nat)
  | peek (n : Nat)
  | peekTail
  | advanceHead (n : Nat)
  | advanceTail (n : Nat)
  | patch (offset : Nat) (data : Bytes)
  | compact
  | clear
  | take
  /-- Store bytes behind the tail without counting them, as a source may do that fails later. -/
  | fillRoom (data : Bytes)
  | readFrom (source : Except IoFailure Bytes)
  | writeTo (sink : Except IoFailure Nat)

/-- What a call gives. -/
inductive Answer where
  | done
  | count (n : Nat)
  | bytes (data : Bytes)
  | last (byte : Option UInt8)

/-- Why a call fails: it is refused, or the source or the sink fails. -/
inductive Failure where
  | refused (cause : Error)
  | broken (cause : IoFailure)

abbrev Outcome : Type :=
  Except Failure Answer

/-- A refused call leaves the buffer as it is. -/
def settle {α : Type} (b : Buffer) (result : Except Error α) (answer : α → Answer × Buffer) :
    Outcome × Buffer :=
  match result with
  | .ok a => (.ok (answer a).1, (answer a).2)
  | .error cause => (.error (.refused cause), b)

def call (b : Buffer) : Call → Outcome × Buffer
  | .put data => b.settle (b.put data) fun b => (.count data.length, b)
  | .putByte byte => b.settle (b.put [byte]) fun b => (.count 1, b)
  | .get n => b.settle (b.get n) fun (data, b) => (.bytes data, b)
  | .peek n => b.settle (b.peek n) fun data => (.bytes data, b)
  | .peekTail => (.ok (.last b.last?), b)
  | .advanceHead n => b.settle (b.advanceHead n) fun b => (.done, b)
  | .advanceTail n => b.settle (b.advanceTail n) fun b => (.done, b)
  | .patch offset data => b.settle (b.patch offset data) fun b => (.done, b)
  | .compact => (.ok .done, b.compact)
  | .clear => (.ok .done, b.clear)
  | .take => (.ok (.bytes b.take.1), b.take.2)
  | .fillRoom data => (.ok .done, b.fillRoom data)
  | .readFrom source =>
    (((b.readFrom source).1.map .count).mapError .broken, (b.readFrom source).2)
  | .writeTo sink => (((b.writeTo sink).1.map .bytes).mapError .broken, (b.writeTo sink).2)

/-- One call after the other, on whatever carries them out. -/
def run {σ : Type} (step : σ → Call → Outcome × σ) : σ → List Call → List Outcome × σ
  | s, [] => ([], s)
  | s, c :: calls =>
    let rest := run step (step s c).2 calls
    ((step s c).1 :: rest.1, rest.2)

/-! ## The queue -/

/-- A queue in storage of fixed size. -/
structure Queue where
  /-- The whole storage. -/
  cells : Bytes
  /-- Where the bytes that wait begin in it. -/
  head : Nat
  /-- The bytes that wait. -/
  held : Bytes

/-- A call asks for more than waits between the positions, for more room than is behind them, or to
overwrite what is not between them. -/
def Call.Exceeds (size head tail : Nat) : Call → Prop
  | .put data => size - tail < data.length
  | .putByte _ => size - tail < 1
  | .advanceTail n => size - tail < n
  | .get n | .peek n | .advanceHead n => tail - head < n
  | .patch offset data => offset < head ∨ tail < offset + data.length
  | _ => False

instance (size head tail : Nat) : (c : Call) → Decidable (c.Exceeds size head tail)
  | .put data => inferInstanceAs (Decidable (size - tail < data.length))
  | .putByte _ => inferInstanceAs (Decidable (size - tail < 1))
  | .advanceTail n => inferInstanceAs (Decidable (size - tail < n))
  | .get n | .peek n | .advanceHead n => inferInstanceAs (Decidable (tail - head < n))
  | .patch offset data =>
    inferInstanceAs (Decidable (offset < head ∨ tail < offset + data.length))
  | .peekTail | .compact | .clear | .take | .fillRoom _ | .readFrom _ | .writeTo _ =>
    inferInstanceAs (Decidable False)

namespace Queue

def size (q : Queue) : Nat :=
  q.cells.length

def tail (q : Queue) : Nat :=
  q.head + q.held.length

def empty (size : Nat) : Queue :=
  ⟨List.replicate size 0, 0, []⟩

def append (q : Queue) (data : Bytes) : Queue :=
  ⟨q.cells.overwrite q.tail data, q.head, q.held ++ data⟩

def dropFront (q : Queue) (n : Nat) : Queue :=
  ⟨q.cells, q.head + n, q.held.drop n⟩

/-- The bytes that wait are moved to the start of the storage. -/
def compact (q : Queue) : Queue :=
  ⟨q.cells.overwrite 0 q.held, 0, q.held⟩

def clear (q : Queue) : Queue :=
  ⟨q.cells, 0, []⟩

/-- What a source gives is appended, as far as there is room for it at the start of the storage. -/
def readFrom (q : Queue) (source : Except IoFailure Bytes) : Outcome × Queue :=
  if q.held.length = q.size then (.error (.broken .outOfMemory), q.compact)
  else
    match source with
    | .error cause => (.error (.broken cause), q.compact)
    | .ok data =>
      let got := data.take (q.size - q.held.length)
      (.ok (.count got.length), q.compact.append got)

/-- What a sink takes is removed from the front. -/
def writeTo (q : Queue) (sink : Except IoFailure Nat) : Outcome × Queue :=
  match sink with
  | .error cause => (.error (.broken cause), q)
  | .ok limit =>
    let sent := q.held.take limit
    (.ok (.bytes sent), q.dropFront sent.length)

/-- What a queue does at a call for which there is enough. -/
def carryOut (q : Queue) : Call → Outcome × Queue
  | .put data => (.ok (.count data.length), q.append data)
  | .putByte byte => (.ok (.count 1), q.append [byte])
  | .get n => (.ok (.bytes (q.held.take n)), q.dropFront n)
  | .peek n => (.ok (.bytes (q.held.take n)), q)
  | .peekTail => (.ok (.last q.held.getLast?), q)
  | .advanceHead n => (.ok .done, q.dropFront n)
  | .advanceTail n => (.ok .done, q.append ((q.cells.drop q.tail).take n))
  | .patch offset data =>
    (.ok .done, ⟨q.cells.overwrite offset data, q.head, q.held.overwrite (offset - q.head) data⟩)
  | .compact => (.ok .done, q.compact)
  | .clear => (.ok .done, q.clear)
  | .take => (.ok (.bytes q.held), q.clear)
  | .fillRoom data =>
    (.ok .done, ⟨q.cells.overwrite q.tail (data.take (q.size - q.tail)), q.head, q.held⟩)
  | .readFrom source => q.readFrom source
  | .writeTo sink => q.writeTo sink

def serve (q : Queue) (c : Call) : Outcome × Queue :=
  if c.Exceeds q.size q.head q.tail then (.error (.refused .insufficientSpace), q) else q.carryOut c

theorem held_of_error {q : Queue} {c : Call} {failure : Failure}
    (failed : (q.serve c).1 = .error failure) : (q.serve c).2.held = q.held := by
  unfold serve at failed ⊢
  split
  · rfl
  · next enough =>
    rw [if_neg enough] at failed
    cases c with
    | readFrom source =>
      unfold carryOut readFrom at failed ⊢
      dsimp only at failed ⊢
      split
      · rfl
      · next roomy =>
        rw [if_neg roomy] at failed
        cases source with
        | error cause => rfl
        | ok data => cases failed
    | writeTo sink =>
      cases sink with
      | error cause => rfl
      | ok limit => cases failed
    | _ => cases failed

end Queue

/-! ## The view of a buffer -/

def storage (b : Buffer) : Bytes :=
  b.spent ++ b.unread ++ b.room

/-- A buffer as a queue. -/
def view (b : Buffer) : Queue :=
  ⟨b.storage, b.head, b.unread⟩

theorem view_new (size : Nat) : (new size).view = .empty size :=
  rfl

variable (b : Buffer)

@[simp] theorem size_view : b.view.size = b.size := by
  simp only [Queue.size, view, storage, size, List.length_append]

@[simp] theorem head_view : b.view.head = b.head :=
  rfl

@[simp] theorem tail_view : b.view.tail = b.tail :=
  rfl

@[simp] theorem held_view : b.view.held = b.unread :=
  rfl

theorem room_eq : b.size - b.tail = b.room.length := by
  simp only [size, tail]
  omega

theorem unread_eq : b.tail - b.head = b.unread.length := by
  simp only [tail, head]
  omega

theorem view_append (data : Bytes) :
    view ⟨b.spent, b.unread ++ data, b.room.drop data.length⟩ = b.view.append data := by
  have place : b.view.tail = (b.spent ++ b.unread).length := List.length_append.symm
  rw [Queue.append, place]
  show _ = Queue.mk (Bytes.overwrite (b.spent ++ b.unread ++ b.room) _ _) _ _
  rw [Bytes.overwrite_append]
  simp only [storage, head, view, List.append_assoc]

theorem view_dropFront {n : Nat} (there : n ≤ b.unread.length) :
    view ⟨b.spent ++ b.unread.take n, b.unread.drop n, b.room⟩ = b.view.dropFront n := by
  have cells : b.spent ++ b.unread.take n ++ b.unread.drop n ++ b.room = b.storage := by
    rw [List.append_assoc b.spent, List.take_append_drop, storage]
  have place : (b.spent ++ b.unread.take n).length = b.head + n := by
    rw [List.length_append, List.length_take_of_le there, head]
  show Queue.mk (b.spent ++ b.unread.take n ++ b.unread.drop n ++ b.room) _ _ = _
  rw [cells, head, place]
  rfl

theorem view_compact : b.compact.view = b.view.compact := by
  show Queue.mk ([] ++ b.unread ++ b.storage.drop b.unread.length) 0 b.unread = _
  rw [Queue.compact, Bytes.overwrite, List.take_zero, Nat.zero_add]
  rfl

theorem view_clear : b.clear.view = b.view.clear := by
  show Queue.mk ([] ++ [] ++ b.storage) 0 [] = _
  rfl

theorem view_patch {offset : Nat} {data : Bytes} (begins : b.head ≤ offset)
    (ends : offset + data.length ≤ b.tail) :
    view ⟨b.spent, b.unread.overwrite (offset - b.head) data, b.room⟩ =
      ⟨b.view.cells.overwrite offset data, b.head,
        b.unread.overwrite (offset - b.head) data⟩ := by
  obtain ⟨place, rfl⟩ := Nat.exists_eq_add_of_le begins
  rw [Nat.add_sub_cancel_left]
  have fits : place + data.length ≤ b.unread.length := by
    simp only [head, tail] at ends
    omega
  show Queue.mk _ _ _ = ⟨Bytes.overwrite (b.spent ++ b.unread ++ b.room) (b.spent.length + place) _,
    _, _⟩
  rw [Bytes.overwrite_within b.spent b.unread b.room data fits]
  rfl

theorem view_fillRoom (data : Bytes) :
    (b.fillRoom data).view =
      ⟨b.view.cells.overwrite b.tail (data.take (b.size - b.tail)), b.head, b.unread⟩ := by
  have place : b.tail = (b.spent ++ b.unread).length := List.length_append.symm
  rw [room_eq, place]
  show Queue.mk (b.spent ++ b.unread ++ Bytes.overlay data b.room) _ _ =
    ⟨Bytes.overwrite (b.spent ++ b.unread ++ b.room) _ _, _, _⟩
  have rest : b.room.drop data.length = b.room.drop (data.take b.room.length).length := by
    rw [List.drop_eq_drop_iff, List.length_take]
    omega
  rw [Bytes.overwrite_append, Bytes.overlay, rest, ← List.append_assoc]
  rfl

/-! ## Refusals -/

/-- A call is refused for want of space in this case, and is carried out in any other. -/
def RefusedJustIf {α : Type} (result : Except Error α) (case : Prop) : Prop :=
  (case → result = .error .insufficientSpace) ∧ (¬ case → ∃ a, result = .ok a)

theorem refusedJustIf_ite {α : Type} {allowed case : Prop} [Decidable allowed] (a : α)
    (opposite : case ↔ ¬ allowed) :
    RefusedJustIf (if allowed then .ok a else .error .insufficientSpace) case := by
  constructor
  · intro refused
    rw [if_neg (opposite.mp refused)]
  · intro carriedOut
    rw [opposite, Decidable.not_not] at carriedOut
    exact ⟨a, if_pos carriedOut⟩

theorem put_refused (data : Bytes) :
    RefusedJustIf (b.put data) (b.size - b.tail < data.length) := by
  rw [room_eq]
  exact refusedJustIf_ite _ Nat.not_le.symm

theorem advanceTail_refused (n : Nat) :
    RefusedJustIf (b.advanceTail n) (b.size - b.tail < n) := by
  rw [room_eq]
  exact refusedJustIf_ite _ Nat.not_le.symm

theorem peek_refused (n : Nat) : RefusedJustIf (b.peek n) (b.tail - b.head < n) := by
  rw [unread_eq]
  exact refusedJustIf_ite _ Nat.not_le.symm

theorem advanceHead_refused (n : Nat) :
    RefusedJustIf (b.advanceHead n) (b.tail - b.head < n) := by
  rw [unread_eq]
  exact refusedJustIf_ite _ Nat.not_le.symm

theorem get_refused (n : Nat) : RefusedJustIf (b.get n) (b.tail - b.head < n) := by
  rw [unread_eq, get_eq]
  exact refusedJustIf_ite _ Nat.not_le.symm

theorem patch_refused (offset : Nat) (data : Bytes) :
    RefusedJustIf (b.patch offset data) (offset < b.head ∨ b.tail < offset + data.length) :=
  refusedJustIf_ite _ (by omega)

/-! ## Every call -/

variable {b}

theorem call_of_exceeds {c : Call} (exceeds : c.Exceeds b.size b.head b.tail) :
    b.call c = (.error (.refused .insufficientSpace), b) := by
  cases c with
  | put data => rw [call, (put_refused b data).1 exceeds, settle]
  | putByte byte => rw [call, (put_refused b [byte]).1 exceeds, settle]
  | get n => rw [call, (get_refused b n).1 exceeds, settle]
  | peek n => rw [call, (peek_refused b n).1 exceeds, settle]
  | advanceHead n => rw [call, (advanceHead_refused b n).1 exceeds, settle]
  | advanceTail n => rw [call, (advanceTail_refused b n).1 exceeds, settle]
  | patch offset data => rw [call, (patch_refused b offset data).1 exceeds, settle]
  | _ => exact exceeds.elim

theorem view_readFrom (source : Except IoFailure Bytes) :
    b.view.readFrom source =
      ((b.call (.readFrom source)).1, (b.call (.readFrom source)).2.view) := by
  have full := b.isEmpty_room_compact
  unfold Queue.readFrom call readFrom
  rw [held_view, size_view]
  dsimp only
  by_cases empty : b.compact.room.isEmpty = true
  · rw [if_pos (full.mp empty), if_pos empty, ← view_compact]
    rfl
  · rw [if_neg (mt full.mpr empty), if_neg empty, ← view_compact]
    cases source with
    | error cause => rfl
    | ok data =>
      rw [← length_room_compact]
      dsimp only
      rw [← view_append]
      rfl

theorem view_writeTo (sink : Except IoFailure Nat) :
    b.view.writeTo sink =
      ((b.call (.writeTo sink)).1, (b.call (.writeTo sink)).2.view) := by
  cases sink with
  | error cause => rfl
  | ok limit =>
    have sent := view_dropFront b (n := (b.unread.take limit).length) (List.length_take_le' ..)
    have front : b.unread.take (b.unread.take limit).length = b.unread.take limit := by
      rw [List.length_take, ← List.take_eq_take_min]
    have back : b.unread.drop (b.unread.take limit).length = b.unread.drop limit := by
      rw [List.drop_eq_drop_iff, List.length_take]
      omega
    rw [front, back] at sent
    rw [call, writeTo]
    dsimp only
    rw [sent]
    rfl

/-- A buffer does at every call what a queue does. -/
theorem view_call (c : Call) : b.view.serve c = ((b.call c).1, (b.call c).2.view) := by
  by_cases exceeds : c.Exceeds b.size b.head b.tail
  · rw [call_of_exceeds exceeds, Queue.serve, size_view, head_view, tail_view, if_pos exceeds]
  · rw [Queue.serve, size_view, head_view, tail_view, if_neg exceeds]
    cases c with
    | put data =>
      rw [Call.Exceeds, room_eq, Nat.not_lt] at exceeds
      rw [call, put_of_fits exceeds, settle, view_append]
      rfl
    | putByte byte =>
      rw [Call.Exceeds, room_eq, Nat.not_lt] at exceeds
      rw [call, put_of_fits (show [byte].length ≤ _ from exceeds), settle, view_append]
      rfl
    | get n =>
      rw [Call.Exceeds, unread_eq, Nat.not_lt] at exceeds
      rw [call, get_eq, if_pos exceeds, settle, view_dropFront b exceeds]
      rfl
    | peek n =>
      rw [Call.Exceeds, unread_eq, Nat.not_lt] at exceeds
      rw [call, peek, if_pos exceeds, settle]
      rfl
    | peekTail => rfl
    | advanceHead n =>
      rw [Call.Exceeds, unread_eq, Nat.not_lt] at exceeds
      rw [call, advanceHead_of_le exceeds, settle, view_dropFront b exceeds]
      rfl
    | advanceTail n =>
      rw [Call.Exceeds, room_eq, Nat.not_lt] at exceeds
      have stored : (b.view.cells.drop b.tail).take n = b.room.take n := by
        have place : b.tail = (b.spent ++ b.unread).length := List.length_append.symm
        show ((b.spent ++ b.unread ++ b.room).drop b.tail).take n = _
        rw [place, List.drop_left]
      have counted := view_append b (b.room.take n)
      rw [List.length_take_of_le exceeds] at counted
      rw [call, advanceTail, if_pos exceeds, settle, counted, ← stored]
      rfl
    | patch offset data =>
      rw [Call.Exceeds, not_or, Nat.not_lt, Nat.not_lt] at exceeds
      rw [call, patch, if_pos exceeds, settle]
      exact congrArg (Prod.mk _) (view_patch b exceeds.1 exceeds.2).symm
    | compact =>
      rw [call, view_compact]
      rfl
    | clear =>
      rw [call, view_clear]
      rfl
    | take =>
      rw [call, take, view_clear]
      rfl
    | fillRoom data =>
      rw [call, view_fillRoom, Queue.carryOut, size_view]
      rfl
    | readFrom source => exact view_readFrom source
    | writeTo sink => exact view_writeTo sink

theorem run_view (calls : List Call) :
    run Queue.serve b.view calls = ((run call b calls).1, (run call b calls).2.view) := by
  induction calls generalizing b with
  | nil => rfl
  | cons c calls ih =>
    rw [run, view_call c]
    dsimp only
    rw [ih]
    rfl

theorem size_settle {α : Type} {result : Except Error α} {answer : α → Answer × Buffer}
    (kept : ∀ a, result = .ok a → (answer a).2.size = b.size) :
    (b.settle result answer).2.size = b.size := by
  cases result with
  | error cause => rfl
  | ok a => exact kept a rfl

theorem size_call (c : Call) : (b.call c).2.size = b.size := by
  cases c with
  | put data => exact size_settle fun _ => size_put
  | putByte byte => exact size_settle fun _ => size_put
  | get n =>
    apply size_settle
    intro a taken
    rw [get_eq] at taken
    split at taken
    · next there =>
      cases taken
      exact size_advanceHead (advanceHead_of_le there)
    · cases taken
  | peek n => exact size_settle fun _ _ => rfl
  | peekTail => rfl
  | advanceHead n => exact size_settle fun _ => size_advanceHead
  | advanceTail n => exact size_settle fun _ => size_advanceTail
  | patch offset data =>
    apply size_settle
    intro a patched
    unfold patch at patched
    split at patched
    · next inside =>
      cases patched
      simp only [head, tail] at inside
      simp only [size, head, List.length_append, List.length_take, List.length_drop]
      omega
    · cases patched
  | compact => exact size_compact b
  | clear => exact size_clear b
  | take => exact size_clear b
  | fillRoom data => exact size_fillRoom b data
  | readFrom source => exact size_readFrom b source
  | writeTo sink =>
    cases sink with
    | error cause => rfl
    | ok limit =>
      simp only [call, writeTo, size, List.length_append, List.length_take, List.length_drop]
      omega

theorem size_run (calls : List Call) : (run call b calls).2.size = b.size := by
  induction calls generalizing b with
  | nil => rfl
  | cons c calls ih =>
    rw [run]
    dsimp only
    rw [ih, size_call]

/-- **A buffer is a bounded queue of bytes.** Whatever calls were made on a new one, the positions
are in order and within its size, the calls gave what they give on a queue, and the bytes that wait
are those of the queue; they lie between the positions. Then also: a call that fails leaves the
bytes that wait, and calls are refused just if they ask for more than there is or than there is room
for, or to overwrite what does not wait. -/
theorem refines_queue (size : Nat) (calls : List Call) :
    let b := (run call (new size) calls).2
    let q := (run Queue.serve (.empty size) calls).2
    (b.head ≤ b.tail ∧ b.tail ≤ size ∧ b.size = size) ∧
    (run call (new size) calls).1 = (run Queue.serve (.empty size) calls).1 ∧
    (b.unread = q.held ∧ b.head = q.head ∧ b.tail = q.tail ∧
      q.held = (q.cells.drop b.head).take (b.tail - b.head)) ∧
    (∀ c failure, (b.call c).1 = .error failure → (b.call c).2.unread = b.unread) ∧
    (∀ data, RefusedJustIf (b.put data) (size - b.tail < data.length)) ∧
    (∀ n, RefusedJustIf (b.advanceTail n) (size - b.tail < n)) ∧
    (∀ n, RefusedJustIf (b.get n) (b.tail - b.head < n)) ∧
    (∀ n, RefusedJustIf (b.peek n) (b.tail - b.head < n)) ∧
    (∀ n, RefusedJustIf (b.advanceHead n) (b.tail - b.head < n)) ∧
    ∀ offset data,
      RefusedJustIf (b.patch offset data) (offset < b.head ∨ b.tail < offset + data.length) := by
  intro b q
  have simulated := run_view (b := new size) calls
  rw [view_new] at simulated
  have kept : b.size = size := (size_run calls).trans (size_new size)
  have last : q = b.view := congrArg Prod.snd simulated
  have window : b.unread = (b.storage.drop b.head).take (b.tail - b.head) := by
    rw [unread_eq, storage, head, List.append_assoc, List.drop_left, List.take_left]
  rw [last]
  refine ⟨⟨Nat.le_add_right .., ?_, kept⟩, (congrArg Prod.fst simulated).symm,
    ⟨rfl, rfl, rfl, window⟩, ?_, ?_⟩
  · rw [← kept]
    exact Nat.le_add_right ..
  · intro c failure failed
    have served := view_call (b := b) c
    have failed' : (b.view.serve c).1 = .error failure := by rwa [served]
    have same := Queue.held_of_error failed'
    rwa [served] at same
  · rw [← kept]
    exact ⟨put_refused b, advanceTail_refused b, get_refused b, peek_refused b,
      advanceHead_refused b, patch_refused b⟩

/-- What was put stays in the storage when the buffer is cleared, and can be counted again. -/
example : (run call (new 4) [.put [1, 2, 3], .clear, .advanceTail 2, .take]).1 =
    [.ok (.count 3), .ok .done, .ok .done, .ok (.bytes [1, 2])] :=
  rfl

end Buffer

end CardTerminal
