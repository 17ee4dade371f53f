import CardTerminal.Proofs.Watched
import CardTerminal.Protocol.Memory

/-!
What a verified write is worth.

The device may spoil what it writes, as long as it keeps to the range that it was told to write
(`MemoryCard.Stores`). A write is cut into pieces, and every piece is read back. So when a write
succeeds, exactly the range has changed, and to exactly the data; when it fails, every piece before
the one that failed is in place, and nothing outside the range has changed.

The pieces lie one behind the other, each within a page and within the addresses that there are, and
each is written once or twice before the next one is begun (`Piece.Proper`, `Joined`).

Main statement: `write_verified`.
-/

namespace CardTerminal

open CardTerminal.Action

namespace MemoryCard

variable {σ τ : Type}

/-! ## Memories -/

/-- Nothing but the range of this length has changed. -/
def SameOutside (address length : Nat) (old new : Bytes) : Prop :=
  ∀ i, i < address ∨ address + length ≤ i → new[i]? = old[i]?

/-- The bytes are in the memory, from the address on. -/
def Has (stored : Bytes) (address : Nat) (bytes : Bytes) : Prop :=
  ∀ i < bytes.length, stored[address + i]? = bytes[i]?

/-- There is a memory behind the card. What is read is what the memory holds, perhaps cut short, and
reading changes nothing. Writing changes nothing but the range that is to be written, whether it
succeeds or fails; what it leaves in this range is not known. -/
structure Stores (memory : σ → Bytes) (card : MemoryCard σ) : Prop where
  read : ∀ address length, Keeps memory (card.read address length)
  given : ∀ {address length s s' bytes}, card.read address length s = .ok bytes s' →
    bytes <+: ((memory s).drop address).take length
  write : ∀ address bytes, Moves
    (fun s s' => SameOutside address bytes.length (memory s) (memory s')) (card.write address bytes)

theorem SameOutside.refl (address length : Nat) (old : Bytes) :
    SameOutside address length old old :=
  fun _ _ => rfl

theorem SameOutside.trans {address length : Nat} {old mid new : Bytes}
    (first : SameOutside address length old mid) (second : SameOutside address length mid new) :
    SameOutside address length old new :=
  fun i outside => (second i outside).trans (first i outside)

theorem SameOutside.widen {address length address' length' : Nat} {old new : Bytes}
    (same : SameOutside address length old new)
    (within : ∀ i, i < address' ∨ address' + length' ≤ i → i < address ∨ address + length ≤ i) :
    SameOutside address' length' old new :=
  fun i outside => same i (within i outside)

/-- Bytes stay where they are when only what lies behind them changes. -/
theorem Has.before {old new bytes : Bytes} {address edge length : Nat} (has : Has old address bytes)
    (same : SameOutside edge length old new) (apart : address + bytes.length ≤ edge) :
    Has new address bytes := by
  intro i inside
  rw [same (address + i) (.inl (by omega))]
  exact has i inside

theorem Has.of_read {stored bytes : Bytes} {address : Nat}
    (read : bytes <+: (stored.drop address).take bytes.length) : Has stored address bytes := by
  obtain ⟨rest, whole⟩ := read
  intro i inside
  have there : ((stored.drop address).take bytes.length)[i]? = bytes[i]? := by
    rw [← whole, List.getElem?_append_left inside]
  rwa [List.getElem?_take_of_lt inside, List.getElem?_drop] at there

/-! ## Calls -/

/-- A call of a memory card. -/
inductive MemoryCall where
  | read (address length : Nat)
  | write (address : Nat) (bytes : Bytes)
  deriving DecidableEq, Repr

def watched (card : MemoryCard σ) : MemoryCard (σ × List MemoryCall) where
  read address length := (card.read address length).noted fun _ => .read address length
  write address bytes := (card.write address bytes).noted fun _ => .write address bytes

/-- What was to be written, and where, call after call. -/
def written (calls : List MemoryCall) : List (Nat × Bytes) :=
  calls.filterMap fun
    | .read _ _ => none
    | .write address bytes => some (address, bytes)

/-- Seen through `π`, the one card is the other, and all of its state changes in this way. -/
structure Mirrors (π : τ → σ) (R : τ → τ → Prop) (card' : MemoryCard τ) (card : MemoryCard σ) :
    Prop where
  read : ∀ address length,
    Action.Mirrors π R (card'.read address length) (card.read address length)
  write : ∀ address bytes,
    Action.Mirrors π R (card'.write address bytes) (card.write address bytes)

namespace Mirrors

variable {π : τ → σ} {R : τ → τ → Prop} {card' : MemoryCard τ} {card : MemoryCard σ}

theorem readExactly (mirrors : Mirrors π R card' card) (path : Path R) (address length : Nat) :
    Action.Mirrors π R (card'.readExactly address length) (card.readExactly address length) := by
  refine .ite (.throw path _) (.bind path (mirrors.read address length) fun bytes => ?_)
  exact .ite (.pure path _) (.throw path _)

theorem writePiece (mirrors : Mirrors π R card' card) (path : Path R) (address : Nat)
    (piece : Bytes) (left : Nat) :
    Action.Mirrors π R (card'.writePiece address piece left)
      (card.writePiece address piece left) := by
  induction left with
  | zero => exact .throw path _
  | succ left ih =>
    refine .bind path (mirrors.write address piece) fun _ => ?_
    refine .bind path (mirrors.read address piece.length) fun stored => ?_
    exact .ite (.pure path ()) ih

theorem writePieces (mirrors : Mirrors π R card' card) (path : Path R) (address : Nat)
    (bytes : Bytes) :
    Action.Mirrors π R (card'.writePieces address bytes) (card.writePieces address bytes) := by
  fun_induction card.writePieces address bytes with
  | case1 address =>
    rw [MemoryCard.writePieces, dif_pos rfl]
    exact .pure path ()
  | case2 address bytes some ih =>
    rw [MemoryCard.writePieces, dif_neg some]
    exact .bind path (mirrors.writePiece path address _ _) fun _ => ih

theorem writeVerified (mirrors : Mirrors π R card' card) (path : Path R) (address : Nat)
    (bytes : Bytes) :
    Action.Mirrors π R (card'.writeVerified address bytes) (card.writeVerified address bytes) :=
  .ite (.throw path _) (mirrors.writePieces path address bytes)

end Mirrors

theorem watched_mirrors (card : MemoryCard σ) :
    Mirrors Prod.fst (fun _ _ => True) card.watched card where
  read address length :=
    ⟨noted_shows (fun _ => MemoryCall.read address length) (card.read address length),
      fun _ => trivial⟩
  write address bytes :=
    ⟨noted_shows (fun _ => MemoryCall.write address bytes) (card.write address bytes),
      fun _ => trivial⟩

/-! ## Pieces -/

/-- A piece of what is to be written, and how often it was written. -/
structure Piece where
  address : Nat
  bytes : Bytes
  times : Nat

namespace Piece

def writes (p : Piece) : List (Nat × Bytes) :=
  List.replicate p.times (p.address, p.bytes)

/-- A piece is not empty, lies within a page and within the addresses, and was written once or
twice. -/
structure Proper (p : Piece) : Prop where
  some : p.bytes ≠ []
  page : ∀ k, ¬ (p.address < k * pageSize ∧ k * pageSize < p.address + p.bytes.length)
  fits : p.address + p.bytes.length ≤ addresses
  times : p.times = 1 ∨ p.times = 2

end Piece

/-- The pieces lie one behind the other, from the address on. -/
def Joined : Nat → List Piece → Prop
  | _, [] => True
  | address, p :: rest => p.address = address ∧ Joined (address + p.bytes.length) rest

variable {memory : σ → Bytes} {card : MemoryCard σ}

/-- These writes were done, and nothing outside the range has changed. -/
structure Wrote (memory : σ → Bytes) (address length : Nat) (writes : List (Nat × Bytes))
    (w w' : σ × List MemoryCall) : Prop where
  noted : written w'.2 = written w.2 ++ writes
  outside : SameOutside address length (memory w.1) (memory w'.1)

namespace Wrote

variable {address length : Nat} {writes more : List (Nat × Bytes)} {u v w : σ × List MemoryCall}

theorem refl (address length : Nat) (w : σ × List MemoryCall) :
    Wrote memory address length [] w w :=
  ⟨(List.append_nil _).symm, .refl address length _⟩

theorem trans (first : Wrote memory address length writes u v)
    (second : Wrote memory address length more v w) :
    Wrote memory address length (writes ++ more) u w where
  noted := by rw [second.noted, first.noted, List.append_assoc]
  outside := first.outside.trans second.outside

theorem widen {address' length' : Nat} (wrote : Wrote memory address length writes u v)
    (within : ∀ i, i < address' ∨ address' + length' ≤ i → i < address ∨ address + length ≤ i) :
    Wrote memory address' length' writes u v :=
  ⟨wrote.noted, wrote.outside.widen within⟩

end Wrote

theorem Stores.wrote (stores : card.Stores memory) (address : Nat) (bytes : Bytes) :
    Moves (Wrote memory address bytes.length [(address, bytes)])
      (card.watched.write address bytes) := by
  rintro ⟨s, calls⟩
  have moves := stores.write address bytes s
  simp only [after, watched, noted] at moves ⊢
  cases result : card.write address bytes s with
  | ok u s' =>
    rw [result] at moves
    exact ⟨List.filterMap_append, moves⟩
  | error e s' =>
    rw [result] at moves
    exact ⟨List.filterMap_append, moves⟩

theorem Stores.only_read (stores : card.Stores memory) (address length edge room : Nat) :
    Moves (Wrote memory edge room []) (card.watched.read address length) := by
  rintro ⟨s, calls⟩
  have keeps := stores.read address length s
  simp only [after, watched, noted] at keeps ⊢
  cases result : card.read address length s with
  | ok bytes s' =>
    rw [result] at keeps
    exact ⟨List.filterMap_append, fun i _ => congrArg (fun stored => stored[i]?) keeps⟩
  | error e s' =>
    rw [result] at keeps
    exact ⟨List.filterMap_append, fun i _ => congrArg (fun stored => stored[i]?) keeps⟩

theorem Stores.read_back (stores : card.Stores memory) {address : Nat} {piece : Bytes}
    {w w' : σ × List MemoryCall}
    (read : card.watched.read address piece.length w = .ok piece w') :
    Has (memory w'.1) address piece := by
  have read := (card.watched_mirrors.read address piece.length).shows.ok read
  rw [(stores.read address piece.length).ok read]
  exact .of_read (stores.given read)

/-! ## Writing a piece -/

/-- A piece is written as often as there are attempts, at most. It is in place if it was read back;
and unless there are no attempts, it was written. -/
theorem writePiece_course (stores : card.Stores memory) (address : Nat) (piece : Bytes)
    (left : Nat) (w : σ × List MemoryCall) :
    ∃ times ≤ left, (0 < left → 0 < times) ∧
      Wrote memory address piece.length (List.replicate times (address, piece)) w
        (after (card.watched.writePiece address piece left) w) ∧
      ∀ w', card.watched.writePiece address piece left w = .ok () w' →
        Has (memory w'.1) address piece := by
  induction left generalizing w with
  | zero =>
    refine ⟨0, Nat.le_refl 0, id, .refl address piece.length w, fun w' done => ?_⟩
    cases done
  | succ left ih =>
    have wrote := stores.wrote address piece
    have looked := stores.only_read address piece.length address piece.length
    cases first : card.watched.write address piece w with
    | error e u =>
      have failed : card.watched.writePiece address piece (left + 1) w = .error e u :=
        bind_of_error first
      refine ⟨1, Nat.succ_pos left, fun _ => Nat.one_pos, ?_, fun w' done => ?_⟩
      · rw [after_of_error failed]
        exact wrote.error first
      · cases failed.symm.trans done
    | ok _ u =>
      cases second : card.watched.read address piece.length u with
      | error e v =>
        have failed : card.watched.writePiece address piece (left + 1) w = .error e v :=
          (bind_of_ok first).trans (bind_of_error second)
        refine ⟨1, Nat.succ_pos left, fun _ => Nat.one_pos, ?_, fun w' done => ?_⟩
        · rw [after_of_error failed]
          exact (wrote.ok first).trans (looked.error second)
        · cases failed.symm.trans done
      | ok stored v =>
        have so_far := (wrote.ok first).trans (looked.ok second)
        have goes : card.watched.writePiece address piece (left + 1) w =
            (if stored = piece then pure () else card.watched.writePiece address piece left) v :=
          (bind_of_ok first).trans (bind_of_ok second)
        by_cases same : stored = piece
        · subst same
          rw [if_pos rfl] at goes
          refine ⟨1, Nat.succ_pos left, fun _ => Nat.one_pos, ?_, fun w' done => ?_⟩
          · rw [after_of_ok goes]
            exact so_far
          · cases goes.symm.trans done
            exact stores.read_back second
        · -- What was read back is something else, so the rest of the attempts are left.
          rw [if_neg same] at goes
          obtain ⟨times, few, -, again, has⟩ := ih v
          refine ⟨times + 1, Nat.succ_le_succ few, fun _ => Nat.succ_pos times, ?_, ?_⟩
          · rw [after, goes, List.replicate_succ]
            exact so_far.trans again
          · rw [goes]
            exact has

/-! ## Writing piece after piece -/

theorem room_page (address k : Nat) :
    ¬ (address < k * pageSize ∧ k * pageSize < address + room address) := by
  simp only [room, pageSize]
  omega

theorem room_fits {address : Nat} (low : address < addresses) :
    address + room address ≤ addresses := by
  simp only [room, pageSize, addresses] at low ⊢
  omega

/-- The pieces make up a beginning of the bytes, from the address on. -/
structure Laid (address : Nat) (bytes : Bytes) (pieces : List Piece) : Prop where
  joined : Joined address pieces
  proper : ∀ p ∈ pieces, p.Proper
  start : pieces.flatMap Piece.bytes <+: bytes

theorem Laid.nil (address : Nat) (bytes : Bytes) : Laid address bytes [] where
  joined := trivial
  proper _ here := absurd here List.not_mem_nil
  start := List.nil_prefix

theorem Laid.eq_nil {address : Nat} {pieces : List Piece} (laid : Laid address [] pieces) :
    pieces = [] := by
  cases pieces with
  | nil => rfl
  | cons p rest =>
    have nothing := List.prefix_nil.mp laid.start
    rw [List.flatMap_cons, List.append_eq_nil_iff] at nothing
    exact absurd nothing.1 (laid.proper p List.mem_cons_self).some

/-- The first piece goes as far as the page and the bytes do; the others lie behind it. -/
theorem Laid.cons {address times : Nat} {bytes : Bytes} {pieces : List Piece} (some : bytes ≠ [])
    (fits : address + bytes.length ≤ addresses) (once : times = 1 ∨ times = 2)
    (laid : Laid (address + room address) (bytes.drop (room address)) pieces) :
    Laid address bytes (⟨address, bytes.take (room address), times⟩ :: pieces) where
  joined := by
    refine ⟨rfl, ?_⟩
    by_cases last : bytes.length ≤ room address
    · rw [List.drop_eq_nil_of_le last] at laid
      rw [laid.eq_nil]
      trivial
    · rw [List.length_take_of_le (Nat.le_of_not_le last)]
      exact laid.joined
  proper p here := by
    rcases List.mem_cons.mp here with rfl | here
    · have short : (bytes.take (room address)).length ≤ room address := List.length_take_le ..
      have whole : (bytes.take (room address)).length ≤ bytes.length := List.length_take_le' ..
      refine ⟨?_, fun k => ?_, ?_, once⟩
      · have := room_pos address
        rw [ne_eq, List.take_eq_nil_iff, not_or]
        exact ⟨by omega, some⟩
      · have := room_page address k
        dsimp only
        omega
      · dsimp only
        omega
    · exact laid.proper p here
  start := by
    obtain ⟨rest, whole⟩ := laid.start
    refine ⟨rest, ?_⟩
    rw [List.flatMap_cons, List.append_assoc, whole, List.take_append_drop]

/-- Bytes that are in place up to the end of a page and from there on are in place. -/
theorem Has.append {stored front back : Bytes} {address : Nat} (first : Has stored address front)
    (second : Has stored (address + front.length) back) : Has stored address (front ++ back) := by
  intro i inside
  rw [List.length_append] at inside
  by_cases here : i < front.length
  · rw [List.getElem?_append_left here]
    exact first i here
  · have there := second (i - front.length) (by omega)
    rw [List.getElem?_append_right (Nat.le_of_not_lt here), ← there]
    congr 1
    omega

/-- Bytes that are in place up to the end of a page and behind it are in place. -/
theorem Has.joined {stored bytes : Bytes} {address : Nat}
    (first : Has stored address (bytes.take (room address)))
    (later : Has stored (address + room address) (bytes.drop (room address))) :
    Has stored address bytes := by
  by_cases last : bytes.length ≤ room address
  · rwa [List.take_of_length_le last] at first
  · rw [← List.take_append_drop (room address) bytes]
    refine first.append ?_
    rwa [List.length_take_of_le (Nat.le_of_not_le last)]

/-- How a write went that led to this result: pieces were written one after the other, and all of
them are in place but the one that failed. -/
structure Course (memory : σ → Bytes) (address : Nat) (bytes : Bytes) (pieces : List Piece)
    (w : σ × List MemoryCall) (result : EStateM.Result Error (σ × List MemoryCall) Unit) :
    Prop where
  laid : Laid address bytes pieces
  wrote : Wrote memory address bytes.length (pieces.flatMap Piece.writes) w (left result)
  whole : ∀ w', result = .ok () w' →
    pieces.flatMap Piece.bytes = bytes ∧ Has (memory w'.1) address bytes
  part : ∀ e w', result = .error e w' →
    ∃ done failed, pieces = done ++ [failed] ∧ ∀ p ∈ done, Has (memory w'.1) p.address p.bytes

namespace Course

variable {address times : Nat} {bytes : Bytes} {pieces : List Piece} {u w : σ × List MemoryCall}
  {result : EStateM.Result Error (σ × List MemoryCall) Unit} {e : Error}

theorem nil (address : Nat) (w : σ × List MemoryCall) :
    Course memory address [] [] w (.ok () w) where
  laid := .nil address []
  wrote := .refl address 0 w
  whole _ _ := ⟨rfl, fun i inside => absurd inside (Nat.not_lt_zero i)⟩
  part _ _ failed := by cases failed

theorem failed (some : bytes ≠ []) (fits : address + bytes.length ≤ addresses)
    (once : times = 1 ∨ times = 2)
    (wrote : Wrote memory address bytes.length
      (List.replicate times (address, bytes.take (room address))) w u) :
    Course memory address bytes [⟨address, bytes.take (room address), times⟩] w (.error e u) where
  laid := .cons some fits once (.nil _ _)
  wrote := by
    rw [List.flatMap_singleton]
    exact wrote
  whole _ done := by cases done
  part _ _ _ := ⟨[], _, rfl, fun _ here => absurd here List.not_mem_nil⟩

/-- The first piece is in place and the others are written behind it, which leaves it there. -/
theorem cons (some : bytes ≠ []) (fits : address + bytes.length ≤ addresses)
    (once : times = 1 ∨ times = 2)
    (wrote : Wrote memory address bytes.length
      (List.replicate times (address, bytes.take (room address))) w u)
    (has : Has (memory u.1) address (bytes.take (room address)))
    (later : Course memory (address + room address) (bytes.drop (room address)) pieces u result) :
    Course memory address bytes (⟨address, bytes.take (room address), times⟩ :: pieces) w result :=
  have back : (bytes.drop (room address)).length = bytes.length - room address := List.length_drop
  have front : (bytes.take (room address)).length ≤ room address := List.length_take_le ..
  have kept : Has (memory (left result).1) address (bytes.take (room address)) :=
    has.before later.wrote.outside (by omega)
  { laid := .cons some fits once later.laid
    wrote := by
      rw [List.flatMap_cons]
      exact wrote.trans (later.wrote.widen fun i => by omega)
    whole := by
      rintro w' rfl
      obtain ⟨all, rest⟩ := later.whole w' rfl
      rw [List.flatMap_cons, all]
      exact ⟨List.take_append_drop _ _, kept.joined rest⟩
    part := by
      rintro e w' rfl
      obtain ⟨done, last, rfl, inPlace⟩ := later.part e w' rfl
      exact ⟨_ :: done, last, rfl, List.forall_mem_cons.mpr ⟨kept, inPlace⟩⟩ }

end Course

/-- **The course of a write.** Pieces are written one after the other until one fails. -/
theorem writePieces_course (stores : card.Stores memory) (address : Nat) (bytes : Bytes)
    (fits : address + bytes.length ≤ addresses) (w : σ × List MemoryCall) :
    ∃ pieces, Course memory address bytes pieces w (card.watched.writePieces address bytes w) := by
  fun_induction card.watched.writePieces address bytes generalizing w with
  | case1 address => exact ⟨[], .nil address w⟩
  | case2 address bytes some ih =>
    have size : 0 < bytes.length := List.length_pos_iff.mpr some
    have page : address + room address ≤ addresses := room_fits (by omega)
    have front : (bytes.take (room address)).length ≤ bytes.length := List.length_take_le' ..
    have back : (bytes.drop (room address)).length = bytes.length - room address :=
      List.length_drop
    obtain ⟨times, few, tried, wrote, has⟩ :=
      writePiece_course stores address (bytes.take (room address)) attempts w
    have once : times = 1 ∨ times = 2 := by
      have := tried (by decide)
      simp only [attempts] at few
      omega
    have wrote : Wrote memory address bytes.length _ w _ := wrote.widen fun i => by omega
    cases first : card.watched.writePiece address (bytes.take (room address)) attempts w with
    | error e u =>
      rw [after_of_error first] at wrote
      rw [bind_of_error first]
      exact ⟨_, .failed some fits once wrote⟩
    | ok _ u =>
      rw [after_of_ok first] at wrote
      rw [bind_of_ok first]
      obtain ⟨pieces, later⟩ := ih (by omega) u
      exact ⟨_, .cons some fits once wrote (has u first) later⟩

/-! ## What a write is worth -/

/-- **A verified write.** Let there be a memory behind a card that may fail at any time and spoil
the range that it is told to write. A range that reaches beyond the addresses is refused before the
card is called. Any other is written piece after piece from its start on, without gap or overlap;
each piece lies within a page and within the addresses, and is written once or twice in a row.
Nothing outside the range changes. If the write succeeds, the range holds the data; if it fails,
every piece before the one that failed is in place. -/
theorem write_verified (stores : card.Stores memory) (address : Nat) (bytes : Bytes) (s : σ) :
    let run := card.watched.writeVerified address bytes
    card.writeVerified address bytes s = see Prod.fst (run (s, [])) ∧
    (addresses < address + bytes.length → run (s, []) = .error .invalidArg (s, [])) ∧
    (address + bytes.length ≤ addresses →
      SameOutside address bytes.length (memory s) (memory (after run (s, [])).1) ∧
      ∃ pieces, written (after run (s, [])).2 = pieces.flatMap Piece.writes ∧
        Joined address pieces ∧ (∀ p ∈ pieces, p.Proper) ∧
        pieces.flatMap Piece.bytes <+: bytes ∧
        (∀ w, run (s, []) = .ok () w →
          pieces.flatMap Piece.bytes = bytes ∧ Has (memory w.1) address bytes) ∧
        ∀ e w, run (s, []) = .error e w →
          ∃ done failed, pieces = done ++ [failed] ∧
            ∀ p ∈ done, Has (memory w.1) p.address p.bytes) := by
  intro run
  have path : Path fun _ _ : σ × List MemoryCall => True := ⟨fun _ => trivial, fun _ _ => trivial⟩
  refine ⟨(card.watched_mirrors.writeVerified path address bytes).shows (s, []), fun beyond => ?_,
    fun fits => ?_⟩
  · simp only [run, writeVerified, if_pos beyond]
    rfl
  · have writes : run = card.watched.writePieces address bytes := if_neg (Nat.not_lt.mpr fits)
    obtain ⟨pieces, course⟩ := writePieces_course stores address bytes fits (s, [])
    rw [writes]
    exact ⟨course.wrote.outside, pieces, course.wrote.noted, course.laid.joined,
      course.laid.proper, course.laid.start, course.whole, course.part⟩

/-- A memory that takes every bit for its opposite the first few times that it is written. -/
structure Worn where
  stored : Bytes
  spoils : Nat
  deriving DecidableEq, Repr

def worn : MemoryCard Worn where
  read address length := fun s =>
    if address + length ≤ s.stored.length then .ok ((s.stored.drop address).take length) s
    else .error .invalidArg s
  write address bytes := fun s =>
    if address + bytes.length ≤ s.stored.length then
      let landed := if s.spoils = 0 then bytes else bytes.map (~~~ ·)
      .ok () ⟨s.stored.take address ++ Bytes.overlay landed (s.stored.drop address), s.spoils - 1⟩
    else .error .invalidArg s

theorem worn_stores : worn.Stores Worn.stored where
  read address length := by
    intro s
    simp only [after, worn]
    split <;> rfl
  given := by
    intro address length s s' bytes given
    simp only [worn] at given
    split at given
    · cases given
      exact List.prefix_refl _
    · cases given
  write address bytes := by
    intro s
    simp only [after, worn]
    split
    · next inside =>
      intro i outside
      have landed : (if s.spoils = 0 then bytes else bytes.map (~~~ ·)).length = bytes.length := by
        split
        · rfl
        · exact List.length_map _
      simp only [left, Bytes.overlay]
      grind
    · exact SameOutside.refl address bytes.length s.stored

set_option maxRecDepth 4000 in
/-- The first piece is spoiled once and written again; the page ends in the middle of the data. -/
theorem write_verified_worn :
    worn.Stores Worn.stored ∧ 254 + 4 ≤ addresses ∧
      ∃ w, worn.watched.writeVerified 254 [1, 2, 3, 4] (⟨List.replicate 260 0xFF, 1⟩, []) =
          .ok () w ∧
        written w.2 = [(254, [1, 2]), (254, [1, 2]), (256, [3, 4])] ∧
        Has w.1.stored 254 [1, 2, 3, 4] := by
  obtain ⟨-, -, verified⟩ :=
    write_verified worn_stores 254 [1, 2, 3, 4] ⟨List.replicate 260 0xFF, 1⟩
  obtain ⟨-, pieces, -, -, -, -, whole, -⟩ := verified (by decide)
  refine ⟨worn_stores, by decide, ?_⟩
  have done : worn.watched.writeVerified 254 [1, 2, 3, 4] (⟨List.replicate 260 0xFF, 1⟩, []) =
      .ok () (⟨List.replicate 254 0xFF ++ [1, 2, 3, 4, 0xFF, 0xFF], 0⟩, [.write 254 [1, 2],
        .read 254 2, .write 254 [1, 2], .read 254 2, .write 256 [3, 4], .read 256 2]) := by
    rw [writeVerified, if_neg (by decide), writePieces, dif_neg (by decide)]
    rw [writePieces, dif_neg (by decide)]
    rw [writePieces, dif_pos (by decide)]
    rfl
  exact ⟨_, done, by decide, (whole _ done).2⟩

end MemoryCard

end CardTerminal
