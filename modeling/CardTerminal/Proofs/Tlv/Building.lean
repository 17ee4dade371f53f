import CardTerminal.Proofs.Tlv.Items
import CardTerminal.Tlv.Builder

/-!
Building items piece by piece.

Every call on a builder is made of steps that begin an item or add to the value of the last one
(`Call.steps`). What the calls should amount to is said without a buffer: the steps take effect one
after the other, until the first that is refused (`effective`), and those that took effect make up a
list of items, written with the newest item first (`draftFrom`). The builder keeps up with that
(`Builder.stepAll_holding`): what it has appended is the encoding of these items at any time,
although it writes lengths before it knows them, and a failure may come between an item and its
value.

Main statement: `building_parses`.
-/

namespace CardTerminal

namespace Tlv

/-- What a call on a builder is made of. -/
inductive Step where
  | begin (tag : UInt8)
  | add (data : Bytes)
  deriving DecidableEq, Repr

namespace Step

/-- The items after a step that takes effect, the newest first. -/
def extend : Step → List Item → List Item
  | begin tag, draft => ⟨tag, []⟩ :: draft
  | add data, item :: draft => ⟨item.tag, item.value ++ data⟩ :: draft
  | add _, [] => []

/-- Why a step is refused, if it is. Items may take up so much room. -/
def refusal (form : Form) (room : Nat) (draft : List Item) : Step → Option Error
  | begin tag =>
    if room < (encode form draft.reverse).length + (Item.encode form ⟨tag, []⟩).length then
      some .insufficientSpace
    else none
  | add data =>
    match draft with
    | [] => some .invalidArg
    | item :: _ =>
      if form.maxLength < item.value.length + data.length then some .bufferTooSmall
      else if room < (encode form draft.reverse).length + data.length then
        some .insufficientSpace
      else none

end Step

/-- What becomes of a sequence of steps. -/
structure Effect where
  /-- The steps that take effect. -/
  taken : List Step
  /-- Why the step after them is refused, if there is one. -/
  failure : Option Error
  deriving DecidableEq, Repr

/-- Steps take effect until one is refused. -/
def effective (form : Form) (room : Nat) : List Item → List Step → Effect
  | _, [] => ⟨[], none⟩
  | draft, step :: steps =>
    match step.refusal form room draft with
    | some cause => ⟨[], some cause⟩
    | none =>
      let effect := effective form room (step.extend draft) steps
      ⟨step :: effect.taken, effect.failure⟩

/-- The items after more steps, the newest first. -/
def draftFrom : List Item → List Step → List Item
  | draft, [] => draft
  | draft, step :: steps => draftFrom (step.extend draft) steps

namespace Builder

inductive Call where
  | putTag (tag : UInt8)
  | addBytes (data : Bytes)
  | addNumber (n : UInt32)
  | putBytes (tag : UInt8) (data : Bytes)
  | putNumber (tag : UInt8) (n : UInt32)
  | putText (tag : UInt8) (text : String)
  deriving DecidableEq, Repr

def Call.steps : Call → List Step
  | putTag tag => [.begin tag]
  | addBytes data => [.add data]
  | addNumber n => [.add (Bytes.minimalBe n)]
  | putBytes tag data => [.begin tag, .add data]
  | putNumber tag n => [.begin tag, .add (Bytes.minimalBe n)]
  | putText tag text => [.begin tag, .add (Utf8.encode text)]

def call (b : Builder) : Call → Builder
  | .putTag tag => b.putTag tag
  | .addBytes data => b.addBytes data
  | .addNumber n => b.addNumber n
  | .putBytes tag data => b.putBytes tag data
  | .putNumber tag n => b.putNumber tag n
  | .putText tag text => b.putText tag text

def callAll : Builder → List Call → Builder
  | b, [] => b
  | b, c :: calls => callAll (b.call c) calls

def step (b : Builder) : Step → Builder
  | .begin tag => b.putTag tag
  | .add data => b.addBytes data

def stepAll : Builder → List Step → Builder
  | b, [] => b
  | b, s :: steps => stepAll (b.step s) steps

theorem stepAll_append (b : Builder) (first second : List Step) :
    b.stepAll (first ++ second) = (b.stepAll first).stepAll second := by
  induction first generalizing b with
  | nil => rfl
  | cons s steps ih => exact ih (b.step s)

theorem call_eq (b : Builder) (c : Call) : b.call c = b.stepAll c.steps := by
  cases c <;> rfl

theorem callAll_eq (b : Builder) (calls : List Call) :
    b.callAll calls = b.stepAll (calls.flatMap Call.steps) := by
  induction calls generalizing b with
  | nil => rfl
  | cons c calls ih =>
    rw [List.flatMap_cons, stepAll_append, ← call_eq]
    exact ih (b.call c)

/-! ## A failure sticks -/

theorem append_of_failed {b : Builder} (failed : b.failure.isSome = true) (data : Bytes) :
    b.append data = .error b :=
  if_pos failed

theorem fail_of_failed {b : Builder} (failed : b.failure.isSome = true) (cause : Error) :
    b.fail cause = b := by
  obtain ⟨buffer, form, openItem, failure⟩ := b
  cases failure with
  | none => cases failed
  | some first => rfl

theorem step_of_failed {b : Builder} (failed : b.failure.isSome = true) (s : Step) :
    b.step s = b := by
  cases s with
  | begin tag => simp only [step, putTag, append_of_failed failed]
  | add data =>
    simp only [step, addBytes]
    split
    · exact fail_of_failed failed _
    · split
      · exact fail_of_failed failed _
      · simp only [append_of_failed failed]

theorem stepAll_of_failed {b : Builder} (failed : b.failure.isSome = true) (steps : List Step) :
    b.stepAll steps = b := by
  induction steps with
  | nil => rfl
  | cons s steps ih =>
    rw [stepAll, step_of_failed failed]
    exact ih

end Builder

end Tlv

/-! ## What a builder holds -/

namespace Buffer

variable {start : Buffer}

/-- A buffer with so many bytes more to read. -/
def extended (b : Buffer) (data : Bytes) : Buffer :=
  ⟨b.spent, b.unread ++ data, b.room.drop data.length⟩

theorem extended_nil (b : Buffer) : b.extended [] = b := by
  simp only [extended, List.append_nil, List.length_nil, List.drop_zero]

theorem tail_extended (b : Buffer) (data : Bytes) :
    (b.extended data).tail = b.tail + data.length := by
  simp only [tail, extended, List.length_append]
  omega

theorem put_extended {data more : Bytes} (fits : data.length + more.length ≤ start.tailroom) :
    (start.extended data).put more = .ok (start.extended (data ++ more)) := by
  have room : more.length ≤ (start.extended data).room.length := by
    simp only [extended, tailroom, List.length_drop] at fits ⊢
    omega
  rw [put, if_pos room]
  simp only [extended, List.append_assoc, List.drop_drop, List.length_append]

theorem put_extended_full {data more : Bytes} (there : data.length ≤ start.tailroom)
    (full : start.tailroom < data.length + more.length) :
    (start.extended data).put more = .error .insufficientSpace := by
  refine if_neg ?_
  simp only [extended, tailroom, List.length_drop] at there full ⊢
  omega

/-- Bytes in the middle of what was appended are exchanged for as many others. -/
theorem patch_extended (start : Buffer) (before old new after : Bytes)
    (same : new.length = old.length) :
    (start.extended (before ++ old ++ after)).patch (start.tail + before.length) new =
      .ok (start.extended (before ++ new ++ after)) := by
  have inside : (start.extended (before ++ old ++ after)).head ≤ start.tail + before.length ∧
      start.tail + before.length + new.length ≤ (start.extended (before ++ old ++ after)).tail := by
    simp only [head, tail, extended, List.length_append]
    omega
  -- Places are counted from the start of the buffer, unread bytes from its head.
  have at_ : start.tail + before.length - (start.extended (before ++ old ++ after)).head =
      (start.unread ++ before).length := by
    simp only [head, tail, extended, List.length_append]
    omega
  have unread : (start.extended (before ++ old ++ after)).unread =
      (start.unread ++ before) ++ (old ++ after) := by
    simp only [extended, List.append_assoc]
  have length : (before ++ (old ++ after)).length = (before ++ (new ++ after)).length := by
    simp only [List.length_append]
    omega
  rw [patch, if_pos inside]
  dsimp only
  rw [at_, unread, List.take_left, ← List.drop_drop, List.drop_left, same, List.drop_left]
  simp only [extended, List.append_assoc, length]

end Buffer

namespace Tlv

variable {start : Buffer} {form : Form} {room : Nat} {draft : List Item} {s : Step}

/-! ## The items stay within bounds -/

theorem encode_single (form : Form) (item : Item) : encode form [item] = item.encode form :=
  List.append_nil _

theorem length_encode_add (form : Form) (item : Item) (data : Bytes) :
    (Item.encode form ⟨item.tag, item.value ++ data⟩).length =
      (item.encode form).length + data.length := by
  cases form with
  | short =>
    simp only [Item.encode, List.length_cons, List.length_append]
    omega
  | large =>
    simp only [Item.encode, List.length_cons, List.length_append, Bytes.be16, List.length_nil]
    omega

/-- The items fit the room there is, and each of them fits the form. -/
structure Legal (form : Form) (room : Nat) (draft : List Item) : Prop where
  roomy : (encode form draft.reverse).length ≤ room
  fits : ∀ item ∈ draft, item.Fits form

theorem Legal.nil : Legal form room [] where
  roomy := Nat.zero_le room
  fits := fun _ mem => absurd mem List.not_mem_nil

theorem Legal.extend (legal : Legal form room draft) (taken : s.refusal form room draft = none) :
    Legal form room (s.extend draft) := by
  cases s with
  | begin tag =>
    unfold Step.refusal at taken
    dsimp only at taken
    split at taken
    · cases taken
    · next fits =>
      constructor
      · simp only [Step.extend, List.reverse_cons, encode_append, encode_single, List.length_append]
        exact Nat.le_of_not_lt fits
      · intro item mem
        rcases List.mem_cons.mp mem with rfl | old
        · exact Nat.zero_le _
        · exact legal.fits item old
  | add data =>
    cases draft with
    | nil => cases taken
    | cons item earlier =>
      unfold Step.refusal at taken
      dsimp only at taken
      split at taken
      · cases taken
      · next short =>
        split at taken
        · cases taken
        · next fits =>
          constructor
          · simp only [Step.extend, List.reverse_cons, encode_append, encode_single,
              List.length_append, length_encode_add] at fits ⊢
            omega
          · intro other mem
            rcases List.mem_cons.mp mem with rfl | old
            · show (item.value ++ data).length ≤ form.maxLength
              rw [List.length_append]
              omega
            · exact legal.fits other (List.mem_cons_of_mem _ old)

namespace Builder

/-! ## The builder keeps up -/

/-- Where the length of the newest item is stored, and how long its value is. -/
def openOf (start : Buffer) (form : Form) : List Item → Option (Nat × Nat)
  | [] => none
  | item :: earlier =>
    some (start.tail + (encode form earlier.reverse).length + 1, item.value.length)

/-- The builder that has appended these items, the newest first, to the buffer it began with. -/
def holding (start : Buffer) (form : Form) (draft : List Item) : Builder :=
  ⟨start.extended (encode form draft.reverse), form, openOf start form draft, none⟩

theorem holding_nil (start : Buffer) (form : Form) : holding start form [] = new start form := by
  show (⟨start.extended [], form, none, none⟩ : Builder) = ⟨start, form, none, none⟩
  rw [Buffer.extended_nil]

theorem opening_eq (form : Form) (tag : UInt8) :
    opening form tag = Item.encode form ⟨tag, []⟩ := by
  cases form with
  | short => rfl
  | large =>
    have zero : Bytes.be16 0 = [0, 0] := by decide
    show [tag, escape, 0, 0] = tag :: escape :: (Bytes.be16 0 ++ [])
    rw [zero]
    rfl

theorem append_holding (legal : Legal form start.tailroom draft) (data : Bytes) :
    (holding start form draft).append data =
      if start.tailroom < (encode form draft.reverse).length + data.length then
        .error { holding start form draft with failure := some .insufficientSpace }
      else
        .ok { holding start form draft with
          buffer := start.extended (encode form draft.reverse ++ data) } := by
  split
  · next full =>
    have noRoom := Buffer.put_extended_full legal.roomy full
    simp only [append, holding, Option.isSome_none, Bool.false_eq_true, if_false, noRoom]
    rfl
  · next fits =>
    have put := Buffer.put_extended (Nat.le_of_not_lt fits)
    simp only [append, holding, Option.isSome_none, Bool.false_eq_true, if_false, put]

/-- The length field of the item behind `written` bytes takes in the bytes that were added. -/
theorem patch_length (start : Buffer) (form : Form) (written : Bytes) (item : Item) (data : Bytes) :
    let field := lengthField form (start.tail + written.length + 1)
      (item.value.length + data.length)
    (start.extended (written ++ (item.encode form ++ data))).patch field.1 field.2 =
      .ok (start.extended (written ++ Item.encode form ⟨item.tag, item.value ++ data⟩)) := by
  obtain ⟨tag, value⟩ := item
  cases form with
  | short =>
    have patched := start.patch_extended (written ++ [tag]) [UInt8.ofNat value.length]
      [UInt8.ofNat (value.length + data.length)] (value ++ data) rfl
    simpa [lengthField, Item.encode, Nat.add_assoc] using patched
  | large =>
    have patched := start.patch_extended (written ++ [tag, escape])
      (Bytes.be16 (UInt16.ofNat value.length))
      (Bytes.be16 (UInt16.ofNat (value.length + data.length))) (value ++ data) rfl
    simpa [lengthField, Item.encode, Nat.add_assoc] using patched

/-- **A step has its effect, or it leaves its failure behind and nothing else.** -/
theorem step_holding (legal : Legal form start.tailroom draft) (s : Step) :
    (holding start form draft).step s =
      match s.refusal form start.tailroom draft with
      | some cause => { holding start form draft with failure := some cause }
      | none => holding start form (s.extend draft) := by
  have sameForm : (holding start form draft).form = form := rfl
  cases s with
  | begin tag =>
    have refusal : Step.refusal form start.tailroom draft (.begin tag) =
        if start.tailroom < (encode form draft.reverse).length +
          (Item.encode form ⟨tag, []⟩).length then some .insufficientSpace else none := rfl
    rw [refusal]
    simp only [step, putTag, append_holding legal, sameForm, opening_eq]
    by_cases full : start.tailroom < (encode form draft.reverse).length +
      (Item.encode form ⟨tag, []⟩).length
    · simp only [if_pos full]
    · simp only [if_neg full, holding, openOf, Step.extend, List.reverse_cons, encode_append,
        encode_single, Buffer.tail_extended, List.length_nil]
  | add data =>
    cases draft with
    | nil => rfl
    | cons item earlier =>
      have opened : (holding start form (item :: earlier)).openItem =
        some (start.tail + (encode form earlier.reverse).length + 1, item.value.length) := rfl
      have patched := patch_length start form (encode form earlier.reverse) item data
      have refusal : Step.refusal form start.tailroom (item :: earlier) (.add data) =
          if form.maxLength < item.value.length + data.length then some .bufferTooSmall
          else if start.tailroom < (encode form (item :: earlier).reverse).length + data.length then
            some .insufficientSpace
          else none := rfl
      rw [refusal]
      -- The data is appended behind the item as it was, and only then is its length put right.
      simp only [step, addBytes, opened, sameForm, append_holding legal]
      by_cases long : form.maxLength < item.value.length + data.length
      · simp only [if_pos long]
        rfl
      · by_cases full : start.tailroom <
            (encode form (item :: earlier).reverse).length + data.length
        · simp only [if_neg long, if_pos full]
        · dsimp only at patched
          simp only [if_neg long, if_neg full]
          simp only [List.reverse_cons, encode_append, encode_single, List.append_assoc, patched,
            holding, openOf, Step.extend, List.length_append]

/-- What the builder is after any steps: it has the items of those that took effect. -/
theorem stepAll_holding (legal : Legal form start.tailroom draft) (steps : List Step) :
    (holding start form draft).stepAll steps =
      { holding start form (draftFrom draft (effective form start.tailroom draft steps).taken) with
        failure := (effective form start.tailroom draft steps).failure } := by
  -- On the steps. As long as none is refused the draft stays legal; after that nothing moves.
  induction steps generalizing draft with
  | nil => rfl
  | cons s steps ih =>
    have moved := step_holding legal s
    cases refusal : s.refusal form start.tailroom draft with
    | some cause =>
      simp only [refusal] at moved
      simp only [stepAll, effective, refusal, moved]
      exact stepAll_of_failed rfl steps
    | none =>
      simp only [refusal] at moved
      simp only [stepAll, effective, refusal, moved]
      exact ih (legal.extend refusal)

end Builder

/-! ## The steps that take effect -/

theorem legal_effective (legal : Legal form room draft) (steps : List Step) :
    Legal form room (draftFrom draft (effective form room draft steps).taken) := by
  induction steps generalizing draft with
  | nil => exact legal
  | cons s steps ih =>
    cases refusal : s.refusal form room draft with
    | some cause =>
      simp only [effective, refusal]
      exact legal
    | none =>
      simp only [effective, refusal]
      exact ih (legal.extend refusal)

theorem effective_taken (form : Form) (room : Nat) (draft : List Item) (steps : List Step) :
    (effective form room draft steps).taken <+: steps ∧
      ((effective form room draft steps).failure = none ↔
        (effective form room draft steps).taken = steps) := by
  induction steps generalizing draft with
  | nil => exact ⟨List.prefix_refl _, iff_of_true rfl rfl⟩
  | cons s steps ih =>
    cases refusal : s.refusal form room draft with
    | some cause =>
      simp only [effective, refusal]
      exact ⟨List.nil_prefix, iff_of_false (by simp) (by simp)⟩
    | none =>
      simp only [effective, refusal, List.cons.injEq, true_and, List.cons_prefix_cons]
      exact ih (s.extend draft)

theorem draftFrom_append (draft : List Item) (first second : List Step) :
    draftFrom draft (first ++ second) = draftFrom (draftFrom draft first) second := by
  induction first generalizing draft with
  | nil => rfl
  | cons s first ih => exact ih (s.extend draft)

theorem draftFrom_begun (newer older : List Item) (steps : List Step)
    (begun : newer = [] → ∀ data, steps.head? ≠ some (.add data)) :
    ∃ items, draftFrom (newer ++ older) steps = items ++ older ∧
      ∀ item ∈ items, (∃ old ∈ newer, old.tag = item.tag) ∨ .begin item.tag ∈ steps := by
  -- On the steps: each changes the newest item or begins one, and both belong to the newer ones.
  induction steps generalizing newer with
  | nil => exact ⟨newer, rfl, fun item mem => .inl ⟨item, mem, rfl⟩⟩
  | cons s steps ih =>
    cases s with
    | begin tag =>
      obtain ⟨items, same, from_⟩ := ih (⟨tag, []⟩ :: newer) (fun none => by cases none)
      refine ⟨items, same, fun item mem => ?_⟩
      rcases from_ item mem with ⟨old, old_mem, tagged⟩ | later
      · rcases List.mem_cons.mp old_mem with rfl | old_mem
        · exact .inr (tagged ▸ List.mem_cons_self)
        · exact .inl ⟨old, old_mem, tagged⟩
      · exact .inr (List.mem_cons_of_mem _ later)
    | add data =>
      cases newer with
      | nil => exact absurd rfl (begun rfl data)
      | cons item newer =>
        obtain ⟨items, same, from_⟩ :=
          ih (⟨item.tag, item.value ++ data⟩ :: newer) (fun none => by cases none)
        refine ⟨items, same, fun other mem => ?_⟩
        rcases from_ other mem with ⟨old, old_mem, tagged⟩ | later
        · rcases List.mem_cons.mp old_mem with rfl | old_mem
          · exact .inl ⟨item, List.mem_cons_self, tagged⟩
          · exact .inl ⟨old, List.mem_cons_of_mem _ old_mem, tagged⟩
        · exact .inr (List.mem_cons_of_mem _ later)

/-- A number is found under its tag as long as nothing is added to its item and no later item has
its tag. -/
theorem number?_draftFrom {before after : List Step} {tag : UInt8} {n : UInt32}
    (closed : ∀ data, after.head? ≠ some (.add data)) (last : .begin tag ∉ after) :
    number? (draftFrom [] (before ++ (Builder.Call.putNumber tag n).steps ++ after)).reverse tag =
      .ok (some n) := by
  obtain ⟨items, same, from_⟩ := draftFrom_begun []
    (⟨tag, Bytes.minimalBe n⟩ :: draftFrom [] before) after (fun _ => closed)
  have drafted : draftFrom [] (before ++ (Builder.Call.putNumber tag n).steps ++ after) =
      items ++ ⟨tag, Bytes.minimalBe n⟩ :: draftFrom [] before := by
    rw [draftFrom_append, draftFrom_append]
    exact same
  have others : ∀ item ∈ items.reverse, item.tag ≠ tag := by
    rintro item mem rfl
    rcases from_ item (List.mem_reverse.mp mem) with ⟨old, none, -⟩ | later
    · cases none
    · exact last later
  refine number?_of_value (value?_eq_some_iff.mpr ⟨(draftFrom [] before).reverse, items.reverse,
    ?_, others⟩)
  rw [drafted, List.reverse_append, List.reverse_cons, List.append_assoc]
  rfl

/-! ## Every sequence of calls -/

/-- **What a builder builds is what is read back.** Of the steps that the calls are made of, those
before the first one that is refused take effect, and the buffer has the encoding of their items
more than before. A refused step makes `finish` fail with its cause, and no call changes anything
after it. The appended bytes always parse, into just these items; a number reads back as itself. -/
theorem building_parses (start : Buffer) (form : Form) (calls : List Builder.Call) :
    let steps := calls.flatMap Builder.Call.steps
    let effect := effective form start.tailroom [] steps
    let items := (draftFrom [] effect.taken).reverse
    let b := (Builder.new start form).callAll calls
    b.buffer = start.extended (encode form items) ∧
      (encode form items).length ≤ start.tailroom ∧
      effect.taken <+: steps ∧
      (effect.failure = none ↔ effect.taken = steps) ∧
      b.finish.1 = (match effect.failure with | none => .ok () | some cause => .error cause) ∧
      (effect.failure ≠ none → ∀ more, b.callAll more = b) ∧
      parse form (encode form items) = .ok items ∧
      (tags items).Pairwise (· < ·) ∧
      (∀ tag, tag ∈ tags items ↔ ∃ item ∈ items, item.tag = tag) ∧
      (∀ tag value, value? items tag = some value ↔
        ∃ before after, items = before ++ ⟨tag, value⟩ :: after ∧
          ∀ item ∈ after, item.tag ≠ tag) ∧
      ∀ before tag n after,
        effect.taken = before ++ (Builder.Call.putNumber tag n).steps ++ after →
        (∀ data, after.head? ≠ some (.add data)) → .begin tag ∉ after →
          number? items tag = .ok (some n) := by
  intro steps effect items b
  have built : b = { Builder.holding start form (draftFrom [] effect.taken) with
      failure := effect.failure } := by
    show (Builder.new start form).callAll calls = _
    rw [Builder.callAll_eq, ← Builder.holding_nil]
    exact Builder.stepAll_holding Legal.nil steps
  have legal : Legal form start.tailroom (draftFrom [] effect.taken) :=
    legal_effective Legal.nil steps
  have taken := effective_taken form start.tailroom [] steps
  have failure : b.failure = effect.failure := by rw [built]
  refine ⟨?_, legal.roomy, taken.1, taken.2, ?_, ?_, ?_, tags_ascending items,
    fun tag => mem_tags, fun tag value => value?_eq_some_iff, ?_⟩
  · rw [built]
    rfl
  · unfold Builder.finish
    rw [failure]
    cases effect.failure <;> rfl
  · intro failed more
    rw [Builder.callAll_eq]
    refine Builder.stepAll_of_failed ?_ _
    rw [failure]
    exact Option.isSome_iff_ne_none.mpr failed
  · exact parse_encode fun item mem => legal.fits item (List.mem_reverse.mp mem)
  · intro before tag n after cut closed last
    show number? (draftFrom [] effect.taken).reverse tag = _
    rw [cut]
    exact number?_draftFrom closed last

/-- A failure between an item and its value leaves the item empty. -/
example : effective .short 3 [] (Builder.Call.putNumber 1 0x1234).steps =
    ⟨[.begin 1], some .insufficientSpace⟩ := by decide

end Tlv

end CardTerminal
