import CardTerminal.Tlv
import Mathlib.Data.List.Forall2

/-!
Which byte strings consist of items.

How an item may be written is a relation (`Item.Spelled`), since the large form has two spellings
for a short value, and a byte string consists of items if it is spellings of them, one after the
other (`Composed`). A spelling shows where it ends: an item is read off the front of each of its
spellings whatever follows (`readItem_spelled`), and nothing else is read as an item
(`readItem_eq_some_iff`). So no byte string consists of items in two ways (`Composed.unique`).

Main statement: `parse_recognises_items`.
-/

namespace CardTerminal

namespace Tlv

variable {form : Form} {item : Item} {items : List Item} {piece : Bytes} {pieces : List Bytes}

/-- How an item is written: its tag, the length of its value, and the value. Up to 254 the length
takes one byte; in the large form the byte 255 may announce a length of two bytes, the high one
first. -/
inductive Item.Spelled (form : Form) : Item → Bytes → Prop where
  | plain {tag length : UInt8} {value : Bytes} (short : length.toNat ≤ 254)
      (sized : value.length = length.toNat) :
      Spelled form ⟨tag, value⟩ (tag :: length :: value)
  | escaped {tag high low : UInt8} {value : Bytes} (large : form = .large)
      (sized : value.length = high.toNat * 256 + low.toNat) :
      Spelled form ⟨tag, value⟩ (tag :: 255 :: high :: low :: value)

/-- The bytes are these items, one after the other, each written as the piece in its place. -/
structure Composed (form : Form) (bytes : Bytes) (items : List Item) (pieces : List Bytes) :
    Prop where
  spelled : List.Forall₂ (Item.Spelled form) items pieces
  joined : pieces.flatten = bytes

/-! ## One item -/

theorem cutItem_append (tag : UInt8) (value rest : Bytes) :
    cutItem tag value.length (value ++ rest) = some (⟨tag, value⟩, rest) := by
  rw [cutItem, List.take_left, List.drop_left, if_pos rfl]

theorem cutItem_eq_some_iff {tag : UInt8} {length : Nat} {bytes rest : Bytes} :
    cutItem tag length bytes = some (item, rest) ↔
      ∃ value : Bytes, item = ⟨tag, value⟩ ∧ value.length = length ∧ bytes = value ++ rest := by
  constructor
  · intro cut
    unfold cutItem at cut
    split at cut
    · next whole =>
      cases cut
      exact ⟨_, rfl, whole, (List.take_append_drop length bytes).symm⟩
    · cases cut
  · rintro ⟨value, rfl, rfl, rfl⟩
    exact cutItem_append tag value rest

theorem readItem_spelled (spelled : item.Spelled form piece) (rest : Bytes) :
    readItem form (piece ++ rest) = some (item, rest) := by
  cases spelled with
  | @plain tag length value short sized =>
    have plain : length ≠ escape := by
      rintro rfl
      exact absurd short (by decide)
    show (if length = escape then _ else cutItem tag length.toNat (value ++ rest)) = _
    rw [if_neg plain]
    exact cutItem_eq_some_iff.mpr ⟨value, rfl, sized, rfl⟩
  | @escaped tag high low value large sized =>
    subst large
    show cutItem tag (Bytes.ofBe16 high low).toNat (value ++ rest) = _
    rw [Bytes.toNat_ofBe16]
    exact cutItem_eq_some_iff.mpr ⟨value, rfl, sized, rfl⟩

theorem readItem_eq_some_iff {bytes rest : Bytes} : readItem form bytes = some (item, rest) ↔
    ∃ piece, item.Spelled form piece ∧ bytes = piece ++ rest := by
  constructor
  · intro read
    unfold readItem at read
    split at read
    · next tag length bytes =>
      split at read
      · next announced =>
        subst announced
        split at read
        · next high low bytes =>
          obtain ⟨value, rfl, sized, rfl⟩ := cutItem_eq_some_iff.mp read
          rw [Bytes.toNat_ofBe16] at sized
          exact ⟨_, .escaped rfl sized, rfl⟩
        · cases read
      · next plain =>
        obtain ⟨value, rfl, sized, rfl⟩ := cutItem_eq_some_iff.mp read
        have short : length.toNat ≤ 254 := by
          have := length.toNat_lt
          have : length.toNat ≠ 255 := fun full => plain (UInt8.toNat_inj.mp full)
          omega
        exact ⟨_, .plain short sized, rfl⟩
    · cases read
  · rintro ⟨piece, spelled, rfl⟩
    exact readItem_spelled spelled rest

/-- A spelling shows where it ends. -/
theorem Item.Spelled.front_unique {item' : Item} {piece' rest rest' : Bytes}
    (first : item.Spelled form piece) (second : item'.Spelled form piece')
    (same : piece ++ rest = piece' ++ rest') : item = item' ∧ piece = piece' ∧ rest = rest' := by
  have reads := readItem_spelled first rest
  rw [same, readItem_spelled second rest'] at reads
  cases reads
  exact ⟨rfl, List.append_cancel_right same, rfl⟩

theorem Item.Spelled.ne_nil (spelled : item.Spelled form piece) : piece ≠ [] := by
  cases spelled <;> exact List.cons_ne_nil _ _

theorem Item.Spelled.large (spelled : item.Spelled .short piece) : item.Spelled .large piece := by
  cases spelled with
  | plain short sized => exact .plain short sized
  | escaped large sized => cases large

/-! ## Items one after the other -/

theorem composed_nil (form : Form) : Composed form [] [] [] :=
  ⟨.nil, rfl⟩

theorem Composed.cons {bytes : Bytes} (spelled : item.Spelled form piece)
    (others : Composed form bytes items pieces) :
    Composed form (piece ++ bytes) (item :: items) (piece :: pieces) :=
  ⟨.cons spelled others.spelled, by rw [List.flatten_cons, others.joined]⟩

theorem Composed.large {bytes : Bytes} (composed : Composed .short bytes items pieces) :
    Composed .large bytes items pieces :=
  ⟨composed.spelled.imp fun _ _ => Item.Spelled.large, composed.joined⟩

theorem Composed.read {bytes : Bytes} (composed : Composed form bytes items pieces) :
    readItems form bytes = some items := by
  obtain ⟨spelled, rfl⟩ := composed
  induction spelled with
  | nil =>
    rw [readItems]
    rfl
  | @cons item piece items pieces first _ ih =>
    have front := readItem_spelled first pieces.flatten
    have some : (piece ++ pieces.flatten).isEmpty = false := by
      cases piece with
      | nil => exact absurd rfl first.ne_nil
      | cons => rfl
    rw [List.flatten_cons, readItems, some]
    simp only [Bool.false_eq_true, if_false]
    split
    · next failed => cases failed.symm.trans front
    · next item' rest read =>
      cases read.symm.trans front
      rw [ih]
      rfl

theorem composed_of_readItems {bytes : Bytes} (read : readItems form bytes = some items) :
    ∃ pieces, Composed form bytes items pieces := by
  fun_induction readItems form bytes generalizing items with
  | case1 bytes empty =>
    cases read
    exact ⟨[], .nil, (List.isEmpty_iff.mp empty).symm⟩
  | case2 bytes some failed => cases read
  | case3 bytes some item rest first ih =>
    obtain ⟨others, found, rfl⟩ := Option.map_eq_some_iff.mp read
    obtain ⟨piece, spelled, rfl⟩ := readItem_eq_some_iff.mp first
    obtain ⟨pieces, composed⟩ := ih found
    exact ⟨piece :: pieces, composed.cons spelled⟩

/-- **No byte string consists of items in two ways**: the items are the same ones, and written
alike. -/
theorem Composed.unique {bytes : Bytes} {items' : List Item} {pieces' : List Bytes}
    (first : Composed form bytes items pieces) (second : Composed form bytes items' pieces') :
    items = items' ∧ pieces = pieces' := by
  obtain ⟨spelled, joined⟩ := first
  obtain ⟨spelled', joined'⟩ := second
  subst joined
  induction spelled generalizing items' pieces' with
  | nil =>
    cases spelled' with
    | nil => exact ⟨rfl, rfl⟩
    | cons head' _ => exact absurd (List.append_eq_nil_iff.mp joined').1 head'.ne_nil
  | cons head _ ih =>
    cases spelled' with
    | nil => exact absurd (List.append_eq_nil_iff.mp joined'.symm).1 head.ne_nil
    | cons head' tail' =>
      obtain ⟨rfl, rfl, rest⟩ := head'.front_unique head joined'
      obtain ⟨rfl, rfl⟩ := ih tail' rest
      exact ⟨rfl, rfl⟩

theorem parse_eq_ok_iff {bytes : Bytes} :
    parse form bytes = .ok items ↔ ∃ pieces, Composed form bytes items pieces := by
  constructor
  · intro parsed
    unfold parse at parsed
    split at parsed
    · next read =>
      cases parsed
      exact composed_of_readItems read
    · cases parsed
  · rintro ⟨pieces, composed⟩
    rw [parse, composed.read]

theorem parse_eq_error {bytes : Bytes} {cause : Error} (failed : parse form bytes = .error cause) :
    cause = .malformed := by
  unfold parse at failed
  split at failed <;> cases failed
  rfl

theorem parse_eq_error_iff {bytes : Bytes} {cause : Error} :
    parse form bytes = .error cause ↔
      cause = .malformed ∧ ∀ items pieces, ¬ Composed form bytes items pieces := by
  rw [Error.eq_error_iff_of_sole (fun _ => parse_eq_ok_iff) fun _ => parse_eq_error]
  simp only [not_exists]

/-! ## Looking up -/

/-- What is found under a tag is the value of the last item that has it. -/
theorem value?_eq_some_iff {tag : UInt8} {value : Bytes} :
    value? items tag = some value ↔ ∃ before after, items = before ++ ⟨tag, value⟩ :: after ∧
      ∀ item ∈ after, item.tag ≠ tag := by
  unfold value?
  constructor
  · intro found
    obtain ⟨item, last, rfl⟩ := Option.map_eq_some_iff.mp found
    obtain ⟨same, after, before, cut, others⟩ := List.find?_eq_some_iff_append.mp last
    have same : item.tag = tag := of_decide_eq_true same
    refine ⟨before.reverse, after.reverse, ?_, ?_⟩
    · rw [← List.reverse_reverse items, cut, ← same]
      simp only [List.reverse_append, List.reverse_cons, List.append_assoc, List.cons_append,
        List.nil_append]
    · intro other mem
      have differs := others other (List.mem_reverse.mp mem)
      simpa using differs
  · rintro ⟨before, after, rfl, others⟩
    have found : (before ++ ⟨tag, value⟩ :: after).reverse.find? (fun item => item.tag = tag) =
        some ⟨tag, value⟩ := by
      refine List.find?_eq_some_iff_append.mpr ⟨by simp, after.reverse, before.reverse, ?_, ?_⟩
      · simp only [List.reverse_append, List.reverse_cons, List.append_assoc, List.cons_append,
          List.nil_append]
      · intro other mem
        simpa using others other (List.mem_reverse.mp mem)
    rw [found]
    rfl

theorem value?_eq_none_iff {tag : UInt8} :
    value? items tag = none ↔ ∀ item ∈ items, item.tag ≠ tag := by
  simp [value?]

theorem mem_tags {tag : UInt8} : tag ∈ tags items ↔ ∃ item ∈ items, item.tag = tag := by
  have all : tag ∈ (List.range 256).map UInt8.ofNat := by
    refine List.mem_map.mpr ⟨tag.toNat, List.mem_range.mpr tag.toNat_lt, ?_⟩
    exact UInt8.ofNat_toNat
  simp only [tags, List.mem_filter, all, true_and, contains, List.any_eq_true, decide_eq_true_eq]

theorem tags_ascending (items : List Item) : (tags items).Pairwise (· < ·) := by
  refine List.Pairwise.filter _ (List.pairwise_map.mpr ?_)
  refine List.Pairwise.imp_of_mem ?_ List.pairwise_lt_range
  intro a b memA memB less
  rw [UInt8.lt_iff_toNat_lt, UInt8.toNat_ofNat_of_lt' (List.mem_range.mp memA),
    UInt8.toNat_ofNat_of_lt' (List.mem_range.mp memB)]
  exact less

/-- **Exactly the byte strings that consist of items are read**, as these items, and there is only
one way in which they do; all others are malformed. What is found under a tag is the value of the
last of the items that have it, and the tags are those of the items, in ascending order. What is
read in the short form is read in the large one as the same items. -/
theorem parse_recognises_items (form : Form) (bytes : Bytes) :
    (∀ items, parse form bytes = .ok items ↔ ∃ pieces, Composed form bytes items pieces) ∧
    (∀ items pieces items' pieces', Composed form bytes items pieces →
      Composed form bytes items' pieces' → items = items' ∧ pieces = pieces') ∧
    (∀ cause, parse form bytes = .error cause ↔
      cause = .malformed ∧ ∀ items pieces, ¬ Composed form bytes items pieces) ∧
    (∀ items, parse form bytes = .ok items →
      (∀ tag value, value? items tag = some value ↔
        ∃ before after, items = before ++ ⟨tag, value⟩ :: after ∧
          ∀ item ∈ after, item.tag ≠ tag) ∧
      (∀ tag, value? items tag = none ↔ ∀ item ∈ items, item.tag ≠ tag) ∧
      (tags items).Pairwise (· < ·) ∧
      ∀ tag, tag ∈ tags items ↔ ∃ item ∈ items, item.tag = tag) ∧
    ∀ items, parse .short bytes = .ok items → parse .large bytes = .ok items := by
  refine ⟨fun items => parse_eq_ok_iff, fun _ _ _ _ => Composed.unique,
    fun cause => parse_eq_error_iff, fun items _ => ⟨fun tag value => value?_eq_some_iff,
      fun tag => value?_eq_none_iff, tags_ascending items, fun tag => mem_tags⟩, ?_⟩
  intro items parsed
  obtain ⟨pieces, composed⟩ := parse_eq_ok_iff.mp parsed
  exact parse_eq_ok_iff.mpr ⟨pieces, composed.large⟩

/-- A short value may be written in both ways, and a later item with its tag hides it. -/
example : parse .large [7, 255, 0, 1, 5, 7, 0] = .ok [⟨7, [5]⟩, ⟨7, []⟩] ∧
    value? [⟨7, [5]⟩, ⟨7, []⟩] 7 = some [] ∧
    parse .short [7, 255, 0, 1, 5, 7, 0] = .error .malformed := by
  refine ⟨parse_eq_ok_iff.mpr ⟨[[7, 255, 0, 1, 5], [7, 0]], ?_, rfl⟩, rfl, by cbv⟩
  exact .cons (.escaped rfl rfl) (.cons (.plain (by decide) rfl) .nil)

end Tlv

end CardTerminal
