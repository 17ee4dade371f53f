import CardTerminal.Proofs.Tlv.Grammar

/-!
Items as they are written and read.

Items whose values are not too long for a form are written in such a way that they read back as
themselves (`parse_encode`), and in the short form nothing else is read (`parse_short_iff`). A
number that was written in as few bytes as possible is looked up as the same number
(`number?_of_value`).
-/

namespace CardTerminal

namespace Bytes

theorem toNatBe_minimalBe (n : UInt32) : toNatBe (minimalBe n) = n.toNat := by
  have bound := n.toNat_lt
  unfold minimalBe
  split
  · simp only [toNatBe, List.foldl_cons, List.foldl_nil, UInt32.toNat_toUInt8]
    omega
  · split
    · simp only [toNatBe, List.foldl_cons, List.foldl_nil, UInt32.toNat_toUInt8,
        UInt8.toNat_ofNat']
      omega
    · split
      · simp only [toNatBe, List.foldl_cons, List.foldl_nil, UInt32.toNat_toUInt8,
          UInt8.toNat_ofNat']
        omega
      · simp only [toNatBe, le32, List.reverse_cons, List.reverse_nil, List.nil_append,
          List.cons_append, List.foldl_cons, List.foldl_nil, UInt32.toNat_toUInt8,
          UInt8.toNat_ofNat']
        omega

theorem length_minimalBe (n : UInt32) : (minimalBe n).length ≤ 4 := by
  unfold minimalBe
  split
  · exact Nat.le_of_ble_eq_true rfl
  · split
    · exact Nat.le_of_ble_eq_true rfl
    · split <;> exact Nat.le_of_ble_eq_true rfl

end Bytes

namespace Tlv

variable {form : Form} {items : List Item}

/-! ## Items read back as they were written -/

abbrev Item.Fits (form : Form) (item : Item) : Prop :=
  item.value.length ≤ form.maxLength

theorem spelled_encode {item : Item} (fits : item.Fits form) :
    item.Spelled form (item.encode form) := by
  obtain ⟨tag, value⟩ := item
  cases form with
  | short =>
    have short : value.length ≤ 254 := fits
    have length : (UInt8.ofNat value.length).toNat = value.length :=
      UInt8.toNat_ofNat_of_lt' (Nat.lt_of_le_of_lt short (by decide))
    exact .plain (Nat.le_trans (Nat.le_of_eq length) short) length.symm
  | large =>
    have short : value.length ≤ 65535 := fits
    refine .escaped rfl ?_
    rw [← Bytes.toNat_ofBe16, Bytes.ofBe16_be16]
    exact (UInt16.toNat_ofNat_of_lt' (Nat.lt_of_le_of_lt short (by decide))).symm

theorem encode_cons (form : Form) (item : Item) (items : List Item) :
    encode form (item :: items) = item.encode form ++ encode form items :=
  List.flatMap_cons

theorem encode_append (form : Form) (first second : List Item) :
    encode form (first ++ second) = encode form first ++ encode form second :=
  List.flatMap_append

theorem composed_encode (fits : ∀ item ∈ items, item.Fits form) :
    Composed form (encode form items) items (items.map (Item.encode form)) := by
  induction items with
  | nil => exact composed_nil form
  | cons item items ih =>
    rw [encode_cons]
    exact (ih fun item mem => fits item (List.mem_cons_of_mem _ mem)).cons
      (spelled_encode (fits item List.mem_cons_self))

/-- **Items that fit their form are read as they were written.** -/
theorem parse_encode (fits : ∀ item ∈ items, item.Fits form) :
    parse form (encode form items) = .ok items :=
  parse_eq_ok_iff.mpr ⟨_, composed_encode fits⟩

theorem write_eq_ok {bytes : Bytes} :
    write items = .ok bytes ↔ (∀ item ∈ items, item.Fits .short) ∧ bytes = encode .short items := by
  unfold write
  split
  · next fits =>
    have fits' : ∀ item ∈ items, item.Fits .short := fun item mem =>
      of_decide_eq_true (List.all_eq_true.mp fits item mem)
    constructor
    · intro written
      cases written
      exact ⟨fits', rfl⟩
    · rintro ⟨-, rfl⟩
      rfl
  · next long =>
    constructor
    · intro written
      cases written
    · rintro ⟨fits, -⟩
      exact absurd (List.all_eq_true.mpr fun item mem => decide_eq_true (fits item mem)) long

theorem parse_of_write {bytes : Bytes} (written : write items = .ok bytes) :
    parse .short bytes = .ok items := by
  obtain ⟨fits, rfl⟩ := write_eq_ok.mp written
  exact parse_encode fits

/-! ## Items that are read were written -/

theorem Item.Spelled.short {item : Item} {piece : Bytes} (spelled : item.Spelled .short piece) :
    item.Fits .short ∧ item.encode .short = piece := by
  cases spelled with
  | plain short sized =>
    refine ⟨Nat.le_trans (Nat.le_of_eq sized) short, ?_⟩
    simp only [Item.encode, sized, UInt8.ofNat_toNat]
  | escaped large sized => cases large

theorem Composed.short {bytes : Bytes} {pieces : List Bytes}
    (composed : Composed .short bytes items pieces) :
    (∀ item ∈ items, item.Fits .short) ∧ encode .short items = bytes := by
  obtain ⟨spelled, rfl⟩ := composed
  induction spelled with
  | nil => exact ⟨fun _ mem => absurd mem List.not_mem_nil, rfl⟩
  | cons first _ ih =>
    obtain ⟨fits, rfl⟩ := first.short
    exact ⟨List.forall_mem_cons.mpr ⟨fits, ih.1⟩, by rw [encode_cons, ih.2, List.flatten_cons]⟩

/-- **Exactly what writing items of the short form yields is read**, and as these items. -/
theorem parse_short_iff {bytes : Bytes} : parse .short bytes = .ok items ↔
    (∀ item ∈ items, item.Fits .short) ∧ encode .short items = bytes := by
  constructor
  · intro parsed
    obtain ⟨pieces, composed⟩ := parse_eq_ok_iff.mp parsed
    exact composed.short
  · rintro ⟨fits, rfl⟩
    exact parse_encode fits

/-! ## Numbers -/

/-- **A number that was written is read back**, if no later item has its tag. -/
theorem number?_of_value {tag : UInt8} {n : UInt32}
    (found : value? items tag = some (Bytes.minimalBe n)) : number? items tag = .ok (some n) := by
  have few := Bytes.length_minimalBe n
  simp only [number?, found, if_pos few, Bytes.toNatBe_minimalBe]
  rw [UInt32.ofNat_toNat]

end Tlv

end CardTerminal
