import CardTerminal.Text.Utf8

/-!
Text that was written is read back.

A character is written as one to four bytes, of which the first one says how many there are; so
reading takes these bytes, whatever follows them, and finds none of them ill-formed.

Main statement: `decodeLossy_encode`.
-/

namespace CardTerminal.Utf8

theorem isValid_toNat (c : Char) :
    c.val.toNat < 0xD800 ∨ 0xDFFF < c.val.toNat ∧ c.val.toNat < 0x110000 :=
  c.valid

theorem ofNat_val (c : Char) : Char.ofNat c.val.toNat = c :=
  Char.ofNat_toNat c

theorem isContinuation_ofNat {n : Nat} (low : 128 ≤ n) (high : n < 192) :
    isContinuation (UInt8.ofNat n) = true := by
  simp only [isContinuation, Bool.and_eq_true, decide_eq_true_eq, UInt8.le_iff_toNat_le,
    UInt8.toNat_ofNat', UInt8.reduceToNat]
  omega

theorem payload_ofNat {n : Nat} (low : 128 ≤ n) (high : n < 192) :
    payload (UInt8.ofNat n) = n - 128 := by
  simp only [payload, UInt8.toNat_ofNat']
  omega

theorem allowsSecond_ofNat {lead n : Nat} (low : 128 ≤ n) (high : n < 192) (small : lead < 256)
    (short : lead = 0xE0 → 160 ≤ n) (surrogate : lead = 0xED → n < 160)
    (long : lead = 0xF0 → 144 ≤ n) (last : lead = 0xF4 → n < 144) :
    allowsSecond (UInt8.ofNat lead) (UInt8.ofNat n) = true := by
  unfold allowsSecond
  simp only [← UInt8.toNat_inj, UInt8.le_iff_toNat_le, UInt8.toNat_ofNat', UInt8.reduceToNat]
  split
  · simp only [Bool.and_eq_true, decide_eq_true_eq]
    omega
  split
  · simp only [Bool.and_eq_true, decide_eq_true_eq]
    omega
  split
  · simp only [Bool.and_eq_true, decide_eq_true_eq]
    omega
  split
  · simp only [Bool.and_eq_true, decide_eq_true_eq]
    omega
  exact isContinuation_ofNat low high

/-! ## One character -/

theorem first_one {n : Nat} (h : n < 128) (rest : Bytes) :
    first (UInt8.ofNat n) rest = (Char.ofNat n, 0) := by
  have lead : UInt8.ofNat n < 0x80 := by
    simp only [UInt8.lt_iff_toNat_lt, UInt8.toNat_ofNat', UInt8.reduceToNat]
    omega
  have same : (UInt8.ofNat n).toNat = n := by
    rw [UInt8.toNat_ofNat']
    omega
  simp only [first, if_pos lead, same]

theorem first_two {n : Nat} (low : 128 ≤ n) (high : n < 2048) (rest : Bytes) :
    first (UInt8.ofNat (n / 64 % 32 + 192)) (UInt8.ofNat (n % 64 + 128) :: rest) =
      (Char.ofNat n, 1) := by
  have lead : ¬ UInt8.ofNat (n / 64 % 32 + 192) < 0x80 ∧
      (0xC2 ≤ UInt8.ofNat (n / 64 % 32 + 192) &&
        UInt8.ofNat (n / 64 % 32 + 192) ≤ 0xDF) = true := by
    simp only [Bool.and_eq_true, decide_eq_true_eq, UInt8.lt_iff_toNat_lt, UInt8.le_iff_toNat_le,
      UInt8.toNat_ofNat', UInt8.reduceToNat]
    omega
  have second := isContinuation_ofNat (n := n % 64 + 128) (by omega) (by omega)
  have value : (UInt8.ofNat (n / 64 % 32 + 192)).toNat % 32 * 64 +
      payload (UInt8.ofNat (n % 64 + 128)) = n := by
    rw [payload_ofNat (by omega) (by omega), UInt8.toNat_ofNat']
    omega
  simp only [first, if_neg lead.1, if_pos lead.2, if_pos second, value]

theorem first_three {n : Nat} (low : 2048 ≤ n) (high : n < 65536)
    (valid : n < 0xD800 ∨ 0xDFFF < n) (rest : Bytes) :
    first (UInt8.ofNat (n / 4096 % 16 + 224)) (UInt8.ofNat (n / 64 % 64 + 128) ::
      UInt8.ofNat (n % 64 + 128) :: rest) = (Char.ofNat n, 2) := by
  have lead : ¬ UInt8.ofNat (n / 4096 % 16 + 224) < 0x80 ∧
      ¬ (0xC2 ≤ UInt8.ofNat (n / 4096 % 16 + 224) &&
        UInt8.ofNat (n / 4096 % 16 + 224) ≤ 0xDF) = true ∧
      (0xE0 ≤ UInt8.ofNat (n / 4096 % 16 + 224) &&
        UInt8.ofNat (n / 4096 % 16 + 224) ≤ 0xEF) = true := by
    simp only [Bool.and_eq_true, decide_eq_true_eq, UInt8.lt_iff_toNat_lt, UInt8.le_iff_toNat_le,
      UInt8.toNat_ofNat', UInt8.reduceToNat]
    omega
  have second : allowsSecond (UInt8.ofNat (n / 4096 % 16 + 224))
      (UInt8.ofNat (n / 64 % 64 + 128)) = true :=
    allowsSecond_ofNat (by omega) (by omega) (by omega) (by omega) (by omega) (by omega) (by omega)
  have third := isContinuation_ofNat (n := n % 64 + 128) (by omega) (by omega)
  have value : (UInt8.ofNat (n / 4096 % 16 + 224)).toNat % 16 * 4096 +
      payload (UInt8.ofNat (n / 64 % 64 + 128)) * 64 +
      payload (UInt8.ofNat (n % 64 + 128)) = n := by
    rw [payload_ofNat (by omega) (by omega), payload_ofNat (by omega) (by omega),
      UInt8.toNat_ofNat']
    omega
  simp only [first, if_neg lead.1, if_neg lead.2.1, if_pos lead.2.2, if_pos second, if_pos third,
    value]

theorem first_four {n : Nat} (low : 65536 ≤ n) (high : n < 0x110000) (rest : Bytes) :
    first (UInt8.ofNat (n / 262144 % 8 + 240)) (UInt8.ofNat (n / 4096 % 64 + 128) ::
      UInt8.ofNat (n / 64 % 64 + 128) :: UInt8.ofNat (n % 64 + 128) :: rest) =
      (Char.ofNat n, 3) := by
  have lead : ¬ UInt8.ofNat (n / 262144 % 8 + 240) < 0x80 ∧
      ¬ (0xC2 ≤ UInt8.ofNat (n / 262144 % 8 + 240) &&
        UInt8.ofNat (n / 262144 % 8 + 240) ≤ 0xDF) = true ∧
      ¬ (0xE0 ≤ UInt8.ofNat (n / 262144 % 8 + 240) &&
        UInt8.ofNat (n / 262144 % 8 + 240) ≤ 0xEF) = true ∧
      (0xF0 ≤ UInt8.ofNat (n / 262144 % 8 + 240) &&
        UInt8.ofNat (n / 262144 % 8 + 240) ≤ 0xF4) = true := by
    simp only [Bool.and_eq_true, decide_eq_true_eq, UInt8.lt_iff_toNat_lt, UInt8.le_iff_toNat_le,
      UInt8.toNat_ofNat', UInt8.reduceToNat]
    omega
  have second : allowsSecond (UInt8.ofNat (n / 262144 % 8 + 240))
      (UInt8.ofNat (n / 4096 % 64 + 128)) = true :=
    allowsSecond_ofNat (by omega) (by omega) (by omega) (by omega) (by omega) (by omega) (by omega)
  have third := isContinuation_ofNat (n := n / 64 % 64 + 128) (by omega) (by omega)
  have fourth := isContinuation_ofNat (n := n % 64 + 128) (by omega) (by omega)
  have value : (UInt8.ofNat (n / 262144 % 8 + 240)).toNat % 8 * 262144 +
      payload (UInt8.ofNat (n / 4096 % 64 + 128)) * 4096 +
      payload (UInt8.ofNat (n / 64 % 64 + 128)) * 64 +
      payload (UInt8.ofNat (n % 64 + 128)) = n := by
    rw [payload_ofNat (by omega) (by omega), payload_ofNat (by omega) (by omega),
      payload_ofNat (by omega) (by omega), UInt8.toNat_ofNat']
    omega
  simp only [first, if_neg lead.1, if_neg lead.2.1, if_neg lead.2.2.1, if_pos lead.2.2.2,
    if_pos second, if_pos third, if_pos fourth, value]

/-- The first byte of a character announces the others, whatever follows them. -/
theorem first_encodeChar (c : Char) (rest : Bytes) :
    ∃ lead tail, String.utf8EncodeChar c = lead :: tail ∧
      first lead (tail ++ rest) = (c, tail.length) := by
  have valid := isValid_toNat c
  unfold String.utf8EncodeChar
  dsimp only
  by_cases one : c.val.toNat ≤ 127
  · rw [if_pos one]
    refine ⟨_, [], rfl, ?_⟩
    rw [first_one (by omega), ofNat_val]
    rfl
  rw [if_neg one]
  by_cases two : c.val.toNat ≤ 2047
  · rw [if_pos two]
    refine ⟨_, _, rfl, ?_⟩
    rw [List.singleton_append, first_two (by omega) (by omega), ofNat_val]
    rfl
  rw [if_neg two]
  by_cases three : c.val.toNat ≤ 65535
  · rw [if_pos three]
    refine ⟨_, _, rfl, ?_⟩
    rw [List.cons_append, List.singleton_append, first_three (by omega) (by omega) (by omega),
      ofNat_val]
    rfl
  · rw [if_neg three]
    refine ⟨_, _, rfl, ?_⟩
    rw [List.cons_append, List.cons_append, List.singleton_append, first_four (by omega) (by omega),
      ofNat_val]
    rfl

/-! ## Texts -/

theorem characters_skip (tail rest : Bytes) :
    characters tail.length (tail ++ rest) = characters 0 rest := by
  induction tail with
  | nil => rfl
  | cons b tail ih => exact ih

theorem characters_encodeChar (c : Char) (rest : Bytes) :
    characters 0 (String.utf8EncodeChar c ++ rest) = c :: characters 0 rest := by
  obtain ⟨lead, tail, written, read⟩ := first_encodeChar c rest
  rw [written, List.cons_append, characters, read]
  exact congrArg (c :: ·) (characters_skip tail rest)

theorem characters_encode (cs : List Char) :
    characters 0 (cs.flatMap String.utf8EncodeChar) = cs := by
  induction cs with
  | nil => rfl
  | cons c cs ih => rw [List.flatMap_cons, characters_encodeChar, ih]

/-- **Text that was written is read back.** -/
theorem decodeLossy_encode (text : String) : decodeLossy (encode text) = text := by
  rw [decodeLossy, encode, characters_encode, String.ofList_toList]

end CardTerminal.Utf8
