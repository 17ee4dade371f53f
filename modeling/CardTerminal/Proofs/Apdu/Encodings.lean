import CardTerminal.Proofs.Apdu

/-!
The seven ways to write a command, and that none of them can be taken for another.

Each case is for certain lengths of the data and of the answer (`Case.Allows`), and has its own way
to write a command with such lengths (`Case.write`). What is written is classified as what it is
(`Encodes.classify`), and nothing else is classified (`encodes_of_classify`), so the bytes determine
the case and all parts of the command (`Encodes.unique`).

Main statement: `classify_recognises_commands`.
-/

namespace CardTerminal.Apdu

/-- The bytes that every command begins with: class, instruction and two parameters. -/
structure Header where
  cla : UInt8
  ins : UInt8
  p1 : UInt8
  p2 : UInt8
  deriving DecidableEq, Repr

def Header.bytes (h : Header) : Bytes :=
  [h.cla, h.ins, h.p1, h.p2]

/-- A wanted length in one byte: 256 is written as zero. -/
def shortField (le : Nat) : UInt8 :=
  if le = 256 then 0 else UInt8.ofNat le

/-- The high byte of a length in two bytes: 65536 is written as zero. -/
def highField (length : Nat) : UInt8 :=
  if length = 65536 then 0 else UInt8.ofNat (length / 256)

/-- The low byte of a length in two bytes. -/
def lowField (length : Nat) : UInt8 :=
  UInt8.ofNat (length % 256)

/-- The lengths of the data and of the answer that a case is for. -/
def Case.Allows : Case → Nat → Nat → Prop
  | .case1, lc, le => lc = 0 ∧ le = 0
  | .case2Short, lc, le => lc = 0 ∧ 1 ≤ le ∧ le ≤ 256
  | .case3Short, lc, le => 1 ≤ lc ∧ lc ≤ 255 ∧ le = 0
  | .case4Short, lc, le => 1 ≤ lc ∧ lc ≤ 255 ∧ 1 ≤ le ∧ le ≤ 256
  | .case2Extended, lc, le => lc = 0 ∧ 1 ≤ le ∧ le ≤ 65536
  | .case3Extended, lc, le => 1 ≤ lc ∧ lc ≤ 65535 ∧ le = 0
  | .case4Extended, lc, le => 1 ≤ lc ∧ lc ≤ 65535 ∧ 1 ≤ le ∧ le ≤ 65536

/-- The bytes of a command in the way of a case. -/
def Case.write (header : Header) (data : Bytes) (le : Nat) : Case → Bytes
  | .case1 => header.bytes
  | .case2Short => header.bytes ++ [shortField le]
  | .case3Short => header.bytes ++ UInt8.ofNat data.length :: data
  | .case4Short => header.bytes ++ UInt8.ofNat data.length :: (data ++ [shortField le])
  | .case2Extended => header.bytes ++ [0, highField le, lowField le]
  | .case3Extended => header.bytes ++ 0 :: highField data.length :: lowField data.length :: data
  | .case4Extended =>
    header.bytes ++ 0 :: highField data.length :: lowField data.length ::
      (data ++ [highField le, lowField le])

/-- The bytes are the command with this header, these data and this wanted length, written in the
way of the case. -/
structure Encodes (case : Case) (header : Header) (data : Bytes) (le : Nat) (bytes : Bytes) :
    Prop where
  allowed : case.Allows data.length le
  written : bytes = case.write header data le

/-! ## Lengths and their fields -/

theorem lengthByte {n : Nat} (some : 1 ≤ n) (fits : n ≤ 255) :
    (UInt8.ofNat n).toNat = n ∧ UInt8.ofNat n ≠ 0 := by
  have same : (UInt8.ofNat n).toNat = n :=
    UInt8.toNat_ofNat_of_lt' (Nat.lt_of_le_of_lt fits (by decide))
  refine ⟨same, fun zero => ?_⟩
  rw [zero] at same
  exact absurd same.symm (Nat.ne_of_gt some)

theorem bounds_of_ne_zero {b : UInt8} (some : b ≠ 0) : 1 ≤ b.toNat ∧ b.toNat ≤ 255 :=
  ⟨Nat.pos_of_ne_zero fun zero => some (UInt8.toNat_inj.mp zero), Nat.le_of_lt_succ b.toNat_lt⟩

theorem shortLength_pos (field : UInt8) : 1 ≤ shortLength field := by
  unfold shortLength
  split
  · decide
  · next some => exact (bounds_of_ne_zero some).1

theorem shortLength_shortField {le : Nat} (some : 1 ≤ le) (fits : le ≤ 256) :
    shortLength (shortField le) = le := by
  unfold shortField
  split
  · next full => exact full.symm
  · next below =>
    obtain ⟨same, nonzero⟩ := lengthByte some (by omega)
    rw [shortLength, if_neg nonzero, same]

theorem shortField_shortLength (field : UInt8) : shortField (shortLength field) = field := by
  unfold shortLength
  split
  · next zero => exact zero.symm
  · next nonzero =>
    have := field.toNat_lt
    rw [shortField, if_neg (by omega), UInt8.ofNat_toNat]

theorem extendedLength_eq (high low : UInt8) :
    extendedLength high low =
      if high.toNat * 256 + low.toNat = 0 then 65536 else high.toNat * 256 + low.toNat := by
  simp only [extendedLength, ← UInt16.toNat_inj, Bytes.toNat_ofBe16]
  rfl

theorem extendedLength_bounds (high low : UInt8) :
    1 ≤ extendedLength high low ∧ extendedLength high low ≤ 65536 := by
  have := high.toNat_lt
  have := low.toNat_lt
  rw [extendedLength_eq]
  split <;> omega

theorem toNat_fields {length : Nat} (fits : length ≤ 65535) :
    (highField length).toNat * 256 + (lowField length).toNat = length := by
  have high : (highField length).toNat = length / 256 := by
    rw [highField, if_neg (by omega), UInt8.toNat_ofNat']
    omega
  have low : (lowField length).toNat = length % 256 := by
    rw [lowField, UInt8.toNat_ofNat']
    omega
  rw [high, low]
  omega

theorem extendedLength_fields {le : Nat} (some : 1 ≤ le) (fits : le ≤ 65536) :
    extendedLength (highField le) (lowField le) = le := by
  rcases Nat.lt_or_eq_of_le fits with below | rfl
  · rw [extendedLength_eq, toNat_fields (by omega), if_neg (by omega)]
  · rfl

theorem fields_of_toNat (high low : UInt8) {length : Nat}
    (sized : high.toNat * 256 + low.toNat = length) :
    highField length = high ∧ lowField length = low := by
  have := high.toNat_lt
  have := low.toNat_lt
  subst sized
  refine ⟨?_, ?_⟩
  · rw [highField, if_neg (by omega)]
    apply UInt8.toNat_inj.mp
    rw [UInt8.toNat_ofNat']
    omega
  · rw [lowField]
    apply UInt8.toNat_inj.mp
    rw [UInt8.toNat_ofNat']
    omega

theorem fields_extendedLength (high low : UInt8) :
    highField (extendedLength high low) = high ∧ lowField (extendedLength high low) = low := by
  rw [extendedLength_eq]
  split
  · next zero =>
    have high0 : high = 0 := UInt8.toNat_inj.mp (by simp only [UInt8.toNat_zero]; omega)
    have low0 : low = 0 := UInt8.toNat_inj.mp (by simp only [UInt8.toNat_zero]; omega)
    subst high0 low0
    exact ⟨rfl, rfl⟩
  · exact fields_of_toNat high low rfl

/-! ## What is written is classified -/

/-- A byte after the header that is neither zero nor the last one is a data length. -/
theorem classify_short (cla ins p1 p2 : UInt8) {lc : UInt8} {body : Bytes} (some : lc ≠ 0)
    (longer : body ≠ []) :
    classify (cla :: ins :: p1 :: p2 :: lc :: body) = classifyShort lc body := by
  cases body with
  | nil => exact absurd rfl longer
  | cons b body => exact if_neg some

/-- A zero byte with two more after it begins extended lengths. -/
theorem classify_extended (cla ins p1 p2 high low : UInt8) (body : Bytes) :
    classify (cla :: ins :: p1 :: p2 :: 0 :: high :: low :: body) =
      classifyExtended high low body :=
  rfl

variable {case : Case} {header : Header} {data : Bytes} {le : Nat} {bytes : Bytes}

theorem classifyShort_data {lc : UInt8} (sized : data.length = lc.toNat) :
    classifyShort lc data = .ok ⟨.case3Short, lc.toNat, 0⟩ :=
  if_pos sized

theorem classifyShort_answer {lc : UInt8} (sized : data.length = lc.toNat) (field : UInt8) :
    classifyShort lc (data ++ [field]) = .ok ⟨.case4Short, lc.toNat, shortLength field⟩ := by
  rw [classifyShort, if_neg (by rw [List.length_append, List.length_singleton]; omega), ← sized,
    List.drop_left]

theorem classifyExtended_data {high low : UInt8} (some : data ≠ [])
    (sized : high.toNat * 256 + low.toNat = data.length) :
    classifyExtended high low data = .ok ⟨.case3Extended, data.length, 0⟩ := by
  have longer : data.length ≠ 0 := fun none => some (List.length_eq_zero_iff.mp none)
  have begun : data.isEmpty = false := by
    cases data with
    | nil => exact absurd rfl some
    | cons => rfl
  simp only [classifyExtended, begun, Bytes.toNat_ofBe16, sized, if_neg longer, if_true,
    Bool.false_eq_true, if_false]

theorem classifyExtended_answer {high low : UInt8} (some : data ≠ [])
    (sized : high.toNat * 256 + low.toNat = data.length) (h l : UInt8) :
    classifyExtended high low (data ++ [h, l]) =
      .ok ⟨.case4Extended, data.length, extendedLength h l⟩ := by
  have longer : data.length ≠ 0 := fun none => some (List.length_eq_zero_iff.mp none)
  have begun : (data ++ [h, l]).isEmpty = false := by
    cases data <;> rfl
  have more : (data ++ [h, l]).length ≠ data.length := by
    simp only [List.length_append, List.length_cons]
    omega
  simp only [classifyExtended, begun, Bytes.toNat_ofBe16, sized, if_neg longer, if_neg more,
    List.drop_left, Bool.false_eq_true, if_false]

/-- **A command is classified as what it is.** -/
theorem Encodes.classify (encodes : Encodes case header data le bytes) :
    Apdu.classify bytes = .ok ⟨case, data.length, le⟩ := by
  obtain ⟨allowed, rfl⟩ := encodes
  obtain ⟨cla, ins, p1, p2⟩ := header
  have nonempty : 1 ≤ data.length → data ≠ [] := by
    rintro some rfl
    cases some
  cases case with
  | case1 =>
    obtain ⟨none, rfl⟩ := allowed
    rw [none]
    rfl
  | case2Short =>
    obtain ⟨none, some, fits⟩ := allowed
    rw [none]
    show Except.ok (⟨.case2Short, 0, shortLength (shortField le)⟩ : Shape) = _
    rw [shortLength_shortField some fits]
  | case3Short =>
    obtain ⟨some, fits, rfl⟩ := allowed
    obtain ⟨sized, given⟩ := lengthByte some fits
    exact (classify_short _ _ _ _ given (nonempty some)).trans
      ((classifyShort_data sized.symm).trans (by rw [sized]))
  | case4Short =>
    obtain ⟨some, fits, wanted, few⟩ := allowed
    obtain ⟨sized, given⟩ := lengthByte some fits
    have longer : data ++ [shortField le] ≠ [] :=
      List.append_ne_nil_of_left_ne_nil (nonempty some) _
    refine (classify_short _ _ _ _ given longer).trans
      ((classifyShort_answer sized.symm _).trans ?_)
    rw [sized, shortLength_shortField wanted few]
  | case2Extended =>
    obtain ⟨none, some, fits⟩ := allowed
    rw [none]
    show Except.ok (⟨.case2Extended, 0, extendedLength (highField le) (lowField le)⟩ : Shape) = _
    rw [extendedLength_fields some fits]
  | case3Extended =>
    obtain ⟨some, fits, rfl⟩ := allowed
    exact (classify_extended _ _ _ _ _ _ _).trans
      (classifyExtended_data (nonempty some) (toNat_fields fits))
  | case4Extended =>
    obtain ⟨some, fits, wanted, few⟩ := allowed
    refine (classify_extended _ _ _ _ _ _ _).trans
      ((classifyExtended_answer (nonempty some) (toNat_fields fits) _ _).trans ?_)
    rw [extendedLength_fields wanted few]

/-! ## What is classified is written -/

/-- A shape with extended lengths is told from the bytes after a zero byte. -/
theorem extended_of_classify {shape : Shape} (classified : classify bytes = .ok shape)
    (extended : shape.case.isExtended = true) :
    ∃ (header : Header) (high low : UInt8) (body : Bytes),
      bytes = header.bytes ++ 0 :: high :: low :: body ∧
        classifyExtended high low body = .ok shape := by
  unfold classify at classified
  split at classified
  · cases classified
    cases extended
  · cases classified
    cases extended
  · next cla ins p1 p2 lc body _ =>
    split at classified
    · next zero =>
      split at classified
      · next high low body _ =>
        subst zero
        exact ⟨⟨cla, ins, p1, p2⟩, high, low, body, rfl, classified⟩
      · cases classified
    · unfold classifyShort at classified
      split at classified
      · cases classified
        cases extended
      · split at classified <;> cases classified
        cases extended
  · cases classified

theorem encodes_of_short {shape : Shape} (short : Short bytes shape) :
    ∃ header data, Encodes shape.case header data shape.le bytes ∧ data.length = shape.lc := by
  cases short with
  | case1 cla ins p1 p2 => exact ⟨⟨cla, ins, p1, p2⟩, [], ⟨⟨rfl, rfl⟩, rfl⟩, rfl⟩
  | case2 cla ins p1 p2 le =>
    refine ⟨⟨cla, ins, p1, p2⟩, [], ⟨⟨rfl, shortLength_pos le, shortLength_le le⟩, ?_⟩, rfl⟩
    simp only [Case.write, Header.bytes, shortField_shortLength, List.cons_append, List.nil_append]
  | @case3 cla ins p1 p2 lc data some sized =>
    have bounds := bounds_of_ne_zero some
    rw [← sized] at bounds
    refine ⟨⟨cla, ins, p1, p2⟩, data, ⟨⟨bounds.1, bounds.2, rfl⟩, ?_⟩, sized⟩
    simp only [Case.write, Header.bytes, sized, UInt8.ofNat_toNat, List.cons_append,
      List.nil_append]
  | @case4 cla ins p1 p2 lc data le some sized =>
    have bounds := bounds_of_ne_zero some
    rw [← sized] at bounds
    refine ⟨⟨cla, ins, p1, p2⟩, data,
      ⟨⟨bounds.1, bounds.2, shortLength_pos le, shortLength_le le⟩, ?_⟩, sized⟩
    simp only [Case.write, Header.bytes, sized, UInt8.ofNat_toNat, shortField_shortLength,
      List.cons_append, List.nil_append]

theorem encodes_of_classifyExtended (header : Header) {high low : UInt8} {body : Bytes}
    {shape : Shape} (classified : classifyExtended high low body = .ok shape) :
    ∃ data, Encodes shape.case header data shape.le (header.bytes ++ 0 :: high :: low :: body) ∧
      data.length = shape.lc := by
  have below := high.toNat_lt
  have below' := low.toNat_lt
  unfold classifyExtended at classified
  dsimp only at classified
  rw [Bytes.toNat_ofBe16] at classified
  split at classified
  · next none =>
    cases classified
    have bounds := extendedLength_bounds high low
    refine ⟨[], ⟨⟨rfl, bounds.1, bounds.2⟩, ?_⟩, rfl⟩
    rw [List.isEmpty_iff.mp none, Case.write, (fields_extendedLength high low).1,
      (fields_extendedLength high low).2]
  split at classified
  · cases classified
  next given =>
  split at classified
  · next sized =>
    cases classified
    have fields := fields_of_toNat high low sized.symm
    refine ⟨body, ⟨⟨by omega, by omega, rfl⟩, ?_⟩, sized⟩
    rw [Case.write, fields.1, fields.2]
  · split at classified
    · next h l last =>
      cases classified
      have parts : body = body.take (high.toNat * 256 + low.toNat) ++ [h, l] := by
        rw [← last, List.take_append_drop]
      have longer := congrArg List.length last
      simp only [List.length_drop, List.length_cons, List.length_nil] at longer
      have sized : (body.take (high.toNat * 256 + low.toNat)).length =
          high.toNat * 256 + low.toNat := by
        rw [List.length_take]
        omega
      have fields := fields_of_toNat high low sized.symm
      have bounds := extendedLength_bounds h l
      refine ⟨_, ⟨⟨?_, ?_, bounds.1, bounds.2⟩, ?_⟩, sized⟩
      · omega
      · omega
      · rw [Case.write, fields.1, fields.2, (fields_extendedLength h l).1,
          (fields_extendedLength h l).2, ← parts]
    · cases classified

/-- Nothing is classified but commands that are written in the way of their case. -/
theorem encodes_of_classify {shape : Shape} (classified : classify bytes = .ok shape) :
    ∃ header data, Encodes shape.case header data shape.le bytes ∧ data.length = shape.lc := by
  cases extended : shape.case.isExtended with
  | false => exact encodes_of_short (short_of_classify classified extended)
  | true =>
    obtain ⟨header, high, low, body, rfl, found⟩ := extended_of_classify classified extended
    exact ⟨header, encodes_of_classifyExtended header found⟩

theorem classify_eq_error {cause : Error} (failed : classify bytes = .error cause) :
    cause = .malformed := by
  unfold classify classifyExtended classifyShort at failed
  grind

theorem classify_eq_ok_iff {shape : Shape} : classify bytes = .ok shape ↔
    ∃ header data, Encodes shape.case header data shape.le bytes ∧ data.length = shape.lc := by
  refine ⟨encodes_of_classify, ?_⟩
  rintro ⟨header, data, encodes, sized⟩
  rw [encodes.classify, sized]

theorem classify_eq_error_iff {cause : Error} : classify bytes = .error cause ↔
    cause = .malformed ∧ ∀ case header data le, ¬ Encodes case header data le bytes := by
  rw [Error.eq_error_iff_of_sole (fun _ => classify_eq_ok_iff) fun _ => classify_eq_error]
  refine and_congr_right fun _ => ⟨fun none case header data le encodes => ?_, ?_⟩
  · exact none ⟨case, data.length, le⟩ ⟨header, data, encodes, rfl⟩
  · rintro none shape ⟨header, data, encodes, -⟩
    exact none _ header data _ encodes

/-! ## The parts of a command -/

theorem Encodes.header_eq (encodes : Encodes case header data le bytes) :
    bytes.take 4 = header.bytes := by
  obtain ⟨-, rfl⟩ := encodes
  cases case <;> rfl

theorem Encodes.data_eq (encodes : Encodes case header data le bytes) :
    (bytes.drop (Shape.dataOffset ⟨case, data.length, le⟩)).take data.length = data := by
  obtain ⟨allowed, rfl⟩ := encodes
  cases case with
  | case1 | case2Short | case2Extended =>
    rw [allowed.1, List.take_zero, List.length_eq_zero_iff.mp allowed.1]
  | case3Short | case3Extended => exact List.take_length
  | case4Short | case4Extended => exact List.take_left

/-- **No bytes are two commands**, nor one command in two ways. -/
theorem Encodes.unique {case' : Case} {header' : Header} {data' : Bytes} {le' : Nat}
    (first : Encodes case header data le bytes) (second : Encodes case' header' data' le' bytes) :
    case = case' ∧ header = header' ∧ data = data' ∧ le = le' := by
  have shape := first.classify.symm.trans second.classify
  injection shape with shape
  injection shape with sameCase sameLength sameLe
  subst sameCase sameLe
  have heads := first.header_eq.symm.trans second.header_eq
  obtain ⟨cla, ins, p1, p2⟩ := header
  obtain ⟨cla', ins', p1', p2'⟩ := header'
  cases heads
  refine ⟨rfl, rfl, ?_, rfl⟩
  rw [← first.data_eq, sameLength, second.data_eq]

/-- **Exactly the commands are classified**, each as the case in whose way it is written, with the
lengths of its data and of the wanted answer. No bytes are a command in two ways, the data are where
the shape says, and all bytes that are no command are malformed. -/
theorem classify_recognises_commands (bytes : Bytes) :
    (∀ shape, classify bytes = .ok shape ↔
      ∃ header data, Encodes shape.case header data shape.le bytes ∧ data.length = shape.lc) ∧
    (∀ case header data le case' header' data' le', Encodes case header data le bytes →
      Encodes case' header' data' le' bytes →
        case = case' ∧ header = header' ∧ data = data' ∧ le = le') ∧
    (∀ shape header data, classify bytes = .ok shape →
      Encodes shape.case header data shape.le bytes →
        (bytes.drop shape.dataOffset).take shape.lc = data) ∧
    ∀ cause, classify bytes = .error cause ↔
      cause = .malformed ∧ ∀ case header data le, ¬ Encodes case header data le bytes := by
  refine ⟨fun shape => classify_eq_ok_iff, fun _ _ _ _ _ _ _ _ => Encodes.unique, ?_,
    fun cause => classify_eq_error_iff⟩
  intro shape header data classified encodes
  have sized : data.length = shape.lc :=
    congrArg Shape.lc (Except.ok.inj (encodes.classify.symm.trans classified))
  rw [← sized]
  exact encodes.data_eq

/-- A zero byte after the header is a wanted length if it is the last byte, begins extended lengths
if there are more than two bytes after it, and else makes no command. -/
example : classify [0, 0xB0, 0, 0, 0] = .ok ⟨.case2Short, 0, 256⟩ ∧
    classify [0, 0xB0, 0, 0, 0, 1] = .error .malformed ∧
    classify [0, 0xB0, 0, 0, 0, 1, 0] = .ok ⟨.case2Extended, 0, 256⟩ :=
  ⟨rfl, rfl, rfl⟩

end CardTerminal.Apdu
