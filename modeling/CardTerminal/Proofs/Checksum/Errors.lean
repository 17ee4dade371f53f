import CardTerminal.Proofs.Block
import CardTerminal.Proofs.Checksum.Register
import Mathlib.Data.List.Basic

/-!
What the codes detect.

The two bytes of a CRC are written high byte first, and the register is emptied low byte first. So a
block verifies just if it leaves no remainder when its last two bytes are exchanged
(`verify_crc_iff`). Damage then leaves a remainder of its own, whatever the block says
(`crc16_crossed_set`). Every flipped bit leaves one bit in the register, shifted on from its place
to the end of the block; an odd number of those has odd parity (`echo_ne_zero_of_odd`), and two of
them are the same only if the block is longer than any block (`echo_pair_ne_zero`).

Main statement: `errors_detected`.
-/

namespace CardTerminal

/-! ## Bytes and bits in their places -/

namespace Bytes

/-- The `n`-th bit flipped, counted from the lowest one of the first byte. -/
def flip (bytes : Bytes) (n : Nat) : Bytes :=
  bytes.modify (n / 8) (· ^^^ UInt8.ofNat (2 ^ (n % 8)))

@[simp] theorem length_flip (bytes : Bytes) (n : Nat) : (bytes.flip n).length = bytes.length :=
  List.length_modify ..

theorem flip_eq_set {bytes : Bytes} {n : Nat} {old : UInt8} (found : bytes[n / 8]? = some old) :
    bytes.flip n = bytes.set (n / 8) (old ^^^ UInt8.ofNat (2 ^ (n % 8))) := by
  rw [flip, List.modify_eq_set, found]
  rfl

/-- The last two bytes exchanged. -/
def crossed (bytes : Bytes) : Bytes :=
  bytes.take (bytes.length - 2) ++ (bytes.drop (bytes.length - 2)).reverse

/-- Where a byte is found when the last two of so many are exchanged. -/
def across (count i : Nat) : Nat :=
  if i + 1 = count then i - 1 else if i + 2 = count then i + 1 else i

@[simp] theorem length_crossed (bytes : Bytes) : bytes.crossed.length = bytes.length := by
  simp only [crossed, List.length_append, List.length_take, List.length_reverse, List.length_drop]
  omega

theorem crossed_concat (body : Bytes) (high low : UInt8) :
    crossed (body ++ [high, low]) = body ++ [low, high] := by
  simp [crossed]

theorem exists_concat {bytes : Bytes} (two : 2 ≤ bytes.length) :
    ∃ body high low, bytes = body ++ [high, low] := by
  have count : (bytes.drop (bytes.length - 2)).length = 2 := by
    rw [List.length_drop]
    omega
  obtain ⟨high, low, ends⟩ := List.length_eq_two.mp count
  exact ⟨bytes.take (bytes.length - 2), high, low, by rw [← ends, List.take_append_drop]⟩

theorem across_lt {count i : Nat} (two : 2 ≤ count) (inside : i < count) :
    across count i < count := by
  unfold across
  split
  · omega
  · split <;> omega

theorem across_injective {count i j : Nat} (two : 2 ≤ count) (left : i < count)
    (right : j < count) (same : across count i = across count j) : i = j := by
  unfold across at same
  grind

theorem crossed_set {bytes : Bytes} (two : 2 ≤ bytes.length) {i : Nat} (inside : i < bytes.length)
    (new : UInt8) :
    crossed (bytes.set i new) = bytes.crossed.set (across bytes.length i) new := by
  obtain ⟨body, high, low, rfl⟩ := exists_concat two
  have count : (body ++ [high, low]).length = body.length + 2 := by simp
  rw [count] at inside ⊢
  rw [crossed_concat]
  have place : i < body.length ∨ i = body.length ∨ i = body.length + 1 := by omega
  rcases place with before | rfl | rfl
  · have stays : across (body.length + 2) i = i := by
      unfold across
      rw [if_neg (by omega), if_neg (by omega)]
    rw [stays, List.set_append_left _ _ before, List.set_append_left _ _ before, crossed_concat]
  · have moved : across (body.length + 2) body.length = body.length + 1 := by
      unfold across
      rw [if_neg (by omega), if_pos (by omega)]
    rw [moved]
    simp [crossed_concat]
  · have moved : across (body.length + 2) (body.length + 1) = body.length := by
      unfold across
      rw [if_pos (by omega), Nat.add_sub_cancel]
    rw [moved]
    simp [crossed_concat]

theorem getElem?_crossed {bytes : Bytes} (two : 2 ≤ bytes.length) {i : Nat} {b : UInt8}
    (found : bytes[i]? = some b) : bytes.crossed[across bytes.length i]? = some b := by
  obtain ⟨inside, rfl⟩ := List.getElem?_eq_some_iff.mp found
  -- A byte that is replaced by itself stays.
  have same := crossed_set two inside bytes[i]
  rw [List.set_getElem_self] at same
  rw [same, List.getElem?_set_self]
  rw [length_crossed]
  exact across_lt two inside

theorem be16_ofBe16 (high low : UInt8) : be16 (ofBe16 high low) = [high, low] := by
  have := high.toNat_lt
  have := low.toNat_lt
  have first : UInt8.ofNat ((ofBe16 high low).toNat / 256) = high := by
    rw [toNat_ofBe16, ← UInt8.toNat_inj, UInt8.toNat_ofNat']
    omega
  have second : (ofBe16 high low).toUInt8 = low := by
    rw [← UInt8.toNat_inj, UInt16.toNat_toUInt8, toNat_ofBe16]
    omega
  rw [be16, first, second]

theorem ofBe16_eq_xor (high low : UInt8) :
    ofBe16 high low = UInt16.ofNat (2 ^ 8 * high.toNat) ^^^ low.toUInt16 := by
  have := high.toNat_lt
  have := low.toNat_lt
  rw [← UInt16.toNat_inj, toNat_ofBe16, UInt16.toNat_xor, UInt16.toNat_ofNat',
    UInt8.toNat_toUInt16, Nat.mod_eq_of_lt (by omega), Nat.mul_comm]
  apply Nat.eq_of_testBit_eq
  intro i
  rw [Nat.testBit_xor, Nat.testBit_two_pow_mul,
    Nat.testBit_two_pow_mul_add (i := 8) high.toNat low.toNat_lt i]
  rcases Nat.lt_or_ge i 8 with inLow | inHigh
  · simp [inLow, Nat.not_le.mpr inLow]
  · have above : low.toNat.testBit i = false :=
      Nat.testBit_lt_two_pow (Nat.lt_of_lt_of_le low.toNat_lt
        (Nat.pow_le_pow_right (by decide) inHigh))
    simp [inHigh, Nat.not_lt.mpr inHigh, above]

theorem xorAll_append (first second : Bytes) :
    xorAll (first ++ second) = xorAll first ^^^ xorAll second := by
  have joined : second.foldl (fun a b : UInt8 => a ^^^ b) (xorAll first ^^^ 0) =
      xorAll first ^^^ second.foldl (fun a b => a ^^^ b) 0 :=
    List.foldl_assoc
  rw [UInt8.xor_zero] at joined
  rw [xorAll, List.foldl_append]
  exact joined

@[simp] theorem xorAll_single (b : UInt8) : xorAll [b] = b :=
  UInt8.zero_xor

theorem xorAll_cons (b : UInt8) (bytes : Bytes) : xorAll (b :: bytes) = b ^^^ xorAll bytes := by
  rw [← List.singleton_append, xorAll_append, xorAll_single]

theorem xorAll_set {bytes : Bytes} {i : Nat} {old : UInt8} (found : bytes[i]? = some old)
    (new : UInt8) : xorAll (bytes.set i new) = xorAll bytes ^^^ (old ^^^ new) := by
  induction bytes generalizing i with
  | nil => cases found
  | cons b bytes ih =>
    cases i with
    | zero =>
      cases found
      have cancelled : old ^^^ xorAll bytes ^^^ (old ^^^ new) =
          (old ^^^ old) ^^^ (new ^^^ xorAll bytes) := by
        ac_rfl
      rw [List.set_cons_zero, xorAll_cons, xorAll_cons, cancelled, UInt8.xor_self, UInt8.zero_xor]
    | succ i => rw [List.set_cons_succ, xorAll_cons, xorAll_cons, ih found, UInt8.xor_assoc]

end Bytes

namespace Checksum

/-! ## When a block verifies -/

/-- A block verifies by its LRC just if all its bytes together cancel. -/
theorem verify_lrc_iff (block : Bytes) :
    lrc.verify block = true ↔ block ≠ [] ∧ Bytes.xorAll block = 0 := by
  constructor
  · intro verified
    obtain ⟨body, rfl⟩ := (lrc.verify_iff block).mp verified
    refine ⟨by simp [append, code], ?_⟩
    rw [append, code, Bytes.xorAll_append, Bytes.xorAll_single, UInt8.xor_self]
  · rintro ⟨some, cancels⟩
    obtain ⟨body, last, rfl⟩ := (List.eq_nil_or_concat' block).resolve_left some
    rw [Bytes.xorAll_append, Bytes.xorAll_single, UInt8.xor_eq_zero_iff] at cancels
    rw [verify_iff]
    exact ⟨body, by rw [append, code, cancels]⟩

/-- Two more bytes cancel what is in the register just if they write it, the low byte first. -/
theorem crc16_concat (body : Bytes) (low high : UInt8) :
    crc16 (body ++ [low, high]) = crcShift^[16] (crc16 body ^^^ Bytes.ofBe16 high low) := by
  have climbed : crcShift^[8] (UInt16.ofNat (2 ^ 8 * high.toNat)) = high.toUInt16 := by
    have := high.toNat_lt
    rw [shifts_two_pow_mul 8 (by omega), UInt16.ofNat_uInt8ToNat]
  rw [Bytes.ofBe16_eq_xor, UInt16.xor_comm (UInt16.ofNat _), ← UInt16.xor_assoc,
    Function.iterate_add_apply crcShift 8 8, shifts_xor 8, climbed]
  show (body ++ [low, high]).foldl crcByte 0xFFFF = _
  rw [List.foldl_append]
  rfl

/-- A block verifies by its CRC just if it leaves no remainder when its last two bytes are
exchanged. -/
theorem verify_crc_iff (block : Bytes) :
    crc.verify block = true ↔ 2 ≤ block.length ∧ crc16 block.crossed = 0 := by
  constructor
  · intro verified
    obtain ⟨body, rfl⟩ := (crc.verify_iff block).mp verified
    refine ⟨by simp [append, code, Bytes.be16], ?_⟩
    rw [append, code, Bytes.be16, Bytes.crossed_concat, crc16_concat, Bytes.ofBe16_be16,
      UInt16.xor_self, shifts_zero]
  · rintro ⟨two, empty⟩
    obtain ⟨body, high, low, rfl⟩ := Bytes.exists_concat two
    rw [Bytes.crossed_concat, crc16_concat, shifts_eq_zero_iff, UInt16.xor_eq_zero_iff] at empty
    rw [verify_iff]
    exact ⟨body, by rw [append, code, empty, Bytes.be16_ofBe16]⟩

/-! ## One byte -/

theorem lrc_detects_byte {block : Bytes} (verified : lrc.verify block = true) {i : Nat}
    {old new : UInt8} (found : block[i]? = some old) (other : new ≠ old) :
    lrc.verify (block.set i new) = false := by
  obtain ⟨-, cancels⟩ := (verify_lrc_iff block).mp verified
  rw [Bool.eq_false_iff]
  intro accepted
  obtain ⟨-, cancels'⟩ := (verify_lrc_iff _).mp accepted
  rw [Bytes.xorAll_set found, cancels, UInt8.zero_xor, UInt8.xor_eq_zero_iff] at cancels'
  exact other cancels'.symm

theorem crc16_crossed_set {block : Bytes} (two : 2 ≤ block.length) {i : Nat} {old : UInt8}
    (found : block[i]? = some old) (new : UInt8) :
    crc16 (Bytes.crossed (block.set i new)) =
      crc16 block.crossed ^^^
        crcShift^[8 * (block.length - Bytes.across block.length i)] (old ^^^ new).toUInt16 := by
  have inside : i < block.length := (List.getElem?_eq_some_iff.mp found).1
  rw [Bytes.crossed_set two inside, crc16_set (Bytes.getElem?_crossed two found),
    Bytes.length_crossed]

theorem crc_detects_byte {block : Bytes} (verified : crc.verify block = true) {i : Nat}
    {old new : UInt8} (found : block[i]? = some old) (other : new ≠ old) :
    crc.verify (block.set i new) = false := by
  obtain ⟨two, empty⟩ := (verify_crc_iff block).mp verified
  rw [Bool.eq_false_iff]
  intro accepted
  obtain ⟨-, empty'⟩ := (verify_crc_iff _).mp accepted
  rw [crc16_crossed_set two found, empty, UInt16.zero_xor, shifts_eq_zero_iff] at empty'
  have none : old ^^^ new = 0 := by
    rw [← UInt8.toNat_inj, ← UInt8.toNat_toUInt16, empty']
    rfl
  exact other (UInt8.xor_eq_zero_iff.mp none).symm

/-! ## Single bits -/

/-- How many shifts take a bit of a block with so many bytes to the end of the block. -/
def delay (count n : Nat) : Nat :=
  8 * (count - Bytes.across count (n / 8)) - n % 8

theorem delay_bounds {count n : Nat} (two : 2 ≤ count) (inside : n < 8 * count) :
    0 < delay count n ∧ delay count n ≤ 8 * count := by
  have := Bytes.across_lt two (show n / 8 < count by omega)
  unfold delay
  omega

theorem delay_injective {count m n : Nat} (two : 2 ≤ count) (left : m < 8 * count)
    (right : n < 8 * count) (same : delay count m = delay count n) : m = n := by
  have here : m / 8 < count := by omega
  have there : n / 8 < count := by omega
  have := Bytes.across_lt two here
  have := Bytes.across_lt two there
  unfold delay at same
  have byte : m / 8 = n / 8 := Bytes.across_injective two here there (by omega)
  rw [byte] at same
  omega

/-- A flipped bit leaves one bit in the register, shifted on from its place. -/
theorem crc16_crossed_flip {block : Bytes} (two : 2 ≤ block.length) {n : Nat}
    (inside : n < 8 * block.length) :
    crc16 (block.flip n).crossed = crc16 block.crossed ^^^ crcShift^[delay block.length n] 1 := by
  have here : n / 8 < block.length := by omega
  have found : block[n / 8]? = some block[n / 8] := List.getElem?_eq_getElem here
  have place : 8 * (block.length - Bytes.across block.length (n / 8)) =
      delay block.length n + n % 8 := by
    have := Bytes.across_lt two here
    unfold delay
    omega
  have bit : 2 ^ (n % 8) < 256 := Nat.pow_lt_pow_right (by decide) (Nat.mod_lt n (by decide))
  have climbed : crcShift^[n % 8] (UInt8.ofNat (2 ^ (n % 8))).toUInt16 = 1 := by
    have word : (UInt8.ofNat (2 ^ (n % 8))).toUInt16 = UInt16.ofNat (2 ^ (n % 8) * 1) := by
      rw [← UInt16.toNat_inj, UInt8.toNat_toUInt16, UInt8.toNat_ofNat', UInt16.toNat_ofNat']
      omega
    rw [word, shifts_two_pow_mul (n % 8) (by omega)]
    rfl
  rw [Bytes.flip_eq_set found, crc16_crossed_set two found, ← UInt8.xor_assoc, UInt8.xor_self,
    UInt8.zero_xor, place, Function.iterate_add_apply, climbed]

/-- What flipped bits leave in the register at the end of a block with so many bytes. -/
def echo (count : Nat) (flips : List Nat) : UInt16 :=
  flips.foldr (fun n c => crcShift^[delay count n] 1 ^^^ c) 0

theorem crc16_crossed_flips {block : Bytes} (two : 2 ≤ block.length) {flips : List Nat}
    (inside : ∀ n ∈ flips, n < 8 * block.length) :
    crc16 (flips.foldl Bytes.flip block).crossed =
      crc16 block.crossed ^^^ echo block.length flips := by
  induction flips generalizing block with
  | nil => exact UInt16.xor_zero.symm
  | cons n flips ih =>
    have inside' : ∀ m ∈ flips, m < 8 * (block.flip n).length := by
      intro m mem
      rw [Bytes.length_flip]
      exact inside m (List.mem_cons_of_mem n mem)
    rw [List.foldl_cons, ih (by rwa [Bytes.length_flip]) inside',
      crc16_crossed_flip two (inside n List.mem_cons_self), Bytes.length_flip, UInt16.xor_assoc]
    rfl

theorem echo_eq_zero {block : Bytes} (verified : crc.verify block = true) {flips : List Nat}
    (inside : ∀ n ∈ flips, n < 8 * block.length)
    (accepted : crc.verify (flips.foldl Bytes.flip block) = true) :
    echo block.length flips = 0 := by
  obtain ⟨two, empty⟩ := (verify_crc_iff block).mp verified
  obtain ⟨-, empty'⟩ := (verify_crc_iff _).mp accepted
  rwa [crc16_crossed_flips two inside, empty, UInt16.zero_xor] at empty'

theorem oddOnes_echo (count : Nat) (flips : List Nat) :
    oddOnes (echo count flips) 16 = decide (flips.length % 2 = 1) := by
  induction flips with
  | nil =>
    show oddOnes 0 16 = false
    decide
  | cons n flips ih =>
    have one : oddOnes 1 16 = true := by decide
    have step : echo count (n :: flips) = crcShift^[delay count n] 1 ^^^ echo count flips := rfl
    rw [step, oddOnes_xor, oddOnes_shifts, one, ih, List.length_cons, Bool.true_xor]
    rcases Nat.mod_two_eq_zero_or_one flips.length with even | odd
    · have : (flips.length + 1) % 2 = 1 := by omega
      simp [even, this]
    · have : (flips.length + 1) % 2 = 0 := by omega
      simp [odd, this]

theorem echo_ne_zero_of_odd {count : Nat} {flips : List Nat} (odd : flips.length % 2 = 1) :
    echo count flips ≠ 0 := by
  intro silent
  have parity := oddOnes_echo count flips
  rw [silent, odd] at parity
  exact absurd parity (by decide)

theorem echo_pair_ne_zero {count m n : Nat} (two : 2 ≤ count) (short : count < 260)
    (left : m < 8 * count) (right : n < 8 * count) (differ : m ≠ n) : echo count [m, n] ≠ 0 := by
  have := delay_bounds two left
  have := delay_bounds two right
  have apart : delay count m ≠ delay count n := by
    intro same
    exact differ (delay_injective two left right same)
  have sum : echo count [m, n] = crcShift^[delay count m] 1 ^^^ crcShift^[delay count n] 1 := by
    rw [echo, List.foldr_cons, List.foldr_cons, List.foldr_nil, UInt16.xor_zero]
  rw [sum, ne_eq, UInt16.xor_eq_zero_iff]
  rcases Nat.lt_or_gt_of_ne apart with before | behind
  · exact shifts_one_ne before (by omega)
  · exact (shifts_one_ne behind (by omega)).symm

/-! ## Errors -/

/-- **Errors are detected.** A byte string with its code behind it verifies, and does not any more
when one of its bytes is changed, be it one of the code. A block that is not longer than the longest
one does not verify by its CRC either when one, two or three of its bits are flipped. -/
theorem errors_detected (body : Bytes) :
    (∀ cs : Checksum, cs.verify (cs.append body) = true ∧
      ∀ i old new, (cs.append body)[i]? = some old → new ≠ old →
        cs.verify ((cs.append body).set i new) = false) ∧
    (body.length ≤ Block.headerLength + Block.maxInfo →
      ∀ flips : List Nat, flips.Nodup → flips ≠ [] → flips.length ≤ 3 →
        (∀ n ∈ flips, n < 8 * (crc.append body).length) →
          crc.verify (flips.foldl Bytes.flip (crc.append body)) = false) := by
  constructor
  · intro cs
    refine ⟨cs.verify_append body, ?_⟩
    intro i old new found other
    cases cs with
    | lrc => exact lrc_detects_byte (lrc.verify_append body) found other
    | crc => exact crc_detects_byte (crc.verify_append body) found other
  · intro short flips distinct some few inside
    rw [Bool.eq_false_iff]
    intro accepted
    have silent := echo_eq_zero (crc.verify_append body) inside accepted
    have count : (crc.append body).length = body.length + 2 := by
      rw [append, List.length_append, length_code]
      rfl
    have number : flips.length % 2 = 1 ∨ flips.length = 2 := by
      have := List.length_pos_iff.mpr some
      omega
    rcases number with odd | pair
    · exact echo_ne_zero_of_odd odd silent
    · obtain ⟨m, n, rfl⟩ := List.length_eq_two.mp pair
      rw [List.nodup_cons, List.mem_singleton] at distinct
      have bound : body.length ≤ 257 := short
      exact echo_pair_ne_zero (by omega) (by omega) (inside m (by simp)) (inside n (by simp))
        distinct.1 silent

/-- A block whose LRC is changed, and one with three bits flipped, one of them in its CRC. -/
theorem errors_detected_damaged :
    lrc.append [0x00, 0x40, 0x02, 0x12, 0x34] = [0x00, 0x40, 0x02, 0x12, 0x34, 0x64] ∧
    lrc.verify ((lrc.append [0x00, 0x40, 0x02, 0x12, 0x34]).set 5 0x65) = false ∧
    [3, 28, 55].foldl Bytes.flip (crc.append [0x00, 0x40, 0x02, 0x12, 0x34]) =
      [0x08, 0x40, 0x02, 0x02, 0x34, 0x42, 0x81] ∧
    crc.verify ([3, 28, 55].foldl Bytes.flip (crc.append [0x00, 0x40, 0x02, 0x12, 0x34])) =
      false := by
  obtain ⟨byte, bits⟩ := errors_detected [0x00, 0x40, 0x02, 0x12, 0x34]
  refine ⟨by decide, ?_, by decide +kernel, ?_⟩
  · exact (byte .lrc).2 5 0x64 0x65 (by decide) (by decide)
  · exact bits (by decide) [3, 28, 55] (by decide) (by decide) (by decide) (by decide)

end Checksum

end CardTerminal
