import CardTerminal.Checksum
import Mathlib.Data.List.Iterate

/-!
The remainder register.

A shift is linear and loses nothing (`crcShift_xor`, `crcShift_injective`), so a difference in the
register never vanishes, and what it is later depends on the difference alone. Two facts about one
bit that is shifted on tell which differences cancel: a shift keeps the parity of the register
(`oddOnes_shifts`), and the bit does not come back to where it was for a long time
(`shifts_one_ne`).

Main statement: a byte that is replaced changes the remainder by the difference, shifted on to the
end (`crc16_set`).
-/

namespace CardTerminal

namespace Checksum

/-! ## Linearity -/

/-- The bit that leaves the register next. -/
def lowBit (c : UInt16) : Bool :=
  c.toNat.testBit 0

theorem and_one_eq_one_iff (c : UInt16) : c &&& 1 = 1 ↔ lowBit c = true := by
  rw [← UInt16.toNat_inj, UInt16.toNat_and, lowBit, Nat.testBit_zero, decide_eq_true_eq]
  show c.toNat &&& 1 = 1 ↔ _
  rw [Nat.and_one_is_mod]

theorem lowBit_xor (a b : UInt16) : lowBit (a ^^^ b) = (lowBit a ^^ lowBit b) := by
  rw [lowBit, UInt16.toNat_xor, Nat.testBit_xor]
  rfl

theorem crcShift_eq (c : UInt16) :
    crcShift c = (c >>> 1) ^^^ (if lowBit c then crcPolynomial else 0) := by
  simp only [crcShift, and_one_eq_one_iff]
  split
  · rfl
  · rw [UInt16.xor_zero]

theorem crcShift_xor (a b : UInt16) : crcShift (a ^^^ b) = crcShift a ^^^ crcShift b := by
  have taps : (if lowBit (a ^^^ b) then crcPolynomial else 0) =
      (if lowBit a then crcPolynomial else 0) ^^^ (if lowBit b then crcPolynomial else 0) := by
    rw [lowBit_xor]
    cases lowBit a <;> cases lowBit b <;> decide
  rw [crcShift_eq, crcShift_eq a, crcShift_eq b, UInt16.shiftRight_xor, taps]
  ac_rfl

/-- A bit that leaves the register comes back at its top, so it does not become empty by that. -/
theorem eq_zero_of_crcShift {c : UInt16} (empty : crcShift c = 0) : c = 0 := by
  rw [crcShift_eq, UInt16.xor_eq_zero_iff, ← UInt16.toNat_inj, UInt16.toNat_shiftRight] at empty
  have halved : c.toNat / 2 = (if lowBit c then crcPolynomial else 0).toNat := by
    rw [← empty]
    exact (Nat.shiftRight_eq_div_pow _ 1).symm
  have := c.toNat_lt
  cases low : lowBit c with
  | true =>
    rw [low] at halved
    have : c.toNat / 2 = 0x8408 := halved
    omega
  | false =>
    rw [low] at halved
    have : c.toNat / 2 = 0 := halved
    rw [lowBit, Nat.testBit_zero, decide_eq_false_iff_not] at low
    rw [← UInt16.toNat_inj]
    show c.toNat = 0
    omega

theorem crcShift_injective : Function.Injective crcShift := by
  intro a b same
  rw [← UInt16.xor_eq_zero_iff]
  apply eq_zero_of_crcShift
  rw [crcShift_xor, same, UInt16.xor_self]

theorem shifts_xor (n : Nat) (a b : UInt16) :
    crcShift^[n] (a ^^^ b) = crcShift^[n] a ^^^ crcShift^[n] b := by
  induction n generalizing a b with
  | zero => rfl
  | succ n ih =>
    rw [Function.iterate_succ_apply, crcShift_xor, ih]
    rfl

theorem shifts_zero (n : Nat) : crcShift^[n] 0 = 0 :=
  Function.iterate_fixed (by decide) n

theorem shifts_eq_zero_iff {n : Nat} {c : UInt16} : crcShift^[n] c = 0 ↔ c = 0 := by
  rw [← shifts_zero n, (crcShift_injective.iterate n).eq_iff, shifts_zero]

theorem shifts_two_pow_mul (k : Nat) {n : Nat} (fits : 2 ^ k * n < 65536) :
    crcShift^[k] (UInt16.ofNat (2 ^ k * n)) = UInt16.ofNat n := by
  induction k with
  | zero =>
    rw [Nat.pow_zero, Nat.one_mul]
    rfl
  | succ k ih =>
    rw [Nat.pow_succ', Nat.mul_assoc] at fits ⊢
    have low : lowBit (UInt16.ofNat (2 * (2 ^ k * n))) = false := by
      rw [lowBit, UInt16.toNat_ofNat', Nat.testBit_zero, decide_eq_false_iff_not]
      omega
    have halved : crcShift (UInt16.ofNat (2 * (2 ^ k * n))) = UInt16.ofNat (2 ^ k * n) := by
      rw [crcShift_eq, low, if_neg (by decide), UInt16.xor_zero, ← UInt16.toNat_inj,
        UInt16.toNat_shiftRight, UInt16.toNat_ofNat', UInt16.toNat_ofNat']
      show _ >>> 1 = _
      rw [Nat.shiftRight_eq_div_pow]
      omega
    rw [Function.iterate_succ_apply, halved]
    exact ih (by omega)

/-! ## Parity -/

/-- Whether an odd number of the lowest `n` bits are one. -/
def oddOnes (c : UInt16) : Nat → Bool
  | 0 => false
  | n + 1 => oddOnes c n ^^ c.toNat.testBit n

theorem oddOnes_xor (a b : UInt16) (n : Nat) :
    oddOnes (a ^^^ b) n = (oddOnes a n ^^ oddOnes b n) := by
  induction n with
  | zero => rfl
  | succ n ih =>
    simp only [oddOnes, ih, UInt16.toNat_xor, Nat.testBit_xor, Bool.xor_assoc, Bool.xor_left_comm]

theorem oddOnes_shiftRight (c : UInt16) (n : Nat) :
    oddOnes (c >>> 1) n = (oddOnes c (n + 1) ^^ lowBit c) := by
  induction n with
  | zero => simp [oddOnes, lowBit]
  | succ n ih =>
    have next : (c >>> 1).toNat.testBit n = c.toNat.testBit (n + 1) := by
      rw [UInt16.toNat_shiftRight]
      show (c.toNat >>> 1).testBit n = _
      rw [Nat.testBit_shiftRight, Nat.add_comm]
    rw [oddOnes, ih, next, Bool.xor_assoc, Bool.xor_comm (lowBit c), ← Bool.xor_assoc]
    rfl

/-- For a bit that leaves the register, the polynomial brings back an odd number of bits. -/
theorem oddOnes_crcShift (c : UInt16) : oddOnes (crcShift c) 16 = oddOnes c 16 := by
  have top : c.toNat.testBit 16 = false := Nat.testBit_lt_two_pow c.toNat_lt
  rw [crcShift_eq, oddOnes_xor, oddOnes_shiftRight, oddOnes, top]
  cases lowBit c with
  | true =>
    have taps : oddOnes crcPolynomial 16 = true := by decide
    simp [taps]
  | false =>
    have none : oddOnes 0 16 = false := by decide
    simp [none]

theorem oddOnes_shifts (n : Nat) (c : UInt16) : oddOnes (crcShift^[n] c) 16 = oddOnes c 16 := by
  induction n generalizing c with
  | zero => rfl
  | succ n ih => rw [Function.iterate_succ_apply, ih, oddOnes_crcShift]

/-! ## One bit -/

/-- One bit does not come back to where it was while the longest block is shifted through the
register, which has 2072 bits with its code. -/
theorem shifts_one_ne_one {n : Nat} (some : 0 < n) (few : n < 2072) : crcShift^[n] 1 ≠ 1 := by
  have away : 1 ∉ List.iterate crcShift (crcShift 1) 2071 := by decide +kernel
  intro back
  apply away
  rw [List.mem_iterate]
  refine ⟨n - 1, by omega, ?_⟩
  rw [← Function.iterate_succ_apply, Nat.succ_eq_add_one, Nat.sub_add_cancel some, back]

theorem shifts_one_ne {m n : Nat} (apart : m < n) (near : n < m + 2072) :
    crcShift^[m] 1 ≠ crcShift^[n] 1 := by
  obtain ⟨d, rfl⟩ := Nat.exists_eq_add_of_lt apart
  rw [Nat.add_assoc, Function.iterate_add_apply]
  intro same
  exact shifts_one_ne_one (by omega) (by omega) (crcShift_injective.iterate m same).symm

/-! ## The remainder of a byte string -/

theorem crcByte_eq (c : UInt16) (b : UInt8) : crcByte c b = crcShift^[8] (c ^^^ b.toUInt16) :=
  rfl

theorem crcByte_xor (c d : UInt16) (b : UInt8) :
    crcByte (c ^^^ d) b = crcByte c b ^^^ crcShift^[8] d := by
  rw [crcByte_eq, crcByte_eq, ← shifts_xor]
  congr 1
  ac_rfl

/-- What is different in the register at first is shifted on by every byte. -/
theorem foldl_crcByte_xor (c d : UInt16) (bytes : Bytes) :
    bytes.foldl crcByte (c ^^^ d) =
      bytes.foldl crcByte c ^^^ crcShift^[8 * bytes.length] d := by
  induction bytes generalizing c d with
  | nil => rfl
  | cons b bytes ih =>
    rw [List.foldl_cons, List.foldl_cons, crcByte_xor, ih, ← Function.iterate_add_apply,
      List.length_cons, Nat.mul_succ]

/-- A byte that is replaced changes the remainder by the difference, shifted on to the end. -/
theorem crc16_set {bytes : Bytes} {i : Nat} {old : UInt8} (found : bytes[i]? = some old)
    (new : UInt8) :
    crc16 (bytes.set i new) =
      crc16 bytes ^^^ crcShift^[8 * (bytes.length - i)] (old ^^^ new).toUInt16 := by
  obtain ⟨inside, rfl⟩ := List.getElem?_eq_some_iff.mp found
  have whole : bytes.take i ++ bytes[i] :: bytes.drop (i + 1) = bytes := by simp
  have count : 8 * (bytes.length - i) = 8 * (bytes.drop (i + 1)).length + 8 := by
    rw [List.length_drop]
    omega
  -- The bytes before it have left the same register.
  have replaced (c : UInt16) :
      crcByte c new = crcByte c bytes[i] ^^^ crcShift^[8] (bytes[i] ^^^ new).toUInt16 := by
    have same : c ^^^ (bytes[i].toUInt16 ^^^ new.toUInt16) ^^^ bytes[i].toUInt16 =
        c ^^^ new.toUInt16 ^^^ (bytes[i].toUInt16 ^^^ bytes[i].toUInt16) := by
      ac_rfl
    rw [← crcByte_xor, crcByte_eq, crcByte_eq, UInt8.toUInt16_xor, same, UInt16.xor_self,
      UInt16.xor_zero]
  calc crc16 (bytes.set i new)
      = (bytes.drop (i + 1)).foldl crcByte
          (crcByte ((bytes.take i).foldl crcByte 0xFFFF) new) := by
        rw [List.set_eq_take_append_cons_drop, if_pos inside, crc16, List.foldl_append,
          List.foldl_cons]
    _ = (bytes.drop (i + 1)).foldl crcByte
          (crcByte ((bytes.take i).foldl crcByte 0xFFFF) bytes[i]) ^^^
            crcShift^[8 * (bytes.length - i)] (bytes[i] ^^^ new).toUInt16 := by
        rw [replaced, foldl_crcByte_xor, count, Function.iterate_add_apply]
    _ = crc16 bytes ^^^ crcShift^[8 * (bytes.length - i)] (bytes[i] ^^^ new).toUInt16 := by
        rw [← List.foldl_cons, ← List.foldl_append, whole, crc16]

end Checksum

end CardTerminal
