/-!
Byte strings, and the fixed-width numbers written in them.

Numbers are split and joined by division and remainder, so that every law about them is a law of
`Nat`. Main statements: a word that is written and read back in the same order is the same word
(`ofBe16_be16`, `ofLe32_le32`).
-/

namespace CardTerminal

/-- A byte string. -/
abbrev Bytes := List UInt8

namespace Bytes

def xorAll (bs : Bytes) : UInt8 :=
  bs.foldl (· ^^^ ·) 0

/-- The number that the bytes write, most significant byte first. -/
def toNatBe (bs : Bytes) : Nat :=
  bs.foldl (fun n b => n * 256 + b.toNat) 0

/-- `old` with its start overwritten by as much of `new` as fits. -/
def overlay (new old : Bytes) : Bytes :=
  new.take old.length ++ old.drop new.length

@[simp] theorem length_overlay (new old : Bytes) : (overlay new old).length = old.length := by
  simp only [overlay, List.length_append, List.length_take, List.length_drop]
  omega

/-- Exactly `n` bytes: `bs`, cut or filled up with zeros. -/
def fit (n : Nat) (bs : Bytes) : Bytes :=
  overlay bs (List.replicate n 0)

@[simp] theorem length_fit (n : Nat) (bs : Bytes) : (fit n bs).length = n := by
  simp [fit]

/-! ## Sixteen bits -/

/-- High byte first. -/
def be16 (n : UInt16) : Bytes :=
  [UInt8.ofNat (n.toNat / 256), n.toUInt8]

/-- Low byte first. -/
def le16 (n : UInt16) : Bytes :=
  [n.toUInt8, UInt8.ofNat (n.toNat / 256)]

def ofBe16 (high low : UInt8) : UInt16 :=
  UInt16.ofNat (high.toNat * 256 + low.toNat)

theorem toNat_ofBe16 (high low : UInt8) :
    (ofBe16 high low).toNat = high.toNat * 256 + low.toNat := by
  have := high.toNat_lt
  have := low.toNat_lt
  rw [ofBe16, UInt16.toNat_ofNat']
  omega

/-! ## Thirty-two bits -/

/-- Low byte first. -/
def le32 (n : UInt32) : Bytes :=
  [n.toUInt8, UInt8.ofNat (n.toNat / 256), UInt8.ofNat (n.toNat / 65536),
    UInt8.ofNat (n.toNat / 16777216)]

/-- The word with these four bytes, the lowest given first. -/
def ofLe32 (a b c d : UInt8) : UInt32 :=
  UInt32.ofNat (a.toNat + b.toNat * 256 + c.toNat * 65536 + d.toNat * 16777216)

/-- The word at the start of a byte string, its low byte first. -/
def headLe32 : Bytes → UInt32
  | a :: b :: c :: d :: _ => ofLe32 a b c d
  | _ => 0

/-- The fewest bytes that write `n`, most significant first, and at least one. -/
def minimalBe (n : UInt32) : Bytes :=
  if n.toNat < 256 then [n.toUInt8]
  else if n.toNat < 65536 then [UInt8.ofNat (n.toNat / 256), n.toUInt8]
  else if n.toNat < 16777216 then
    [UInt8.ofNat (n.toNat / 65536), UInt8.ofNat (n.toNat / 256), n.toUInt8]
  else (le32 n).reverse

/-! ## Reading back what was written -/

theorem ofBe16_be16 (n : UInt16) : ofBe16 (UInt8.ofNat (n.toNat / 256)) n.toUInt8 = n := by
  apply UInt16.toNat_inj.mp
  have := n.toNat_lt
  simp only [ofBe16, UInt16.toNat_ofNat', UInt8.toNat_ofNat', UInt16.toNat_toUInt8]
  omega

theorem ofLe32_le32 (n : UInt32) :
    ofLe32 n.toUInt8 (UInt8.ofNat (n.toNat / 256)) (UInt8.ofNat (n.toNat / 65536))
      (UInt8.ofNat (n.toNat / 16777216)) = n := by
  apply UInt32.toNat_inj.mp
  have := n.toNat_lt
  simp only [ofLe32, UInt32.toNat_ofNat', UInt8.toNat_ofNat', UInt32.toNat_toUInt8]
  omega

end Bytes

end CardTerminal
