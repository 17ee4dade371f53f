import CardTerminal.Bytes

/-!
What is known of a slot at a glance, and what a reader can do beside reading cards.
-/

namespace CardTerminal

/-- The state of a slot. -/
structure CardStatus where
  /-- A card is inserted. -/
  present : Bool
  /-- The card was inserted or removed since the last query. -/
  changed : Bool
  deriving DecidableEq, Repr

namespace CardStatus

/-- No card, and nothing happened. -/
def empty : CardStatus :=
  ⟨false, false⟩

/-- The bits of a status: bit 0 for a card, bit 1 for a change. -/
def bits (s : CardStatus) : UInt8 :=
  (if s.present then 1 else 0) + (if s.changed then 2 else 0)

/-- The status with these bits; other bits mean nothing. -/
def ofBits (bits : UInt8) : CardStatus :=
  ⟨bits.toNat % 2 = 1, bits.toNat / 2 % 2 = 1⟩

@[simp] theorem ofBits_bits (s : CardStatus) : ofBits s.bits = s := by
  obtain ⟨p, c⟩ := s
  cases p <;> cases c <;> rfl

end CardStatus

/-- What a reader can do beside reading cards, one bit for each capability. -/
structure ReaderFlags where
  bits : UInt32
  deriving DecidableEq, Repr

namespace ReaderFlags

def none : ReaderFlags :=
  ⟨0⟩

def displayAndKeypad : ReaderFlags :=
  ⟨3⟩

def display (f : ReaderFlags) : Bool :=
  f.bits.toNat % 2 = 1

def keypad (f : ReaderFlags) : Bool :=
  f.bits.toNat / 2 % 2 = 1

def known (f : ReaderFlags) : ReaderFlags :=
  ⟨UInt32.ofNat (f.bits.toNat % 4)⟩

end ReaderFlags

end CardTerminal
