import CardTerminal.Driver

/-!
The least driver: two slots that always hold a card, and no hook but those that have to be there.
-/

namespace CardTerminal.Minimal

/-- The least driver; its device has no state. -/
def driver : Driver Unit where
  -- Nothing can be sent, so one block is all that an exchange can try.
  patience := 1
  name := "minimal"
  attach := return { ReaderInfo.new "Minimal reader" 2 with flags := .displayAndKeypad }
  cardStatus _ := return ⟨true, false⟩
  cardReset _ := return some [0x3B, 0x80, 0x80, 0x01, 0x01]

def device : Device :=
  ⟨Unit, driver, ()⟩

end CardTerminal.Minimal
