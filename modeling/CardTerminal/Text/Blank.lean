/-!
Blank characters: those with the White_Space property.
-/

namespace CardTerminal

/-- The ranges of the White_Space property, in order. -/
def blankRanges : List (Nat × Nat) :=
  [(0x09, 0x0D), (0x20, 0x20), (0x85, 0x85), (0xA0, 0xA0), (0x1680, 0x1680), (0x2000, 0x200A),
    (0x2028, 0x2029), (0x202F, 0x202F), (0x205F, 0x205F), (0x3000, 0x3000)]

def isBlank (c : Char) : Bool :=
  blankRanges.any (fun (low, high) => low ≤ c.toNat && c.toNat ≤ high)

/-- Characters without the blanks at their start. -/
def trimStart (cs : List Char) : List Char :=
  cs.dropWhile isBlank

def trimBlanks (cs : List Char) : List Char :=
  (trimStart (trimStart cs).reverse).reverse

/-- Characters cut at every occurrence of one of them; the pieces do not hold it. -/
def splitAtChar (mark : Char) : List Char → List (List Char)
  | [] => [[]]
  | c :: cs =>
    match splitAtChar mark cs with
    | piece :: pieces => if c = mark then [] :: piece :: pieces else (c :: piece) :: pieces
    | [] => [[c]]

example : trimBlanks " a b\t".toList = "a b".toList := by decide

example : splitAtChar ',' "a,,b".toList = ["a".toList, [], "b".toList] := by decide

end CardTerminal
