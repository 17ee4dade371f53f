/-!
Numbers with a binary fraction as decimal text: the fewest digits that read back as the same number,
the nearest such digits to it, and no exponent.

A positive number is `m · 2 ^ q`. Everything between the middles to its neighbours reads back as it,
the middles included if `m` is even. On each decimal grid the two points next to the number are
tried, the coarsest grid first: if any point of a grid reads back as the number, one of them does.
-/

namespace CardTerminal.Decimal

/-- `m` and `q` of a positive number, and whether the number below it is nearer than the one
above. -/
def parts (f : Float) : Nat × Int × Bool :=
  let bits := f.toBits.toNat
  let fraction := bits % 0x10000000000000
  let exponent := bits / 0x10000000000000 % 0x800
  if exponent = 0 then (fraction, -1074, false)
  else (0x10000000000000 + fraction, (exponent : Int) - 1075, fraction = 0 && exponent ≠ 1)

/-- A fraction of natural numbers. -/
structure Ratio where
  num : Nat
  den : Nat

/-- The power of ten just above a number: the least `e` with the number below `10 ^ e`. -/
def magnitude (r : Ratio) : Int :=
  if r.den ≤ r.num then ((toString (r.num / r.den)).length : Nat)
  else 1 - ((List.range 400).find? (fun j => r.den ≤ r.num * Nat.pow 10 j)).getD 0

/-- The numerators of the number and of the ends of its interval, over one denominator. -/
structure Interval where
  low : Nat
  value : Nat
  high : Nat
  den : Nat
  /-- The ends belong to it. -/
  closed : Bool

/-- What reads back as a number. -/
def interval (f : Float) : Interval :=
  let (m, q, narrow) := parts f
  let up := 1 <<< q.toNat
  ⟨(4 * m - if narrow then 1 else 2) * up, 4 * m * up, (4 * m + 2) * up, 4 <<< (-q).toNat,
    m % 2 = 0⟩

/-- A point of the grid of multiples of `10 ^ k` that reads back as the number, if there is one: it
is given as a multiple. -/
def onGrid (i : Interval) (k : Int) : Option Nat :=
  let up := Nat.pow 10 (-k).toNat
  let den := i.den * Nat.pow 10 k.toNat
  let inside (n : Nat) : Bool :=
    if i.closed then i.low * up ≤ n * den && n * den ≤ i.high * up
    else i.low * up < n * den && n * den < i.high * up
  let below := i.value * up / den
  let nearer : Bool := 2 * (i.value * up - below * den) ≤ den
  match inside below, inside (below + 1) with
  | true, true => some (if nearer then below else below + 1)
  | true, false => some below
  | false, true => some (below + 1)
  | false, false => none

/-- The digits of a positive number, and the power of ten that they count. -/
def shortest (f : Float) : Nat × Int :=
  let i := interval f
  let top := magnitude ⟨i.value, i.den⟩
  ((List.range 17).findSome? (fun n =>
    let k := top - (n + 1 : Nat)
    (onGrid i k).map (fun digits => (digits, k)))).getD (0, 0)

def zeros (n : Nat) : String :=
  String.ofList (List.replicate n '0')

/-- Digits with `places` of them behind the point, without zeros at the end. -/
def withPoint (digits : Nat) : Nat → String
  | 0 => toString digits
  | places + 1 =>
    if digits % 10 = 0 then withPoint (digits / 10) places
    else
      let text := zeros (places + 2 - (toString digits).length) ++ toString digits
      let whole := text.length - (places + 1)
      String.ofList (text.toList.take whole) ++ "." ++ String.ofList (text.toList.drop whole)

def render (f : Float) : String :=
  let sign := if f.toBits.toNat < 0x8000000000000000 then "" else "-"
  if f.isNaN then "NaN"
  else if f.isInf then sign ++ "inf"
  else if f == 0.0 then sign ++ "0"
  else
    let (digits, k) : Nat × Int := shortest f
    sign ++ if 0 ≤ k then toString digits ++ zeros k.toNat else withPoint digits (-k).toNat

/-! ## Reading -/

/-- The number with these digits times a power of ten. Exponents are bounded by what can make a
difference. -/
def ofDigits (negative : Bool) (digits : Nat) (exponent : Int) : Float :=
  let bounded : Int := max (-1000 - ((toString digits).length : Nat)) (min exponent 1000)
  let f := Float.ofScientific digits (bounded < 0) bounded.natAbs
  if negative then -f else f

end CardTerminal.Decimal
