import CardTerminal.Settings.Value
import CardTerminal.Text.Decimal

/-!
The scalars of configuration files: numbers, dates and times, and what stands between quotes.

A scalar without quotes is one word, and is judged as a whole.
-/

namespace CardTerminal.Scalar

/-! ## Characters -/

/-- A control character, which may stand nowhere. Tabs do not count. -/
def isControl (c : Char) : Bool :=
  (c.toNat < 0x20 && c ≠ '\t') || c.toNat = 0x7F

def digit? (base : Nat) (c : Char) : Option Nat :=
  let n :=
    if c.isDigit then c.toNat - '0'.toNat
    else if 'a' ≤ c && c ≤ 'z' then c.toNat - 'a'.toNat + 10
    else if 'A' ≤ c && c ≤ 'Z' then c.toNat - 'A'.toNat + 10
    else base
  if n < base then some n else none

/-- The number that digits write, the first one the highest. -/
def numberOf (base : Nat) (digits : List Nat) : Nat :=
  digits.foldl (fun n d => n * base + d) 0

/-- The character with a number, if there is one. -/
def charOf (n : Nat) : Option Char :=
  if n.isValidChar then some (Char.ofNat n) else none

/-- The character that hexadecimal digits name. -/
def hexChar (cs : List Char) : Option Char :=
  (cs.mapM (digit? 16)).bind (fun digits => charOf (numberOf 16 digits))

/-- The character that a backslash before this one stands for. -/
def escaped : Char → Option Char
  | 'b' => some '\x08'
  | 't' => some '\t'
  | 'n' => some '\n'
  | 'f' => some '\x0c'
  | 'r' => some '\r'
  | '"' => some '"'
  | '\\' => some '\\'
  | _ => none

/-! ## Quotes -/

/-- What follows a double quote, up to the next one. -/
def basic : List Char → Option (List Char × List Char)
  | '"' :: rest => some ([], rest)
  | '\\' :: 'u' :: a :: b :: c :: d :: rest => do
    let c ← hexChar [a, b, c, d]
    let (cs, rest) ← basic rest
    return (c :: cs, rest)
  | '\\' :: 'U' :: a :: b :: c :: d :: e :: f :: g :: h :: rest => do
    let c ← hexChar [a, b, c, d, e, f, g, h]
    let (cs, rest) ← basic rest
    return (c :: cs, rest)
  | '\\' :: c :: rest => do
    let c ← escaped c
    let (cs, rest) ← basic rest
    return (c :: cs, rest)
  | c :: rest =>
    if isControl c then none
    else (basic rest).map (fun (cs, rest) => (c :: cs, rest))
  | [] => none

/-- What follows a single quote, up to the next one. -/
def literal : List Char → Option (List Char × List Char)
  | '\'' :: rest => some ([], rest)
  | c :: rest =>
    if isControl c then none
    else (literal rest).map (fun (cs, rest) => (c :: cs, rest))
  | [] => none

/-- Where a text of several lines is in a break that is left out. -/
inductive Fold where
  /-- In none. -/
  | none
  /-- Behind the backslash, before the end of the line. -/
  | opened
  /-- Behind the end of the line. -/
  | folding
  deriving DecidableEq

/-- What follows three double quotes, up to the next three; up to two more belong to the text. A
backslash at the end of a line leaves out everything up to the next character that is not blank. -/
def multiBasic : Fold → List Char → Option (List Char × List Char)
  | .opened, c :: rest =>
    if c = '\n' then multiBasic .folding rest
    else if c = ' ' || c = '\t' || (c = '\r' && rest.head? = some '\n') then multiBasic .opened rest
    else none
  | .folding, ' ' :: rest | .folding, '\t' :: rest | .folding, '\n' :: rest =>
    multiBasic .folding rest
  | .folding, '\r' :: '\n' :: rest => multiBasic .folding rest
  | _, '"' :: '"' :: '"' :: '"' :: '"' :: rest => some (['"', '"'], rest)
  | _, '"' :: '"' :: '"' :: '"' :: rest => some (['"'], rest)
  | _, '"' :: '"' :: '"' :: rest => some ([], rest)
  | _, '\\' :: 'u' :: a :: b :: c :: d :: rest => do
    let c ← hexChar [a, b, c, d]
    let (cs, rest) ← multiBasic .none rest
    return (c :: cs, rest)
  | _, '\\' :: 'U' :: a :: b :: c :: d :: e :: f :: g :: h :: rest => do
    let c ← hexChar [a, b, c, d, e, f, g, h]
    let (cs, rest) ← multiBasic .none rest
    return (c :: cs, rest)
  | _, '\\' :: c :: rest =>
    match escaped c with
    | some c => (multiBasic .none rest).map (fun (cs, rest) => (c :: cs, rest))
    | none =>
      if c = '\n' then multiBasic .folding rest
      else if c = ' ' || c = '\t' || c = '\r' then multiBasic .opened rest
      else none
  | _, '\r' :: '\n' :: rest => (multiBasic .none rest).map (fun (cs, rest) => ('\n' :: cs, rest))
  | _, c :: rest =>
    if isControl c && c ≠ '\n' then none
    else (multiBasic .none rest).map (fun (cs, rest) => (c :: cs, rest))
  | _, [] => none

/-- What follows three single quotes, up to the next three; up to two more belong to the text. -/
def multiLiteral : List Char → Option (List Char × List Char)
  | '\'' :: '\'' :: '\'' :: '\'' :: '\'' :: rest => some (['\'', '\''], rest)
  | '\'' :: '\'' :: '\'' :: '\'' :: rest => some (['\''], rest)
  | '\'' :: '\'' :: '\'' :: rest => some ([], rest)
  | '\r' :: '\n' :: rest => (multiLiteral rest).map (fun (cs, rest) => ('\n' :: cs, rest))
  | c :: rest =>
    if isControl c && c ≠ '\n' then none
    else (multiLiteral rest).map (fun (cs, rest) => (c :: cs, rest))
  | [] => none

/-- A text without the end of line that it may begin with. -/
def dropLine : List Char → List Char
  | '\n' :: rest => rest
  | '\r' :: '\n' :: rest => rest
  | cs => cs

/-- What stands between quotes of any kind. -/
def quoted : List Char → Option (List Char × List Char)
  | '"' :: '"' :: '"' :: rest => multiBasic .none (dropLine rest)
  | '\'' :: '\'' :: '\'' :: rest => multiLiteral (dropLine rest)
  | '"' :: rest => basic rest
  | '\'' :: rest => literal rest
  | _ => none

/-! ## Numbers -/

/-- Digits, with single underscores between them. -/
def digits (base : Nat) : List Char → Option (List Nat)
  | [] => none
  | [c] => (digit? base c).map ([·])
  | c :: '_' :: d :: rest => do return (← digit? base c) :: (← digits base (d :: rest))
  | c :: rest => do return (← digit? base c) :: (← digits base rest)

/-- A word without its sign, and whether the sign is negative. -/
def unsign : List Char → Bool × List Char
  | '-' :: rest => (true, rest)
  | '+' :: rest => (false, rest)
  | cs => (false, cs)

/-- A number, with the sign it was written with. -/
def withSign (negative : Bool) (n : Nat) : Int :=
  if negative then -(n : Int) else n

/-- Decimal digits of which the first is zero only if it is the only one. -/
def decimal (cs : List Char) : Option (List Nat) :=
  match digits 10 cs with
  | some (0 :: _ :: _) => none
  | result => result

/-- A number that fits sixty-four bits with a sign. -/
def fitted (n : Int) : Option Value :=
  if -0x8000000000000000 ≤ n && n ≤ 0x7FFFFFFFFFFFFFFF then some (.signed n) else none

def integer : List Char → Option Value
  | '0' :: 'x' :: cs => (digits 16 cs).bind (fun ds => fitted (numberOf 16 ds))
  | '0' :: 'o' :: cs => (digits 8 cs).bind (fun ds => fitted (numberOf 8 ds))
  | '0' :: 'b' :: cs => (digits 2 cs).bind (fun ds => fitted (numberOf 2 ds))
  | cs =>
    let (negative, cs) := unsign cs
    (decimal cs).bind (fun ds => fitted (withSign negative (numberOf 10 ds)))

def exponent : List Char → Option Int
  | [] => some 0
  | _ :: cs =>
    let (negative, cs) := unsign cs
    (digits 10 cs).map (fun ds => withSign negative (numberOf 10 ds))

/-- A number with a point or an exponent, or one of the special numbers. -/
def float (cs : List Char) : Option Value := do
  let (negative, cs) := unsign cs
  match String.ofList cs with
  | "inf" => return .float (if negative then -(1.0 / 0.0) else 1.0 / 0.0)
  | "nan" => return .float (0.0 / 0.0)
  | _ =>
    let isMark (c : Char) : Bool := c = 'e' || c = 'E'
    if !cs.any (fun c => isMark c || c = '.') then none
    let body := cs.takeWhile (!isMark ·)
    let power ← exponent (cs.dropWhile (!isMark ·))
    let whole ← decimal (body.takeWhile (· ≠ '.'))
    let places ← match body.dropWhile (· ≠ '.') with
      | [] => some []
      | _ :: places => digits 10 places
    let f := Decimal.ofDigits negative (numberOf 10 (whole ++ places)) (power - places.length)
    if f == 1.0 / 0.0 then none else return .float f

/-! ## Dates and times -/

/-- A number of exactly so many digits, in a range. -/
def fixed (count low high : Nat) (cs : List Char) : Option Nat := do
  let n := numberOf 10 (← cs.mapM (digit? 10))
  if cs.length = count && low ≤ n && n ≤ high then some n else none

def daysIn (year month : Nat) : Nat :=
  if month = 2 then
    if year % 4 = 0 && (year % 100 ≠ 0 || year % 400 = 0) then 29 else 28
  else if month = 4 || month = 6 || month = 9 || month = 11 then 30
  else 31

def isDate : List Char → Bool
  | [y1, y2, y3, y4, '-', m1, m2, '-', d1, d2] =>
    match fixed 4 0 9999 [y1, y2, y3, y4], fixed 2 1 12 [m1, m2] with
    | some year, some month => (fixed 2 1 (daysIn year month) [d1, d2]).isSome
    | _, _ => false
  | _ => false

def isClock : List Char → Bool
  | [h1, h2, ':', m1, m2] => (fixed 2 0 23 [h1, h2]).isSome && (fixed 2 0 59 [m1, m2]).isSome
  | _ => false

def isTime (cs : List Char) : Bool :=
  isClock (cs.take 5) && cs[5]? = some ':' && (fixed 2 0 60 ((cs.drop 6).take 2)).isSome
    && match cs.drop 8 with
      | [] => true
      | c :: fraction => c = '.' && !fraction.isEmpty && fraction.all (·.isDigit)

/-- Whether a word is a time of day that may say where it is measured. -/
def isPlacedTime (cs : List Char) : Bool :=
  let isSign (c : Char) : Bool := c = '+' || c = '-' || c = 'Z' || c = 'z'
  isTime (cs.takeWhile (!isSign ·))
    && match cs.dropWhile (!isSign ·) with
      | [] => true
      | c :: offset => if c = 'Z' || c = 'z' then offset.isEmpty else isClock offset

def isMoment (cs : List Char) : Bool :=
  isTime cs || isDate cs
    || (isDate (cs.take 10) && (cs[10]?.any (fun c => c = 'T' || c = 't' || c = ' '))
      && isPlacedTime (cs.drop 11))

/-! ## Words -/

def isWordChar (c : Char) : Bool :=
  c.isAlphanum || c = '_' || c = '-' || c = '+' || c = '.' || c = ':'

/-- The word at the start of a text. A date and a time are one word, also with a space between. -/
def word (cs : List Char) : List Char × List Char :=
  let first := cs.takeWhile isWordChar
  match cs.dropWhile isWordChar with
  | ' ' :: c :: rest =>
    if isDate first && c.isDigit then
      (first ++ ' ' :: (c :: rest).takeWhile isWordChar, (c :: rest).dropWhile isWordChar)
    else (first, ' ' :: c :: rest)
  | rest => (first, rest)

/-- The value of a word. A moment is a table, with a name that no other table has. -/
def ofWord (cs : List Char) : Option Value :=
  match String.ofList cs with
  | "true" => some (.truth true)
  | "false" => some (.truth false)
  | text =>
    if isMoment cs then some (.table [("$moment", .text text)])
    else (integer cs).or (float cs)

end CardTerminal.Scalar
