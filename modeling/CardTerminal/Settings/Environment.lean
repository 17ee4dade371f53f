import CardTerminal.Settings.Scalar
import CardTerminal.Text.Blank

/-!
Configuration in environment variables.

A variable says by its name where its value goes, with two underscores between the keys. A value is
written as in a short notation for tables, lists and scalars; what does not follow the notation is a
text as it is.
-/

namespace CardTerminal.Environment

/-- What the name of a variable begins with, in letters of any case. -/
def namePrefix : String := "OPENCT_"

/-! ## Values -/

def isSpace (c : Char) : Bool :=
  c = ' ' || c = '\t' || c = '\n' || c = '\r' || c = '\x0c'

def skipSpaces (cs : List Char) : List Char :=
  cs.dropWhile isSpace

def isSeparator (c : Char) : Bool :=
  c = ',' || c = '\x7b' || c = '\x7d' || c = '[' || c = ']'

/-- A text behind another one, if it begins with it. -/
def after (start : String) (cs : List Char) : Option (List Char) :=
  if start.toList.isPrefixOf cs then some (cs.drop start.length) else none

def plainDigits (cs : List Char) : Option Nat :=
  if cs.isEmpty then none
  else (cs.mapM (Scalar.digit? 10)).map (Scalar.numberOf 10)

/-- A number with a point in it, and maybe an exponent. -/
def pointed (cs : List Char) : Option Float := do
  let (negative, cs) := Scalar.unsign cs
  let isMark (c : Char) : Bool := c = 'e' || c = 'E'
  let body := cs.takeWhile (!isMark ·)
  let power ← match cs.dropWhile (!isMark ·) with
    | [] => some 0
    | _ :: power =>
      let (negative, power) := Scalar.unsign power
      (plainDigits power).map (Scalar.withSign negative)
  let whole := body.takeWhile (· ≠ '.')
  let places ← (body.dropWhile (· ≠ '.')).tail?
  return Decimal.ofDigits negative (← plainDigits (whole ++ places)) (power - places.length)

def scalar (cs : List Char) : Value :=
  let text : Value := .text (String.ofList cs)
  let whole : Value :=
    match Scalar.unsign cs, cs.head? with
    | (true, digits), _ =>
      match plainDigits digits with
      | some n => if n ≤ 0x8000000000000000 then .signed (-(n : Int)) else text
      | none => text
    | (false, digits), _ =>
      match plainDigits digits with
      | some n => if n ≤ 0xFFFFFFFFFFFFFFFF then .unsigned n else text
      | none => text
  if cs.contains '.' then
    match pointed cs with
    | some f => .float f
    | none => whole
  else whole

/-- What follows a double quote, up to the next one that is not behind a backslash. -/
def quoted : List Char → Option (List Char × List Char)
  | '"' :: rest => some ([], rest)
  | '\\' :: c :: rest => (quoted rest).map (fun (cs, rest) => ('\\' :: c :: cs, rest))
  | c :: rest => (quoted rest).map (fun (cs, rest) => (c :: cs, rest))
  | [] => none

/-- A text with what its backslashes stand for. -/
def unescape : List Char → Option (List Char)
  | '\\' :: 'u' :: a :: b :: c :: d :: rest => do
    return (← Scalar.hexChar [a, b, c, d]) :: (← unescape rest)
  | '\\' :: 'U' :: a :: b :: c :: d :: e :: f :: g :: h :: rest => do
    return (← Scalar.hexChar [a, b, c, d, e, f, g, h]) :: (← unescape rest)
  | '\\' :: c :: rest => do return (← Scalar.escaped c) :: (← unescape rest)
  | ['\\'] => none
  | c :: rest => (unescape rest).map (c :: ·)
  | [] => some []

/-- A text in double quotes, from behind the first of them. -/
def quotedText (cs : List Char) : Option (String × List Char) := do
  let (cs, rest) ← quoted cs
  return (String.ofList (← unescape cs), rest)

/-- A character of a key without quotes. -/
def isBare (c : Char) : Bool :=
  c.isAlphanum || c = '_' || c = '-'

def key (cs : List Char) : Option (String × List Char) :=
  match cs with
  | '"' :: rest => quotedText rest
  | cs =>
    if (cs.takeWhile isBare).isEmpty then none
    else some (String.ofList (cs.takeWhile isBare), cs.dropWhile isBare)

/-- A value that begins a text without blanks before it and is no table or list. -/
def simple (cs : List Char) : Option (Value × List Char) :=
  match cs with
  | [] => some (.text "", [])
  | '"' :: rest => (quotedText rest).map (fun (text, rest) => (.text text, rest))
  | '\'' :: c :: '\'' :: rest => some (.text (String.singleton c), rest)
  | '\'' :: _ => none
  | cs =>
    match after "true" cs, after "false" cs with
    | some rest, _ => some (.truth true, rest)
    | none, some rest => some (.truth false, rest)
    | none, none =>
      some (scalar (trimBlanks (cs.takeWhile (!isSeparator ·))), cs.dropWhile (!isSeparator ·))

mutual

/-- A value, with the blanks around it. `budget` bounds the number of values in one another and
side by side. -/
def value : Nat → List Char → Option (Value × List Char)
  | 0, _ => none
  | budget + 1, cs => do
    let (v, rest) ← match skipSpaces cs with
      | '[' :: rest => elements budget [] rest
      | '\x7b' :: rest => fields budget [] rest
      | cs => simple cs
    return (v, skipSpaces rest)

/-- The rest of a list, up to its closing bracket. -/
def elements : Nat → List Value → List Char → Option (Value × List Char)
  | 0, _, _ => none
  | _, before, ']' :: rest => some (.list before.reverse, rest)
  | budget + 1, before, cs => do
    let (v, rest) ← value budget cs
    match rest with
    | ',' :: rest => elements budget (v :: before) rest
    | ']' :: rest => return (.list (v :: before).reverse, rest)
    | _ => none

/-- The rest of a table, up to its closing brace. -/
def fields : Nat → Entries → List Char → Option (Value × List Char)
  | 0, _, _ => none
  | _, before, '\x7d' :: rest => some (.table before, rest)
  | budget + 1, before, cs => do
    let (name, rest) ← key (skipSpaces cs)
    match skipSpaces rest with
    | '=' :: rest =>
      let (v, rest) ← value budget rest
      let entries := before.alter name (fun _ => v)
      match rest with
      | ',' :: rest => fields budget entries rest
      | '\x7d' :: rest => return (.table entries, rest)
      | _ => none
    | _ => none

end

def parse (text : String) : Value :=
  match value (text.length + 1) text.toList with
  | some (v, []) => v
  | _ => .text text

/-! ## Names -/

/-- Characters cut at every two underscores, and at every dot. -/
def cut : List Char → List (List Char)
  | [] => [[]]
  | '_' :: '_' :: rest => [] :: cut rest
  | '.' :: rest => [] :: cut rest
  | c :: rest =>
    match cut rest with
    | piece :: pieces => (c :: piece) :: pieces
    | [] => [[c]]

/-- The keys that a variable's name leads to, if it is one of a configuration. -/
def keysOf (name : String) : Option (List String) :=
  let cs := (trimBlanks name.toList).map Char.toLower
  let start := namePrefix.toList.map Char.toLower
  let keys := cut (cs.drop start.length)
  if start.isPrefixOf cs && keys.all (!·.isEmpty) then some (keys.map String.ofList) else none

/-- The configuration in variables, the later ones laid over the earlier ones. -/
def configuration (environment : List (String × String)) : Value :=
  environment.foldl (fun v (name, text) =>
    match keysOf name with
    | some keys =>
      v.merge (Value.alter (fun _ => parse text) (keys.map Value.Step.key) none)
    | none => v) .empty

end CardTerminal.Environment
