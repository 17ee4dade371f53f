import CardTerminal.Settings.Scalar

/-!
Configuration files in TOML.

A file is a sequence of lines: keys with values, and headers that say which table the following
keys are for. What was said of each place is kept in a `Draft`, because nothing may be said twice: a
table is opened by one header, or grows by dotted keys.
-/

namespace CardTerminal.Toml

/-! ## Drafts -/

/-- How a place came to be. -/
inductive Origin where
  /-- A table with a header of its own. -/
  | header
  /-- A table on the way to one that has a header. -/
  | implied
  /-- A table on the way of a dotted key. -/
  | dotted
  /-- So many tables with the same header. -/
  | series (count : Nat)
  /-- A value. -/
  | value
  deriving DecidableEq, Repr

/-- What has been read so far. -/
structure Draft where
  value : Value
  known : List (List Value.Step × Origin)

namespace Draft

def blank : Draft :=
  ⟨.empty, []⟩

def origin? (d : Draft) (place : List Value.Step) : Option Origin :=
  (d.known.find? (fun entry => entry.1 = place)).map Prod.snd

def note (d : Draft) (place : List Value.Step) (origin : Origin) : Draft :=
  { d with known := (place, origin) :: d.known }

/-- Make sure that there is a table at a place. -/
def openTable (d : Draft) (place : List Value.Step) : Draft :=
  let table (old : Option Value) : Value := .table ((old.map Value.entries).getD [])
  { d with value := Value.alter table place (some d.value) }

def enterDotted (d : Draft) (place : List Value.Step) :
    List String → Option (List Value.Step × Draft)
  | [] => some (place, d)
  | key :: keys =>
    let next := place ++ [.key key]
    match d.origin? next, keys with
    | none, _ => (d.note next .dotted).enterDotted next keys
    | some .dotted, _ => d.enterDotted next keys
    | some .implied, _ :: _ => d.enterDotted next keys
    | _, _ => none

/-- Give the place that keys lead to a value, which it may not have had before. -/
def assign (d : Draft) (place : List Value.Step) (keys : List String) (v : Value) :
    Option Draft := do
  let last ← keys.getLast?
  let (place, d) ← d.enterDotted place keys.dropLast
  let place := place ++ [.key last]
  match d.origin? place with
  | none =>
    return { d.note place .value with value := Value.alter (fun _ => v) place (some d.value) }
  | some _ => none

/-- The table that the keys of a header lead to, before the last one. -/
def enterHeader (d : Draft) (place : List Value.Step) :
    List String → Option (List Value.Step × Draft)
  | [] => some (place, d)
  | key :: keys =>
    let next := place ++ [.key key]
    match d.origin? next with
    | none => (d.note next .implied).enterHeader next keys
    | some .value => none
    | some (.series count) => d.enterHeader (next ++ [.index (count - 1)]) keys
    | some _ => d.enterHeader next keys

def openHeader (d : Draft) (keys : List String) : Option (List Value.Step × Draft) := do
  let last ← keys.getLast?
  let (place, d) ← d.enterHeader [] keys.dropLast
  let place := place ++ [.key last]
  match d.origin? place with
  | none | some .implied => return (place, (d.note place .header).openTable place)
  | some _ => none

/-- Open one more table of a header of which there may be several. -/
def openSeries (d : Draft) (keys : List String) : Option (List Value.Step × Draft) := do
  let last ← keys.getLast?
  let (place, d) ← d.enterHeader [] keys.dropLast
  let place := place ++ [.key last]
  let count ← match d.origin? place with
    | none => some 0
    | some (.series count) => some count
    | some _ => none
  let element := place ++ [.index count]
  return (element, (d.note place (.series (count + 1))).openTable element)

end Draft

/-! ## Blanks and lines -/

def skipBlanks (cs : List Char) : List Char :=
  cs.dropWhile (fun c => c = ' ' || c = '\t')

/-- What follows a comment, if there is one, up to the end of its line. -/
def skipComment : List Char → Option (List Char)
  | '#' :: cs =>
    let isEnd (c : Char) : Bool := c = '\n' || c = '\r'
    if (cs.takeWhile (!isEnd ·)).any Scalar.isControl then none
    else some (cs.dropWhile (!isEnd ·))
  | cs => some cs

/-- What follows the end of a line on which nothing else stands. -/
def endLine (cs : List Char) : Option (List Char) := do
  match ← skipComment (skipBlanks cs) with
  | [] => return []
  | '\n' :: rest => return rest
  | '\r' :: '\n' :: rest => return rest
  | _ => none

/-- What follows blanks, comments and ends of lines; `budget` bounds the number of lines. -/
def skipLines : Nat → List Char → Option (List Char)
  | 0, cs => some cs
  | budget + 1, cs => do
    match ← skipComment (skipBlanks cs) with
    | '\n' :: rest => skipLines budget rest
    | '\r' :: '\n' :: rest => skipLines budget rest
    | rest => return rest

/-! ## Keys -/

def isBare (c : Char) : Bool :=
  c.isAlphanum || c = '_' || c = '-'

def key (cs : List Char) : Option (String × List Char) :=
  let found : Option (List Char × List Char) :=
    match cs with
    | '"' :: rest => Scalar.basic rest
    | '\'' :: rest => Scalar.literal rest
    | cs =>
      if (cs.takeWhile isBare).isEmpty then none
      else some (cs.takeWhile isBare, cs.dropWhile isBare)
  found.map (fun (cs, rest) => (String.ofList cs, rest))

/-- Keys with dots between them, and the blanks behind them; `budget` bounds their number. -/
def keys : Nat → List Char → Option (List String × List Char)
  | 0, _ => none
  | budget + 1, cs => do
    let (first, rest) ← key (skipBlanks cs)
    match skipBlanks rest with
    | '.' :: rest =>
      let (more, rest) ← keys budget rest
      return (first :: more, rest)
    | rest => return ([first], rest)

/-! ## Values -/

mutual

/-- A value. `budget` bounds the number of values in one another and side by side. -/
def value : Nat → List Char → Option (Value × List Char)
  | 0, _ => none
  | budget + 1, cs =>
    match cs with
    | '[' :: rest => elements budget [] rest
    | '{' :: rest =>
      match skipBlanks rest with
      | '}' :: rest => some (.empty, rest)
      | rest => fields budget .blank rest
    | '"' :: _ | '\'' :: _ =>
      (Scalar.quoted cs).map (fun (text, rest) => (.text (String.ofList text), rest))
    | cs => do
      let (word, rest) := Scalar.word cs
      return (← Scalar.ofWord word, rest)

/-- The rest of a list, up to its closing bracket. -/
def elements : Nat → List Value → List Char → Option (Value × List Char)
  | 0, _, _ => none
  | budget + 1, before, cs => do
    match ← skipLines cs.length cs with
    | ']' :: rest => return (.list before.reverse, rest)
    | cs =>
      let (v, rest) ← value budget cs
      match ← skipLines rest.length rest with
      | ',' :: rest => elements budget (v :: before) rest
      | ']' :: rest => return (.list (v :: before).reverse, rest)
      | _ => none

/-- The rest of a table on one line, up to its closing brace. -/
def fields : Nat → Draft → List Char → Option (Value × List Char)
  | 0, _, _ => none
  | budget + 1, draft, cs => do
    let (ks, rest) ← keys cs.length cs
    match rest with
    | '=' :: rest =>
      let (v, rest) ← value budget (skipBlanks rest)
      let draft ← draft.assign [] ks v
      match skipBlanks rest with
      | ',' :: rest => fields budget draft rest
      | '}' :: rest => return (draft.value, rest)
      | _ => none
    | _ => none

end

/-! ## Files -/

/-- What follows the closing bracket of a header. -/
def closeHeader (series : Bool) : List Char → Option (List Char)
  | ']' :: rest =>
    if series then
      match rest with
      | ']' :: rest => endLine rest
      | _ => none
    else endLine rest
  | _ => none

def header (draft : Draft) (series : Bool) (cs : List Char) :
    Option ((List Value.Step × Draft) × List Char) := do
  let (ks, rest) ← keys cs.length cs
  let rest ← closeHeader series rest
  return (← if series then draft.openSeries ks else draft.openHeader ks, rest)

/-- A key with its value, and what follows its line. -/
def assignment (draft : Draft) (place : List Value.Step) (cs : List Char) :
    Option (Draft × List Char) := do
  let (ks, rest) ← keys cs.length cs
  match rest with
  | '=' :: rest =>
    let (v, rest) ← value rest.length (skipBlanks rest)
    return (← draft.assign place ks v, ← endLine rest)
  | _ => none

/-- The lines of a file; `budget` bounds their number. -/
def lines : Nat → List Value.Step → Draft → List Char → Option Draft
  | 0, _, _, _ => none
  | budget + 1, place, draft, cs => do
    match skipBlanks cs with
    | [] => return draft
    | '[' :: '[' :: rest =>
      let ((place, draft), rest) ← header draft true rest
      lines budget place draft rest
    | '[' :: rest =>
      let ((place, draft), rest) ← header draft false rest
      lines budget place draft rest
    | c :: rest =>
      if c = '#' || c = '\n' || c = '\r' then lines budget place draft (← endLine (c :: rest))
      else
        let (draft, rest) ← assignment draft place (c :: rest)
        lines budget place draft rest

/-- The configuration in a file. A mark of the byte order at its start means nothing. -/
def parse (text : String) : Option Value :=
  let cs := match text.toList with
    | '\uFEFF' :: rest => rest
    | cs => cs
  (lines (cs.length + 1) [] .blank cs).map Draft.value

end CardTerminal.Toml
