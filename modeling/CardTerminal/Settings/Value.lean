/-!
Values of a configuration, before it is known what they are for.

A table has its entries in the order of their keys. `Value.merge` lays one configuration over
another.
-/

namespace CardTerminal

/-- A value of a configuration. -/
inductive Value where
  | truth (b : Bool)
  | unsigned (n : Nat)
  | signed (n : Int)
  | float (f : Float)
  | text (s : String)
  | list (values : List Value)
  | table (entries : List (String × Value))

abbrev Entries : Type :=
  List (String × Value)

/-- Entries with the one of a key made from what it was; a missing entry is added in its place. -/
def Entries.alter (key : String) (f : Option Value → Value) : Entries → Entries
  | [] => [(key, f none)]
  | (other, v) :: rest =>
    if key < other then (key, f none) :: (other, v) :: rest
    else if key = other then (key, f (some v)) :: rest
    else (other, v) :: Entries.alter key f rest

namespace Value

def empty : Value :=
  .table []

def entries : Value → Entries
  | .table entries => entries
  | _ => []

/-! ## Laying one over another -/

mutual

/-- A configuration with another one laid over it: tables are joined, anything else is replaced. -/
def merge (old : Value) : Value → Value
  | .table entries => .table (mergeEntries old.entries entries)
  | new => new

def mergeEntries (old : Entries) : Entries → Entries
  | [] => old
  | (key, new) :: rest =>
    mergeEntries (old.alter key (fun v => (v.getD empty).merge new)) rest

end

/-! ## Places -/

/-- A step into a value. -/
inductive Step where
  | key (name : String)
  | index (n : Nat)
  deriving DecidableEq, Repr

def Step.text : Step → String
  | .key name => name
  | .index n => toString n

/-- Values with the one at a place made from what it was; the place after the last one is a new
value. -/
def alterAt (f : Option Value → Value) : Nat → List Value → List Value
  | _, [] => [f none]
  | 0, v :: rest => f (some v) :: rest
  | n + 1, v :: rest => v :: alterAt f n rest

def elements : Value → List Value
  | .list values => values
  | _ => []

/-- A value with what is at a place made from what was there. Tables and lists on the way are made
if they are missing. -/
def alter (f : Option Value → Value) : List Step → Option Value → Value
  | [], old => f old
  | .key name :: rest, old =>
    .table (((old.map entries).getD []).alter name (alter f rest))
  | .index n :: rest, old =>
    .list (alterAt (alter f rest) n ((old.map elements).getD []))

end Value

end CardTerminal
