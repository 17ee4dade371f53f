import CardTerminal.Status.Table

/-!
Status files: a table of records as bytes, and files that outlive their name.

A file is a whole number of records; bytes behind the last whole record are kept but mean nothing.
Whoever opened a file keeps seeing it, also when a new file has been created under its name.
-/

namespace CardTerminal.Status

/-- The content of a status file. -/
structure File where
  table : Table
  /-- What follows the last whole record. -/
  rest : Bytes
  deriving DecidableEq, Repr

namespace File

/-- A file of unused records, of which there is at least one. -/
def blank (count : Nat) : File :=
  ⟨List.replicate (max count 1) .empty, []⟩

def decode (bytes : Bytes) : File :=
  let count := bytes.length / Record.size
  ⟨(List.range count).map (fun n => .decode (bytes.drop (n * Record.size))),
    bytes.drop (count * Record.size)⟩

def encode (f : File) : Bytes :=
  f.table.flatMap Record.encode ++ f.rest

/-- A file can be used when it holds a record. -/
def usable (f : File) : Except IoFailure File :=
  if f.table.isEmpty then .error .invalidData else .ok f

end File

/-- Where a status file may be: all files ever created there, and the one that has the name now. -/
structure Place where
  files : List File
  named : Option Nat
  deriving Repr

namespace Place

/-- A place without a file. -/
def vacant : Place :=
  ⟨[], none⟩

/-- Put a file under the name; an older one loses the name and stays. -/
def put (place : Place) (file : File) : Place :=
  ⟨place.files ++ [file], some place.files.length⟩

/-- The file that has the name now. -/
def current (place : Place) : Option File :=
  place.named.bind (fun n => place.files[n]?)

def open? (place : Place) : Except IoFailure Nat :=
  match place.named, place.current with
  | some n, some file => file.usable.map (fun _ => n)
  | _, _ => .error .notFound

/-- Create a file of unused records, and open it. -/
def create (place : Place) (count : Nat) : Nat × Place :=
  (place.files.length, place.put (.blank count))

def table (place : Place) (n : Nat) : Table :=
  match place.files[n]? with
  | some file => file.table
  | none => []

def setTable (place : Place) (n : Nat) (table : Table) : Place :=
  { place with files := place.files.modify n (fun file => { file with table := table }) }

/-- Claim a record of the file that has the name. If there is none, one with room for at least
`capacity` records is created. -/
def claim (p : Holder) (place : Place) (index capacity : Nat) (flush : Except IoFailure Unit) :
    Except IoFailure (Nat × Nat) × Place :=
  let opened : Except IoFailure (Nat × Place) :=
    match place.open? with
    | .ok n => .ok (n, place)
    | .error .notFound => .ok (place.create (max capacity (index + 1)))
    | .error failure => .error failure
  match opened with
  | .error failure => (.error failure, place)
  | .ok (n, place) =>
    let (claimed, table) := (place.table n).claim p (some index) flush
    (claimed.map fun index => (n, index), place.setTable n table)

end Place

end CardTerminal.Status
