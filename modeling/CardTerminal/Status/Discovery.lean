import CardTerminal.Status.File

/-!
What a client sees of the status file: the readers that are served at the moment.
-/

namespace CardTerminal.Status

/-- A reader that is being served. -/
structure Entry where
  /-- The reader's place in the file, which is also the name of its socket. -/
  index : Nat
  name : String
  flags : ReaderFlags
  /-- The status of each slot. -/
  slots : List CardStatus
  deriving DecidableEq, Repr

def Record.entry (index : Nat) (r : Record) : Entry where
  index := index
  name := r.nameText
  flags := ReaderFlags.known ⟨r.flags⟩
  slots := (List.range r.slotCount.toNat).map r.cardStatus

/-- The readers of a table that are being served. -/
def Table.entries (p : Holder) (t : Table) : List Entry :=
  (t.readers p).map (fun (index, r) => r.entry index)

def Place.entries (p : Holder) (place : Place) : Except Error (List Entry) :=
  match place.open? with
  | .ok n => .ok ((place.table n).entries p)
  | .error failure => .error failure.toError

end CardTerminal.Status
