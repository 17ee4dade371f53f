import CardTerminal.Driver.Virtual

/-!
The drivers that a reader can be run with, by name.

Main statement: a name finds the driver that was registered under it last (`find?_register_self`).
-/

namespace CardTerminal

/-- Make a device from its address. -/
abbrev Factory : Type 1 :=
  String → Except Error Device

/-- Drivers in the order of their names. -/
abbrev Registry : Type 1 :=
  List (String × Factory)

namespace Registry

def empty : Registry := []

/-- Register a driver under a name, in place of one that has the name already. -/
def register (name : String) (factory : Factory) : Registry → Registry
  | [] => [(name, factory)]
  | (other, f) :: rest =>
    if name < other then (name, factory) :: (other, f) :: rest
    else if name = other then (name, factory) :: rest
    else (other, f) :: register name factory rest

/-- The registry of the drivers that come with the library. -/
def builtin : Registry :=
  register "virtual" Virtual.device empty

def names (r : Registry) : List String :=
  r.map Prod.fst

def find? (r : Registry) (name : String) : Option Factory :=
  (List.find? (fun entry => entry.1 = name) r).map Prod.snd

/-- Make the device with a driver and an address. -/
def make (r : Registry) (name address : String) : Except Error Device :=
  match r.find? name with
  | some factory => factory address
  | none => .error .notSupported

theorem find?_register_self (r : Registry) (name : String) (factory : Factory) :
    (register name factory r).find? name = some factory := by
  induction r with
  | nil => simp [register, find?]
  | cons entry rest ih =>
    obtain ⟨other, f⟩ := entry
    by_cases below : name < other
    · simp [register, find?, below]
    · by_cases same : name = other
      · simp [register, find?, same]
      · have differ : other ≠ name := fun h => same h.symm
        simpa [register, find?, below, same, differ] using ih

end Registry

end CardTerminal
