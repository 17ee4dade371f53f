import CardTerminal.Server
import CardTerminal.Status.File

/-!
The master service, which tells clients what readers there are.
-/

namespace CardTerminal.Master

/-- The numbers of the readers that are being served, as far as they fit a byte. -/
def units (p : Status.Holder) (table : Status.Table) : Bytes :=
  ((table.readers p).filter (fun entry => entry.1 < 256)).map (fun entry => UInt8.ofNat entry.1)

def process (p : Status.Holder) (place : Status.Place) (payload : Bytes) : Except Error Bytes := do
  let request ← Request.decode payload
  if request.command ≠ .status then throw .invalidCmd
  if request.unit ≠ unitReader then throw .invalidSlot
  match place.open? with
  | .error failure => throw failure.toError
  | .ok n => Tlv.write [⟨Tag.readerUnits, units p (place.table n)⟩]

/-- The master service behind a server. It does nothing but answer. -/
def host (p : Status.Holder) : Server.Host Status.Place where
  process _ payload place := some (process p place payload, place)

end CardTerminal.Master
