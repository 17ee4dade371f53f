import CardTerminal.Proofs.Service.Refusals

/-!
What an exclusive lock is worth.

While a client has a slot for itself, nobody else gets a lock on the slot, and every request of
another client that would use the card in it is refused before the driver hears of it. The lock ends
only when its owner unlocks it or is gone (`Happening.Frees`).

Main statement: `exclusive_lock_guards`.
-/

namespace CardTerminal.Service

open CardTerminal.Action

variable {σ : Type}

/-- What makes the owner of a lock give it up: it asks for that, or it is gone. -/
def Happening.Frees (held : Lock) : Happening → Prop
  | .request peer payload => peer.id = held.owner ∧
      ∃ request, Request.decode payload = .ok request ∧ request.Unlocks held.slot held.handle
  | .closed peer => peer.id = held.owner
  | _ => False

theorem frees_of_lockCall {w : World σ} {h : Happening} {held : Lock} {c : Locks.Call}
    (call : w.lockCall h = some c) (frees : c.Frees held) : h.Frees held := by
  cases h with
  | request peer payload =>
    simp only [World.lockCall, World.orderOf] at call
    cases decoded : Request.decode payload with
    | error e => simp [decoded] at call
    | ok request =>
      simp only [decoded] at call
      split at call
      · next order ordered =>
        cases order <;> cases call
        case lock => cases frees
        case unlock slot handle =>
          obtain ⟨owner, rfl, rfl⟩ := frees
          exact ⟨owner.symm, request, decoded, Order.unlocks_of_decode ordered⟩
      · cases call
  | closed peer =>
    cases call
    exact frees.symm
  | _ => cases call

theorem mem_respond (driver : Driver σ) {w : World σ} {held : Lock} (mem : held ∈ w.locks.held)
    {h : Happening} (keeps : ¬ h.Frees held) : held ∈ (respond driver w h).locks.held := by
  rw [locks_respond]
  cases call : w.lockCall h with
  | none => exact mem
  | some c => exact Locks.mem_call mem (fun frees => keeps (frees_of_lockCall call frees))

theorem mem_respondAll (driver : Driver σ) {w : World σ} {held : Lock}
    (mem : held ∈ w.locks.held) {happenings : List Happening}
    (keeps : ∀ h ∈ happenings, ¬ h.Frees held) :
    held ∈ (respondAll driver w happenings).locks.held := by
  induction happenings generalizing w with
  | nil => exact mem
  | cons h rest ih =>
    apply ih (mem_respond driver mem (keeps h List.mem_cons_self))
    exact fun h' mem' => keeps h' (List.mem_cons_of_mem h mem')

/-- A request that would use a card which another client has for itself is refused, whatever the
driver is, and changes nothing but what is published. -/
theorem process_of_excluded {w : World σ} {held : Lock} (mem : held ∈ w.locks.held)
    (exclusive : held.kind = .exclusive) {peer : Peer} (other : peer.id ≠ held.owner)
    {payload : Bytes} {request : Request} (decoded : Request.decode payload = .ok request)
    (usesCard : request.command.usesCard = true) (unit : request.unit.toNat = held.slot) :
    ∃ e, ∀ driver : Driver σ, process driver peer payload w = .error e (publish w) := by
  have denied : w.locks.checkAccess peer.id request.unit.toNat = .error .locked := by
    rw [unit]
    exact Locks.checkAccess_of_exclusive mem exclusive other
  obtain ⟨e, refused⟩ : Refused (w.orderOf peer payload) :=
    refused_orderOf.mpr (.inr ⟨request, decoded, usesCard, .locked, denied⟩)
  exact ⟨e, fun driver => process_of_refused driver decoded refused⟩

/-- **An exclusive lock guards its slot.** In whatever state of a service it is held, and whatever
happens that does not make its owner give it up: it is held on, only its owner has locks on its
slot, and every request of another client that would use the card there fails. The failure is the
same for all drivers and leaves the device, the reader with its slots and the locks as they were, so
no hook of the driver is called. -/
theorem exclusive_lock_guards {driver : Driver σ} {w : World σ} (reachable : Reachable driver w)
    {held : Lock} (mem : held ∈ w.locks.held) (exclusive : held.kind = .exclusive)
    (happenings : List Happening) (keeps : ∀ h ∈ happenings, ¬ h.Frees held) :
    let later := respondAll driver w happenings
    held ∈ later.locks.held ∧
    (∀ other ∈ later.locks.held, other.slot = held.slot → other.owner = held.owner) ∧
    ∀ (peer : Peer) (payload : Bytes) (request : Request), peer.id ≠ held.owner →
      Request.decode payload = .ok request → request.command.usesCard = true →
      request.unit.toNat = held.slot →
      ∃ e after, (∀ any : Driver σ, process any peer payload later = .error e after) ∧
        after.device = later.device ∧ after.service.reader = later.service.reader ∧
        after.locks = later.locks := by
  intro later
  have mem' : held ∈ later.locks.held := mem_respondAll driver mem keeps
  obtain ⟨given, sound⟩ := (reachable.respondAll happenings).sound
  refine ⟨mem', fun other => sound.owner_eq mem' exclusive, ?_⟩
  intro peer payload request other decoded usesCard unit
  obtain ⟨e, refused⟩ := process_of_excluded mem' exclusive other decoded usesCard unit
  exact ⟨e, publish later, refused, publish_device later, publish_reader later, publish_locks later⟩

/-- The least reader in service, after client 1 has taken slot 0 for itself. -/
def takenWorld : World Unit :=
  respond Minimal.driver
    (Service.start ⟨"Minimal reader", .displayAndKeypad, [.unknown 0x00, .unknown 0x32], none⟩
      none [] (fun _ => .ok ()) ())
    (.request ⟨1, 1000⟩ [0x01, 0x00, 0x82, 0x01, 0x01])

/-- The lock of client 1 stays while client 2 tries to unlock it and hangs up, and a command of
client 3 for the card fails. -/
theorem exclusive_lock_guards_taken :
    let held : Lock := ⟨0, 1000, 1, .exclusive, 1⟩
    let rivals : List Happening :=
      [.request ⟨2, 1000⟩ [0x02, 0x00, 0x04, 0x01, 0x01], .tick, .closed ⟨2, 1000⟩]
    let later := respondAll Minimal.driver takenWorld rivals
    held ∈ takenWorld.locks.held ∧ (∀ h ∈ rivals, ¬ h.Frees held) ∧ held ∈ later.locks.held ∧
      ∃ e after, (∀ any : Driver Unit,
        process any ⟨3, 1000⟩ [0x20, 0x00, 0x00, 0xA4, 0x00, 0x00] later = .error e after) ∧
        after.device = later.device ∧ after.service.reader = later.service.reader := by
  intro held rivals later
  have reachable : Reachable Minimal.driver takenWorld :=
    .step (.start (show Reader.attach Minimal.driver () = .ok _ () from rfl) none [] _) _
  have mem : held ∈ takenWorld.locks.held := by decide +kernel
  have keeps : ∀ h ∈ rivals, ¬ h.Frees held := by
    simp [rivals, held, Happening.Frees]
  obtain ⟨stays, -, guarded⟩ := exclusive_lock_guards reachable mem rfl rivals keeps
  obtain ⟨e, after, refused, device, reader, -⟩ := guarded ⟨3, 1000⟩
    [0x20, 0x00, 0x00, 0xA4, 0x00, 0x00] ⟨.transact, 0, [0x00, 0xA4, 0x00, 0x00]⟩ (by decide)
    rfl rfl rfl
  exact ⟨mem, keeps, stays, e, after, refused, device, reader⟩

end CardTerminal.Service
