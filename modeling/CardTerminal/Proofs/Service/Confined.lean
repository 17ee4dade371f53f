import CardTerminal.Driver.Minimal
import CardTerminal.Proofs.Client.Requests
import CardTerminal.Proofs.Service.Refusals

/-!
How far a request reaches.

A request names a unit, and what the service does for it stays with that slot and with the client
that asks. The reader carries out one operation at most, which touches no other slot
(`slots_process`), and the lock table changes by one call at most, which leaves everything but the
client's own locks on the slot as it was (`others_process`). Of the two calls that clients can make,
either the answer is a success and exactly one lock came or went, or nothing did: the answer that
carries the handle of a new lock is always short enough to be written (`process_lock`,
`process_unlock`).

Main statement: `request_confined`.
-/

namespace CardTerminal

open CardTerminal.Action

variable {σ : Type}

/-! ## Orders are about the unit of their request -/

namespace Order

def slot? : Order → Option Nat
  | .describe | .output _ => none
  | .cardStatus slot | .lock slot _ | .unlock slot _ | .reset slot | .request slot _ _
  | .eject slot _ _ | .performVerify slot _ _ _ | .transact slot _ | .setProtocol slot _
  | .readMemory slot _ _ | .writeMemory slot _ _ => some slot

theorem slot_of_ofItems {command : Command} {unit : Option Nat} {access : Nat → Except Error Unit}
    {items : List Tlv.Item} {order : Order} (h : ofItems command unit access items = .ok order)
    {slot : Nat} (about : order.slot? = some slot) : slotOf unit = .ok slot := by
  cases command with
  | status =>
    cases unit <;> cases h
    · cases about
    · exact congrArg Except.ok (Option.some.inj about)
  | output =>
    obtain ⟨message, -, h⟩ := except_bind_eq_ok.mp h
    cases h
    cases about
  | _ =>
    -- Every other command begins with its slot, and makes an order about it in the end.
    obtain ⟨n, same, h⟩ := except_bind_eq_ok.mp h
    simp only [except_bind_eq_ok, pure, Except.pure, throw, throwThe, MonadExceptOf.throw] at h
    rw [same]
    grind [slot?, except_bind_eq_ok]

/-- What is known of an order that was read: it is given by the command, about the unit. -/
theorem of_decode {slots : Nat} {access : Nat → Except Error Unit} {request : Request}
    {order : Order} (h : decode slots access request = .ok order) :
    order.command = request.command ∧
      ∀ slot, order.slot? = some slot → request.unit.toNat = slot := by
  simp only [decode, except_bind_eq_ok] at h
  obtain ⟨unit, known, h⟩ := h
  split at h
  · next raw =>
    simp only [except_bind_eq_ok, pure, Except.pure] at h
    obtain ⟨slot, named, _, -, h⟩ := h
    cases h
    refine ⟨raw.symm, fun slot' about => ?_⟩
    cases about
    exact slot_of_unit known named
  · obtain ⟨items, -, h⟩ := except_bind_eq_ok.mp h
    exact ⟨command_of_ofItems h, fun slot about => slot_of_unit known (slot_of_ofItems h about)⟩

theorem slot_of_touches {order : Order} {op : Reader.Operation}
    (operation : order.operation = some op) {n : Nat} (touches : op.Touches n) :
    order.slot? = some n := by
  cases order <;> cases operation <;> rcases touches with touches | touches | touches | touches <;>
    cases touches <;> rfl

end Order

/-! ## Locks of others -/

namespace Locks

/-- The locks but for those that a client has on a slot. -/
def others (l : Locks) (owner : ClientId) (slot : Nat) : List Lock :=
  l.held.filter fun held => ¬ (held.owner = owner ∧ held.slot = slot)

/-- A call that a client makes about a slot changes none of the others. -/
theorem others_call {l : Locks} {owner : ClientId} {slot : Nat} {c : Call}
    (about : (∃ uid kind, c = .lock owner uid slot kind) ∨
      ∃ handle, c = .unlock owner slot handle) :
    (l.call c).2.others owner slot = l.others owner slot := by
  rcases about with ⟨uid, kind, rfl⟩ | ⟨handle, rfl⟩
  · simp only [call]
    cases granted : l.lock owner uid slot kind with
    | error e => rfl
    | ok result =>
      obtain ⟨handle, l'⟩ := result
      obtain ⟨-, -, rfl⟩ := lock_eq_ok granted
      simp [others]
  · simp only [call]
    rcases unlock_cases l owner slot handle with
      ⟨failed, -⟩ | ⟨before, found, behind, held, ⟨mine, here, -⟩, freed⟩
    · rw [failed]
    · rw [freed]
      simp [others, held, mine, here]

end Locks

namespace Service

/-! ## What a request leaves alone -/

theorem decode_of_orderOf {w : World σ} {peer : Peer} {code unit : UInt8} {args : Bytes}
    {order : Order} (ordered : w.orderOf peer (code :: unit :: args) = .ok order) :
    ∃ command : Command, command.code = code ∧
      Order.decode w.service.reader.slots.length (w.service.locks.checkAccess peer.id)
        ⟨command, unit, args⟩ = .ok order := by
  unfold World.orderOf at ordered
  cases decoded : Request.decode (code :: unit :: args) with
  | error e =>
    rw [decoded] at ordered
    cases ordered
  | ok request =>
    rw [decoded] at ordered
    have same := Request.encode_of_decode decoded
    simp only [Request.encode, List.cons.injEq] at same
    obtain ⟨sameCode, rfl, rfl⟩ := same
    exact ⟨request.command, sameCode, ordered⟩

/-- A request can only make an order about its unit. -/
theorem slot_of_orderOf {w : World σ} {peer : Peer} {code unit : UInt8} {args : Bytes}
    {order : Order} (ordered : w.orderOf peer (code :: unit :: args) = .ok order) {slot : Nat}
    (about : order.slot? = some slot) : unit.toNat = slot := by
  obtain ⟨command, -, decoded⟩ := decode_of_orderOf ordered
  exact (Order.of_decode decoded).2 slot about

theorem command_of_orderOf {w : World σ} {peer : Peer} {command : Command} {unit : UInt8}
    {args : Bytes} {order : Order}
    (ordered : w.orderOf peer (command.code :: unit :: args) = .ok order) :
    order.command = command := by
  obtain ⟨command', same, decoded⟩ := decode_of_orderOf ordered
  have known := Command.ofCode_code command'
  rw [same, Command.ofCode_code] at known
  cases known
  exact (Order.of_decode decoded).1

/-- **No slot but the one named is touched.** -/
theorem slots_process (driver : Driver σ) (peer : Peer) (code unit : UInt8) (args : Bytes)
    (w : World σ) {n : Nat} (elsewhere : n ≠ unit.toNat) :
    (after (process driver peer (code :: unit :: args)) w).service.reader.slots[n]? =
      w.service.reader.slots[n]? := by
  have reader := congrArg Prod.fst (reader_process driver peer (code :: unit :: args) w)
  rw [show (after (process driver peer _) w).service.reader = _ from reader]
  simp only [World.operation]
  cases ordered : w.orderOf peer (code :: unit :: args) with
  | error e => rfl
  | ok order =>
    dsimp only
    cases operation : order.operation with
    | none => rfl
    | some op =>
      have untouched : ¬ op.Touches n := fun touches =>
        elsewhere (slot_of_orderOf ordered (Order.slot_of_touches operation touches)).symm
      exact Reader.perform_elsewhere driver untouched w.reader

/-- **No locks but the client's own on that slot change.** -/
theorem others_process (driver : Driver σ) (peer : Peer) (code unit : UInt8) (args : Bytes)
    (w : World σ) :
    (after (process driver peer (code :: unit :: args)) w).locks.others peer.id unit.toNat =
      w.locks.others peer.id unit.toNat := by
  rw [locks_process]
  simp only [World.lockCall]
  cases ordered : w.orderOf peer (code :: unit :: args) with
  | error e => rfl
  | ok order =>
    cases order with
    | lock slot kind =>
      rw [slot_of_orderOf ordered rfl]
      exact Locks.others_call (.inl ⟨peer.uid, kind, rfl⟩)
    | unlock slot handle =>
      rw [slot_of_orderOf ordered rfl]
      exact Locks.others_call (.inr ⟨handle, rfl⟩)
    | _ => rfl

/-! ## Locks that come and go -/

theorem encode_number (tag : UInt8) (n : UInt32) :
    ∃ body, (Reply.items [.ofNumber tag n]).encode = .ok body ∧
      Tlv.parse .short body = .ok [.ofNumber tag n] := by
  have fits : ∀ item ∈ [Tlv.Item.ofNumber tag n], item.Fits .short := by
    intro item mem
    cases List.mem_singleton.mp mem
    exact Nat.le_trans (Bytes.length_minimalBe n) (by decide)
  have written : Tlv.write [.ofNumber tag n] = .ok _ := Tlv.write_eq_ok.mpr ⟨fits, rfl⟩
  exact ⟨_, written, Tlv.parse_of_write written⟩

/-- What comes of a request for a lock: a lock that is new, and an answer that tells its handle; or
else an error and no change, because the request is refused, another lock is in the way or no handle
is left. -/
inductive LockOutcome (peer : Peer) (unit : UInt8) (args : Bytes) (w : World σ) :
    EStateM.Result Error (World σ) (Option Bytes) → Prop where
  | granted {body : Bytes} {w' : World σ} {lock : Lock} {items : List Tlv.Item}
      (added : w'.locks.held = w.locks.held ++ [lock]) (owner : lock.owner = peer.id)
      (uid : lock.uid = peer.uid) (here : lock.slot = unit.toNat)
      (fresh : ∀ held ∈ w.locks.held, held.handle ≠ lock.handle)
      (parsed : Tlv.parse .short body = .ok items)
      (told : Tlv.requiredNumber items Tag.lock = .ok lock.handle) :
      LockOutcome peer unit args w (.ok (some body) w')
  | refused {e : Error} {w' : World σ} (same : w'.locks = w.locks)
      (cause : ∀ slot kind,
        w.orderOf peer (Command.lock.code :: unit :: args) = .ok (.lock slot kind) →
        w.locks.Conflict peer.id peer.uid slot kind ∨ w.locks.next = none) :
      LockOutcome peer unit args w (.error e w')

/-- What comes of a request to unlock: the lock that is meant is gone, and no other; or else an
error and no change, because the request is refused or there is no such lock. -/
inductive UnlockOutcome (peer : Peer) (unit : UInt8) (args : Bytes) (w : World σ) :
    EStateM.Result Error (World σ) (Option Bytes) → Prop where
  | freed {body : Bytes} {w' : World σ} {before behind : List Lock} {lock : Lock}
      {items : List Tlv.Item} (held : w.locks.held = before ++ lock :: behind)
      (removed : w'.locks.held = before ++ behind) (owner : lock.owner = peer.id)
      (here : lock.slot = unit.toNat) (parsed : Tlv.parse .short args = .ok items)
      (named : Tlv.requiredNumber items Tag.lock = .ok lock.handle)
      (others : ∀ other ∈ before ++ behind, ¬ other.Named peer.id unit.toNat lock.handle) :
      UnlockOutcome peer unit args w (.ok body w')
  | refused {e : Error} {w' : World σ} (same : w'.locks = w.locks)
      (cause : ∀ slot handle,
        w.orderOf peer (Command.unlock.code :: unit :: args) = .ok (.unlock slot handle) →
        ∀ held ∈ w.locks.held, ¬ held.Named peer.id slot handle) :
      UnlockOutcome peer unit args w (.error e w')

theorem process_of_refusal (driver : Driver σ) {peer : Peer} {payload : Bytes} {w : World σ}
    {e : Error} (refused : w.orderOf peer payload = .error e) :
    ∃ e' w', process driver peer payload w = .error e' w' ∧ w'.locks = w.locks := by
  have refused : Refused (w.orderOf peer payload) := ⟨e, refused⟩
  obtain ⟨e', w', failed, -, same⟩ := process_of_refused_order refused
  exact ⟨e', w', failed driver, same⟩

theorem process_lock (driver : Driver σ) (peer : Peer) (unit : UInt8) (args : Bytes) {w : World σ}
    {given : List UInt32} (sound : Locks.Sound given w.locks) :
    LockOutcome peer unit args w
      (process driver peer (Command.lock.code :: unit :: args) w) := by
  cases ordered : w.orderOf peer (Command.lock.code :: unit :: args) with
  | error e =>
    obtain ⟨e', w', failed, same⟩ := process_of_refusal driver ordered
    rw [failed]
    exact .refused same fun _ _ read => nomatch ordered.symm.trans read
  | ok order =>
    have command := command_of_orderOf ordered
    cases order <;> cases command
    next slot kind =>
    have performed := perform_lock driver peer slot kind w
    cases granted : w.service.locks.lock peer.id peer.uid slot kind with
    | error e =>
      rw [granted] at performed
      rw [process_of_failed ordered performed]
      refine .refused (publish_locks w) fun slot' kind' read => ?_
      cases ordered.symm.trans read
      by_cases conflict : w.locks.Conflict peer.id peer.uid slot kind
      · exact .inl conflict
      · cases next : w.locks.next with
        | none => exact .inr rfl
        | some handle => cases granted.symm.trans (Locks.lock_of_next conflict next)
    | ok result =>
      obtain ⟨handle, locks⟩ := result
      rw [granted] at performed
      obtain ⟨body, written, parsed⟩ := encode_number Tag.lock handle
      rw [process_of_performed ordered performed written]
      obtain ⟨-, next, rfl⟩ := Locks.lock_eq_ok granted
      have fresh : ∀ held ∈ w.locks.held, held.handle ≠ handle := by
        intro held mem
        exact UInt32.ne_of_lt (sound.fresh handle next held.handle (sound.known held mem))
      have told := Tlv.requiredNumber_of_number (Tlv.number?_single Tag.lock handle)
      exact .granted
        (show _ = w.locks.held ++ [⟨slot, peer.uid, peer.id, kind, handle⟩] from
          congrArg Locks.held (publish_locks _))
        rfl rfl (slot_of_orderOf ordered rfl).symm fresh parsed told

theorem process_unlock (driver : Driver σ) (peer : Peer) (unit : UInt8) (args : Bytes)
    {w : World σ} {given : List UInt32} (sound : Locks.Sound given w.locks) :
    UnlockOutcome peer unit args w
      (process driver peer (Command.unlock.code :: unit :: args) w) := by
  cases ordered : w.orderOf peer (Command.unlock.code :: unit :: args) with
  | error e =>
    obtain ⟨e', w', failed, same⟩ := process_of_refusal driver ordered
    rw [failed]
    exact .refused same fun _ _ read => nomatch ordered.symm.trans read
  | ok order =>
    have command := command_of_orderOf ordered
    cases order <;> cases command
    next slot handle =>
    have performed := perform_unlock driver peer slot handle w
    rcases Locks.unlock_cases w.service.locks peer.id slot handle with
      ⟨failed, missing⟩ | ⟨before, lock, behind, held, named, freed⟩
    · rw [failed] at performed
      rw [process_of_failed ordered performed]
      refine .refused (publish_locks w) fun slot' handle' read => ?_
      cases ordered.symm.trans read
      exact missing
    · rw [freed] at performed
      rw [process_of_performed ordered performed (show (Reply.items []).encode = .ok [] from rfl)]
      obtain ⟨_, -, decoded⟩ := decode_of_orderOf ordered
      obtain ⟨-, unit, items, parsed, asked⟩ := Order.unlocks_of_decode decoded
      have others := sound.named_unique held named
      obtain ⟨mine, here, rfl⟩ := named
      exact .freed held (show _ = before ++ behind from congrArg Locks.held (publish_locks _))
        mine (here.trans unit.symm) parsed asked (unit ▸ others)

theorem process_keeps_locks (driver : Driver σ) (peer : Peer) {code : UInt8} (unit : UInt8)
    (args : Bytes) (w : World σ) (noLock : code ≠ Command.lock.code)
    (noUnlock : code ≠ Command.unlock.code) :
    (after (process driver peer (code :: unit :: args)) w).locks = w.locks := by
  rw [locks_process]
  simp only [World.lockCall]
  cases ordered : w.orderOf peer (code :: unit :: args) with
  | error e => rfl
  | ok order =>
    obtain ⟨command, rfl, decoded⟩ := decode_of_orderOf ordered
    have same : order.command = command := (Order.of_decode decoded).1
    cases order with
    | lock slot kind => exact absurd (congrArg Command.code same.symm) noLock
    | unlock slot handle => exact absurd (congrArg Command.code same.symm) noUnlock
    | _ => rfl

/-! ## The reach of a request -/

/-- **A request reaches no further than its slot and its client.** In whatever state a service in
service is, and whatever the driver does or fails to do: no slot but the named one changes at all,
and no lock but those that the client has on that slot. A lock is added exactly if the answer to a
request for it is a success, which then tells its handle, one is removed exactly if the answer to a
request to unlock is a success, and no other request changes any lock. -/
theorem request_confined {driver : Driver σ} {w : World σ} (reachable : Reachable driver w)
    (peer : Peer) (code unit : UInt8) (args : Bytes) :
    let result := process driver peer (code :: unit :: args) w
    let later := left result
    (∀ n, n ≠ unit.toNat → later.service.reader.slots[n]? = w.service.reader.slots[n]?) ∧
    later.locks.others peer.id unit.toNat = w.locks.others peer.id unit.toNat ∧
    (code = Command.lock.code → LockOutcome peer unit args w result) ∧
    (code = Command.unlock.code → UnlockOutcome peer unit args w result) ∧
    (code ≠ Command.lock.code → code ≠ Command.unlock.code → later.locks = w.locks) := by
  intro result later
  obtain ⟨given, sound⟩ := reachable.sound
  refine ⟨fun n => slots_process driver peer code unit args w,
    others_process driver peer code unit args w, ?_, ?_,
    process_keeps_locks driver peer unit args w⟩
  · rintro rfl
    exact process_lock driver peer unit args sound
  · rintro rfl
    exact process_unlock driver peer unit args sound

def minimalWorld : World Unit :=
  Service.start ⟨"Minimal reader", .displayAndKeypad, [.unknown 0x00, .unknown 0x32], none⟩ none []
    (fun _ => .ok ()) ()

/-- Client 1 gets slot 0 for itself, and learns the handle; the other slot stays as it is. -/
theorem request_confined_granted :
    let result := process Minimal.driver ⟨1, 1000⟩ [0x01, 0x00, 0x82, 0x01, 0x01] minimalWorld
    LockOutcome ⟨1, 1000⟩ 0x00 [0x82, 0x01, 0x01] minimalWorld result ∧
      (left result).locks.held = [⟨0, 1000, 1, .exclusive, 1⟩] ∧
      (left result).service.reader.slots[1]? = some (.unknown 0x32) := by
  intro result
  have reachable : Reachable Minimal.driver minimalWorld :=
    .start (show Reader.attach Minimal.driver () = .ok _ () from rfl) none [] _
  obtain ⟨slots, -, granted, -⟩ :=
    request_confined reachable ⟨1, 1000⟩ 0x01 0x00 [0x82, 0x01, 0x01]
  exact ⟨granted rfl, by decide +kernel, slots 1 (by decide)⟩

end Service

end CardTerminal
