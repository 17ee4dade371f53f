import CardTerminal.Proofs.Action
import CardTerminal.Proofs.Locks
import CardTerminal.Proofs.Reader.Run
import CardTerminal.Service

/-!
Runs of a service, and what they do to its locks and its reader.

Whatever happens to a service, its lock table changes by one call at most, which can be read off the
request (`World.lockCall`, `locks_respond`), and its reader by one operation at most
(`World.operation`, `reader_respond`). So the table of a service in service is one that a run of
calls leaves, and it is sound (`Reachable.sound`).
-/

namespace CardTerminal

/-- Something that happens to a service. -/
inductive Service.Happening where
  | request (peer : Peer) (payload : Bytes)
  | closed (peer : Peer)
  | tick
  | event
  | hangUp
  deriving DecidableEq, Repr

/-- The call on the lock table that an order is carried out by. -/
def Order.lockCall (peer : Peer) : Order → Option Locks.Call
  | .lock slot kind => some (.lock peer.id peer.uid slot kind)
  | .unlock slot handle => some (.unlock peer.id slot handle)
  | _ => none

/-- The operation of the reader that an order is carried out by. -/
def Order.operation : Order → Option Reader.Operation
  | .describe | .lock _ _ | .unlock _ _ => none
  | .cardStatus slot => some (.cardStatus slot)
  | .reset slot => some (.cardReset slot)
  | .request slot timeout message => some (.cardRequest slot timeout message)
  | .eject slot timeout message => some (.cardEject slot timeout message)
  | .output message => some (.output message)
  | .performVerify slot timeout message command =>
    some (.performVerify slot timeout message command)
  | .transact slot command => some (.transceive slot command)
  | .setProtocol slot protocol => some (.setProtocol slot protocol)
  | .readMemory slot address count => some (.readMemory slot address count)
  | .writeMemory slot address bytes => some (.writeMemory slot address bytes)

namespace Service

open CardTerminal.Action

variable {σ α : Type}

/-- What a service does about something that happens. -/
def respond (driver : Driver σ) (w : World σ) : Happening → World σ
  | .request peer payload => after (process driver peer payload) w
  | .closed peer => after (closed peer) w
  | .tick => after (tick driver) w
  | .event => after (event driver) w
  | .hangUp => after (hangUp driver) w

/-- A service after many things have happened, one after the other. -/
def respondAll (driver : Driver σ) : World σ → List Happening → World σ
  | w, [] => w
  | w, h :: rest => respondAll driver (respond driver w h) rest

/-- A service that was started with a reader, and has been in service since. -/
inductive Reachable (driver : Driver σ) : World σ → Prop where
  | start {s s' : σ} {reader : Reader} (attached : Reader.attach driver s = .ok reader s')
      (record : Option Nat) (table : Status.Table) (flushes : Nat → Except IoFailure Unit) :
      Reachable driver (Service.start reader record table flushes s')
  | step {w : World σ} (reachable : Reachable driver w) (h : Happening) :
      Reachable driver (respond driver w h)

def World.orderOf (w : World σ) (peer : Peer) (payload : Bytes) : Except Error Order :=
  match Request.decode payload with
  | .ok request =>
    Order.decode w.service.reader.slots.length (w.service.locks.checkAccess peer.id) request
  | .error e => .error e

/-- The call on the lock table that something makes a service do. -/
def World.lockCall (w : World σ) : Happening → Option Locks.Call
  | .request peer payload =>
    match w.orderOf peer payload with
    | .ok order => order.lockCall peer
    | .error _ => none
  | .closed peer => some (.releaseAll peer.id)
  | _ => none

/-- The operation of the reader that something makes a service do. -/
def World.operation (w : World σ) : Happening → Option Reader.Operation
  | .request peer payload =>
    match w.orderOf peer payload with
    | .ok order => order.operation
    | .error _ => none
  | .closed _ => none
  | .tick => some .poll
  | .event => some .handleEvent
  | .hangUp => some .handleHangUp

/-- A lock table after a call, if there is one. -/
def lockedBy (l : Locks) : Option Locks.Call → Locks
  | some c => (l.call c).2
  | none => l

/-- A reader with its device after an operation, if there is one. -/
def operatedBy (driver : Driver σ) (x : Reader × σ) : Option Reader.Operation → Reader × σ
  | some op => after (Reader.perform driver op) x
  | none => x

/-! ## Publishing changes the status file only -/

theorem publish_eq (w : World σ) :
    ∃ published table flushes,
      publish w = { w with service := { w.service with published }, table, flushes } := by
  simp only [publish]
  split
  · exact ⟨_, _, _, rfl⟩
  · split
    · exact ⟨_, _, _, rfl⟩
    · split <;> exact ⟨_, _, _, rfl⟩

theorem publish_reader (w : World σ) : (publish w).service.reader = w.service.reader := by
  obtain ⟨published, table, flushes, same⟩ := publish_eq w
  rw [same]

theorem publish_record (w : World σ) : (publish w).service.record = w.service.record := by
  obtain ⟨published, table, flushes, same⟩ := publish_eq w
  rw [same]

theorem publish_locks (w : World σ) : (publish w).service.locks = w.service.locks := by
  obtain ⟨published, table, flushes, same⟩ := publish_eq w
  rw [same]

theorem publish_device (w : World σ) : (publish w).device = w.device := by
  obtain ⟨published, table, flushes, same⟩ := publish_eq w
  rw [same]

theorem after_publishing {β : Type} {f : World σ → β} (kept : ∀ w, f (publish w) = f w)
    (op : Op σ (Option α)) (w : World σ) : f (after (publishing op) w) = f (after op w) := by
  simp only [after, publishing]
  rcases op w with ⟨_ | v, w'⟩ | ⟨e, w'⟩
  · rfl
  · exact kept w'
  · exact kept w'

/-! ## Work with the reader leaves the locks alone -/

def World.locks (w : World σ) : Locks :=
  w.service.locks

theorem onReader_keeps (op : Reader.Op σ α) : Keeps World.locks (onReader op) := by
  intro w
  simp only [after, onReader]
  cases op (w.service.reader, w.device) <;> rfl

theorem require_keeps {γ : Type} {view : World σ → γ} (x : Except Error α) :
    Keeps view (require x : Op σ α) := by
  intro w
  cases x <;> rfl

theorem encodeReply_keeps {γ : Type} {view : World σ → γ} (reply : Option Reply) :
    Keeps view (encodeReply reply : Op σ (Option Bytes)) := by
  cases reply with
  | none => exact Keeps.pure _
  | some reply => exact (require_keeps _).bind fun _ => Keeps.pure _

theorem publishIf_keeps {op : Op σ Bool} (h : Keeps World.locks op) :
    Keeps World.locks (publishIf op) := by
  intro w
  have kept := h w
  simp only [after, publishIf] at kept ⊢
  cases result : op w with
  | ok changed w' =>
    rw [result] at kept
    cases changed
    · exact kept
    · exact (publish_locks w').trans kept
  | error e w' =>
    rw [result] at kept
    exact kept

/-! ## What happens to the locks -/

theorem perform_lock (driver : Driver σ) (peer : Peer) (slot : Nat) (kind : LockKind)
    (w : World σ) : perform driver peer (.lock slot kind) w =
      match w.service.locks.lock peer.id peer.uid slot kind with
      | .ok (handle, locks) =>
        .ok (some (.items [.ofNumber Tag.lock handle]))
          { w with service := { w.service with locks } }
      | .error e => .error e w := by
  simp only [perform, get_bind]
  cases granted : w.service.locks.lock peer.id peer.uid slot kind with
  | ok result => rfl
  | error e => rfl

theorem perform_unlock (driver : Driver σ) (peer : Peer) (slot : Nat) (handle : UInt32)
    (w : World σ) : perform driver peer (.unlock slot handle) w =
      match w.service.locks.unlock peer.id slot handle with
      | .ok locks => .ok (some (.items [])) { w with service := { w.service with locks } }
      | .error e => .error e w := by
  simp only [perform, get_bind]
  cases freed : w.service.locks.unlock peer.id slot handle with
  | ok locks => rfl
  | error e => rfl

theorem locks_perform (driver : Driver σ) (peer : Peer) (order : Order) (w : World σ) :
    (after (perform driver peer order) w).locks = lockedBy w.locks (order.lockCall peer) := by
  cases order with
  | describe => rfl
  | lock slot kind =>
    simp only [after, perform_lock, Order.lockCall, lockedBy, Locks.call, World.locks]
    cases w.service.locks.lock peer.id peer.uid slot kind <;> rfl
  | unlock slot handle =>
    simp only [after, perform_unlock, Order.lockCall, lockedBy, Locks.call, World.locks]
    cases w.service.locks.unlock peer.id slot handle <;> rfl
  | _ => exact (onReader_keeps _).bind (fun _ => Keeps.pure _) w

/-- A request whose order is refused changes nothing but what is published. -/
theorem process_of_refused (driver : Driver σ) {peer : Peer} {payload : Bytes} {w : World σ}
    {request : Request} {e : Error} (decoded : Request.decode payload = .ok request)
    (refused : w.orderOf peer payload = .error e) :
    process driver peer payload w = .error e (publish w) := by
  simp only [World.orderOf, decoded] at refused
  have dispatched : dispatch driver peer request w = .error e w := by
    simp only [dispatch, get_bind]
    exact bind_of_error (by simp only [require, refused])
  rw [process, bind_of_ok (show require (Request.decode payload) w = .ok request w by
    simp only [require, decoded])]
  simp only [publishing, dispatched]

theorem process_of_order (driver : Driver σ) {peer : Peer} {payload : Bytes} {w : World σ}
    {order : Order} (ordered : w.orderOf peer payload = .ok order) :
    process driver peer payload w =
      publishing (perform driver peer order >>= encodeReply) w := by
  cases decoded : Request.decode payload with
  | error e => simp only [World.orderOf, decoded] at ordered; cases ordered
  | ok request =>
    simp only [World.orderOf, decoded] at ordered
    have dispatched : dispatch driver peer request w =
        (perform driver peer order >>= encodeReply) w := by
      simp only [dispatch, get_bind]
      exact bind_of_ok (by simp only [require, ordered])
    rw [process, bind_of_ok (show require (Request.decode payload) w = .ok request w by
      simp only [require, decoded])]
    simp only [publishing, dispatched]

theorem process_of_performed {driver : Driver σ} {peer : Peer} {payload : Bytes} {w w' : World σ}
    {order : Order} {reply : Reply} {body : Bytes} (ordered : w.orderOf peer payload = .ok order)
    (performed : perform driver peer order w = .ok (some reply) w')
    (written : reply.encode = .ok body) :
    process driver peer payload w = .ok (some body) (publish w') := by
  have encoded : (require reply.encode : Op σ Bytes) w' = .ok body w' := by
    simp only [require, written]
  have step : (perform driver peer order >>= encodeReply) w = .ok (some body) w' := by
    rw [bind_of_ok performed, encodeReply, bind_of_ok encoded]
    rfl
  rw [process_of_order driver ordered]
  simp only [publishing, step]

theorem process_of_failed {driver : Driver σ} {peer : Peer} {payload : Bytes} {w w' : World σ}
    {order : Order} {e : Error} (ordered : w.orderOf peer payload = .ok order)
    (failed : perform driver peer order w = .error e w') :
    process driver peer payload w = .error e (publish w') := by
  rw [process_of_order driver ordered]
  simp only [publishing, bind_of_error failed]

theorem locks_process (driver : Driver σ) (peer : Peer) (payload : Bytes) (w : World σ) :
    (after (process driver peer payload) w).locks =
      lockedBy w.locks (w.lockCall (.request peer payload)) := by
  simp only [World.lockCall]
  cases ordered : w.orderOf peer payload with
  | ok order =>
    have step := process_of_order driver ordered
    rw [after, step, ← after, after_publishing (f := World.locks) publish_locks]
    exact (Keeps.after_bind encodeReply_keeps w).trans (locks_perform driver peer order w)
  | error e =>
    cases decoded : Request.decode payload with
    | ok request =>
      rw [after_of_error (process_of_refused driver decoded ordered)]
      exact publish_locks w
    | error e' =>
      have step : process driver peer payload w = .error e' w :=
        bind_of_error (by simp only [require, decoded])
      rw [after_of_error step]
      rfl

/-- **Whatever happens, the locks change by the call that it makes, and by nothing else.** -/
theorem locks_respond (driver : Driver σ) (w : World σ) (h : Happening) :
    (respond driver w h).locks = lockedBy w.locks (w.lockCall h) := by
  cases h with
  | request peer payload => exact locks_process driver peer payload w
  | closed peer => rfl
  | tick => exact publishIf_keeps (onReader_keeps _) w
  | event => exact publishIf_keeps (onReader_keeps _) w
  | hangUp => exact (onReader_keeps _).bind (fun _ => Keeps.throw _) w

/-! ## What happens to the reader -/

def World.reader (w : World σ) : Reader × σ :=
  (w.service.reader, w.device)

theorem publish_side (w : World σ) : (publish w).reader = w.reader := by
  rw [World.reader, publish_reader, publish_device]
  rfl

theorem reader_onReader (op : Reader.Op σ α) (w : World σ) :
    (after (onReader op) w).reader = after op w.reader := by
  simp only [after, onReader, World.reader]
  cases op (w.service.reader, w.device) <;> rfl

/-- What is made of the result of an operation does not matter to the reader. -/
theorem reader_onReader_bind (op : Reader.Op σ α) {β : Type} {f : α → Op σ β}
    (hf : ∀ v, Keeps World.reader (f v)) (w : World σ) :
    (after (onReader op >>= f) w).reader = after op w.reader := by
  rw [Keeps.after_bind hf, reader_onReader]

theorem reader_perform (driver : Driver σ) (peer : Peer) (order : Order) (w : World σ) :
    (after (perform driver peer order) w).reader = operatedBy driver w.reader order.operation := by
  cases order with
  | describe => rfl
  | lock slot kind =>
    simp only [after, perform_lock, Order.operation, operatedBy]
    cases w.service.locks.lock peer.id peer.uid slot kind <;> rfl
  | unlock slot handle =>
    simp only [after, perform_unlock, Order.operation, operatedBy]
    cases w.service.locks.unlock peer.id slot handle <;> rfl
  | _ =>
    refine (reader_onReader_bind _ (fun _ => Keeps.pure _) w).trans ?_
    exact (after_bind_pure _ _ _).symm

theorem reader_process (driver : Driver σ) (peer : Peer) (payload : Bytes) (w : World σ) :
    (after (process driver peer payload) w).reader =
      operatedBy driver w.reader (w.operation (.request peer payload)) := by
  simp only [World.operation]
  cases ordered : w.orderOf peer payload with
  | ok order =>
    rw [after, process_of_order driver ordered, ← after, after_publishing publish_side]
    exact (Keeps.after_bind encodeReply_keeps w).trans (reader_perform driver peer order w)
  | error e =>
    cases decoded : Request.decode payload with
    | ok request =>
      rw [after_of_error (process_of_refused driver decoded ordered)]
      exact publish_side w
    | error e' =>
      have step : process driver peer payload w = .error e' w :=
        bind_of_error (by simp only [require, decoded])
      rw [after_of_error step]
      rfl

theorem reader_publishIf (op : Op σ Bool) (w : World σ) :
    (after (publishIf op) w).reader = (after op w).reader := by
  simp only [after, publishIf]
  cases op w with
  | ok changed w' =>
    cases changed
    · rfl
    · exact publish_side w'
  | error e w' => rfl

/-- **Whatever happens, the reader changes by the operation that it asks for, and by nothing
else.** -/
theorem reader_respond (driver : Driver σ) (w : World σ) (h : Happening) :
    (respond driver w h).reader = operatedBy driver w.reader (w.operation h) := by
  cases h with
  | request peer payload => exact reader_process driver peer payload w
  | closed peer => rfl
  | tick =>
    refine (reader_publishIf _ w).trans ((reader_onReader _ w).trans ?_)
    exact (after_bind_pure _ _ _).symm
  | event =>
    refine (reader_publishIf _ w).trans ((reader_onReader _ w).trans ?_)
    exact (after_bind_pure _ _ _).symm
  | hangUp =>
    refine (Keeps.after_bind (fun _ => Keeps.throw _) w).trans ?_
    exact (reader_onReader _ w).trans (after_bind_pure _ _ _).symm

/-! ## Services in service -/

theorem Reachable.sound {driver : Driver σ} {w : World σ} (reachable : Reachable driver w) :
    ∃ given, Locks.Sound given w.locks := by
  induction reachable with
  | start attached record table flushes => exact ⟨[], by
      rw [show (Service.start _ record table flushes _).locks = Locks.none from publish_locks _]
      exact Locks.Sound.empty⟩
  | step reachable h ih =>
    obtain ⟨given, sound⟩ := ih
    rw [locks_respond]
    cases lockCall : World.lockCall _ h with
    | none => exact ⟨given, sound⟩
    | some c => exact ⟨_, sound.call c⟩

theorem Reachable.respondAll {driver : Driver σ} {w : World σ} (reachable : Reachable driver w)
    (happenings : List Happening) : Reachable driver (respondAll driver w happenings) := by
  induction happenings generalizing w with
  | nil => exact reachable
  | cons h rest ih => exact ih (reachable.step h)

end Service

end CardTerminal
