import CardTerminal.Proofs.Client.Line
import CardTerminal.Proofs.Client.Requests
import CardTerminal.Proofs.Service.Answers
import CardTerminal.Server

/-!
What a client learns from a service.

The service finds something out for an order (`Service.serve`) and writes it down as a reply
(`Order.reply`), and the client reads it again. What it should learn is said without any bytes
(`Call.hears`): the same value, as much of a reader's name as there is room for, and the flags that
have a meaning. There is one answer that a client cannot understand: if it asks for the card status
of the unit that is the reader itself, it is told about the reader.

Main statement: `call_served`.
-/

namespace CardTerminal

open CardTerminal.Action

variable {σ : Type}

namespace Service

/-- What the service finds out for an order: nothing as long as an exchange is not over. -/
def serve (driver : Driver σ) (peer : Peer) : Order → Op σ (Option Client.Answer)
  | .describe => do
    let reader := (← get).service.reader
    return some (.description reader.name ((List.range reader.slots.length).map UInt8.ofNat)
      reader.flags)
  | .cardStatus slot => do
    return some (.cardStatus (← onReader (Reader.cardStatus driver slot)))
  | .lock slot kind => do
    let (handle, locks) ← require ((← get).service.locks.lock peer.id peer.uid slot kind)
    setLocks locks
    return some (.lock handle)
  | .unlock slot handle => do
    setLocks (← require ((← get).service.locks.unlock peer.id slot handle))
    return some .done
  | .reset slot => do return some (.atr (← onReader (Reader.cardReset driver slot)))
  | .request slot timeout message => do
    return some (.atr (← onReader (Reader.cardRequest driver slot timeout message)))
  | .eject slot timeout message => do
    onReader (Reader.cardEject driver slot timeout message)
    return some .done
  | .output message => do
    onReader (Reader.output driver message)
    return some .done
  | .performVerify slot timeout message command => do
    return some (.bytes (← onReader (Reader.performVerify driver slot timeout message command)))
  | .transact slot command => do
    let answer ← onReader (Reader.transceive driver slot command)
    return answer.map .bytes
  | .setProtocol slot protocol => do
    return some (.protocol (← onReader (Reader.setProtocol driver slot protocol)).number)
  | .readMemory slot address count => do
    return some (.bytes (← onReader (Reader.readMemory driver slot address count)))
  | .writeMemory slot address bytes => do
    onReader (Reader.writeMemory driver slot address bytes)
    return some .done

end Service

/-- The reply that tells what was found out. -/
def Order.reply : Order → Client.Answer → Reply
  | _, .description name units flags =>
    .items [.ofText Tag.readerName name, ⟨Tag.readerUnits, units⟩,
      .ofNumber Tag.readerFlags flags.bits]
  | _, .cardStatus status => .items [.ofNumber Tag.cardStatus status.bits.toUInt32]
  | _, .lock handle => .items [.ofNumber Tag.lock handle]
  | _, .atr atr => Service.atrReply atr
  | .performVerify .., .bytes bytes => .items [⟨Tag.cardResponse, bytes⟩]
  | .readMemory .., .bytes bytes => .items [⟨Tag.data, bytes⟩]
  | _, .bytes bytes => .raw bytes
  | _, .protocol number => .items [.ofNumber Tag.protocol number]
  | _, .done => .items []

namespace Service

theorem serve_lock (driver : Driver σ) (peer : Peer) (slot : Nat) (kind : LockKind) (w : World σ) :
    serve driver peer (.lock slot kind) w =
      match w.service.locks.lock peer.id peer.uid slot kind with
      | .ok (handle, locks) =>
        .ok (some (.lock handle)) { w with service := { w.service with locks } }
      | .error e => .error e w := by
  simp only [serve, get_bind]
  cases w.service.locks.lock peer.id peer.uid slot kind <;> rfl

theorem serve_unlock (driver : Driver σ) (peer : Peer) (slot : Nat) (handle : UInt32)
    (w : World σ) : serve driver peer (.unlock slot handle) w =
      match w.service.locks.unlock peer.id slot handle with
      | .ok locks => .ok (some .done) { w with service := { w.service with locks } }
      | .error e => .error e w := by
  simp only [serve, get_bind]
  cases w.service.locks.unlock peer.id slot handle <;> rfl

theorem perform_eq_serve (driver : Driver σ) (peer : Peer) (order : Order) :
    perform driver peer order =
      serve driver peer order >>= fun value => pure (value.map order.reply) := by
  funext w
  cases order with
  | describe => rfl
  | lock slot kind =>
    show _ = EStateM.bind (serve driver peer (.lock slot kind)) _ w
    simp only [EStateM.bind, perform_lock, serve_lock]
    cases w.service.locks.lock peer.id peer.uid slot kind <;> rfl
  | unlock slot handle =>
    show _ = EStateM.bind (serve driver peer (.unlock slot handle)) _ w
    simp only [EStateM.bind, perform_unlock, serve_unlock]
    cases w.service.locks.unlock peer.id slot handle <;> rfl
  | transact slot command =>
    simp only [perform, serve, bind, EStateM.bind]
    split
    · next answer u exchanged => cases answer <;> rfl
    · rfl
  | _ =>
    -- All others reply with what one operation of the reader gives.
    simp only [perform, serve, bind, EStateM.bind]
    split <;> rfl

end Service

namespace Client

/-! ## What a client makes of a reply -/

namespace Call

/-- What a call gives if the service found this out for it. -/
def hears : Call → Answer → Except Error Answer
  -- There is no card in the unit that is the reader itself.
  | .cardStatus _, .description .. => .error .invalidMsg
  | _, .description name units flags => .ok (.description (clipped 63 name) units flags.known)
  | _, value => .ok value

variable {slots : Nat} {access : Nat → Except Error Unit} {driver : Driver σ} {peer : Peer}
  {call : Call} {order : Order} {value : Answer} {w w' : Service.World σ} {body : Bytes}

theorem answer_of_items {items : List Tlv.Item} (written : Tlv.write items = .ok body) :
    (Tlv.parse .short body >>= fun items => call.answerOfItems items) =
      call.answerOfItems items := by
  rw [Tlv.parse_of_write written]
  rfl

theorem answer_description {name : String} {units : Bytes} {flags : ReaderFlags}
    (written : Tlv.write [.ofText Tag.readerName name, ⟨Tag.readerUnits, units⟩,
      .ofNumber Tag.readerFlags flags.bits] = .ok body) :
    Call.describe.answer body = .ok (.description (clipped 63 name) units flags.known) := by
  refine (answer_of_items written).trans ?_
  have bits : Tlv.number? [.ofText Tag.readerName name, ⟨Tag.readerUnits, units⟩,
      .ofNumber Tag.readerFlags flags.bits] Tag.readerFlags = .ok (some flags.bits) :=
    Tlv.number?_of_value rfl
  rw [answerOfItems, bits]
  rfl

/-- **The client reads a reply as the service means it.** -/
theorem answer_of_served (ordered : call.order slots access = .ok order)
    (served : Service.serve driver peer order w = .ok (some value) w')
    (encoded : (order.reply value).encode = .ok body) : call.answer body = call.hears value := by
  -- The call determines the order, and that the kind of value, so one reply is left in each case.
  cases call with
  | describe =>
    cases ordered
    cases served
    exact answer_description encoded
  | cardStatus unit =>
    by_cases reader : unit = unitReader
    · rw [Call.order, if_pos reader] at ordered
      cases ordered
      cases served
      exact answer_of_items encoded
    · rw [Call.order, if_neg reader] at ordered
      obtain ⟨slot, -, ordered⟩ := except_bind_eq_ok.mp ordered
      cases ordered
      obtain ⟨status, u, -, made⟩ := bind_eq_ok served
      cases made
      refine (answer_of_items encoded).trans ?_
      rw [answerOfItems, Tlv.number?_single]
      show Except.ok (Answer.cardStatus (.ofBits status.bits.toUInt32.toUInt8)) = _
      rw [UInt8.toUInt8_toUInt32, CardStatus.ofBits_bits]
      rfl
  | lock unit kind =>
    obtain ⟨slot, -, ordered⟩ := except_bind_eq_ok.mp ordered
    cases ordered
    rw [Service.serve_lock] at served
    split at served
    · cases served
      refine (answer_of_items encoded).trans ?_
      rw [answerOfItems, Tlv.number?_single]
      rfl
    · cases served
  | unlock unit handle =>
    obtain ⟨slot, -, ordered⟩ := except_bind_eq_ok.mp ordered
    cases ordered
    rw [Service.serve_unlock] at served
    split at served
    · cases served
      rfl
    · cases served
  | reset _ | request _ _ _ =>
    obtain ⟨slot, -, ordered⟩ := except_bind_eq_ok.mp ordered
    cases ordered
    obtain ⟨atr, u, -, made⟩ := bind_eq_ok served
    cases made
    refine (answer_of_items encoded).trans ?_
    cases atr <;> rfl
  | eject _ _ _ | writeMemory _ _ _ =>
    obtain ⟨slot, -, ordered⟩ := except_bind_eq_ok.mp ordered
    cases ordered
    obtain ⟨v, u, -, made⟩ := bind_eq_ok served
    cases made
    rfl
  | output message =>
    cases ordered
    obtain ⟨v, u, -, made⟩ := bind_eq_ok served
    cases made
    rfl
  | performVerify unit timeout message command =>
    obtain ⟨slot, -, ordered⟩ := except_bind_eq_ok.mp ordered
    cases ordered
    obtain ⟨response, u, -, made⟩ := bind_eq_ok served
    cases made
    exact answer_of_items encoded
  | transact unit command =>
    obtain ⟨slot, -, ordered⟩ := except_bind_eq_ok.mp ordered
    cases ordered
    obtain ⟨response, u, -, made⟩ := bind_eq_ok served
    injection made with given
    obtain ⟨response, rfl, rfl⟩ := Option.map_eq_some_iff.mp given
    cases encoded
    rfl
  | setProtocol unit protocol =>
    obtain ⟨slot, -, ordered⟩ := except_bind_eq_ok.mp ordered
    obtain ⟨id, -, ordered⟩ := except_bind_eq_ok.mp ordered
    cases ordered
    obtain ⟨selected, u, -, made⟩ := bind_eq_ok served
    cases made
    refine (answer_of_items encoded).trans ?_
    rw [answerOfItems, Tlv.number?_single]
    rfl
  | readMemory unit address count =>
    obtain ⟨slot, -, ordered⟩ := except_bind_eq_ok.mp ordered
    split at ordered
    · cases ordered
      obtain ⟨bytes, u, -, made⟩ := bind_eq_ok served
      cases made
      exact answer_of_items encoded
    · cases ordered

end Call

end Client

theorem Error.exists_ofCode_code (e : Error) : ∃ cause, ofCode e.code = some cause := by
  cases e <;> exact ⟨_, rfl⟩

theorem Packet.split_frame {order : ByteOrder} {header : Header} {payload framed : Bytes}
    (isFrame : frame header payload order = .ok framed) :
    split order framed = some ((announced (header, payload)).1, payload, []) := by
  obtain ⟨short, rfl⟩ := frame_eq_ok isFrame
  have count := toNat_count header short
  have length := Header.length_encode (announced (header, payload)).1 order
  have all : ((announced (header, payload)).1.encode order ++ payload).length =
      Header.size + payload.length := by rw [List.length_append, length]
  simp only [split, Header.decode_encode, count, List.drop_left' length, List.take_length, if_true,
    ← all, List.drop_length]

namespace Client

/-! ## A call from end to end -/

/-- A line with a service at its other end. An answer that is too long for a packet breaks it, and
nothing arrives on it if there is no answer. -/
def attended (driver : Driver σ) (peer : Peer) : Respond (Service.World σ) := fun packet line w =>
  match Packet.split .native packet with
  | none => (line, w)
  | some (header, payload, _) =>
    match (Server.readerHost driver).process peer payload w with
    | none => (line, w)
    | some (answer, w) =>
      match Server.replyPacket header.xid answer with
      | .ok reply => (line.push reply, w)
      | .error _ => ({ line with hungUp := true }, w)

/-- Nothing is left on the client's line but answers to other calls. -/
def Clear (c : Client (Service.World σ)) : Prop :=
  ∃ stale packets, Packet.Carries .native stale packets ∧
    (∀ packet ∈ packets, packet.1.xid ≠ c.xid) ∧ c.line = ⟨stale.map Arrival.byte, false⟩

variable {driver : Driver σ} {peer : Peer} {c : Client (Service.World σ)} {call : Call}
  {request : Request} {w : Service.World σ}

theorem exchange_attended {answer : Except Error Bytes} {header : Header} {body : Bytes}
    (clear : c.Clear) (short : request.encode.length ≤ Packet.maxPayload)
    (answered : (Server.readerHost driver).process peer request.encode c.peer = some (answer, w))
    (replied : Server.replyPacket c.xid answer = Packet.frame header body .native)
    (own : header.xid = c.xid) (fits : body.length ≤ Packet.maxPayload) :
    c.exchange (attended driver peer) request =
      ((Error.check header.error).map (fun _ => body), ⟨nextXid c.xid, ⟨[], false⟩, w⟩) := by
  obtain ⟨stale, packets, carries, others, line⟩ := clear
  obtain ⟨packet, framed⟩ :
      ∃ packet, Packet.frame (.request c.xid 0) request.encode .native = .ok packet :=
    ⟨_, if_pos short⟩
  obtain ⟨reply, isFrame⟩ : ∃ reply, Packet.frame header body .native = .ok reply :=
    ⟨_, if_pos fits⟩
  have responded : attended driver peer packet c.line c.peer =
      (⟨stale.map Arrival.byte ++ (reply.map Arrival.byte ++ []), false⟩, w) := by
    simp only [attended, Packet.split_frame framed, answered]
    rw [show (Packet.announced (.request c.xid 0, request.encode)).1.xid = c.xid from rfl, replied,
      isFrame, line, List.append_nil]
    rfl
  -- The reply stands behind all that is left of other calls, and these are passed over.
  have read := Line.readPacket_arrived isFrame [] false
  have awaited : Line.await ⟨stale.map Arrival.byte ++ (reply.map Arrival.byte ++ []), false⟩
      c.xid = ((Error.check header.error).map (fun _ => body), ⟨[], false⟩) := by
    rw [Line.await_skip carries others, Line.await_of_packet read]
    exact if_pos own
  rw [exchange_sent framed (by rw [line]), responded, awaited]

theorem orderOf_request (asked : call.request? = .ok request) :
    w.orderOf peer request.encode =
      call.order w.service.reader.slots.length (w.service.locks.checkAccess peer.id) := by
  rw [Service.World.orderOf, Request.decode_encode]
  exact Call.decode_of_request asked

theorem served_of_process (asked : call.request? = .ok request) {body : Bytes}
    {v : Service.World σ}
    (answered : Service.process driver peer request.encode w = .ok (some body) v) :
    ∃ order value u, call.order w.service.reader.slots.length
        (w.service.locks.checkAccess peer.id) = .ok order ∧
      Service.serve driver peer order w = .ok (some value) u ∧ v = Service.publish u ∧
      (order.reply value).encode = .ok body := by
  obtain ⟨order, reply, u, ordered, performed,
    ⟨-, ⟨⟩⟩ | ⟨given, bytes, rfl, ⟨⟩, encoded, published⟩⟩ := Service.performed_of_process answered
  rw [orderOf_request asked] at ordered
  rw [Service.perform_eq_serve] at performed
  obtain ⟨value, u', served, replied⟩ := bind_eq_ok performed
  injection replied with same left
  obtain ⟨value, rfl, rfl⟩ := Option.map_eq_some_iff.mp same
  exact ⟨order, value, u', ordered, served, left ▸ published, encoded⟩

/-- **Client and service speak the same language.** The service reads the order that the call
means. If it answers, the call gives what the service found out; if it fails, the call fails with
the public cause of that. -/
theorem call_served (driver : Driver σ) (peer : Peer) (call : Call)
    (clear : c.Clear) (asked : call.request? = .ok request)
    (short : request.encode.length ≤ Packet.maxPayload) :
    let order := call.order c.peer.service.reader.slots.length
      (c.peer.service.locks.checkAccess peer.id)
    let after (w : Service.World σ) : Client (Service.World σ) := ⟨nextXid c.xid, ⟨[], false⟩, w⟩
    c.peer.orderOf peer request.encode = order ∧
      (∀ body w, Service.process driver peer request.encode c.peer = .ok (some body) w →
        body.length ≤ Packet.maxPayload →
        ∃ order' value u, order = .ok order' ∧
          Service.serve driver peer order' c.peer = .ok (some value) u ∧ w = Service.publish u ∧
          (order'.reply value).encode = .ok body ∧
          c.call (attended driver peer) call = (call.hears value, after w)) ∧
      ∀ e w, Service.process driver peer request.encode c.peer = .error e w →
        ∃ cause, Error.ofCode e.code = some cause ∧
          c.call (attended driver peer) call = (.error cause, after w) := by
  intro order after
  refine ⟨orderOf_request asked, ?_, ?_⟩
  · intro body w answered fits
    obtain ⟨order', value, u, ordered, served, published, encoded⟩ :=
      served_of_process asked answered
    refine ⟨order', value, u, ordered, served, published, encoded, ?_⟩
    have exchanged := exchange_attended clear short
      (show (Server.readerHost driver).process peer request.encode c.peer = some (.ok body, w) by
        simp only [Server.readerHost, answered])
      rfl rfl fits
    simp only [Client.call, asked, exchanged]
    show ((Except.ok body).bind call.answer, _) = _
    rw [← Call.answer_of_served ordered served encoded]
    rfl
  · -- A failure is sent as a code and nothing else, and every code has a public cause.
    intro e w failed
    obtain ⟨cause, public_⟩ := e.exists_ofCode_code
    refine ⟨cause, public_, ?_⟩
    have exchanged := exchange_attended clear short
      (show (Server.readerHost driver).process peer request.encode c.peer = some (.error e, w) by
        simp only [Server.readerHost, failed])
      rfl rfl (Nat.zero_le _)
    have checked : Error.check e.code = .error cause := by rw [Error.check, public_]
    simp only [Client.call, asked, exchanged, Header.reply, checked]
    rfl

theorem clear_new (w : Service.World σ) : (Client.new w).Clear :=
  ⟨[], [], .nil, fun _ mem => absurd mem List.not_mem_nil, rfl⟩

/-- A command for the card and its answer. -/
theorem call_served_transact :
    let command : Bytes := [0x00, 0xB0, 0x00, 0x00, 0x00, 0x00, 0x00]
    let c : Client (Service.World Unit) := .new (Service.talkativeWorld [0x90, 0x00])
    c.Clear ∧ (Call.transact 0 command).request? = .ok ⟨.transact, 0, command⟩ ∧
      (Request.encode ⟨.transact, 0, command⟩).length ≤ Packet.maxPayload ∧
      (c.call (attended (Service.talkative [0x90, 0x00]) ⟨0, 1000⟩) (.transact 0 command)).1 =
        .ok (.bytes [0x90, 0x00]) := by
  intro command c
  have short : (Request.encode ⟨.transact, 0, command⟩).length ≤ Packet.maxPayload := by decide
  obtain ⟨-, spoken, -⟩ := call_served (c := c) (Service.talkative [0x90, 0x00]) ⟨0, 1000⟩
    (.transact 0 command) (clear_new _) rfl short
  obtain ⟨order, value, u, ordered, served, -, encoded, heard⟩ :=
    spoken _ _ (Service.process_talkative [0x90, 0x00]) (by decide)
  refine ⟨clear_new _, rfl, short, ?_⟩
  rw [heard]
  obtain ⟨slot, -, ordered⟩ := except_bind_eq_ok.mp ordered
  cases ordered
  obtain ⟨response, u, -, made⟩ := bind_eq_ok served
  injection made with given
  obtain ⟨response, rfl, rfl⟩ := Option.map_eq_some_iff.mp given
  cases encoded
  rfl

/-- **The reader itself has no card status.** The unit byte of the last slot that a client can name
means the reader, so it is told about the reader, and has nothing to give to its caller. -/
theorem no_card_status_of_reader :
    let c : Client (Service.World Unit) := .new Service.talkativeStart
    let request : Request := ⟨.status, unitReader, []⟩
    (Call.cardStatus unitReader).request? = .ok request ∧
      (∃ body w, Service.process (Service.talkative []) ⟨0, 1000⟩ request.encode c.peer =
        .ok (some body) w ∧ body.length ≤ Packet.maxPayload) ∧
      (c.call (attended (Service.talkative []) ⟨0, 1000⟩) (.cardStatus unitReader)).1 =
        .error .invalidMsg := by
  intro c request
  have asked : (Call.cardStatus unitReader).request? = .ok request := rfl
  have ordered : c.peer.orderOf ⟨0, 1000⟩ request.encode = .ok .describe := orderOf_request asked
  obtain ⟨body, w, answered, fits⟩ : ∃ body w,
      Service.process (Service.talkative []) ⟨0, 1000⟩ request.encode c.peer =
        .ok (some body) w ∧
        body.length ≤ Packet.maxPayload := by
    obtain ⟨body, written⟩ : ∃ body, Tlv.write [.ofText Tag.readerName "Minimal reader",
        ⟨Tag.readerUnits, [0x00, 0x01]⟩, .ofNumber Tag.readerFlags 3] = .ok body :=
      ⟨_, if_pos (by decide +kernel)⟩
    have performed : Service.perform (Service.talkative []) ⟨0, 1000⟩ .describe c.peer =
      .ok (some (Service.description c.peer.service.reader)) c.peer := rfl
    have encoded : (Service.description c.peer.service.reader).encode = .ok body := written
    have fits := Tlv.length_of_write written
    refine ⟨body, Service.publish c.peer, ?_, Nat.le_trans fits (by decide)⟩
    exact Service.process_of_performed ordered performed encoded
  refine ⟨asked, ⟨body, w, answered, fits⟩, ?_⟩
  obtain ⟨order, value, u, ordered, served, -, encoded⟩ := served_of_process asked answered
  have heard := Call.answer_of_served ordered served encoded
  cases ordered
  cases served
  have exchanged := exchange_attended (show c.Clear from clear_new _)
    (show request.encode.length ≤ Packet.maxPayload by decide)
    (show (Server.readerHost (Service.talkative [])).process ⟨0, 1000⟩ request.encode c.peer =
      some (.ok body, w) by simp only [Server.readerHost, answered])
    rfl rfl fits
  simp only [Client.call, asked, exchanged]
  exact heard

end Client

end CardTerminal
