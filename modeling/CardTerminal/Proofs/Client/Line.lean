import CardTerminal.Client
import CardTerminal.Proofs.Packet.Frames

/-!
What a client reads from a line.

A line that carries whole packets is read one packet at a time, as long as no silence comes in
between. A silence between two packets does no harm: the next read begins where a packet begins. A
silence inside a packet does (`Line.Torn`): what was read of the packet is lost, and the next read
begins in the middle of it.

Main statement: all that can become of waiting for an answer (`Line.await_fate`).
-/

namespace CardTerminal.Client

open Packet (announced Carries)

namespace Line

def byte? : Arrival → Option UInt8
  | .byte b => some b
  | .silence => none

/-- The bytes that arrive, whatever silences are between them. -/
def bytes (line : Line) : Bytes :=
  line.arrivals.filterMap byte?

variable {line line' : Line}

theorem filterMap_byte (passed : Bytes) : (passed.map Arrival.byte).filterMap byte? = passed := by
  induction passed with
  | nil => rfl
  | cons b passed ih =>
    rw [List.map_cons, List.filterMap_cons]
    exact congrArg (b :: ·) ih

theorem bytes_of_arrived {passed : Bytes} {rest : List Arrival}
    (arrived : line.arrivals = passed.map Arrival.byte ++ rest) :
    line.bytes = passed ++ bytes { line with arrivals := rest } := by
  rw [bytes, arrived, List.filterMap_append, filterMap_byte]
  rfl

theorem bytes_of_silence {rest : List Arrival} (arrived : line.arrivals = .silence :: rest) :
    bytes { line with arrivals := rest } = line.bytes := by
  simp only [bytes, arrived, List.filterMap_cons, byte?]

/-! ## Reading bytes -/

/-- How reading so many bytes ends. -/
inductive Read (line : Line) (n : Nat) : Except Error Bytes → Line → Prop where
  | done (passed : Bytes) {rest : List Arrival} (enough : passed.length = n)
    (arrived : line.arrivals = passed.map Arrival.byte ++ rest) :
    Read line n (.ok passed) { line with arrivals := rest }
  | silent (passed : Bytes) {rest : List Arrival} (less : passed.length < n)
    (arrived : line.arrivals = passed.map Arrival.byte ++ .silence :: rest) :
    Read line n (.error .timeout) { line with arrivals := rest }
  | exhausted (passed : Bytes) (less : passed.length < n)
    (arrived : line.arrivals = passed.map Arrival.byte) :
    Read line n (.error (if line.hungUp then .commError else .timeout)) { line with arrivals := [] }

theorem read_ends (line : Line) (n : Nat) : Read line n (line.read n).1 (line.read n).2 := by
  obtain ⟨arrivals, hungUp⟩ := line
  induction n generalizing arrivals with
  | zero => exact .done [] rfl rfl
  | succ n ih =>
    cases arrivals with
    | nil => exact .exhausted [] (Nat.succ_pos n) rfl
    | cons arrival rest =>
      cases arrival with
      | silence => exact .silent [] (Nat.succ_pos n) rfl
      | byte b =>
        -- What becomes of the bytes after the first becomes of all.
        have later := ih rest
        generalize ended : Line.read ⟨rest, hungUp⟩ n = result at later
        obtain ⟨outcome, line⟩ := result
        have step : Line.read ⟨.byte b :: rest, hungUp⟩ (n + 1) =
            (outcome.map (b :: ·), line) := by
          simp only [Line.read, ended]
        rw [step]
        dsimp only at later
        cases later with
        | done passed enough arrived =>
          exact .done (b :: passed) (congrArg (· + 1) enough) (congrArg (.byte b :: ·) arrived)
        | silent passed less arrived =>
          exact .silent (b :: passed) (Nat.succ_lt_succ less) (congrArg (.byte b :: ·) arrived)
        | exhausted passed less arrived =>
          exact .exhausted (b :: passed) (Nat.succ_lt_succ less) (congrArg (.byte b :: ·) arrived)

/-! ## Reading a packet -/

/-- How reading ends on a line that carries a packet, with `stream` behind it. -/
inductive Found (line : Line) (header : Header) (payload stream : Bytes) :
    Except Error (Header × Bytes) → Line → Prop where
  | taken {framed : Bytes} {rest : List Arrival}
    (isFrame : Packet.frame header payload .native = .ok framed)
    (arrived : line.arrivals = framed.map Arrival.byte ++ rest)
    (left : bytes { line with arrivals := rest } = stream) :
    Found line header payload stream (.ok (announced (header, payload)))
      { line with arrivals := rest }
  | silent {rest : List Arrival} (arrived : line.arrivals = .silence :: rest) :
    Found line header payload stream (.error .timeout) { line with arrivals := rest }
  | torn (head tail : Bytes) {rest : List Arrival}
    (isFrame : Packet.frame header payload .native = .ok (head ++ tail))
    (begun : head ≠ []) (missing : tail ≠ [])
    (arrived : line.arrivals = head.map Arrival.byte ++ .silence :: rest)
    (left : bytes { line with arrivals := rest } = tail ++ stream) :
    Found line header payload stream (.error .timeout) { line with arrivals := rest }

theorem exists_missing {passed rest whole stream : Bytes} (same : passed ++ rest = whole ++ stream)
    (less : passed.length < whole.length) :
    ∃ missing, missing ≠ [] ∧ passed ++ missing = whole ∧ rest = missing ++ stream := by
  rcases List.append_eq_append_iff.mp same with ⟨missing, rfl, rfl⟩ | ⟨more, rfl, -⟩
  · refine ⟨missing, ?_, rfl, rfl⟩
    rintro rfl
    rw [List.append_nil] at less
    exact Nat.lt_irrefl _ less
  · rw [List.length_append] at less
    omega

theorem readPacket_of_error {e : Error} (failed : line.read Header.size = (.error e, line')) :
    line.readPacket = (.error e, line') := by
  simp only [readPacket, failed]

theorem readPacket_of_header {start : Bytes} {header : Header} {outcome : Except Error Bytes}
    {after : Line} (read : line.read Header.size = (.ok start, line'))
    (decoded : Header.decode .native start = some header)
    (body : line'.read header.count.toNat = (outcome, after)) :
    line.readPacket = (outcome.map (fun body => (header, body)), after) := by
  simp only [readPacket, read, decoded, body]
  cases outcome <;> rfl

theorem read_arrived (passed : Bytes) (rest : List Arrival) (hungUp : Bool) :
    Line.read ⟨passed.map Arrival.byte ++ rest, hungUp⟩ passed.length =
      (.ok passed, ⟨rest, hungUp⟩) := by
  induction passed with
  | nil => rfl
  | cons b passed ih =>
    simp only [List.map_cons, List.cons_append, List.length_cons, Line.read, ih]
    rfl

theorem readPacket_arrived {header : Header} {payload framed : Bytes}
    (isFrame : Packet.frame header payload .native = .ok framed) (rest : List Arrival)
    (hungUp : Bool) :
    readPacket ⟨framed.map Arrival.byte ++ rest, hungUp⟩ =
      (.ok (announced (header, payload)), ⟨rest, hungUp⟩) := by
  obtain ⟨short, rfl⟩ := Packet.frame_eq_ok isFrame
  have count := Packet.toNat_count header short
  have decoded := Header.decode_encode (announced (header, payload)).1 .native []
  have length := Header.length_encode (announced (header, payload)).1 .native
  rw [List.append_nil] at decoded
  have start := read_arrived ((announced (header, payload)).1.encode .native)
    (payload.map Arrival.byte ++ rest) hungUp
  have body := read_arrived payload rest hungUp
  rw [length] at start
  rw [← count] at body
  rw [List.map_append, List.append_assoc]
  exact readPacket_of_header start decoded body

theorem readPacket_of_empty (empty : line.bytes = []) :
    ∃ cause after, line.readPacket = (.error cause, after) ∧
      (cause = .timeout ∨ cause = .commError) ∧ after.bytes = [] := by
  have ended := line.read_ends Header.size
  generalize read : line.read Header.size = result at ended
  obtain ⟨outcome, after⟩ := result
  dsimp only at ended
  cases ended with
  | done passed enough arrived =>
    rw [bytes_of_arrived arrived, List.append_eq_nil_iff] at empty
    rw [empty.1] at enough
    cases enough
  | silent passed less arrived =>
    rw [bytes_of_arrived arrived, List.append_eq_nil_iff] at empty
    exact ⟨_, _, readPacket_of_error read, .inl rfl, empty.2⟩
  | exhausted passed less arrived =>
    refine ⟨_, _, readPacket_of_error read, ?_, rfl⟩
    cases line.hungUp
    · exact .inl rfl
    · exact .inr rfl

theorem readPacket_found {header : Header} {payload framed stream : Bytes}
    (isFrame : Packet.frame header payload .native = .ok framed)
    (carried : line.bytes = framed ++ stream) :
    Found line header payload stream line.readPacket.1 line.readPacket.2 := by
  obtain ⟨short, shape⟩ := Packet.frame_eq_ok isFrame
  have length := Packet.length_of_frame isFrame
  have count := Packet.toNat_count header short
  have decoded := Header.decode_encode (announced (header, payload)).1 .native []
  generalize (announced (header, payload)).1.encode .native = start at shape decoded
  have startLength : start.length = Header.size := by
    rw [shape, List.length_append] at length
    omega
  have first := line.read_ends Header.size
  generalize readHeader : line.read Header.size = result at first
  obtain ⟨outcome, after⟩ := result
  dsimp only at first
  cases first with
  | silent passed less arrived =>
    -- The silence stands before the packet if nothing was read, and else inside its header.
    rw [readPacket_of_error readHeader]
    by_cases none : passed = []
    · subst none
      exact .silent arrived
    · have same := (bytes_of_arrived arrived).symm.trans carried
      obtain ⟨missing, some, whole, left⟩ := exists_missing same (by omega)
      exact .torn passed missing (whole ▸ isFrame) none some arrived left
  | exhausted passed less arrived =>
    -- There is a whole packet on the line, so the bytes cannot end here.
    have all : line.bytes = passed := by rw [bytes, arrived, filterMap_byte]
    rw [all] at carried
    have := congrArg List.length carried
    rw [List.length_append] at this
    omega
  | @done passed rest enough arrived =>
    -- The header is there, and says how long the payload is.
    have same := (bytes_of_arrived arrived).symm.trans carried
    rw [shape, List.append_assoc] at same
    obtain ⟨rfl, left⟩ := List.append_inj same (enough.trans startLength.symm)
    rw [List.append_nil] at decoded
    have second := read_ends ⟨rest, line.hungUp⟩ (announced (header, payload)).1.count.toNat
    generalize readBody : Line.read ⟨rest, line.hungUp⟩
      (announced (header, payload)).1.count.toNat = result at second
    obtain ⟨outcome, after⟩ := result
    rw [readPacket_of_header readHeader decoded readBody]
    rw [count] at second
    dsimp only at second
    cases second with
    | @done body others enough' arrived' =>
      have same' := (bytes_of_arrived arrived').symm.trans left
      obtain ⟨rfl, left'⟩ := List.append_inj same' enough'
      refine .taken (shape ▸ isFrame) ?_ left'
      rw [arrived, List.map_append, List.append_assoc]
      exact congrArg _ arrived'
    | @silent body others less arrived' =>
      have same' := (bytes_of_arrived arrived').symm.trans left
      obtain ⟨missing, some, whole, left'⟩ := exists_missing same' less
      have begun : passed ++ body ≠ [] := by
        intro none
        rw [List.append_eq_nil_iff.mp none |>.1] at enough
        cases enough
      refine .torn (passed ++ body) missing ?_ begun some ?_ left'
      · rw [List.append_assoc, whole, ← shape]
        exact isFrame
      · rw [arrived, List.map_append, List.append_assoc]
        exact congrArg _ arrived'
    | exhausted body less arrived' =>
      have all : bytes ⟨rest, line.hungUp⟩ = body := by rw [bytes, arrived', filterMap_byte]
      rw [all] at left
      have := congrArg List.length left
      rw [List.length_append] at this
      omega

/-! ## Waiting for an answer -/

/-- A silence came inside a packet: its `head` has been read, and its `tail` is still to come. -/
def Torn (line after : Line) : Prop :=
  ∃ skipped stream header payload head tail, Carries .native stream skipped ∧
    Packet.frame header payload .native = .ok (head ++ tail) ∧ head ≠ [] ∧ tail ≠ [] ∧
    line.arrivals = (stream ++ head).map Arrival.byte ++ .silence :: after.arrivals ∧
    tail <+: after.bytes

/-- What becomes of waiting for the answer to a transaction on a line that carries these packets. -/
inductive Fate (line : Line) (xid : UInt32) :
    List (Header × Bytes) → Except Error Bytes → Line → Prop where
  | answered (skipped : List (Header × Bytes)) {header : Header} {body : Bytes}
    {rest : List (Header × Bytes)} {after : Line}
    (others : ∀ packet ∈ skipped, packet.1.xid ≠ xid) (own : header.xid = xid)
    (left : Carries .native after.bytes rest) :
    Fate line xid (skipped ++ (header, body) :: rest)
      ((Error.check header.error).map (fun _ => body)) after
  | unanswered (skipped : List (Header × Bytes)) {rest : List (Header × Bytes)} {cause : Error}
    {after : Line} (others : ∀ packet ∈ skipped, packet.1.xid ≠ xid)
    (given : cause = .timeout ∨ cause = .commError) (left : Carries .native after.bytes rest) :
    Fate line xid (skipped ++ rest) (.error cause) after
  | torn (skipped : List (Header × Bytes)) {packet : Header × Bytes}
    {rest : List (Header × Bytes)} {after : Line}
    (others : ∀ packet ∈ skipped, packet.1.xid ≠ xid) (torn : Torn line after) :
    Fate line xid (skipped ++ packet :: rest) (.error .timeout) after

variable {xid : UInt32} {packets : List (Header × Bytes)}

theorem Fate.skip {header : Header} {payload framed : Bytes} {rest : List Arrival}
    {outcome : Except Error Bytes} {after : Line}
    (fate : Fate { line with arrivals := rest } xid packets outcome after)
    (isFrame : Packet.frame header payload .native = .ok framed)
    (arrived : line.arrivals = framed.map Arrival.byte ++ rest) (other : header.xid ≠ xid) :
    Fate line xid ((header, payload) :: packets) outcome after := by
  cases fate with
  | answered skipped others own left =>
    exact .answered ((header, payload) :: skipped) (List.forall_mem_cons.mpr ⟨other, others⟩) own
      left
  | unanswered skipped others given left =>
    exact .unanswered ((header, payload) :: skipped) (List.forall_mem_cons.mpr ⟨other, others⟩)
      given left
  | torn skipped others torn =>
    obtain ⟨between, stream, header', payload', head, tail, carries, isFrame', begun, missing,
      arrived', left⟩ := torn
    refine .torn ((header, payload) :: skipped) (List.forall_mem_cons.mpr ⟨other, others⟩)
      ⟨_, _, _, _, head, tail, .cons isFrame carries, isFrame', begun, missing, ?_, left⟩
    rw [arrived, show rest = _ from arrived']
    simp only [List.map_append, List.append_assoc]

theorem await_of_error {e : Error} (failed : line.readPacket = (.error e, line')) :
    line.await xid = (.error e, line') := by
  rw [await]
  split
  · next failed' =>
    rw [failed] at failed'
    cases failed'
    rfl
  · next read =>
    rw [failed] at read
    cases read

theorem await_of_packet {header : Header} {body : Bytes}
    (read : line.readPacket = (.ok (header, body), line')) :
    line.await xid =
      if header.xid = xid then ((Error.check header.error).map (fun _ => body), line')
      else line'.await xid := by
  rw [await]
  split
  · next failed =>
    rw [read] at failed
    cases failed
  · next read' =>
    rw [read] at read'
    cases read'
    rfl

/-- Packets of other transactions are passed over. -/
theorem await_skip {stale : Bytes} (carries : Carries .native stale packets)
    (others : ∀ packet ∈ packets, packet.1.xid ≠ xid) (rest : List Arrival) (hungUp : Bool) :
    Line.await ⟨stale.map Arrival.byte ++ rest, hungUp⟩ xid = Line.await ⟨rest, hungUp⟩ xid := by
  induction carries with
  | nil => rfl
  | cons isFrame _ ih =>
    obtain ⟨other, others⟩ := List.forall_mem_cons.mp others
    rw [List.map_append, List.append_assoc, await_of_packet (readPacket_arrived isFrame _ _)]
    exact (if_neg other).trans (ih others)

/-- **Whole packets are passed over until one has the transaction's number, or a silence comes.** -/
theorem await_fate (xid : UInt32) (carries : Carries .native line.bytes packets) :
    Fate line xid packets (line.await xid).1 (line.await xid).2 := by
  have none : ∀ packet ∈ ([] : List (Header × Bytes)), packet.1.xid ≠ xid :=
    fun _ mem => absurd mem List.not_mem_nil
  generalize carried : line.bytes = stream at carries
  -- On the packets of the line: what is left after one is read carries the others.
  induction carries generalizing line with
  | nil =>
    obtain ⟨cause, after, read, given, left⟩ := readPacket_of_empty carried
    rw [await_of_error read]
    exact .unanswered [] none given (left ▸ .nil)
  | @cons header payload framed stream packets isFrame carries ih =>
    have found := readPacket_found isFrame carried
    generalize read : line.readPacket = result at found
    obtain ⟨outcome, after⟩ := result
    dsimp only at found
    cases found with
    | @taken framed' rest isFrame' arrived left =>
      rw [await_of_packet read]
      by_cases own : header.xid = xid
      · rw [if_pos own]
        exact .answered [] none own (left ▸ carries)
      · rw [if_neg own]
        exact (ih left).skip isFrame' arrived own
    | silent arrived =>
      rw [await_of_error read]
      refine .unanswered [] none (.inl rfl) ?_
      rw [bytes_of_silence arrived, carried]
      exact .cons isFrame carries
    | torn head tail isFrame' begun missing arrived left =>
      rw [await_of_error read]
      exact .torn [] none ⟨[], [], header, payload, head, tail, .nil, isFrame', begun, missing,
        arrived, left ▸ List.prefix_append tail stream⟩

end Line

theorem exchange_sent {π : Type} {respond : Respond π} {c : Client π} {request : Request}
    {packet : Bytes}
    (framed : Packet.frame (.request c.xid 0) request.encode .native = .ok packet)
    (there : c.line.hungUp = false) :
    c.exchange respond request =
      (((respond packet c.line c.peer).1.await c.xid).1,
        ⟨nextXid c.xid, ((respond packet c.line c.peer).1.await c.xid).2,
          (respond packet c.line c.peer).2⟩) := by
  simp only [exchange, framed, there, Bool.false_eq_true, if_false]

end CardTerminal.Client
