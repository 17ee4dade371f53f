import CardTerminal.Proofs.Packet.Frames

/-!
Reading a stream of packets in chunks.

A receiver reads what has come into a queue, and after each read takes all packets that are there
as a whole (`Receiver.read`). How the stream is cut into chunks is up to the source: each read gets
some bytes or none, or fails. At any time the receiver is at a position in the list of packets
(`Receiver.At`): those before it were taken, those after it are what the queue holds together with
what is still to come, and the queue holds less than the next one. So there is always room to read
more, as no packet is larger than the queue.

Main statement: `framing_independent_of_chunks`.
-/

namespace CardTerminal.Packet

variable {order : ByteOrder}

/-- Take packets until none is there as a whole. Gives the packets, the reason if the next one was
refused, and the queue that is left. -/
def takeAll (order : ByteOrder) (ring : Buffer) :
    List (Header × Bytes) × Option Error × Buffer :=
  match _taken : take ring order with
  | (.ok none, ring) => ([], none, ring)
  | (.error e, ring) => ([], some e, ring)
  | (.ok (some packet), ring) =>
    let (packets, refusal, ring) := takeAll order ring
    (packet :: packets, refusal, ring)
termination_by ring.unread.length
decreasing_by exact take_shortens _taken

theorem takeAll_of_none {ring : Buffer} (nothing : take ring order = (.ok none, ring)) :
    takeAll order ring = ([], none, ring) := by
  rw [takeAll]
  split
  · next queue found =>
    rw [nothing] at found
    cases found
    rfl
  · next found =>
    rw [nothing] at found
    cases found
  · next found =>
    rw [nothing] at found
    cases found

theorem takeAll_of_some {ring rest : Buffer} {packet : Header × Bytes}
    (taken : take ring order = (.ok (some packet), rest)) :
    takeAll order ring =
      (packet :: (takeAll order rest).1, (takeAll order rest).2.1, (takeAll order rest).2.2) := by
  conv => lhs; rw [takeAll]
  split
  · next found =>
    rw [taken] at found
    cases found
  · next found =>
    rw [taken] at found
    cases found
  · next packet' rest' found =>
    rw [taken] at found
    cases found
    rfl

theorem Carries.payload_le {stream : Bytes} {packets : List (Header × Bytes)}
    (carries : Carries order stream packets) :
    ∀ packet ∈ packets, packet.2.length ≤ maxPayload := by
  induction carries with
  | nil =>
    intro packet mem
    cases mem
  | cons framed rest ih =>
    intro packet mem
    rcases List.mem_cons.mp mem with rfl | mem
    · exact (frame_eq_ok framed).1
    · exact ih packet mem

/-- What is there as a whole is taken, packet after packet, and the rest stays for later. -/
theorem takeAll_carries {packets : List (Header × Bytes)} {ring : Buffer} {coming : Bytes}
    (carries : Carries order (ring.unread ++ coming) packets)
    (fit : ∀ packet ∈ packets, Header.size + packet.2.length ≤ ring.size) :
    ∃ n after, takeAll order ring = ((packets.take n).map announced, none, after) ∧
      after.size = ring.size ∧ Carries order (after.unread ++ coming) (packets.drop n) ∧
      ∀ next ∈ (packets.drop n).head?, after.unread.length < Header.size + next.2.length := by
  -- On the packets: taking the first leaves a queue that carries the others, so the queue varies.
  induction packets generalizing ring with
  | nil =>
    have nothing : ring.unread = [] := by
      generalize whole : ring.unread ++ coming = stream at carries
      cases carries
      exact (List.append_eq_nil_iff.mp whole).1
    refine ⟨0, ring, takeAll_of_none (take_of_empty nothing), rfl, carries, ?_⟩
    intro next found
    cases found
  | cons packet packets ih =>
    obtain ⟨header, payload⟩ := packet
    generalize whole : ring.unread ++ coming = stream at carries
    cases carries with
    | @cons _ _ bytes stream _ framed rest =>
    have length := length_of_frame framed
    have fits : bytes.length ≤ ring.size := length ▸ fit _ List.mem_cons_self
    by_cases there : bytes.length ≤ ring.unread.length
    · -- The first frame is there, with the beginning of the next ones behind it.
      obtain ⟨more, cut, left⟩ : ∃ more, ring.unread = bytes ++ more ∧ more ++ coming = stream := by
        rcases List.append_eq_append_iff.mp whole with ⟨as, cut, left⟩ | ⟨as, cut, left⟩
        · have none : as = [] := by
            rw [cut, List.length_append] at there
            exact List.eq_nil_of_length_eq_zero (by omega)
          subst none
          exact ⟨[], by rw [cut, List.append_nil, List.append_nil], left⟩
        · exact ⟨as, cut, left.symm⟩
      have taken := take_of_frame framed cut fits
      obtain ⟨next, nextIs⟩ : ∃ next : Buffer, next = ⟨ring.spent ++ bytes, more, ring.room⟩ :=
        ⟨_, rfl⟩
      have size : next.size = ring.size := by
        simp only [nextIs, Buffer.size, cut, List.length_append]
        omega
      have later : Carries order (next.unread ++ coming) packets := by
        rw [nextIs, left]
        exact rest
      obtain ⟨n, after, all, afterSize, later, short⟩ := ih later fun packet mem =>
        size ▸ fit packet (List.mem_cons_of_mem _ mem)
      refine ⟨n + 1, after, ?_, afterSize.trans size, later, short⟩
      rw [takeAll_of_some taken, ← nextIs, all]
      rfl
    · -- A part of the first frame is still to come: nothing is taken, and all packets are left.
      obtain ⟨missing, part⟩ : ∃ missing, ring.unread ++ missing = bytes := by
        rcases List.append_eq_append_iff.mp whole with ⟨as, cut, -⟩ | ⟨as, cut, -⟩
        · exact ⟨as, cut.symm⟩
        · rw [cut, List.length_append] at there
          omega
      have more : missing ≠ [] := by
        intro none
        rw [none, List.append_nil] at part
        rw [part] at there
        omega
      refine ⟨0, ring, takeAll_of_none (take_of_part framed part more fits), rfl, ?_, ?_⟩
      · rw [whole]
        exact .cons framed rest
      · intro next found
        cases found
        rw [← length]
        exact Nat.lt_of_not_le there

/-! ## Receivers -/

/-- A reader of a stream of packets. -/
structure Receiver where
  ring : Buffer
  /-- What has been sent and not been read. -/
  coming : Bytes
  /-- What has been taken. -/
  packets : List (Header × Bytes)
  /-- Why a packet was refused, if one was. -/
  refusal : Option Error

namespace Receiver

/-- Read once, from a source that gives so many bytes at most or fails, and take what there is. -/
def read (order : ByteOrder) (r : Receiver) (chunk : Except IoFailure Nat) : Receiver :=
  let (report, ring) := r.ring.readFrom (chunk.map r.coming.take)
  let (packets, refusal, ring) := takeAll order ring
  ⟨ring, r.coming.drop (report.toOption.getD 0), r.packets ++ packets, r.refusal.or refusal⟩

def readAll (order : ByteOrder) : Receiver → List (Except IoFailure Nat) → Receiver
  | r, [] => r
  | r, chunk :: chunks => readAll order (r.read order chunk) chunks

/-- The receiver has taken `n` of these packets. The next ones are to come or in the queue, and the
first of them is not there as a whole. -/
structure At (order : ByteOrder) (packets : List (Header × Bytes)) (size n : Nat) (r : Receiver) :
    Prop where
  size : r.ring.size = size
  taken : r.packets = (packets.take n).map announced
  left : Carries order (r.ring.unread ++ r.coming) (packets.drop n)
  short : ∀ next ∈ (packets.drop n).head?, r.ring.unread.length < Header.size + next.2.length
  accepted : r.refusal = none

variable {packets : List (Header × Bytes)} {size n : Nat} {r : Receiver}

/-- **There is always room to read into.** -/
theorem At.roomy (position : At order packets size n r) (large : Header.size ≤ size)
    (fit : ∀ packet ∈ packets, Header.size + packet.2.length ≤ size) :
    r.ring.unread.length < r.ring.size := by
  rw [position.size]
  -- A queue without a next packet is empty; otherwise it holds less than that packet, which fits.
  cases next : (packets.drop n).head? with
  | none =>
    have left := position.left
    rw [List.head?_eq_none_iff.mp next] at left
    generalize whole : r.ring.unread ++ r.coming = stream at left
    cases left
    rw [(List.append_eq_nil_iff.mp whole).1]
    exact Nat.lt_of_lt_of_le (by decide) large
  | some packet =>
    have mem : packet ∈ packets := List.mem_of_mem_drop (List.mem_of_mem_head? next)
    exact Nat.lt_of_lt_of_le (position.short packet next) (fit packet mem)

theorem At.readFrom (position : At order packets size n r) (large : Header.size ≤ size)
    (fit : ∀ packet ∈ packets, Header.size + packet.2.length ≤ size)
    (chunk : Except IoFailure Nat) :
    let (report, ring) := r.ring.readFrom (chunk.map r.coming.take)
    ring.unread ++ r.coming.drop (report.toOption.getD 0) = r.ring.unread ++ r.coming := by
  have roomy := position.roomy large fit
  cases chunk with
  | error failure =>
    have failed := r.ring.readFrom_error failure roomy
    simp only [Except.map, failed]
    rfl
  | ok limit =>
    obtain ⟨got, after, done, few, -, unread⟩ :=
      r.ring.readFrom_ok (r.coming.take limit) roomy
    rw [List.length_take] at few
    have part : (r.coming.take limit).take got = r.coming.take got := by
      rw [List.take_take, Nat.min_eq_left (by omega)]
    simp only [Except.map, done]
    rw [unread, part, List.append_assoc]
    exact congrArg (r.ring.unread ++ ·) (List.take_append_drop got r.coming)

theorem At.read (position : At order packets size n r) (large : Header.size ≤ size)
    (fit : ∀ packet ∈ packets, Header.size + packet.2.length ≤ size)
    (chunk : Except IoFailure Nat) : ∃ m, At order packets size m (r.read order chunk) := by
  have kept := position.readFrom large fit chunk
  have sameSize := r.ring.size_readFrom (chunk.map r.coming.take)
  unfold Receiver.read
  -- From here on only what a read keeps counts, not what it did.
  revert kept sameSize
  generalize r.ring.readFrom (chunk.map r.coming.take) = result
  obtain ⟨report, ring⟩ := result
  intro kept sameSize
  have sized : ring.size = size := sameSize.trans position.size
  obtain ⟨m, after, all, afterSize, left, short⟩ := takeAll_carries (kept ▸ position.left)
    fun packet mem => sized ▸ fit packet (List.mem_of_mem_drop mem)
  refine ⟨n + m, ?_⟩
  dsimp only
  rw [all]
  exact {
    size := afterSize.trans sized
    taken := by
      show r.packets ++ _ = _
      rw [position.taken, ← List.map_append, ← List.take_add]
    left := by
      rw [← List.drop_drop]
      exact left
    short := by
      rw [← List.drop_drop]
      exact short
    accepted := by
      show r.refusal.or none = none
      rw [position.accepted]
      rfl }

theorem At.readAll (position : At order packets size n r) (large : Header.size ≤ size)
    (fit : ∀ packet ∈ packets, Header.size + packet.2.length ≤ size)
    (chunks : List (Except IoFailure Nat)) :
    ∃ m, At order packets size m (r.readAll order chunks) := by
  -- On the chunks. A position is all that the next read needs, as there is room at each.
  induction chunks generalizing n r with
  | nil => exact ⟨n, position⟩
  | cons chunk chunks ih =>
    obtain ⟨m, position'⟩ := position.read large fit chunk
    exact ih position'

/-- When everything has been read, everything has been taken. -/
theorem At.complete (position : At order packets size n r) (drained : r.coming = []) :
    r.packets = packets.map announced ∧ r.ring.unread = [] := by
  have left := position.left
  have short := position.short
  rw [drained, List.append_nil] at left
  generalize rest : packets.drop n = later at left short
  generalize held : r.ring.unread = stream at left short
  cases left with
  | nil =>
    refine ⟨?_, rfl⟩
    rw [position.taken, List.take_of_length_le (List.drop_eq_nil_iff.mp rest)]
  | @cons header payload bytes stream packets framed others =>
    have length := length_of_frame framed
    -- A packet that is left would be in the queue as a whole.
    have less := short (header, payload) rfl
    rw [List.length_append, length] at less
    exact absurd less (Nat.not_lt.mpr (Nat.le_add_right _ _))

end Receiver

/-- **Framing does not depend on chunks.** However a stream of packets that fit the queue is cut
when it is read, no packet is refused, and at any time the packets taken are the first ones of the
stream, each with its number, destination and error code, its payload and the length of that; what
is left of the stream is in the queue or still to come, and the next packet is not there as a whole.
So all have been taken when all has been read. There is room before every read: a source that has
something to give is read from, and a failure is the source's own. Beyond that, taking no packet
leaves the queue as it is, a packet that cannot be put leaves its unread bytes as they are, and one
that can is put as one frame behind them. -/
theorem framing_independent_of_chunks (order : ByteOrder) {ring : Buffer} (empty : ring.unread = [])
    (large : Header.size ≤ ring.size) {packets : List (Header × Bytes)} {stream : Bytes}
    (carries : Carries order stream packets)
    (fit : ∀ packet ∈ packets, Header.size + packet.2.length ≤ ring.size) :
    (∀ chunks : List (Except IoFailure Nat),
      let r := Receiver.readAll order ⟨ring, stream, [], none⟩ chunks
      r.refusal = none ∧
      (∃ n, r.packets = (packets.take n).map announced ∧
        Carries order (r.ring.unread ++ r.coming) (packets.drop n) ∧
        ∀ next ∈ (packets.drop n).head?, r.ring.unread.length < Header.size + next.2.length) ∧
      (∀ packet ∈ r.packets, packet.1.count.toNat = packet.2.length) ∧
      (r.coming = [] → r.packets = packets.map announced ∧ r.ring.unread = []) ∧
      (∀ data, ∃ got, (r.ring.readFrom (.ok data)).1 = .ok got ∧ (data ≠ [] → 0 < got)) ∧
      ∀ failure, (r.ring.readFrom (.error failure)).1 = .error failure) ∧
    ∀ queue : Buffer,
      ((∀ packet, (take queue order).1 ≠ .ok (some packet)) → (take queue order).2 = queue) ∧
      ∀ header payload,
        (∀ e, (put queue header payload order).1 = .error e →
          (put queue header payload order).2.unread = queue.unread) ∧
        ((put queue header payload order).1 = .ok () → ∃ bytes,
          frame header payload order = .ok bytes ∧
          (put queue header payload order).2.unread = queue.unread ++ bytes) := by
  refine ⟨fun chunks => ?_, fun queue => ⟨take_keeps queue order, fun header payload => ?_⟩⟩
  · have start : Receiver.At order packets ring.size 0 ⟨ring, stream, [], none⟩ := by
      refine ⟨rfl, rfl, ?_, ?_, rfl⟩
      · rw [empty]
        exact carries
      · intro next _
        rw [empty]
        exact Nat.lt_of_lt_of_le (by decide) (Nat.le_add_right _ _)
    obtain ⟨n, position⟩ := start.readAll large fit chunks
    have roomy := position.roomy large fit
    refine ⟨position.accepted, ⟨n, position.taken, position.left, position.short⟩, ?_,
      position.complete, fun data => ?_, fun failure => ?_⟩
    · intro packet mem
      rw [position.taken] at mem
      obtain ⟨sent, among, rfl⟩ := List.mem_map.mp mem
      exact toNat_count _ (carries.payload_le sent (List.mem_of_mem_take among))
    · obtain ⟨got, after, done, -, some, -⟩ := Buffer.readFrom_ok _ data roomy
      exact ⟨got, by rw [done], some⟩
    · rw [Buffer.readFrom_error _ failure roomy]
  · rcases put_cases queue header payload order with
      ⟨bytes, after, framed, -, done, unread, -⟩ | ⟨e, after, -, failed, unread, -⟩
    · rw [done]
      exact ⟨fun e failed => (by cases failed), fun _ => ⟨bytes, framed, unread⟩⟩
    · rw [failed]
      exact ⟨fun _ _ => unread, fun done => (by cases done)⟩

/-- A queue with room for a packet of two bytes, some of it used before. -/
def narrowRing : Buffer :=
  ⟨[7, 7, 7], [], List.replicate 11 0⟩

def dialogue : List (Header × Bytes) :=
  [(.request 1 0, [0x10, 0x00]), (.reply 1 (-6) 0, [])]

def dialogueStream : Bytes :=
  [1, 0, 0, 0, 0, 0, 0, 0, 0, 0, 2, 0, 0x10, 0x00] ++
    ([1, 0, 0, 0, 1, 0, 0, 0, 0xFA, 0xFF, 0, 0] ++ [])

/-- Reads that end within headers, and one in between that finds nothing. -/
def pieces : List (Except IoFailure Nat) :=
  [.ok 5, .error .wouldBlock, .ok 12, .ok 4, .ok 100]

/-- The request and its answer are taken from the queue, which has room for one of them only. -/
theorem framing_independent_of_chunks_pieces :
    let r := Receiver.readAll .native ⟨narrowRing, dialogueStream, [], none⟩ pieces
    narrowRing.unread = [] ∧ Header.size ≤ narrowRing.size ∧
      Carries .native dialogueStream dialogue ∧
      (∀ packet ∈ dialogue, Header.size + packet.2.length ≤ narrowRing.size) ∧
      r.packets = [(.request 1 2, [0x10, 0x00]), (.reply 1 (-6) 0, [])] ∧ r.ring.unread = [] := by
  intro r
  have carries : Carries .native dialogueStream dialogue := .cons rfl (.cons rfl .nil)
  have fit : ∀ packet ∈ dialogue, Header.size + packet.2.length ≤ narrowRing.size := by decide
  obtain ⟨received, -⟩ := framing_independent_of_chunks .native rfl (by decide) carries fit
  obtain ⟨-, -, -, complete, -⟩ := received pieces
  exact ⟨rfl, by decide, carries, fit, complete (by decide +kernel)⟩

end CardTerminal.Packet
