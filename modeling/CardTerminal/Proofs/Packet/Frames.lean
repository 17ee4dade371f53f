import CardTerminal.Packet
import CardTerminal.Proofs.Buffer

/-!
Packets in a stream, and the queue of a connection.

A stream carries packets if it is made of their frames, one after the other (`Carries`). What a
reader has of it is cut anywhere, in the middle of a payload or of a header. Taking a packet finds
it just when its frame is there as a whole (`take_of_frame`, `take_of_part`), and leaves the queue
as it is otherwise (`take_keeps`). Putting a packet appends its frame or nothing, whether or not the
queue is compacted for it (`put_cases`).
-/

namespace CardTerminal

namespace Header

theorem length_encode (h : Header) (order : ByteOrder) : (h.encode order).length = size := by
  cases order <;> rfl

theorem decode_of_short {order : ByteOrder} {bytes : Bytes} (short : bytes.length < size) :
    decode order bytes = none := by
  unfold decode
  split
  · simp only [List.length_cons, size] at short
    omega
  · rfl

end Header

namespace Packet

/-- A packet as its reader sees it: the header announces the length of the payload. -/
def announced (packet : Header × Bytes) : Header × Bytes :=
  ({ packet.1 with count := UInt16.ofNat packet.2.length }, packet.2)

/-- The stream is made of the frames of the packets. -/
inductive Carries (order : ByteOrder) : Bytes → List (Header × Bytes) → Prop where
  | nil : Carries order [] []
  | cons {header : Header} {payload bytes stream : Bytes} {packets : List (Header × Bytes)}
    (framed : frame header payload order = .ok bytes) (rest : Carries order stream packets) :
    Carries order (bytes ++ stream) ((header, payload) :: packets)

variable {order : ByteOrder} {header : Header} {payload bytes : Bytes} {ring : Buffer}

/-! ## Frames -/

theorem frame_eq_ok (framed : frame header payload order = .ok bytes) :
    payload.length ≤ maxPayload ∧
      bytes = (announced (header, payload)).1.encode order ++ payload := by
  unfold frame at framed
  split at framed
  · next short =>
    cases framed
    exact ⟨short, rfl⟩
  · cases framed

theorem length_of_frame (framed : frame header payload order = .ok bytes) :
    bytes.length = Header.size + payload.length := by
  obtain ⟨-, rfl⟩ := frame_eq_ok framed
  rw [List.length_append, Header.length_encode]

theorem toNat_count (header : Header) (short : payload.length ≤ maxPayload) :
    (announced (header, payload)).1.count.toNat = payload.length := by
  have small : payload.length < 65536 := Nat.lt_succ_of_le short
  show (UInt16.ofNat payload.length).toNat = payload.length
  rw [UInt16.toNat_ofNat']
  omega

/-! ## Taking -/

/-- **A packet whose frame is there is taken**, and what follows the frame is left. -/
theorem take_of_frame (framed : frame header payload order = .ok bytes) {more : Bytes}
    (there : ring.unread = bytes ++ more) (fits : bytes.length ≤ ring.size) :
    take ring order =
      (.ok (some (announced (header, payload))), ⟨ring.spent ++ bytes, more, ring.room⟩) := by
  have length := length_of_frame framed
  obtain ⟨short, shape⟩ := frame_eq_ok framed
  have count := toNat_count header short
  have seen : Header.decode order ring.unread = some (announced (header, payload)).1 := by
    rw [there, shape, List.append_assoc]
    exact Header.decode_encode _ _ _
  have avail : ring.unread.length = bytes.length + more.length := by
    rw [there, List.length_append]
  have cut : (ring.unread.drop Header.size).take payload.length = payload := by
    rw [there, shape, List.append_assoc, List.drop_left' (Header.length_encode _ _),
      List.take_left]
  have advance : ring.advanceHead (Header.size + payload.length) =
      .ok ⟨ring.spent ++ bytes, more, ring.room⟩ := by
    rw [← length, Buffer.advanceHead_of_le (by omega), there, List.take_left, List.drop_left]
  have large : ¬ ring.size < Header.size + payload.length := by omega
  have whole : ¬ ring.avail < Header.size + payload.length := by
    simp only [Buffer.avail]
    omega
  simp only [take, seen, count, if_neg large, if_neg whole, advance, cut]
  rfl

theorem take_of_part (framed : frame header payload order = .ok bytes) {missing : Bytes}
    (part : ring.unread ++ missing = bytes) (more : missing ≠ [])
    (fits : bytes.length ≤ ring.size) : take ring order = (.ok none, ring) := by
  have length := length_of_frame framed
  obtain ⟨short, shape⟩ := frame_eq_ok framed
  have count := toNat_count header short
  have left : 0 < missing.length := List.length_pos_iff.mpr more
  have total : ring.unread.length + missing.length = bytes.length := by
    rw [← part, List.length_append]
  by_cases begun : ring.unread.length < Header.size
  · simp only [take, Header.decode_of_short begun]
  · -- The header is there, and with it the length that is not.
    have seen : Header.decode order ring.unread = some (announced (header, payload)).1 := by
      have cut : ring.unread = bytes.take ring.unread.length := by
        rw [← part, List.take_left]
      rw [cut, shape, List.take_append, Header.length_encode,
        List.take_of_length_le (by rw [Header.length_encode]; omega)]
      exact Header.decode_encode _ _ _
    have large : ¬ ring.size < Header.size + payload.length := by omega
    have less : ring.avail < Header.size + payload.length := by
      simp only [Buffer.avail]
      omega
    simp only [take, seen, count, if_neg large, if_pos less]

theorem take_of_empty (empty : ring.unread = []) : take ring order = (.ok none, ring) := by
  simp only [take, empty, Header.decode]

/-- All that taking can do: find no whole packet, refuse one that is too large, or take one. -/
theorem take_cases (ring : Buffer) (order : ByteOrder) :
    take ring order = (.ok none, ring) ∨
      (∃ total, ring.size < total ∧ take ring order = (.error (.packetTooLarge total), ring)) ∨
      ∃ packet rest, take ring order = (.ok (some packet), rest) ∧
        rest.unread.length < ring.unread.length := by
  cases seen : Header.decode order ring.unread with
  | none => exact .inl (by simp only [take, seen])
  | some header =>
    by_cases large : ring.size < Header.size + header.count.toNat
    · exact .inr (.inl ⟨_, large, by simp only [take, seen, if_pos large]⟩)
    · by_cases less : ring.avail < Header.size + header.count.toNat
      · exact .inl (by simp only [take, seen, if_neg large, if_pos less])
      · have enough : Header.size + header.count.toNat ≤ ring.unread.length := Nat.le_of_not_lt less
        obtain ⟨rest, advance, left⟩ :
            ∃ rest, ring.advanceHead (Header.size + header.count.toNat) = .ok rest ∧
              rest.unread = ring.unread.drop (Header.size + header.count.toNat) :=
          ⟨_, Buffer.advanceHead_of_le enough, rfl⟩
        have pos : 0 < Header.size := by decide
        refine .inr (.inr ⟨(header, (ring.unread.drop Header.size).take header.count.toNat), rest,
          ?_, ?_⟩)
        · simp only [take, seen, if_neg large, if_neg less, advance]
        · rw [left, List.length_drop]
          omega

theorem take_shortens {rest : Buffer} {packet : Header × Bytes}
    (taken : take ring order = (.ok (some packet), rest)) :
    rest.unread.length < ring.unread.length := by
  rcases take_cases ring order with none | ⟨total, -, refused⟩ | ⟨packet', rest', taken', less⟩
  · rw [none] at taken
    cases taken
  · rw [refused] at taken
    cases taken
  · rw [taken'] at taken
    cases taken
    exact less

/-- **Whatever does not take a packet leaves the queue as it is.** -/
theorem take_keeps (ring : Buffer) (order : ByteOrder)
    (nothing : ∀ packet, (take ring order).1 ≠ .ok (some packet)) : (take ring order).2 = ring := by
  rcases take_cases ring order with none | ⟨total, -, refused⟩ | ⟨packet, rest, taken, -⟩
  · rw [none]
  · rw [refused]
  · rw [taken] at nothing
    exact absurd rfl (nothing packet)

/-! ## Putting -/

/-- **A packet is appended as a whole or not at all.** It is if it has a frame and the queue has
room for that, counting what has been read already. -/
theorem put_cases (ring : Buffer) (header : Header) (payload : Bytes) (order : ByteOrder) :
    (∃ bytes after, frame header payload order = .ok bytes ∧
      ring.unread.length + bytes.length ≤ ring.size ∧
      put ring header payload order = (.ok (), after) ∧
      after.unread = ring.unread ++ bytes ∧ after.size = ring.size) ∨
    ∃ e after, (maxPayload < payload.length ∨
        ring.size < ring.unread.length + (Header.size + payload.length)) ∧
      put ring header payload order = (.error e, after) ∧
      after.unread = ring.unread ∧ after.size = ring.size := by
  cases framed : frame header payload order with
  | error e =>
    refine .inr ⟨e, ring, .inl ?_, by simp only [put, framed], rfl, rfl⟩
    unfold frame at framed
    split at framed
    · cases framed
    · omega
  | ok bytes =>
    have length := length_of_frame framed
    -- Compacted or not, the queue has the same unread bytes, and all the room there can be if that
    -- is needed.
    obtain ⟨queue, chosen, unread, size, room⟩ : ∃ queue,
        (if ring.tailroom < bytes.length then ring.compact else ring) = queue ∧
        queue.unread = ring.unread ∧ queue.size = ring.size ∧
        (bytes.length ≤ queue.room.length ↔ ring.unread.length + bytes.length ≤ ring.size) := by
      by_cases tight : ring.tailroom < bytes.length
      · refine ⟨_, if_pos tight, rfl, ring.size_compact, ?_⟩
        simp only [Buffer.compact, Buffer.size, List.length_drop, List.length_append]
        omega
      · refine ⟨_, if_neg tight, rfl, rfl, ?_⟩
        simp only [Buffer.tailroom, Buffer.size] at tight ⊢
        omega
    by_cases fits : bytes.length ≤ queue.room.length
    · obtain ⟨after, appended, unread'⟩ :
          ∃ after, queue.put bytes = .ok after ∧ after.unread = queue.unread ++ bytes :=
        ⟨_, Buffer.put_of_fits fits, rfl⟩
      refine .inl ⟨bytes, after, rfl, room.mp fits, ?_, ?_, ?_⟩
      · simp only [put, framed, chosen, appended]
      · rw [unread', unread]
      · rw [Buffer.size_put appended, size]
    · refine .inr ⟨.insufficientSpace, queue, .inr ?_, ?_, unread, size⟩
      · omega
      · simp only [put, framed, chosen, Buffer.put, if_neg fits]

end Packet

end CardTerminal
