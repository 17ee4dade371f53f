import CardTerminal.Driver.Minimal
import CardTerminal.Packet
import CardTerminal.Proofs.Gbp
import CardTerminal.Proofs.Reader.Parts
import CardTerminal.Proofs.Service.Run
import CardTerminal.Proofs.T0.Accounts
import CardTerminal.Proofs.T0.Lengths

/-!
How long the answers of a service are, and which requests may never be answered.

Most answers are a few short items. Only the answer of a card to a command is passed on as it is,
and how long that may be depends on the engine: T=0 and the readers' block protocol bound what one
command can bring, but T=1 puts blocks together without an end in sight, and a device that exchanges
whole commands answers what it likes. Such an answer may be longer than any packet
(`oversized_answer`).

Only a command for a card may go on for ever: a T=1 card may ask for more time again and again, and
a T=0 engine may be set to tolerate more null bytes than it can count.

Main statements: `length_of_process` and `endless_of_process`.
-/

namespace CardTerminal

open CardTerminal.Action

variable {σ : Type}

/-! ## Commands for a card -/

/-- The answers of the engine may be of any length. -/
def Engine.Unbounded : Engine → Prop
  | .t1 _ | .transparent | .escape => True
  | .t0 _ | .gbp _ | .memory _ => False

theorem Engine.length_of_transceive {driver : Driver σ} {n : Nat} {command : Bytes}
    {engine : Engine} {s : σ} {answer : Bytes}
    (answered : (engine.transceive driver n command s).outcome = some (.ok answer)) :
    answer.length ≤ 258 ∨ engine.Unbounded := by
  cases engine with
  | t0 t => exact .inl (T0.length_of_transceive _ t command s answered)
  | gbp g =>
    have answered := Option.some.inj answered
    exact .inl (Nat.le_trans (Gbp.length_of_transceive _ g command s answered) (by decide))
  | memory kind => cases answered
  | t1 t => exact .inr trivial
  | transparent => exact .inr trivial
  | escape => exact .inr trivial

/-- An exchange over the engine may go on for ever. -/
def Engine.Endless : Engine → Prop
  | .t1 _ => True
  | .t0 t => t.maxNulls.toNat + 1 = UInt32.size
  | .gbp _ | .memory _ | .transparent | .escape => False

theorem Engine.endless_of_transceive {driver : Driver σ} {n : Nat} {command : Bytes}
    {engine : Engine} {s : σ} (unended : (engine.transceive driver n command s).outcome = none) :
    engine.Endless := by
  cases engine with
  | t0 t =>
    show t.maxNulls.toNat + 1 = UInt32.size
    refine Decidable.byContradiction fun other => ?_
    have countable : t.maxNulls.toNat + 1 < UInt32.size :=
      Nat.lt_of_le_of_ne t.maxNulls.toNat_lt other
    exact T0.outcome_ne_none _ countable command s unended
  | t1 t => trivial
  | gbp g => cases unended
  | memory kind => cases unended
  | transparent | escape =>
    simp only [transceive, delegate] at unended
    split at unended <;> cases unended

/-- The slot talks to its card with an engine of this kind. -/
def Reader.Talks (r : Reader) (n : Nat) (kind : Engine → Prop) : Prop :=
  ∃ slot engine, r.slots[n]? = some slot ∧ slot.handle = some (.active engine) ∧ kind engine

theorem Reader.engine_of_exchange {driver : Driver σ} {n : Nat} {command : Bytes}
    {handle : Handle} {w w' : Reader × σ} {answer : Option Bytes}
    (exchanged : exchange driver n command handle w = .ok answer w') :
    ∃ engine, handle = .active engine ∧
      (engine.transceive driver n command w.2).outcome = answer.map .ok := by
  cases handle with
  | lost id => cases exchanged
  | active engine =>
    refine ⟨engine, rfl, ?_⟩
    simp only [exchange, Handle.transceive] at exchanged
    rcases outcome : (engine.transceive driver n command w.2).outcome with _ | fault | answer' <;>
      rw [outcome] at exchanged <;> cases exchanged <;> rfl

/-- A command that has not failed was given to an engine, and came to what this came to. -/
theorem Reader.engine_of_transceive {driver : Driver σ} {n : Nat} {command : Bytes}
    {w w' : Reader × σ} {answer : Option Bytes}
    (done : transceive driver n command w = .ok answer w') :
    ∃ s, w.1.Talks n fun engine =>
      (engine.transceive driver n command s).outcome = answer.map .ok := by
  obtain ⟨r, s⟩ := w
  obtain ⟨slot, u, looked, done⟩ := bind_eq_ok done
  obtain ⟨found, rfl⟩ := slot_eq_ok looked
  cases present : slot.status.present with
  | false =>
    rw [present] at done
    cases done
  | true =>
    rw [present] at done
    cases held : slot.handle with
    | none =>
      rw [held] at done
      cases done
    | some handle =>
      rw [held] at done
      obtain ⟨s', u, -, exchanged⟩ := awaited_eq_ok done
      obtain ⟨engine, rfl, outcome⟩ := engine_of_exchange exchanged
      exact ⟨s', slot, engine, found, held, outcome⟩

theorem Reader.length_of_transceive {driver : Driver σ} {n : Nat} {command : Bytes}
    {w w' : Reader × σ} {answer : Bytes}
    (answered : transceive driver n command w = .ok (some answer) w') :
    answer.length ≤ 258 ∨ w.1.Talks n Engine.Unbounded := by
  obtain ⟨s, slot, engine, found, held, outcome⟩ := engine_of_transceive answered
  exact (Engine.length_of_transceive outcome).imp_right fun unbounded =>
    ⟨slot, engine, found, held, unbounded⟩

theorem Reader.endless_of_transceive {driver : Driver σ} {n : Nat} {command : Bytes}
    {w w' : Reader × σ} (unended : transceive driver n command w = .ok none w') :
    w.1.Talks n Engine.Endless := by
  obtain ⟨s, slot, engine, found, held, outcome⟩ := engine_of_transceive unended
  exact ⟨slot, engine, found, held, Engine.endless_of_transceive outcome⟩

/-! ## Answers to requests -/

theorem Tlv.length_of_write {items : List Item} {bytes : Bytes}
    (written : write items = .ok bytes) : bytes.length ≤ 256 * items.length := by
  unfold write at written
  split at written
  · next small =>
    cases written
    rw [List.all_eq_true] at small
    -- A tag and a length of one byte each stand before a value.
    induction items with
    | nil => exact Nat.le_refl _
    | cons item items ih =>
      have first : item.value.length ≤ 254 := of_decide_eq_true (small item List.mem_cons_self)
      have rest := ih fun item mem => small item (List.mem_cons_of_mem _ mem)
      simp only [encode, List.flatMap_cons, List.length_append, Item.encode,
        List.length_cons] at rest ⊢
      omega
  · cases written

namespace Service

/-- An order carried out is answered with a few items, or it is a command for a card, and the card's
answer is passed on as it is, if there is one. -/
theorem perform_reply {driver : Driver σ} {peer : Peer} {order : Order} {w w' : World σ}
    {reply : Option Reply} (done : perform driver peer order w = .ok reply w') :
    (∃ items, reply = some (.items items) ∧ items.length ≤ 3) ∨
      ∃ n command answer w'', order = .transact n command ∧ reply = answer.map .raw ∧
        Reader.transceive driver n command (w.service.reader, w.device) = .ok answer w'' := by
  cases order with
  | lock slot kind =>
    rw [perform_lock] at done
    split at done
    · cases done
      exact .inl ⟨_, rfl, by simp⟩
    · cases done
  | unlock slot handle =>
    rw [perform_unlock] at done
    split at done
    · cases done
      exact .inl ⟨_, rfl, by simp⟩
    · cases done
  | transact n command =>
    obtain ⟨answer, u, worked, done⟩ := bind_eq_ok done
    cases done
    simp only [onReader] at worked
    split at worked
    · next v r s transceived =>
      cases worked
      exact .inr ⟨n, command, answer, _, rfl, rfl, transceived⟩
    · cases worked
  | reset slot =>
    obtain ⟨atr, u, -, done⟩ := bind_eq_ok done
    cases done
    exact .inl ⟨_, rfl, by cases atr <;> simp⟩
  | request slot timeout message =>
    obtain ⟨atr, u, -, done⟩ := bind_eq_ok done
    cases done
    exact .inl ⟨_, rfl, by cases atr <;> simp⟩
  | _ =>
    obtain ⟨v, u, -, done⟩ := bind_eq_ok done
    cases done
    exact .inl ⟨_, rfl, by simp⟩

theorem encodeReply_eq_ok {reply : Option Reply} {body : Option Bytes} {w w' : World σ}
    (encoded : encodeReply reply w = .ok body w') :
    w' = w ∧ (reply = none ∧ body = none ∨
      ∃ given bytes, reply = some given ∧ body = some bytes ∧ given.encode = .ok bytes) := by
  cases reply with
  | none =>
    cases encoded
    exact ⟨rfl, .inl ⟨rfl, rfl⟩⟩
  | some reply =>
    obtain ⟨bytes, u, written, same⟩ := bind_eq_ok encoded
    cases same
    unfold require at written
    split at written
    · next encodes =>
      cases written
      exact ⟨rfl, .inr ⟨reply, _, rfl, rfl, encodes⟩⟩
    · cases written

/-- A request that is not refused makes an order that is carried out; the answer is what the reply
to this is, and there is none as long as there is no reply. -/
theorem performed_of_process {driver : Driver σ} {peer : Peer} {payload : Bytes}
    {body : Option Bytes} {w w' : World σ} (done : process driver peer payload w = .ok body w') :
    ∃ order reply u, w.orderOf peer payload = .ok order ∧
      perform driver peer order w = .ok reply u ∧
      (reply = none ∧ body = none ∨ ∃ given bytes, reply = some given ∧ body = some bytes ∧
        given.encode = .ok bytes ∧ w' = publish u) := by
  cases ordered : w.orderOf peer payload with
  | error e =>
    cases decoded : Request.decode payload with
    | ok request =>
      rw [process_of_refused driver decoded ordered] at done
      cases done
    | error e' =>
      have refused : process driver peer payload w = .error e' w :=
        bind_of_error (by simp only [require, decoded])
      rw [refused] at done
      cases done
  | ok order =>
    rw [process_of_order driver ordered] at done
    unfold publishing at done
    split at done
    · next u worked =>
      cases done
      obtain ⟨reply, u', performed, encoded⟩ := bind_eq_ok worked
      obtain ⟨rfl, ⟨rfl, -⟩ | ⟨given, bytes, -, ⟨⟩, -⟩⟩ := encodeReply_eq_ok encoded
      exact ⟨order, none, _, rfl, performed, .inl ⟨rfl, rfl⟩⟩
    · next bytes u worked =>
      cases done
      obtain ⟨reply, u', performed, encoded⟩ := bind_eq_ok worked
      obtain ⟨rfl, ⟨-, ⟨⟩⟩ | ⟨given, bytes', rfl, ⟨⟩, written⟩⟩ := encodeReply_eq_ok encoded
      exact ⟨order, some given, _, rfl, performed, .inr ⟨given, bytes, rfl, rfl, written, rfl⟩⟩
    · cases done

/-- **An answer fits into a packet**, except perhaps the answer of a card to a command, over an
engine whose answers may be of any length. -/
theorem length_of_process {driver : Driver σ} {peer : Peer} {payload body : Bytes} {w w' : World σ}
    (answered : process driver peer payload w = .ok (some body) w') :
    body.length ≤ Packet.maxPayload ∨
      ∃ n command, w.orderOf peer payload = .ok (.transact n command) ∧
        w.service.reader.Talks n Engine.Unbounded := by
  obtain ⟨order, reply, u, ordered, performed, ⟨-, ⟨⟩⟩ | ⟨given, bytes, rfl, ⟨⟩, written, -⟩⟩ :=
    performed_of_process answered
  rcases perform_reply performed with
    ⟨items, same, few⟩ | ⟨n, command, answer, w'', rfl, same, transceived⟩
  · cases same
    have bound := Tlv.length_of_write written
    simp only [Packet.maxPayload]
    omega
  · obtain ⟨answer, rfl, rfl⟩ := Option.map_eq_some_iff.mp same.symm
    cases written
    rcases Reader.length_of_transceive transceived with short | unbounded
    · left
      simp only [Packet.maxPayload]
      omega
    · exact .inr ⟨n, command, ordered, unbounded⟩

/-- **Every request is over at some time**, except perhaps a command for a card, over an engine that
may go on for ever. -/
theorem endless_of_process {driver : Driver σ} {peer : Peer} {payload : Bytes} {w w' : World σ}
    (unended : process driver peer payload w = .ok none w') :
    ∃ n command, w.orderOf peer payload = .ok (.transact n command) ∧
      w.service.reader.Talks n Engine.Endless := by
  obtain ⟨order, reply, u, ordered, performed, ⟨rfl, -⟩ | ⟨given, bytes, -, ⟨⟩, -⟩⟩ :=
    performed_of_process unended
  rcases perform_reply performed with
    ⟨items, ⟨⟩, few⟩ | ⟨n, command, answer, w'', rfl, same, transceived⟩
  obtain rfl := Option.map_eq_none_iff.mp same.symm
  exact ⟨n, command, ordered, Reader.endless_of_transceive transceived⟩

/-- A driver of a device that exchanges whole commands, and answers them all in this way. -/
def talkative (answer : Bytes) : Driver Unit :=
  { Minimal.driver with
    setProtocol := fun _ _ => pure (some .transparent)
    transparent := fun _ _ => pure answer }

def talkativeStart : World Unit :=
  Service.start ⟨"Minimal reader", .displayAndKeypad, [.unknown 0x00, .unknown 0x32], none⟩ none []
    (fun _ => .ok ()) ()

/-- The service after a client has reset the card in the first slot. -/
def talkativeWorld (answer : Bytes) : World Unit :=
  respond (talkative answer) talkativeStart (.request ⟨0, 1000⟩ [0x10, 0x00])

theorem talkative_reachable (answer : Bytes) :
    Reachable (talkative answer) (talkativeWorld answer) :=
  .step (.start (show Reader.attach (talkative answer) () = .ok _ () from rfl) none [] _) _

theorem orderOf_reset : talkativeStart.orderOf ⟨0, 1000⟩ [0x10, 0x00] = .ok (.reset 0) := by
  have decoded : Request.decode [0x10, 0x00] = .ok ⟨.reset, 0x00, []⟩ := rfl
  have noItems : Tlv.parse .short [] = .ok [] := by simp [Tlv.parse, Tlv.readItems]
  simp only [World.orderOf, decoded, Order.decode, noItems]
  rfl

theorem process_talkative (answer : Bytes) :
    process (talkative answer) ⟨0, 1000⟩ [0x20, 0x00, 0x00, 0xB0, 0x00, 0x00, 0x00, 0x00, 0x00]
      (talkativeWorld answer) = .ok (some answer) (talkativeWorld answer) := by
  have reset : process (talkative answer) ⟨0, 1000⟩ [0x10, 0x00] talkativeStart = _ :=
    process_of_order (talkative answer) orderOf_reset
  rw [talkativeWorld, respond, after, reset]
  rfl

/-- **An answer may be longer than any packet**: a client asks a card for 65536 bytes, and gets them
with a status. -/
theorem oversized_answer : ∃ driver : Driver Unit, ∃ w peer payload body w',
    Reachable driver w ∧ process driver peer payload w = .ok (some body) w' ∧
      Packet.maxPayload < body.length := by
  refine ⟨_, _, _, _, _, _, talkative_reachable (List.replicate 65538 0x00),
    process_talkative _, ?_⟩
  rw [List.length_replicate]
  decide

end Service

end CardTerminal
