import CardTerminal.Proofs.Block
import CardTerminal.Proofs.Exchange
import CardTerminal.Proofs.T1.Card

/-!
What the host hears over a wire.

Receiving takes from what arrived and touches nothing else. A block that the host receives is read
from the part of it that `Wire.heard` names, whether the channel carries blocks or characters; and
since damage is detected, such a block is the one that the card sent.
-/

namespace CardTerminal.T1

open CardTerminal.Action

/-! ## Kinds of blocks -/

theorem kind_information (ns more : Bool) (info : Bytes) :
    (Block.information ns more info).kind = .information ns more := by
  cases ns <;> cases more <;> simp [Block.information, Block.kind, Block.bit, Nat.testBit]

theorem kind_receipt (nr : Bool) (flaw : Block.Flaw) :
    (Block.receipt nr flaw).kind = .receipt nr := by
  cases nr <;> cases flaw <;> rfl

theorem Sent.kind_frame (sent : Sent) :
    sent.frame.1.kind = .information sent.number sent.more :=
  kind_information ..

/-! ## Receiving -/

namespace Wire

variable {μ : Type} {wire : Wire} {app : Application μ} {nad dad : UInt8} {cs : Checksum}

theorem receives :
    (wire.toLink app nad cs).Receives fun s s' : State μ =>
      (s'.card, s'.sent) = (s.card, s.sent) where
  recv dad room timeout := by
    intro s
    simp only [after, toLink]
    split <;> rfl

theorem receive_keeps (t : T1) (timeout : Nat) :
    Keeps (fun s : State μ => (s.card, s.sent)) (t.receive (wire.toLink app nad cs) timeout) :=
  receive_moves receives (Keeps.path _) t timeout

theorem link_receive_eq {room timeout : Nat} {s s' : State μ} {bytes : Bytes}
    (h : (wire.toLink app nad cs).receive dad room timeout s = .ok bytes s') :
    bytes = s.incoming.take room ∧ s'.incoming = s.incoming.drop room := by
  simp only [Link.receive, toLink] at h
  split at h
  · next received =>
    split at received
    · cases received
    · cases received
      cases h
      exact ⟨by rw [List.take_take, Nat.min_self], rfl⟩
  · cases h

theorem gather_eq {timeout wanted : Nat} {s s' : State μ} {bytes : Bytes}
    (h : (wire.toLink app nad cs).gather dad timeout wanted s = (bytes, .ok () s')) :
    bytes = s.incoming.take wanted ∧ bytes.length = wanted ∧
      s'.incoming = s.incoming.drop wanted := by
  fun_induction Link.gather (wire.toLink app nad cs) dad timeout wanted s generalizing bytes with
  | case1 s =>
    cases h
    simp
  | case2 wanted s _ e t failed => cases h
  | case3 wanted s _ t nothing => cases h
  | case4 wanted s _ b bs t received more ending rest ih =>
    cases h
    obtain ⟨more_eq, length, incoming⟩ := ih rest
    obtain ⟨first, left⟩ := link_receive_eq received
    have taken : bs.length + 1 = min wanted s.incoming.length := by
      rw [← List.length_cons, first, List.length_take]
    -- Nothing arrives after a first part that is too short, so the first part is everything.
    have enough : bs.length + 1 = wanted := by
      have := congrArg List.length more_eq
      rw [length, left, List.length_take, List.length_drop] at this
      omega
    have none : more = [] := by
      rw [more_eq, enough, Nat.sub_self, List.take_zero]
    subst none
    refine ⟨by simpa using first, by simpa using enough, ?_⟩
    rw [incoming, left, enough, Nat.sub_self, List.drop_zero]

theorem receiveExactly_eq {timeout wanted : Nat} {s s' : State μ} {bytes : Bytes}
    (h : (wire.toLink app nad cs).receiveExactly dad timeout wanted s = .ok bytes s') :
    bytes = s.incoming.take wanted ∧ bytes.length = wanted ∧
      s'.incoming = s.incoming.drop wanted := by
  unfold Link.receiveExactly at h
  split at h
  · next gathered =>
    cases h
    exact gather_eq gathered
  · cases h

theorem block_receive_eq {code : Checksum} {timeout : Nat} {whole : Bool} {s s' : State μ}
    {bytes : Bytes}
    (h : Block.receive (wire.toLink app nad cs) dad code timeout whole s = .ok bytes s') :
    bytes = heard whole code s.incoming := by
  unfold Block.receive at h
  unfold heard
  split at h
  · next whole =>
    simp only [whole, if_true]
    exact (link_receive_eq h).1
  · -- The header tells how much follows it, in its third byte.
    next single =>
    simp only [single]
    obtain ⟨header, t, first, h⟩ := bind_eq_ok h
    obtain ⟨header_eq, length, incoming⟩ := receiveExactly_eq first
    have third : header.getD 2 0 = s.incoming.getD 2 0 := by
      rw [header_eq]
      simp [List.getD_eq_getElem?_getD, Block.headerLength]
    simp only [third] at h
    split at h
    · obtain ⟨_, _, refused, -⟩ := bind_eq_ok h
      cases refused
    · obtain ⟨rest, u, second, h⟩ := bind_eq_ok h
      obtain ⟨rest_eq, -, -⟩ := receiveExactly_eq second
      cases h
      rw [header_eq, rest_eq, incoming]
      exact (List.take_add ..).symm

theorem receive_eq {t : T1} {timeout : Nat} {s s' : State μ} {block : Block}
    (h : t.receive (wire.toLink app nad cs) timeout s = .ok block s') :
    Block.decode (Block.replyNad t.nad) t.checksum (heard t.blockOriented t.checksum s.incoming) =
      .ok block := by
  obtain ⟨bytes, u, received, h⟩ := bind_eq_ok h
  rw [← block_receive_eq received]
  cases decoded : Block.decode (Block.replyNad t.nad) t.checksum bytes with
  | error e =>
    simp only [decoded] at h
    cases h
  | ok found =>
    simp only [decoded] at h
    split at h
    · cases h
    · cases h
      rfl

/-! ## Carrying a block -/

theorem carry_sent (bytes : Bytes) (s : State μ) :
    (wire.carry app nad cs bytes s).sent = s.sent ++ [bytes] := by
  unfold carry
  split <;> rfl

theorem path_sent : Path fun s s' : State μ => s.sent <+: s'.sent :=
  ⟨fun _ => List.prefix_refl _, List.IsPrefix.trans⟩

theorem moves_sent (wire : Wire) (app : Application μ) (nad : UInt8) (cs : Checksum) :
    (wire.toLink app nad cs).Moves fun s s' : State μ => s.sent <+: s'.sent where
  send dad bytes := by
    intro s
    exact ⟨[bytes], (carry_sent bytes s).symm⟩
  recv dad room timeout := by
    intro s
    simp only [after, toLink]
    split <;> exact List.prefix_refl _

theorem heard_encode (whole : Bool) {block : Block} (fits : block.info.length ≤ Block.maxInfo) :
    heard whole cs (block.encode nad cs) = block.encode nad cs := by
  have third := Block.length_byte nad cs fits
  unfold heard
  split
  · apply List.take_of_length_le
    rw [Block.length_encode]
    omega
  · apply List.take_of_length_le
    exact Nat.le_of_eq (by rw [Block.length_encode, third])

theorem decode_heard_nil (whole : Bool) :
    Block.decode nad cs (heard whole cs []) = .error (.protocolError .shortBlock) := by
  cases whole <;> simp [heard, Block.decode]

/-- The block was read as it was written, or could not be read. -/
def Read (block : Block) (read : Except Error Block) : Prop :=
  read = .ok block ∨ ∃ e, read = .error e

theorem read_there {whole : Bool} (detects : wire.Detects nad cs whole) {n : Nat} {frame : Frame}
    {arrived : Bytes}
    (delivered : (wire.there n).deliver (frame.1.encode nad cs) = some arrived) :
    Read frame.1 (Block.decode nad cs arrived) := by
  cases fate : wire.there n with
  | intact =>
    rw [fate] at delivered
    cases delivered
    exact .inl (Block.decode_encode nad cs frame.1 frame.2)
  | damaged bytes =>
    rw [fate] at delivered
    cases delivered
    exact .inr (detects.there n arrived fate)
  | lost =>
    rw [fate] at delivered
    cases delivered

theorem read_back {whole : Bool} (detects : wire.Detects nad cs whole) (n : Nat) (frame : Frame) :
    Read frame.1 (Block.decode (Block.replyNad nad) cs (heard whole cs
      (((wire.back n).deliver (frame.1.encode (Block.replyNad nad) cs)).getD []))) := by
  cases fate : wire.back n with
  | intact =>
    simp only [Fate.deliver, Option.getD_some]
    rw [heard_encode whole frame.2]
    exact .inl (Block.decode_encode _ cs frame.1 frame.2)
  | damaged bytes => exact .inr (detects.back n bytes fate)
  | lost => exact .inr ⟨_, decode_heard_nil whole⟩

/-- The card reads the host's block or nothing, if anything arrives at all, and then the host reads
the card's answer or nothing. -/
theorem carry_cases (app : Application μ) {whole : Bool} (detects : wire.Detects nad cs whole)
    (frame : Frame) (s : State μ) :
    let s' := wire.carry app nad cs (frame.1.encode nad cs) s
    let read := Block.decode (Block.replyNad nad) cs (heard whole cs s'.incoming)
    (s'.card = s.card ∧ ∃ e, read = .error e) ∨
      ∃ received, Read frame.1 received ∧ s'.card = (s.card.react app received).2 ∧
        Read (s.card.react app received).1.1 read := by
  intro s' read
  cases delivered : (wire.there s.sent.length).deliver (frame.1.encode nad cs) with
  | none =>
    left
    have : s' = { s with sent := s.sent ++ [frame.1.encode nad cs], incoming := [] } := by
      simp only [s', carry, delivered]
    exact ⟨by rw [this], _, by simp only [read, this]; exact decode_heard_nil whole⟩
  | some arrived =>
    right
    refine ⟨Block.decode nad cs arrived, read_there detects delivered, ?_, ?_⟩
    · simp only [s', carry, delivered]
    · simp only [read, s', carry, delivered]
      exact read_back detects s.sent.length _

end Wire

end CardTerminal.T1
