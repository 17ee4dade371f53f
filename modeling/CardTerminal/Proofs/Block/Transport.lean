import CardTerminal.Proofs.Block
import CardTerminal.Proofs.Exchange

/-!
Blocks on their way to the host.

A channel of blocks gives a block at once. From a channel of characters the host takes the header,
which says how much more it has to take. A block that was written says that of itself
(`length_byte`), so the host takes the block and nothing of what comes behind it, whatever the
chunks are in which the characters come (`receive_delivered`).

Main statement: `transport_lossless`.
-/

namespace CardTerminal

open CardTerminal.Action

/-! ## Any division into chunks -/

/-- A channel on which chunks wait. A call gives the next one, or as much of it as there is room
for; the rest is the next chunk then. -/
def Link.chunked : Link (List Bytes) where
  send _ _ := pure ()
  recv _ room _ := fun chunks =>
    match chunks with
    | [] => .error .timeout []
    | chunk :: chunks =>
      if chunk.length ≤ room then .ok chunk chunks
      else .ok (chunk.take room) (chunk.drop room :: chunks)
  patience := 0

/-- The chunks make up these bytes, and none of them is empty. -/
def Link.Waiting (bytes : Bytes) (chunks : List Bytes) : Prop :=
  chunks.flatten = bytes ∧ ∀ chunk ∈ chunks, chunk ≠ []

theorem Link.delivers_chunked (dad : UInt8) (timeout : Nat) :
    Link.chunked.Delivers dad timeout Link.Waiting where
  recv := by
    intro bytes chunks room waiting some positive
    obtain ⟨rfl, filled⟩ := waiting
    cases chunks with
    | nil => exact absurd rfl some
    | cons chunk chunks =>
      have given : chunk ≠ [] := filled chunk List.mem_cons_self
      have others : ∀ c ∈ chunks, c ≠ [] := fun c mem => filled c (List.mem_cons_of_mem _ mem)
      by_cases fits : chunk.length ≤ room
      · exact ⟨chunk, chunks.flatten, chunks, given, fits, List.flatten_cons.symm, if_pos fits, rfl,
          others⟩
      · refine ⟨chunk.take room, chunk.drop room ++ chunks.flatten, chunk.drop room :: chunks, ?_,
          List.length_take_le .., ?_, if_neg fits, List.flatten_cons, ?_⟩
        · rw [← List.length_pos_iff, List.length_take]
          omega
        · rw [← List.append_assoc, List.take_append_drop, List.flatten_cons]
        · intro c mem
          rcases List.mem_cons.mp mem with rfl | mem
          · rw [← List.length_pos_iff, List.length_drop]
            omega
          · exact others c mem

/-! ## One block -/

namespace Block

variable {σ : Type} {link : Link σ} {dad nad : UInt8} {cs : Checksum} {timeout : Nat}
  {block : Block}

theorem encode_eq (nad : UInt8) (cs : Checksum) (block : Block) :
    ∃ header rest, block.encode nad cs = header ++ rest ∧ header.length = headerLength ∧
      header.getD 2 0 = UInt8.ofNat block.info.length ∧
      rest.length = block.info.length + cs.length := by
  refine ⟨[nad, block.pcb, UInt8.ofNat block.info.length],
    block.info ++ cs.code (nad :: block.pcb :: UInt8.ofNat block.info.length :: block.info),
    rfl, rfl, rfl, ?_⟩
  rw [List.length_append, Checksum.length_code]

/-- From a channel of characters, a block is received and what follows it is left. -/
theorem receive_delivered {coming : Bytes → σ → Prop} (delivers : link.Delivers dad timeout coming)
    (fits : block.info.length ≤ maxInfo) {further : Bytes} {s : σ}
    (comes : coming (block.encode nad cs ++ further) s) :
    ∃ s', receive link dad cs timeout false s = .ok (block.encode nad cs) s' ∧
      coming further s' := by
  obtain ⟨header, rest, whole, three, announced, length⟩ := encode_eq nad cs block
  rw [whole, List.append_assoc] at comes
  obtain ⟨s₁, first, comes⟩ := delivers.receiveExactly header comes
  obtain ⟨s₂, second, comes⟩ := delivers.receiveExactly rest comes
  refine ⟨s₂, ?_, comes⟩
  have count : (header.getD 2 0).toNat = block.info.length := by
    rw [announced, toNat_length fits]
  unfold receive
  rw [if_neg (by decide), ← three, bind_of_ok first]
  dsimp only
  rw [count, if_neg (Nat.not_lt.mpr fits), ← length, bind_of_ok second, whole]
  rfl

theorem receive_whole (fits : block.info.length ≤ maxInfo) {s s' : σ}
    (given : link.recv dad (headerLength + maxInfo + cs.length) timeout s =
      .ok (block.encode nad cs) s') :
    receive link dad cs timeout true s = .ok (block.encode nad cs) s' := by
  have room : (block.encode nad cs).length ≤ headerLength + maxInfo + cs.length := by
    rw [length_encode]
    omega
  have taken : link.receive dad (headerLength + maxInfo + cs.length) timeout s =
      .ok (block.encode nad cs) s' := by
    simp only [Link.receive, given, List.take_of_length_le room]
  unfold receive
  rwa [if_pos rfl]

/-- **Blocks are carried without loss.** What is read as a block is the writing of that block and
nothing else. A channel of characters may cut what it delivers into chunks as it likes: of bytes
that begin with a block, the block is received, and what comes behind it is left. A channel of
blocks that gives the block gives the same bytes. -/
theorem transport_lossless (nad : UInt8) (cs : Checksum) :
    (∀ block : Block, block.info.length ≤ maxInfo →
      decode nad cs (block.encode nad cs) = .ok block) ∧
    (∀ raw block, decode nad cs raw = .ok block → raw = block.encode nad cs) ∧
    ∀ raw block, decode nad cs raw = .ok block → ∀ dad timeout,
      (∀ {σ : Type} {link : Link σ} {coming : Bytes → σ → Prop} {further : Bytes} {s : σ},
        link.Delivers dad timeout coming → coming (raw ++ further) s →
          ∃ s', receive link dad cs timeout false s = .ok raw s' ∧ coming further s') ∧
      (∀ chunks further, (∀ chunk ∈ chunks, chunk ≠ []) → chunks.flatten = raw ++ further →
        ∃ left, receive Link.chunked dad cs timeout false chunks = .ok raw left ∧
          left.flatten = further) ∧
      ∀ {σ : Type} {link : Link σ} {s s' : σ},
        link.recv dad (headerLength + maxInfo + cs.length) timeout s = .ok raw s' →
          receive link dad cs timeout true s = .ok raw s' := by
  refine ⟨fun block fits => decode_encode nad cs block fits, ?_, ?_⟩
  · intro raw block decoded
    exact ((decode_eq_ok_iff nad cs raw block).mp decoded).1
  · intro raw block decoded dad timeout
    obtain ⟨rfl, fits⟩ := (decode_eq_ok_iff nad cs raw block).mp decoded
    refine ⟨fun delivers comes => receive_delivered delivers fits comes, ?_,
      fun given => receive_whole fits given⟩
    intro chunks further filled whole
    obtain ⟨left, received, left_eq, -⟩ :=
      receive_delivered (Link.delivers_chunked dad timeout) fits ⟨whole, filled⟩
    exact ⟨left, received, left_eq⟩

/-- An R-block in three chunks, cut inside its header and behind its code, is received, and the two
bytes behind it are left. -/
theorem transport_lossless_cut :
    decode 0x00 .lrc [0x00, 0x90, 0x00, 0x90] = .ok (receipt true .none) ∧
    ∃ left, receive Link.chunked 0x32 .lrc 100 false [[0x00], [0x90, 0x00, 0x90, 0x12], [0x34]] =
      .ok [0x00, 0x90, 0x00, 0x90] left ∧ left.flatten = [0x12, 0x34] := by
  have decoded : decode 0x00 .lrc [0x00, 0x90, 0x00, 0x90] = .ok (receipt true .none) := rfl
  refine ⟨decoded, ?_⟩
  obtain ⟨-, -, carried⟩ := transport_lossless 0x00 .lrc
  exact (carried _ _ decoded 0x32 100).2.1 _ _ (by decide) rfl

end Block

end CardTerminal
