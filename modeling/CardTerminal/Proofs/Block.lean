import CardTerminal.Protocol.Block

/-!
Blocks and their bytes.

The bytes of a block say how many they are, so a block is not the beginning of another one. What is
read as a block is the writing of it, and of nothing else (`Block.decode_eq_ok_iff`).
-/

namespace CardTerminal

/-- Just a body with its code behind it verifies. -/
theorem Checksum.verify_iff (cs : Checksum) (bytes : Bytes) :
    cs.verify bytes = true ↔ ∃ body, bytes = cs.append body := by
  constructor
  · intro verified
    simp only [verify, Bool.and_eq_true, decide_eq_true_eq] at verified
    exact ⟨bytes.take (bytes.length - cs.length),
      by rw [append, ← verified.2, List.take_append_drop]⟩
  · rintro ⟨body, rfl⟩
    exact cs.verify_append body

/-- Bytes are read as a block just if they are the writing of that block. -/
theorem Block.decode_eq_ok_iff (nad : UInt8) (cs : Checksum) (bytes : Bytes) (block : Block) :
    decode nad cs bytes = .ok block ↔
      bytes = block.encode nad cs ∧ block.info.length ≤ maxInfo := by
  constructor
  · intro decoded
    unfold decode at decoded
    split at decoded
    · next source pcb length rest =>
      split at decoded
      · cases decoded
      split at decoded
      · cases decoded
      next fits =>
      split at decoded
      · cases decoded
      next verified =>
      split at decoded
      · cases decoded
      next known =>
      cases decoded
      simp only [not_or, Nat.not_lt, Decidable.not_not] at fits verified known
      have taken : (rest.take length.toNat).length = length.toNat := by
        rw [List.length_take]
        omega
      obtain ⟨body, whole⟩ := (cs.verify_iff _).mp verified
      refine ⟨?_, by rw [taken]; exact fits.1⟩
      -- The body is all but the code, and so are the header and the information field.
      have body_eq : body = source :: pcb :: length :: rest.take length.toNat := by
        have count : body.length = length.toNat + 3 := by
          have := congrArg List.length whole
          simp only [Checksum.append, List.length_append, Checksum.length_code,
            List.length_cons] at this
          omega
        have front := congrArg (List.take body.length) whole
        rw [Checksum.append, List.take_left, count] at front
        exact front.symm
      rw [whole, body_eq, encode, taken, known, UInt8.ofNat_toNat]
    · cases decoded
  · rintro ⟨rfl, fits⟩
    exact decode_encode nad cs block fits

namespace Block

theorem length_encode (nad : UInt8) (cs : Checksum) (block : Block) :
    (block.encode nad cs).length = headerLength + (block.info.length + cs.length) := by
  simp only [encode, Checksum.append, List.length_append, List.length_cons, Checksum.length_code,
    headerLength]
  omega

theorem toNat_length {block : Block} (fits : block.info.length ≤ maxInfo) :
    (UInt8.ofNat block.info.length).toNat = block.info.length := by
  rw [UInt8.toNat_ofNat']
  exact Nat.mod_eq_of_lt (by simp only [maxInfo] at fits; omega)

theorem length_byte (nad : UInt8) (cs : Checksum) {block : Block}
    (fits : block.info.length ≤ maxInfo) :
    ((block.encode nad cs).getD 2 0).toNat = block.info.length :=
  toNat_length fits

end Block

end CardTerminal
