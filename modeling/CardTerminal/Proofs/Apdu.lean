import CardTerminal.Apdu

/-!
What the shape of a command says about its bytes. A command that was read as one with short lengths
is written as its case has it (`short_of_classify`), and asks for no more than 256 bytes.
-/

namespace CardTerminal.Apdu

theorem shortLength_le (field : UInt8) : shortLength field ≤ 256 := by
  unfold shortLength
  split
  · exact Nat.le_refl _
  · exact Nat.le_of_lt field.toNat_lt

/-- How commands with short lengths are written. -/
inductive Short : Bytes → Shape → Prop where
  | case1 (cla ins p1 p2 : UInt8) : Short [cla, ins, p1, p2] ⟨.case1, 0, 0⟩
  | case2 (cla ins p1 p2 le : UInt8) :
      Short [cla, ins, p1, p2, le] ⟨.case2Short, 0, shortLength le⟩
  | case3 (cla ins p1 p2 : UInt8) {lc : UInt8} {data : Bytes} (some : lc ≠ 0)
      (sized : data.length = lc.toNat) :
      Short (cla :: ins :: p1 :: p2 :: lc :: data) ⟨.case3Short, lc.toNat, 0⟩
  | case4 (cla ins p1 p2 : UInt8) {lc : UInt8} {data : Bytes} (le : UInt8) (some : lc ≠ 0)
      (sized : data.length = lc.toNat) :
      Short (cla :: ins :: p1 :: p2 :: lc :: (data ++ [le]))
        ⟨.case4Short, lc.toNat, shortLength le⟩

theorem isExtended_of_classifyExtended {high low : UInt8} {body : Bytes} {shape : Shape}
    (classified : classifyExtended high low body = .ok shape) : shape.case.isExtended = true := by
  unfold classifyExtended at classified
  dsimp only at classified
  split at classified
  · cases classified
    rfl
  split at classified
  · cases classified
  split at classified
  · cases classified
    rfl
  split at classified <;> cases classified
  rfl

/-- A shape with short lengths is that of a command that is written so. -/
theorem short_of_classify {command : Bytes} {shape : Shape}
    (classified : classify command = .ok shape) (short : shape.case.isExtended = false) :
    Short command shape := by
  unfold classify at classified
  split at classified
  · cases classified
    exact .case1 ..
  · cases classified
    exact .case2 ..
  · next cla ins p1 p2 lc body _ =>
    split at classified
    · split at classified
      · cases (isExtended_of_classifyExtended classified).symm.trans short
      · cases classified
    · next some =>
      unfold classifyShort at classified
      split at classified
      · next sized =>
        cases classified
        exact .case3 _ _ _ _ some sized
      · split at classified
        · next le last =>
          cases classified
          have parts : body = body.take lc.toNat ++ [le] := by
            rw [← last, List.take_append_drop]
          have longer := congrArg List.length last
          rw [List.length_drop, List.length_singleton] at longer
          rw [parts]
          exact .case4 _ _ _ _ le some (by rw [List.length_take]; omega)
        · cases classified
  · cases classified

theorem Short.le_bound {command : Bytes} {shape : Shape} (short : Short command shape) :
    shape.le ≤ 256 := by
  cases short with
  | case1 | case3 => exact Nat.zero_le _
  | case2 | case4 => exact shortLength_le _

end CardTerminal.Apdu
