import CardTerminal.Pts
import Mathlib.Data.List.Basic

/-!
What the confirmation of a protocol is worth.

A message is complete if it has the parameters that it announces, its check byte, and nothing else
(`Complete`), and an answer confirms a request if both are complete messages about one protocol and
the answer has no parameter but those of the request (`Confirms`). Every such answer is accepted.
But of an answer that is accepted only the first byte, the protocol and the exclusive or of all
bytes are known (`confirm_eq_ok_iff`): its length is not looked at, nor are its parameters. So it is
a confirmation just if it has the announced length and repeats the parameters of the request
(`Unaltered`).

Main statement: `confirms_unless_altered`.
-/

namespace CardTerminal

theorem Bytes.xorAll_concat (bytes : Bytes) : xorAll (bytes ++ [xorAll bytes]) = 0 := by
  simp [xorAll]

namespace Pts

/-- How a message is written that selects this: after the fixed byte one that names the protocol and
announces parameters, then the parameters that it announces, and a check byte that makes the
exclusive or of all bytes zero. -/
structure Spelled (pts : Pts) (pts0 check : UInt8) (bytes : Bytes) : Prop where
  closed : Bytes.xorAll bytes = 0
  protocol : pts.protocol = pts0 % 16
  pts1 : pts.pts1.isSome = pts0.toNat.testBit 4
  pts2 : pts.pts2.isSome = pts0.toNat.testBit 5
  pts3 : pts.pts3.isSome = pts0.toNat.testBit 6
  bytes : bytes = 0xFF :: pts0 ::
    (pts.pts1.toList ++ (pts.pts2.toList ++ (pts.pts3.toList ++ [check])))

/-- The bytes are a message that selects this, with no byte missing or left over. -/
def Complete (pts : Pts) (bytes : Bytes) : Prop :=
  ∃ pts0 check, pts.Spelled pts0 check bytes

/-- The answer is about the protocol that was asked for, and every parameter in it has the value
that was asked for. -/
structure Within (asked answered : Pts) : Prop where
  protocol : answered.protocol = asked.protocol
  pts1 : ∀ v, answered.pts1 = some v → asked.pts1 = some v
  pts2 : ∀ v, answered.pts2 = some v → asked.pts2 = some v
  pts3 : ∀ v, answered.pts3 = some v → asked.pts3 = some v

/-- The answer confirms the request for this protocol. -/
def Confirms (request response : Bytes) (protocol : UInt8) : Prop :=
  ∃ asked answered : Pts, asked.Complete request ∧ answered.Complete response ∧
    asked.protocol = protocol ∧ asked.Within answered

/-- The bytes begin as a message about this protocol, and their exclusive or is zero. -/
def Names (bytes : Bytes) (protocol : UInt8) : Prop :=
  ∃ pts0 rest, bytes = 0xFF :: pts0 :: rest ∧ pts0 % 16 = protocol ∧ Bytes.xorAll bytes = 0

/-- The answer has the length that its second byte announces, repeats the first two parameters as
far as it announces them, and does not announce a third one. -/
def Unaltered (info : Atr.Info) (response : Bytes) : Prop :=
  ∃ pts0 rest, response = 0xFF :: pts0 :: rest ∧ rest.length = parameterCount pts0 + 1 ∧
    (announces pts0 0x10 = true → rest[0]? = info.ta1) ∧
    (announces pts0 0x20 = true → rest[(announces pts0 0x10).toNat]? = info.tc1) ∧
    announces pts0 0x40 = false

/-! ## Messages as they are read -/

theorem testBit_eq_announces (pts0 : UInt8) : pts0.toNat.testBit 4 = announces pts0 0x10 ∧
    pts0.toNat.testBit 5 = announces pts0 0x20 ∧ pts0.toNat.testBit 6 = announces pts0 0x40 := by
  simp [announces, Nat.testBit_eq_decide_div_mod_eq]

theorem length_toList (b : Option UInt8) : b.toList.length = b.isSome.toNat := by
  cases b <;> rfl

theorem next_toList {announced : Bool} {b : Option UInt8} (there : b.isSome = announced)
    (rest : Bytes) : next announced (b.toList ++ rest) = (b, rest) := by
  subst there
  cases b <;> rfl

theorem Complete.parse {pts : Pts} {bytes : Bytes} (complete : pts.Complete bytes) :
    parse bytes = .ok pts := by
  obtain ⟨pts0, check, closed, protocol, pts1, pts2, pts3, rfl⟩ := complete
  obtain ⟨bit1, bit2, bit3⟩ := testBit_eq_announces pts0
  rw [bit1] at pts1
  rw [bit2] at pts2
  rw [bit3] at pts3
  simp only [Pts.parse, if_pos closed, next_toList pts1, next_toList pts2, next_toList pts3,
    ← protocol]

theorem exists_parse_iff {bytes : Bytes} {protocol : UInt8} :
    (∃ pts, parse bytes = .ok pts ∧ pts.protocol = protocol) ↔ Names bytes protocol := by
  constructor
  · rintro ⟨pts, parsed, rfl⟩
    unfold Pts.parse at parsed
    split at parsed
    · next pts0 rest =>
      split at parsed
      · next closed =>
        cases parsed
        exact ⟨pts0, rest, rfl, rfl, closed⟩
      · cases parsed
    · cases parsed
  · rintro ⟨pts0, rest, rfl, rfl, closed⟩
    simp only [Pts.parse, if_pos closed]
    exact ⟨_, rfl, rfl⟩

/-- **What is accepted**: an answer that names the protocol that was asked for. -/
theorem confirm_eq_ok_iff {request response : Bytes} {asked : Pts} {p : UInt8}
    (parsed : parse request = .ok asked) :
    confirm request response = .ok p ↔ p = asked.protocol ∧ Names response p := by
  have named : Names request asked.protocol := exists_parse_iff.mp ⟨asked, parsed, rfl⟩
  unfold confirm
  rw [parsed]
  show (if request = response then _ else _) = _ ↔ _
  split
  · next same =>
    subst same
    constructor
    · intro accepted
      cases accepted
      exact ⟨rfl, named⟩
    · rintro ⟨rfl, -⟩
      rfl
  · cases answer : parse response with
    | error e =>
      refine iff_of_false (fun accepted => by cases accepted) ?_
      rintro ⟨-, names⟩
      obtain ⟨pts, read, -⟩ := exists_parse_iff.mpr names
      cases answer.symm.trans read
    | ok answered =>
      show (if answered.protocol = asked.protocol then _ else _) = _ ↔ _
      have names : Names response answered.protocol := exists_parse_iff.mp ⟨answered, answer, rfl⟩
      split
      · next same =>
        constructor
        · intro accepted
          cases accepted
          exact ⟨same, names⟩
        · rintro ⟨rfl, -⟩
          rw [← same]
          rfl
      · next other =>
        refine iff_of_false (fun accepted => by cases accepted) ?_
        rintro ⟨rfl, names⟩
        obtain ⟨pts, read, same⟩ := exists_parse_iff.mpr names
        cases answer.symm.trans read
        exact other same

theorem cut_announced (announced : Bool) (bytes : Bytes)
    (enough : announced.toNat ≤ bytes.length) :
    (if announced then bytes[0]? else none).isSome = announced ∧
      bytes = (if announced then bytes[0]? else none).toList ++ bytes.drop announced.toNat := by
  cases announced with
  | false => exact ⟨rfl, rfl⟩
  | true =>
    cases bytes with
    | nil => cases enough
    | cons => exact ⟨rfl, rfl⟩

/-- Bytes of the announced length whose exclusive or is zero are a complete message. -/
theorem complete_of_length {pts0 : UInt8} {rest : Bytes}
    (closed : Bytes.xorAll (0xFF :: pts0 :: rest) = 0)
    (length : rest.length = parameterCount pts0 + 1) :
    (⟨pts0 % 16, if announces pts0 0x10 then rest[0]? else none,
      if announces pts0 0x20 then rest[(announces pts0 0x10).toNat]? else none,
      if announces pts0 0x40 then
        rest[(announces pts0 0x10).toNat + (announces pts0 0x20).toNat]? else none⟩ :
      Pts).Complete (0xFF :: pts0 :: rest) := by
  obtain ⟨bit1, bit2, bit3⟩ := testBit_eq_announces pts0
  unfold parameterCount at length
  generalize announces pts0 0x10 = first, announces pts0 0x20 = second,
    announces pts0 0x40 = third at *
  have cut1 := cut_announced first rest (by omega)
  have cut2 := cut_announced second (rest.drop first.toNat) (by rw [List.length_drop]; omega)
  have cut3 := cut_announced third (rest.drop (first.toNat + second.toNat))
    (by rw [List.length_drop]; omega)
  rw [List.getElem?_drop, Nat.add_zero, List.drop_drop] at cut2 cut3
  obtain ⟨check, last⟩ : ∃ check,
      rest.drop (first.toNat + second.toNat + third.toNat) = [check] := by
    apply List.length_eq_one_iff.mp
    rw [List.length_drop]
    omega
  refine ⟨pts0, check, closed, rfl, cut1.1.trans bit1.symm, cut2.1.trans bit2.symm,
    cut3.1.trans bit3.symm, ?_⟩
  show (0xFF :: pts0 :: rest : Bytes) = 0xFF :: pts0 :: (_ ++ (_ ++ (_ ++ _)))
  rw [← last, ← cut3.2, ← cut2.2, ← cut1.2]

/-! ## Messages as they are written -/

/-- What a message consists of before its check byte. -/
def heading (protocol : UInt8) (pts1 pts2 : Option UInt8) : Bytes :=
  initial ::
    (protocol % 16 + (if pts1.isSome then 0x10 else 0) + (if pts2.isSome then 0x20 else 0)) ::
      (pts1.toList ++ pts2.toList)

/-- The message that selects a protocol, with these as its first two parameters. -/
def message (protocol : UInt8) (pts1 pts2 : Option UInt8) : Bytes :=
  heading protocol pts1 pts2 ++ [Bytes.xorAll (heading protocol pts1 pts2)]

theorem toNat_announcing (protocol : UInt8) (first second : Bool) :
    (protocol % 16 + (if first then 0x10 else 0) + (if second then 0x20 else 0)).toNat =
      protocol.toNat % 16 + first.toNat * 16 + second.toNat * 32 := by
  have low : (protocol % 16).toNat = protocol.toNat % 16 := UInt8.toNat_mod protocol 16
  have small := Nat.mod_lt protocol.toNat (show 0 < 16 by decide)
  cases first <;> cases second <;> simp [UInt8.toNat_add, low] <;> omega

theorem complete_message (protocol : UInt8) (pts1 pts2 : Option UInt8) :
    (⟨protocol % 16, pts1, pts2, none⟩ : Pts).Complete (message protocol pts1 pts2) := by
  have low := Nat.mod_lt protocol.toNat (show 0 < 16 by decide)
  have bits : ∀ a b : Bool, ∀ low < 16,
      (low + a.toNat * 16 + b.toNat * 32).testBit 4 = a ∧
        (low + a.toNat * 16 + b.toNat * 32).testBit 5 = b ∧
        (low + a.toNat * 16 + b.toNat * 32).testBit 6 = false := by
    decide
  obtain ⟨bit1, bit2, bit3⟩ := bits pts1.isSome pts2.isSome _ low
  have announcing := toNat_announcing protocol pts1.isSome pts2.isSome
  rw [← announcing] at bit1 bit2 bit3
  refine ⟨_, Bytes.xorAll (heading protocol pts1 pts2), Bytes.xorAll_concat _, ?_, bit1.symm,
    bit2.symm, bit3.symm, by simp [message, heading, initial]⟩
  apply UInt8.toNat_inj.mp
  rw [UInt8.toNat_mod, UInt8.toNat_mod, announcing]
  show protocol.toNat % 16 = _ % 16
  omega

/-! ## The request -/

/-- The byte of a request that names the protocol and announces the parameters. -/
def naming (info : Atr.Info) (protocol : UInt8) : UInt8 :=
  protocol % 16 + (if info.ta1.isSome then 0x10 else 0) + (if info.tc1.isSome then 0x20 else 0)

theorem request_eq (info : Atr.Info) (protocol : UInt8) :
    request info protocol =
      initial :: naming info protocol :: (info.ta1.toList ++ info.tc1.toList) ++
        [Bytes.xorAll (initial :: naming info protocol ::
          (info.ta1.toList ++ info.tc1.toList))] := by
  simp [request, naming]

theorem request_eq_message (info : Atr.Info) (protocol : UInt8) :
    request info protocol = message protocol info.ta1 info.tc1 :=
  request_eq info protocol

/-- What a request selects: the protocol, with the parameters of the card. -/
def requested (info : Atr.Info) (protocol : UInt8) : Pts :=
  ⟨protocol % 16, info.ta1, info.tc1, none⟩

theorem complete_request (info : Atr.Info) (protocol : UInt8) :
    (requested info protocol).Complete (request info protocol) := by
  rw [request_eq_message]
  exact complete_message protocol info.ta1 info.tc1

/-! ## Confirmation -/

/-- What has no parameter but those that were asked for repeats these. -/
theorem Complete.unaltered {info : Atr.Info} {protocol : UInt8} {answered : Pts} {response : Bytes}
    (complete : answered.Complete response) (within : (requested info protocol).Within answered) :
    Unaltered info response := by
  obtain ⟨pts0, check, -, -, pts1, pts2, pts3, rfl⟩ := complete
  obtain ⟨bit1, bit2, bit3⟩ := testBit_eq_announces pts0
  rw [bit1] at pts1
  rw [bit2] at pts2
  rw [bit3] at pts3
  refine ⟨pts0, _, rfl, ?_, ?_, ?_, ?_⟩
  · simp only [parameterCount, ← pts1, ← pts2, ← pts3, List.length_append, length_toList,
      List.length_singleton]
    omega
  · intro announced
    rw [← pts1] at announced
    obtain ⟨v, has⟩ := Option.isSome_iff_exists.mp announced
    rw [has]
    exact (within.pts1 v has).symm
  · intro announced
    rw [← pts2] at announced
    obtain ⟨v, has⟩ := Option.isSome_iff_exists.mp announced
    rw [← pts1, ← length_toList, List.getElem?_append_right (Nat.le_refl _), Nat.sub_self, has]
    exact (within.pts2 v has).symm
  · rw [← pts3]
    cases has : answered.pts3 with
    | none => rfl
    | some v => cases within.pts3 v has

/-- What repeats the parameters is a message with no others, if its exclusive or is zero. -/
theorem Unaltered.complete {info : Atr.Info} {protocol : UInt8} {response : Bytes}
    (unaltered : Unaltered info response) (names : Names response (protocol % 16)) :
    ∃ answered : Pts, answered.Complete response ∧ (requested info protocol).Within answered := by
  obtain ⟨pts0, rest, rfl, length, first, second, third⟩ := unaltered
  obtain ⟨_, _, split, named, closed⟩ := names
  cases split
  refine ⟨_, complete_of_length closed length, named, ?_, ?_, ?_⟩
  · intro v has
    simp only [Option.ite_none_right_eq_some] at has
    exact (first has.1).symm.trans has.2
  · intro v has
    simp only [Option.ite_none_right_eq_some] at has
    exact (second has.1).symm.trans has.2
  · intro v has
    simp only [third, Bool.false_eq_true, if_false, reduceCtorEq] at has

theorem confirms_iff {info : Atr.Info} {protocol p : UInt8} {response : Bytes} :
    Confirms (request info protocol) response p ↔
      confirm (request info protocol) response = .ok p ∧ Unaltered info response := by
  have asked := complete_request info protocol
  rw [confirm_eq_ok_iff asked.parse]
  constructor
  · rintro ⟨asked', answered, complete', complete, rfl, within⟩
    cases asked.parse.symm.trans complete'.parse
    have names := exists_parse_iff.mp ⟨answered, complete.parse, within.protocol⟩
    exact ⟨⟨rfl, names⟩, complete.unaltered within⟩
  · rintro ⟨⟨rfl, names⟩, unaltered⟩
    obtain ⟨answered, complete, within⟩ := unaltered.complete names
    exact ⟨_, answered, asked, complete, rfl, within⟩

theorem confirms_message {info : Atr.Info} {pts1 pts2 : Option UInt8}
    (first : pts1 = none ∨ pts1 = info.ta1) (second : pts2 = none ∨ pts2 = info.tc1)
    (protocol : UInt8) :
    Confirms (request info protocol) (message protocol pts1 pts2) (protocol % 16) := by
  refine ⟨_, _, complete_request info protocol, complete_message protocol pts1 pts2, rfl, rfl,
    fun v there => ?_, fun v there => ?_, fun v there => by cases there⟩
  · rcases first with rfl | rfl
    · cases there
    · exact there
  · rcases second with rfl | rfl
    · cases there
    · exact there

/-- **What an accepted answer is worth.** An answer is accepted just if it names the protocol that
was asked for and its exclusive or is zero. If it also has the length that it announces, it is a
complete message about this protocol. It confirms the request just if, beyond both, its parameters
are those of the request. -/
theorem confirms_unless_altered (info : Atr.Info) (protocol : UInt8) (response : Bytes) :
    (∀ p, confirm (request info protocol) response = .ok p ↔
      p = protocol % 16 ∧ Names response p) ∧
    (∀ p, confirm (request info protocol) response = .ok p →
      response.length = parameterCount (response.getD 1 0) + 3 →
        ∃ answered : Pts, answered.Complete response ∧ answered.protocol = p) ∧
    ∀ p, Confirms (request info protocol) response p ↔
      confirm (request info protocol) response = .ok p ∧ Unaltered info response := by
  have accepted (p : UInt8) : confirm (request info protocol) response = .ok p ↔
      p = protocol % 16 ∧ Names response p :=
    confirm_eq_ok_iff (complete_request info protocol).parse
  refine ⟨accepted, ?_, fun _ => confirms_iff⟩
  intro p confirmed length
  obtain ⟨-, pts0, rest, rfl, rfl, closed⟩ := (accepted p).mp confirmed
  have length' : rest.length + 2 = parameterCount pts0 + 1 + 2 := length
  exact ⟨_, complete_of_length closed (Nat.add_right_cancel length'), rfl⟩

/-- A card that offers T=1 and gave its speed as `0x11`. -/
def swift : Atr.Info :=
  ⟨.direct, [⟨some 0x11, none, none, some 0x80⟩, ⟨none, none, none, some 0x01⟩,
    ⟨none, none, none, none⟩], []⟩

/-- **Answers are accepted that confirm nothing**: one with another speed than was asked for, one
without a check byte, and one with a byte too many. -/
theorem unconfirmed_accepted :
    ∀ response ∈ [[0xFF, 0x11, 0x22, 0xCC], [0xFF, 0x11, 0xEE], [0xFF, 0x01, 0x00, 0xFE]],
      confirm (request swift 1) response = .ok 1 ∧ ¬ Confirms (request swift 1) response 1 := by
  intro response mem
  simp only [List.mem_cons, List.not_mem_nil, or_false] at mem
  rcases mem with rfl | rfl | rfl
  all_goals
    refine ⟨rfl, fun confirms => ?_⟩
    obtain ⟨-, pts0, rest, split, length, first, -⟩ := confirms_iff.mp confirms
    cases split
  · exact absurd (first rfl) (by decide)
  · exact absurd length (by decide)
  · exact absurd length (by decide)

end Pts

end CardTerminal
