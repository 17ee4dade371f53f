import CardTerminal.Atr
import Mathlib.Algebra.Group.Nat.Defs
import Mathlib.Data.List.Basic

/-!
Which byte strings are answers to reset.

The bytes of an answer are laid out as a relation (`Written`): the chain of groups is an inductive
predicate in which every group is announced by the last byte of the one before (`Chain`), and no
reader occurs in it. A group is read exactly if it is announced and there (`readGroup_eq_some_iff`),
and from that, by induction on the chain, all groups are (`readGroups_eq_some_iff`). A chain has at
most one group more than it has bytes, so the reader's budget never runs out (`Chain.length_le`).

Main statement: `parse_recognises_answers`.
-/

namespace CardTerminal.Atr

/-! ## How an answer is written -/

/-- The byte that an answer begins with. -/
def Convention.initial : Convention → UInt8
  | .direct => 0x3B
  | .inverse => 0x3F

namespace Group

/-- The bytes of a group that are there, in the order in which they are sent. -/
def bytes (g : Group) : Bytes :=
  g.ta.toList ++ (g.tb.toList ++ (g.tc.toList ++ g.td.toList))

/-- Four bits say which bytes the group has, the lowest one about TA. -/
structure Announced (n : Nat) (g : Group) : Prop where
  ta : g.ta.isSome = n.testBit 0
  tb : g.tb.isSome = n.testBit 1
  tc : g.tc.isSome = n.testBit 2
  td : g.td.isSome = n.testBit 3

end Group

/-- A chain of groups, of which the first is announced by the bits of a number and every other one
by the high half of the TD before it. It ends with the first group that has no TD. -/
inductive Chain : Nat → List Group → Prop where
  | last {n : Nat} {g : Group} (announced : g.Announced n) (final : g.td = none) : Chain n [g]
  | more {n : Nat} {g : Group} {td : UInt8} {groups : List Group} (announced : g.Announced n)
      (next : g.td = some td) (others : Chain (td.toNat / 16) groups) : Chain n (g :: groups)

namespace Info

/-- Some TD names a protocol other than T=0. -/
def Checked (info : Info) : Prop :=
  ∃ g ∈ info.groups, ∃ td, g.td = some td ∧ td.toNat % 16 ≠ 0

/-- The protocols that an answer offers: those that a TD names, and T=0 if there is no TD. -/
def Offers (info : Info) (n : Nat) : Prop :=
  (∃ g ∈ info.groups, ∃ td, g.td = some td ∧ td.toNat % 16 = n) ∨
    n = 0 ∧ ∀ g ∈ info.groups, g.td = none

end Info

/-- The bytes are an answer that says this. The low half of the format byte is the number of the
historical bytes, and what trails them is a check byte or, where no check is asked for, anything of
at most one byte. -/
structure Written (info : Info) (format : UInt8) (trailing atr : Bytes) : Prop where
  bytes : atr = info.convention.initial :: format ::
    (info.groups.flatMap Group.bytes ++ (info.historical ++ trailing))
  short : atr.length ≤ 33
  chain : Chain (format.toNat / 16) info.groups
  historical : info.historical.length = format.toNat % 16
  checked : info.Checked → trailing.length = 1 ∧ Bytes.xorAll atr.tail = 0
  unchecked : ¬ info.Checked → trailing.length ≤ 1

/-! ## Groups -/

theorem takeByte_eq_some_iff {announced : Bool} {b : Option UInt8} {bytes rest : Bytes} :
    takeByte announced bytes = some (b, rest) ↔
      b.isSome = announced ∧ bytes = b.toList ++ rest := by
  cases announced with
  | false =>
    cases b with
    | none => simp [takeByte]
    | some b => simp [takeByte]
  | true =>
    cases bytes with
    | nil => cases b <;> simp [takeByte]
    | cons first bytes => cases b <;> simp [takeByte]

theorem Group.announced_iff {n : Nat} {g : Group} : g.Announced n ↔
    g.ta.isSome = decide (n % 2 = 1) ∧ g.tb.isSome = decide (n / 2 % 2 = 1) ∧
      g.tc.isSome = decide (n / 4 % 2 = 1) ∧ g.td.isSome = decide (n / 8 % 2 = 1) := by
  constructor
  · rintro ⟨ta, tb, tc, td⟩
    simp only [Nat.testBit_eq_decide_div_mod_eq, Nat.reducePow, Nat.div_one] at ta tb tc td
    exact ⟨ta, tb, tc, td⟩
  · rintro ⟨ta, tb, tc, td⟩
    constructor <;> simp only [Nat.testBit_eq_decide_div_mod_eq, Nat.reducePow, Nat.div_one] <;>
      assumption

/-- A group is read exactly if it is the one that is announced and all its bytes are there. -/
theorem readGroup_eq_some_iff {n : Nat} {g : Group} {bytes rest : Bytes} :
    readGroup n bytes = some (g, rest) ↔ g.Announced n ∧ bytes = g.bytes ++ rest := by
  simp only [readGroup, Option.bind_eq_bind, Option.bind_eq_some_iff, Prod.exists,
    takeByte_eq_some_iff, Group.announced_iff, Group.bytes, List.append_assoc, Option.pure_def,
    Option.some.injEq, Prod.mk.injEq]
  constructor
  · rintro ⟨ta, _, ⟨hasTa, rfl⟩, tb, _, ⟨hasTb, rfl⟩, tc, _, ⟨hasTc, rfl⟩, td, _, ⟨hasTd, rfl⟩,
      rfl, rfl⟩
    exact ⟨⟨hasTa, hasTb, hasTc, hasTd⟩, rfl⟩
  · rintro ⟨⟨hasTa, hasTb, hasTc, hasTd⟩, rfl⟩
    exact ⟨g.ta, _, ⟨hasTa, rfl⟩, g.tb, _, ⟨hasTb, rfl⟩, g.tc, _, ⟨hasTc, rfl⟩, g.td, _,
      ⟨hasTd, rfl⟩, rfl, rfl⟩

/-- Every group but the last has at least its TD. -/
theorem Chain.length_le {n : Nat} {groups : List Group} (chain : Chain n groups) :
    groups.length ≤ (groups.flatMap Group.bytes).length + 1 := by
  induction chain with
  | last => simp
  | @more n g td groups _ next _ ih =>
    have some : 1 ≤ g.bytes.length := by
      simp only [Group.bytes, next, Option.toList_some, List.length_append, List.length_singleton]
      omega
    simp only [List.length_cons, List.flatMap_cons, List.length_append]
    omega

/-- **Groups are read exactly if they are a chain**, and as far as the budget goes. -/
theorem readGroups_eq_some_iff {budget n : Nat} {groups : List Group} {bytes rest : Bytes} :
    readGroups budget n bytes = some (groups, rest) ↔
      Chain n groups ∧ groups.length ≤ budget ∧ bytes = groups.flatMap Group.bytes ++ rest := by
  induction budget generalizing n groups bytes with
  | zero =>
    refine iff_of_false (by simp [readGroups]) ?_
    rintro ⟨chain, none, -⟩
    cases chain <;> cases none
  | succ budget ih =>
    simp only [readGroups, Option.bind_eq_bind, Option.bind_eq_some_iff, Prod.exists,
      readGroup_eq_some_iff]
    constructor
    · rintro ⟨g, _, ⟨announced, rfl⟩, more⟩
      split at more
      · next final =>
        cases more
        exact ⟨.last announced final, Nat.le_add_left 1 budget, by simp⟩
      · next td next =>
        simp only [Option.bind_eq_some_iff, Prod.exists, Option.pure_def, Option.some.injEq,
          Prod.mk.injEq] at more
        obtain ⟨others, _, read, rfl, rfl⟩ := more
        obtain ⟨chain, few, rfl⟩ := ih.mp read
        exact ⟨.more announced next chain, Nat.succ_le_succ few, by simp⟩
    · rintro ⟨chain, few, rfl⟩
      cases chain with
      | @last _ g announced final =>
        refine ⟨g, rest, ⟨announced, by simp⟩, ?_⟩
        rw [final]
        rfl
      | @more _ g td others announced next chain =>
        refine ⟨g, others.flatMap Group.bytes ++ rest, ⟨announced, by simp⟩, ?_⟩
        have read := ih.mpr ⟨chain, Nat.le_of_succ_le_succ few, rfl⟩
        rw [next]
        simp only [read, Option.bind_some]
        rfl

/-! ## The protocols offered -/

namespace Info

theorem mem_named {info : Info} {p : UInt8} :
    p ∈ info.named ↔ ∃ g ∈ info.groups, ∃ td, g.td = some td ∧ td.toNat % 16 = p.toNat := by
  simp only [named, List.mem_filterMap, Option.map_eq_some_iff, ← UInt8.toNat_inj, UInt8.toNat_mod]
  rfl

theorem named_eq_nil {info : Info} : info.named = [] ↔ ∀ g ∈ info.groups, g.td = none := by
  simp only [named, List.filterMap_eq_nil_iff, Option.map_eq_none_iff]

/-- The set of protocols that is read off the groups is the one that the answer offers. -/
theorem mem_offered {info : Info} {p : UInt8} : p ∈ info.offered ↔ info.Offers p.toNat := by
  unfold offered Offers
  split
  · next empty =>
    have none := named_eq_nil.mp (List.isEmpty_iff.mp empty)
    rw [List.mem_singleton]
    constructor
    · rintro rfl
      exact .inr ⟨rfl, none⟩
    · rintro (⟨g, mem, td, has, -⟩ | ⟨zero, -⟩)
      · cases (none g mem).symm.trans has
      · exact UInt8.toNat_inj.mp zero
  · next some =>
    rw [mem_named]
    refine ⟨.inl, ?_⟩
    rintro (named | ⟨-, none⟩)
    · exact named
    · exact absurd (List.isEmpty_iff.mpr (named_eq_nil.mpr none)) some

theorem supports_iff {info : Info} {p : UInt8} : info.supports p = true ↔ info.Offers p.toNat := by
  rw [supports, List.contains_iff_mem, mem_offered]

theorem toNat_defaultProtocol (info : Info) : info.defaultProtocol.toNat =
    ((info.groups.filterMap Group.td).head?.map (fun td => td.toNat % 16)).getD 0 := by
  have named : info.named = (info.groups.filterMap Group.td).map (· % 16) := by
    rw [List.map_filterMap]
    rfl
  unfold defaultProtocol offered
  rw [named]
  cases info.groups.filterMap Group.td with
  | nil => rfl
  | cons td more => exact UInt8.toNat_mod td 16

theorem testBit_foldl_range (f : Nat → Bool) (k : Nat) :
    let sum := (List.range k).foldl (fun n p => if f p then n + 1 <<< p else n) 0
    sum < 2 ^ k ∧ ∀ i, sum.testBit i = (decide (i < k) && f i) := by
  induction k with
  | zero => simp
  | succ k ih =>
    obtain ⟨small, bits⟩ := ih
    rw [List.range_succ, List.foldl_append]
    generalize (List.range k).foldl (fun n p => if f p then n + 1 <<< p else n) 0 = sum at *
    have double : 2 ^ (k + 1) = 2 ^ k + 2 ^ k := by rw [Nat.pow_succ, Nat.mul_two]
    simp only [List.foldl_cons, List.foldl_nil]
    split
    · next put =>
      -- The new power is above all the bits so far, so that adding it is setting its bit.
      have set : sum + 1 <<< k = 2 ^ k ||| sum := by
        have := Nat.two_pow_add_eq_or_of_lt small 1
        rw [Nat.mul_one] at this
        rw [Nat.one_shiftLeft, Nat.add_comm, this]
      refine ⟨by rw [Nat.one_shiftLeft]; omega, fun i => ?_⟩
      rw [set, Nat.testBit_or, Nat.testBit_two_pow, bits]
      rcases Nat.lt_trichotomy i k with below | rfl | above
      · simp [below, Nat.lt_succ_of_lt below, Nat.ne_of_gt below]
      · simp [put]
      · simp [Nat.ne_of_lt above, Nat.not_lt_of_gt above, Nat.not_lt.mpr above]
    · next left =>
      refine ⟨by omega, fun i => ?_⟩
      rw [bits]
      rcases Nat.lt_trichotomy i k with below | rfl | above
      · simp [below, Nat.lt_succ_of_lt below]
      · simp [left]
      · simp [Nat.not_lt_of_gt above, Nat.not_lt.mpr above]

theorem testBit_supportedBits (info : Info) (n : Nat) :
    info.supportedBits.testBit n = true ↔ info.Offers n := by
  have bits := (testBit_foldl_range (fun p => info.supports (UInt8.ofNat p)) 16).2 n
  rw [supportedBits, bits, Bool.and_eq_true, decide_eq_true_eq, supports_iff]
  constructor
  · rintro ⟨low, offers⟩
    rwa [UInt8.toNat_ofNat_of_lt' (Nat.lt_trans low (by decide))] at offers
  · intro offers
    have low : n < 16 := by
      rcases offers with ⟨g, mem, td, has, rfl⟩ | ⟨rfl, -⟩
      · exact Nat.mod_lt _ (by decide)
      · decide
    rw [UInt8.toNat_ofNat_of_lt' (Nat.lt_trans low (by decide))]
    exact ⟨low, offers⟩

theorem all_offered_iff (info : Info) :
    info.offered.all (· = 0) = true ↔ ¬ info.Checked := by
  rw [List.all_eq_true]
  constructor
  · rintro zero ⟨g, mem, td, has, other⟩
    have named : td % 16 ∈ info.offered := mem_offered.mpr (.inl ⟨g, mem, td, has, rfl⟩)
    have same : td % 16 = 0 := of_decide_eq_true (zero _ named)
    exact other (congrArg UInt8.toNat same)
  · intro unchecked p mem
    apply decide_eq_true
    apply UInt8.toNat_inj.mp
    rcases mem_offered.mp mem with ⟨g, mem, td, has, named⟩ | ⟨zero, -⟩
    · by_contra other
      exact unchecked ⟨g, mem, td, has, fun zero => other (named.symm.trans zero)⟩
    · exact zero

end Info

/-! ## Whole answers -/

theorem closes_iff {info : Info} {afterInitial trailing : Bytes} :
    closes info afterInitial trailing = true ↔
      (info.Checked → trailing.length = 1 ∧ Bytes.xorAll afterInitial = 0) ∧
        (¬ info.Checked → trailing.length ≤ 1) := by
  unfold closes
  split
  · next plain =>
    have unchecked := (Info.all_offered_iff info).mp plain
    simp [unchecked]
  · next other =>
    have checked : info.Checked := by
      by_contra unchecked
      exact other ((Info.all_offered_iff info).mpr unchecked)
    simp [checked]

theorem readBody_eq_some_iff {convention : Convention} {info : Info} {body : Bytes} :
    readBody convention body = some info ↔ info.convention = convention ∧
      ∃ format trailing,
        body = format :: (info.groups.flatMap Group.bytes ++ (info.historical ++ trailing)) ∧
        Chain (format.toNat / 16) info.groups ∧ info.historical.length = format.toNat % 16 ∧
        closes info body trailing = true := by
  constructor
  · intro read
    cases body with
    | nil => cases read
    | cons format rest =>
      simp only [readBody, Option.bind_eq_bind, Option.bind_eq_some_iff, Prod.exists,
        readGroups_eq_some_iff] at read
      obtain ⟨groups, tail, ⟨chain, -, rfl⟩, read⟩ := read
      split at read
      · next whole =>
        split at read
        · next closed =>
          cases read
          refine ⟨rfl, format, _, ?_, chain, whole, closed⟩
          rw [List.take_append_drop]
        · cases read
      · cases read
  · rintro ⟨rfl, format, trailing, rfl, chain, sized, closed⟩
    have few : info.groups.length ≤
        (info.groups.flatMap Group.bytes ++ (info.historical ++ trailing)).length + 1 := by
      have := chain.length_le
      rw [List.length_append]
      omega
    simp only [readBody, Option.bind_eq_bind, readGroups_eq_some_iff.mpr ⟨chain, few, rfl⟩,
      Option.bind_some]
    have front : (info.historical ++ trailing).take (format.toNat % 16) = info.historical := by
      rw [← sized, List.take_left]
    have back : (info.historical ++ trailing).drop (format.toNat % 16) = trailing := by
      rw [← sized, List.drop_left]
    rw [front, back, if_pos sized, if_pos closed]

theorem parse_eq_ok_iff_readBody {atr : Bytes} {info : Info} : parse atr = .ok info ↔
    atr.length ≤ 33 ∧ ∃ convention body,
      atr = Convention.initial convention :: body ∧ readBody convention body = some info := by
  constructor
  · intro parsed
    unfold parse at parsed
    dsimp only at parsed
    split at parsed
    · next read =>
      cases parsed
      split at read
      · next short =>
        split at read
        · exact ⟨short, .direct, _, rfl, read⟩
        · exact ⟨short, .inverse, _, rfl, read⟩
        · cases read
      · cases read
    · cases parsed
  · rintro ⟨short, convention, body, rfl, read⟩
    unfold parse
    dsimp only
    rw [if_pos (show _ ≤ maxLength from short)]
    cases convention <;> simp only [Convention.initial, read]

theorem parse_eq_ok_iff {atr : Bytes} {info : Info} :
    parse atr = .ok info ↔ ∃ format trailing, Written info format trailing atr := by
  rw [parse_eq_ok_iff_readBody]
  constructor
  · rintro ⟨short, convention, body, rfl, read⟩
    obtain ⟨rfl, format, trailing, rfl, chain, sized, closed⟩ := readBody_eq_some_iff.mp read
    obtain ⟨checked, unchecked⟩ := closes_iff.mp closed
    exact ⟨format, trailing, rfl, short, chain, sized, checked, unchecked⟩
  · rintro ⟨format, trailing, rfl, short, chain, sized, checked, unchecked⟩
    exact ⟨short, info.convention, _, rfl, readBody_eq_some_iff.mpr
      ⟨rfl, format, trailing, rfl, chain, sized, closes_iff.mpr ⟨checked, unchecked⟩⟩⟩

theorem parse_eq_error {atr : Bytes} {cause : Error} (failed : parse atr = .error cause) :
    cause = .invalidAtr := by
  unfold parse at failed
  dsimp only at failed
  split at failed <;> cases failed
  rfl

theorem parse_eq_error_iff {atr : Bytes} {cause : Error} :
    parse atr = .error cause ↔
      cause = .invalidAtr ∧ ∀ info format trailing, ¬ Written info format trailing atr := by
  rw [Error.eq_error_iff_of_sole (fun _ => parse_eq_ok_iff) fun _ => parse_eq_error]
  simp only [not_exists]

/-! ## What is known of an answer -/

/-- What the rest of the program can learn from an answer. -/
structure Record where
  convention : Convention
  ta : List (Option UInt8)
  tb : List (Option UInt8)
  tc : List (Option UInt8)
  /-- Bit `n` for T=`n`. -/
  offered : Nat
  default : UInt8
  historical : Bytes
  deriving DecidableEq, Repr

namespace Info

/-- The interface bytes of one kind in the first four groups. -/
def firstFour (info : Info) (pick : Group → Option UInt8) : List (Option UInt8) :=
  (List.range 4).map (info.byte pick)

def record (info : Info) : Record :=
  ⟨info.convention, info.firstFour Group.ta, info.firstFour Group.tb, info.firstFour Group.tc,
    info.supportedBits, info.defaultProtocol, info.historical⟩

/-- Where there are fewer groups, nothing stands for the bytes of the others. -/
theorem firstFour_eq (info : Info) (pick : Group → Option UInt8) :
    info.firstFour pick = (info.groups.map pick ++ List.replicate 4 none).take 4 := by
  unfold firstFour byte
  rcases info.groups with _ | ⟨g1, _ | ⟨g2, _ | ⟨g3, _ | ⟨g4, more⟩⟩⟩⟩ <;> rfl

theorem byte_eq_of_record {info info' : Info} {pick : Group → Option UInt8}
    (same : info.firstFour pick = info'.firstFour pick) {n : Nat} (low : n < 4) :
    info.byte pick n = info'.byte pick n := by
  have entry := congrArg (·[n]?) same
  simpa [firstFour, low] using entry

theorem supports_eq_of_record {info info' : Info}
    (same : info.supportedBits = info'.supportedBits) (p : UInt8) :
    info.supports p = info'.supports p := by
  rw [Bool.eq_iff_iff, supports_iff, supports_iff, ← testBit_supportedBits,
    ← testBit_supportedBits, same]

/-- No question that the program puts to an answer tells the two apart. -/
structure Alike (info other : Info) : Prop where
  supports : ∀ p, info.supports p = other.supports p
  default : info.defaultProtocol = other.defaultProtocol
  specific : info.specificMode = other.specificMode
  ifsc : info.t1Ifsc = other.t1Ifsc
  crc : info.t1UsesCrc = other.t1UsesCrc
  speed : info.ta1 = other.ta1
  guardTime : info.tc1 = other.tc1

/-- The record is all that is made use of: what else the groups hold has no effect. -/
theorem alike_of_record {info info' : Info} (same : info.record = info'.record) :
    info.Alike info' := by
  have ta : info.firstFour Group.ta = info'.firstFour Group.ta := congrArg Record.ta same
  have tc : info.firstFour Group.tc = info'.firstFour Group.tc := congrArg Record.tc same
  refine ⟨supports_eq_of_record (congrArg Record.offered same), congrArg Record.default same,
    ?_, ?_, ?_, byte_eq_of_record ta (by decide), byte_eq_of_record tc (by decide)⟩
  · rw [specificMode, specificMode, byte_eq_of_record ta (by decide)]
  · rw [t1Ifsc, t1Ifsc, byte_eq_of_record ta (by decide)]
  · rw [t1UsesCrc, t1UsesCrc, byte_eq_of_record tc (by decide)]

end Info

/-- **Exactly the answers to reset are read**, each as what it says; all other bytes are refused
alike. Its record has the interface bytes of the first four groups, the set of the protocols that
the TDs name, the one that the first of them names, and the historical bytes. More is not made use
of, though longer chains are read. -/
theorem parse_recognises_answers (atr : Bytes) :
    (∀ info, parse atr = .ok info ↔ ∃ format trailing, Written info format trailing atr) ∧
    (∀ cause, parse atr = .error cause ↔
      cause = .invalidAtr ∧ ∀ info format trailing, ¬ Written info format trailing atr) ∧
    ∀ info, parse atr = .ok info →
      info.record.ta = (info.groups.map Group.ta ++ List.replicate 4 none).take 4 ∧
      info.record.tb = (info.groups.map Group.tb ++ List.replicate 4 none).take 4 ∧
      info.record.tc = (info.groups.map Group.tc ++ List.replicate 4 none).take 4 ∧
      (∀ n, info.record.offered.testBit n = true ↔ info.Offers n) ∧
      (∀ p, info.supports p = true ↔ info.Offers p.toNat) ∧
      info.record.default.toNat =
        ((info.groups.filterMap Group.td).head?.map (fun td => td.toNat % 16)).getD 0 ∧
      info.record.historical = info.historical ∧
      ∀ other : Info, info.record = other.record → info.Alike other := by
  refine ⟨fun info => parse_eq_ok_iff, fun cause => parse_eq_error_iff, fun info _ => ?_⟩
  exact ⟨info.firstFour_eq _, info.firstFour_eq _, info.firstFour_eq _,
    info.testBit_supportedBits, fun p => info.supports_iff, info.toNat_defaultProtocol, rfl,
    fun other => Info.alike_of_record⟩

/-- A fifth group is read, and not recorded. -/
example : (parse [0x3B, 0x90, 0x11, 0x90, 0x22, 0x90, 0x33, 0x90, 0x44, 0x10, 0x55]).toOption.map
    (fun info => (info.groups.length, info.record.ta)) =
      some (5, [some 0x11, some 0x22, some 0x33, some 0x44]) := by decide

end CardTerminal.Atr
