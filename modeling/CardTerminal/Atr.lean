import CardTerminal.Bytes
import CardTerminal.Error

/-!
The answer to reset, in which a card says how it wants to be talked to.

After the initial byte comes a chain of groups of interface bytes. Each group says in its last byte
(TD) which bytes the next group has and which protocol it is about; the first group is announced by
the format byte. The historical bytes follow, and a check byte when a protocol other than T=0 is
offered.
-/

namespace CardTerminal

/-- What a reset yields: cards without a processor give no answer. -/
abbrev Atr := Option Bytes

namespace Atr

def maxLength : Nat := 33

/-- The polarity and order of bits on the line. -/
inductive Convention where
  | direct
  | inverse
  deriving DecidableEq, Repr

/-- One group of interface bytes. -/
structure Group where
  ta : Option UInt8
  tb : Option UInt8
  tc : Option UInt8
  td : Option UInt8
  deriving DecidableEq, Repr

/-- What an answer to reset says. -/
structure Info where
  convention : Convention
  /-- The groups of interface bytes, the first one first. -/
  groups : List Group
  historical : Bytes
  deriving DecidableEq, Repr

namespace Info

/-- The protocols that the groups name, in their order. -/
def named (info : Info) : List UInt8 :=
  info.groups.filterMap (fun g => g.td.map (· % 16))

/-- The protocols offered: T=0, unless the groups name others. -/
def offered (info : Info) : List UInt8 :=
  if info.named.isEmpty then [0] else info.named

/-- The protocol that the card talks after a reset: the first one offered. -/
def defaultProtocol (info : Info) : UInt8 :=
  info.offered.headD 0

def supports (info : Info) (protocol : UInt8) : Bool :=
  info.offered.contains protocol

/-- The offered protocols as a number with bit `n` for T=`n`. -/
def supportedBits (info : Info) : Nat :=
  (List.range 16).foldl (fun n p => if info.supports (UInt8.ofNat p) then n + 1 <<< p else n) 0

/-- An interface byte of the group with this number, counted from zero. -/
def byte (info : Info) (pick : Group → Option UInt8) (n : Nat) : Option UInt8 :=
  info.groups[n]?.bind pick

/-- The byte TA1, which fixes the line speed. -/
def ta1 (info : Info) : Option UInt8 :=
  info.byte Group.ta 0

/-- The byte TC1, which fixes the guard time. -/
def tc1 (info : Info) : Option UInt8 :=
  info.byte Group.tc 0

/-- A card that sends TA2 does not negotiate. -/
def specificMode (info : Info) : Bool :=
  (info.byte Group.ta 1).isSome

/-- The longest information field that the card takes in T=1, if TA3 gives a valid one. -/
def t1Ifsc (info : Info) : Option UInt8 :=
  (info.byte Group.ta 2).filter (fun ifsc => ifsc ≠ 0 && ifsc ≠ 0xFF)

/-- Whether TC3 asks for a CRC in T=1. -/
def t1UsesCrc (info : Info) : Bool :=
  match info.byte Group.tc 2 with
  | some tc => tc % 2 = 1
  | none => false

end Info

/-! ## Reading -/

def takeByte (announced : Bool) (bytes : Bytes) : Option (Option UInt8 × Bytes) :=
  if announced then
    match bytes with
    | b :: rest => some (some b, rest)
    | [] => none
  else some (none, bytes)

/-- A group whose bytes are announced by the four bits of a number. -/
def readGroup (announced : Nat) (bytes : Bytes) : Option (Group × Bytes) := do
  let (ta, bytes) ← takeByte (announced % 2 = 1) bytes
  let (tb, bytes) ← takeByte (announced / 2 % 2 = 1) bytes
  let (tc, bytes) ← takeByte (announced / 4 % 2 = 1) bytes
  let (td, bytes) ← takeByte (announced / 8 % 2 = 1) bytes
  return (⟨ta, tb, tc, td⟩, bytes)

/-- A chain of groups, which ends with the first one that has no TD. Every other group has at
least its TD, so a chain has no more groups than there are bytes, and one more; `budget` is that
number. -/
def readGroups : Nat → Nat → Bytes → Option (List Group × Bytes)
  | 0, _, _ => none
  | budget + 1, announced, bytes => do
    let (group, bytes) ← readGroup announced bytes
    match group.td with
    | none => return ([group], bytes)
    | some td =>
      let (groups, bytes) ← readGroups budget (td.toNat / 16) bytes
      return (group :: groups, bytes)

/-- Whether the bytes after the historical bytes are as they should be: one check byte if a
protocol other than T=0 is offered, and otherwise nothing or one byte that means nothing. -/
def closes (info : Info) (afterInitial trailing : Bytes) : Bool :=
  if info.offered.all (· = 0) then trailing.length ≤ 1
  else trailing.length = 1 && Bytes.xorAll afterInitial = 0

/-- What follows the initial byte. -/
def readBody (convention : Convention) : Bytes → Option Info
  | [] => none
  | format :: rest => do
    let (groups, tail) ← readGroups (rest.length + 1) (format.toNat / 16) rest
    let historical := tail.take (format.toNat % 16)
    if historical.length = format.toNat % 16 then
      let info := Info.mk convention groups historical
      if closes info (format :: rest) (tail.drop (format.toNat % 16)) then some info else none
    else none

def parse (atr : Bytes) : Except Error Info :=
  let read : Option Info :=
    if atr.length ≤ maxLength then
      match atr with
      | 0x3B :: body => readBody .direct body
      | 0x3F :: body => readBody .inverse body
      | _ => none
    else none
  match read with
  | some info => .ok info
  | none => .error .invalidAtr

end Atr

end CardTerminal
