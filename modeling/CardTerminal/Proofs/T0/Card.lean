import CardTerminal.Protocol.T0

/-!
A T=0 card, and the two ways to talk to it.

To a header, a card either takes data or gives some, and ends with a status. It paces this with
procedure bytes as it likes: null bytes, requests for one more byte and requests for all remaining
ones, of as many bytes as the header names (`Paces`). So a card that is to give less than it was
asked for gives every byte on its own, and one that takes less than there is asks for every byte on
its own.

A channel of characters carries the procedure bytes themselves (`Card.characters`). A reader that
paces the card itself carries out whole transfers, and has the answer ready at once (`Card.blocks`).
-/

namespace CardTerminal.T0

/-! ## Pacing -/

/-- What a card says with a procedure byte while data is moved. -/
inductive Pace where
  | null
  /-- One byte is to be moved. -/
  | one
  /-- All remaining bytes are to be moved. -/
  | all
  deriving DecidableEq, Repr

/-- The procedure byte, after a header with this instruction byte. -/
def Pace.byte (ins : UInt8) : Pace → UInt8
  | .null => 0x60
  | .one => ~~~ins
  | .all => ins

/-- This pacing moves `moved` bytes, of the `named` ones that the header names. -/
inductive Paces : List Pace → (moved named : Nat) → Prop where
  | done (named : Nat) : Paces [] 0 named
  | null {paces : List Pace} {moved named : Nat} (rest : Paces paces moved named) :
      Paces (.null :: paces) moved named
  | one {paces : List Pace} {moved named : Nat} (rest : Paces paces moved named) :
      Paces (.one :: paces) (moved + 1) (named + 1)
  | all {paces : List Pace} {named : Nat} (rest : Paces paces 0 0) :
      Paces (.all :: paces) (named + 1) (named + 1)

theorem Paces.le {paces : List Pace} {moved named : Nat} (paced : Paces paces moved named) :
    moved ≤ named := by
  induction paced with
  | done named => exact Nat.zero_le named
  | null _ ih => exact ih
  | one _ ih => exact Nat.succ_le_succ ih
  | all => exact Nat.le_refl _

/-- How many null bytes there are. -/
def nulls (paces : List Pace) : Nat :=
  paces.count .null

/-! ## Cards -/

/-- A status word, which ends a transfer. -/
structure Status where
  high : UInt8
  low : UInt8
  legal : high &&& 0xF0 = 0x60 ∧ high ≠ 0x60 ∨ high &&& 0xF0 = 0x90

def Status.bytes (status : Status) : Bytes :=
  [status.high, status.low]

/-- What a card does about a header. Both ways it is in another state afterwards. -/
inductive Response (κ : Type) where
  /-- It takes so many bytes of the data, and then judges them. -/
  | take (paces : List Pace) (count : Nat) (judge : Bytes → Status × κ)
  /-- It gives a reply. -/
  | give (paces : List Pace) (reply : Bytes) (status : Status) (next : κ)

/-- The response is one to a header with so much data, or one that wants so long a reply, and holds
no more null bytes than allowed. -/
inductive Response.Fits {κ : Type} (limit : Nat) : Response κ → (data wanted : Nat) → Prop where
  | take {paces : List Pace} {count data : Nat} {judge : Bytes → Status × κ} (wanted : Nat)
      (some : 0 < data) (paced : Paces paces count data) (few : nulls paces ≤ limit) :
      Fits limit (.take paces count judge) data wanted
  | give {paces : List Pace} {reply : Bytes} {status : Status} {next : κ} {wanted : Nat}
      (paced : Paces paces reply.length wanted) (few : nulls paces ≤ limit) :
      Fits limit (.give paces reply status next) 0 wanted

/-- A card with states `κ`: what it does about every header. -/
abbrev Card (κ : Type) : Type :=
  κ → Bytes → Response κ

/-! ## What a card sees -/

/-- A header with the data that the card took. -/
structure Tpdu where
  header : Bytes
  data : Bytes
  deriving DecidableEq, Repr

/-- A card at work. -/
structure Session (κ : Type) where
  state : κ
  /-- What the card has been asked, in order. -/
  seen : List Tpdu

namespace Card

variable {κ : Type}

/-- A transfer as the card carries it out: the answer with its status, and the card afterwards. -/
def perform (card : Card κ) (header data : Bytes) (x : Session κ) : Bytes × Session κ :=
  match card x.state header with
  | .take _ count judge =>
    let (status, next) := judge (data.take count)
    (status.bytes, ⟨next, x.seen ++ [⟨header, data.take count⟩]⟩)
  | .give _ reply status next => (reply ++ status.bytes, ⟨next, x.seen ++ [⟨header, []⟩]⟩)

/-- A reply is asked for, and asked for once more if the card corrects its length. -/
def fetch (card : Card κ) (header : Bytes) (x : Session κ) : Bytes × Session κ :=
  match card.perform header [] x with
  | ([0x6C, corrected], x) => card.perform (withP3 header corrected) [] x
  | (answer, x) => (answer, x)

/-- The header that fetches so many bytes of an answer; zero stands for 256 bytes. -/
def getResponse (count : Nat) : Bytes :=
  [0x00, 0xC0, 0x00, 0x00, UInt8.ofNat count]

/-- Data is sent, and an answer fetched if the card holds one ready. -/
def sendAndFetch (card : Card κ) (header data : Bytes) (wanted : Nat) (x : Session κ) :
    Bytes × Session κ :=
  match card.perform header data x with
  | ([0x61, available], x) => card.fetch (getResponse (min (Apdu.shortLength available) wanted)) x
  | (answer, x) => (answer, x)

def firstHeader (command : Bytes) (shape : Apdu.Shape) : Bytes :=
  if shape.case = .case1 then withP3 (command.take 5) 0 else command.take 5

/-- What a command comes to, seen from the card. -/
def exchange (card : Card κ) (command : Bytes) (shape : Apdu.Shape) (x : Session κ) :
    Bytes × Session κ :=
  let header := firstHeader command shape
  let data := (command.drop 5).take shape.lc
  match shape.case with
  | .case2Short => card.fetch header x
  | .case4Short => card.sendAndFetch header data shape.le x
  | _ => card.perform header data x

/-! ## What a card is expected to do -/

/-- To a request for so long a reply the card gives none that is longer, and neither if it corrects
the length, to a request for the right one. -/
def FitsFetch (card : Card κ) (limit : Nat) (header : Bytes) (wanted : Nat) (x : Session κ) :
    Prop :=
  (card x.state header).Fits limit 0 wanted ∧
    ∀ corrected y, card.perform header [] x = ([0x6C, corrected], y) →
      (card y.state (withP3 header corrected)).Fits limit 0 (Apdu.shortLength corrected)

/-- The card answers every transfer that the command comes to as it may: with procedure bytes for
the data and the reply that the header names, and with so many null bytes at most. -/
def FitsCommand (card : Card κ) (limit : Nat) (command : Bytes) (shape : Apdu.Shape)
    (x : Session κ) : Prop :=
  let header := firstHeader command shape
  let data := (command.drop 5).take shape.lc
  match shape.case with
  | .case2Short => card.FitsFetch limit header shape.le x
  | .case4Short => (card x.state header).Fits limit shape.lc 0 ∧
    ∀ available y, card.perform header data x = ([0x61, available], y) →
      let count := min (Apdu.shortLength available) shape.le
      card.FitsFetch limit (getResponse count) count y
  | _ => (card x.state header).Fits limit shape.lc 0

/-! ## A reader that paces the card itself -/

/-- The card behind such a reader, with the answer that is not yet taken. -/
structure Ready (κ : Type) where
  session : Session κ
  answer : Bytes

/-- Whole transfers are sent, and whole answers received. -/
def blocks (card : Card κ) : Link (Ready κ) where
  send _ bytes s :=
    let (answer, session) := card.perform (bytes.take 5) (bytes.drop 5) s.session
    .ok () ⟨session, answer⟩
  recv _ _ _ s := .ok s.answer { s with answer := [] }
  patience := 0

/-! ## A channel of characters -/

/-- What a card in the middle of taking data goes on with. -/
structure Taking (κ : Type) where
  header : Bytes
  taken : Bytes
  /-- The pacing after the request that is to be fulfilled next. -/
  paces : List Pace
  judge : Bytes → Status × κ

/-- The card at the end of a line, with the characters that are not yet received. -/
structure Line (κ : Type) where
  session : Session κ
  coming : Bytes
  taking : Option (Taking κ)

/-- A card that waits for a header. -/
def Line.resting (x : Session κ) : Line κ :=
  ⟨x, [], none⟩

/-- Take data: say what is to be said up to the next request, or up to the status. -/
def advance (header taken : Bytes) (judge : Bytes → Status × κ) (x : Session κ) :
    List Pace → Line κ
  | [] =>
    let (status, next) := judge taken
    ⟨⟨next, x.seen ++ [⟨header, taken⟩]⟩, status.bytes, none⟩
  | .null :: paces =>
    let line := advance header taken judge x paces
    { line with coming := Pace.null.byte (header.getD 1 0) :: line.coming }
  | pace :: paces => ⟨x, [pace.byte (header.getD 1 0)], some ⟨header, taken, paces, judge⟩⟩

/-- A reply with its procedure bytes. -/
def paced (ins : UInt8) : List Pace → Bytes → Bytes
  | [], _ => []
  | .null :: paces, reply => Pace.null.byte ins :: paced ins paces reply
  | .one :: paces, reply => Pace.one.byte ins :: (reply.take 1 ++ paced ins paces (reply.drop 1))
  | .all :: paces, reply => Pace.all.byte ins :: (reply ++ paced ins paces [])

/-- Characters for the card: a header, or the data that it asked for. -/
def hear (card : Card κ) (bytes : Bytes) (line : Line κ) : Line κ :=
  match line.taking with
  | some taking =>
    advance taking.header (taking.taken ++ bytes) taking.judge line.session taking.paces
  | none =>
    match card line.session.state bytes with
    | .take paces _ judge => advance bytes [] judge line.session paces
    | .give paces reply status next =>
      ⟨⟨next, line.session.seen ++ [⟨bytes, []⟩]⟩,
        paced (bytes.getD 1 0) paces reply ++ status.bytes, none⟩

/-- Single characters are sent and received. Of those that are there, `cut` says how many are given
at once; this is one at least, and no more than there is room for. -/
def characters (card : Card κ) (cut : Bytes → Nat) : Link (Line κ) where
  send _ bytes line := .ok () (card.hear bytes line)
  recv _ room _ line :=
    if line.coming = [] then .error .timeout line
    else
      let count := min room (max 1 (cut line.coming))
      .ok (line.coming.take count) { line with coming := line.coming.drop count }
  patience := 0

end Card

end CardTerminal.T0
