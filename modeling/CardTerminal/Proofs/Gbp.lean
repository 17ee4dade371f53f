import CardTerminal.Proofs.Block
import CardTerminal.Proofs.Transcript

/-!
Exchanges over the block protocol of readers.

An exchange is a series of turns: a block is sent, and some bytes come back, which are a block or
are not (`Gbp.Turn`). An attempt takes one turn more than there are retries at most, and all that it
says is the request and receipts (`Tries`); it ends with the answer just if the last turn brings it.
An exchange is an attempt and, if this has no end of its own, a turn to start the link afresh and
another attempt (`transceive_course`).

Main statement: `exchange_orderly`.
-/

namespace CardTerminal

open CardTerminal.Action

variable {σ : Type}

/-! ## Bytes that are not a block -/

namespace Block

/-- The bytes are those of some block of this node. -/
def Writes (nad : UInt8) (raw : Bytes) : Prop :=
  ∃ block : Block, raw = block.encode nad .lrc ∧ block.info.length ≤ maxInfo

theorem not_writes_of_short {nad : UInt8} {raw : Bytes} (short : raw.length ≤ headerLength) :
    ¬ Writes nad raw := by
  rintro ⟨block, rfl, -⟩
  rw [length_encode] at short
  simp only [Checksum.length] at short
  omega

theorem not_writes_of_cut {nad : UInt8} {header part : Bytes} (three : header.length = headerLength)
    (cut : part.length < (header.getD 2 0).toNat + Checksum.lrc.length) :
    ¬ Writes nad (header ++ part) := by
  rintro ⟨block, same, fits⟩
  have third : header.getD 2 0 = (header ++ part).getD 2 0 := by
    simp only [List.getD_eq_getElem?_getD]
    rw [List.getElem?_append_left (by rw [three]; decide)]
  have length := congrArg List.length same
  rw [List.length_append, three, length_encode] at length
  rw [third, same, length_byte nad .lrc fits] at cut
  omega

theorem adds_receive (link : Link σ) (dad : UInt8) (timeout : Nat) {w w' : σ × List ChannelCall}
    {bytes : Bytes} (received : receive link.watched dad .lrc timeout false w = .ok bytes w') :
    Link.Adds (bytes.map .received) 258 w w' := by
  obtain ⟨header, v, first, rest⟩ := bind_eq_ok received
  have seen := link.adds_receiveExactly dad timeout first
  dsimp only at rest
  split at rest
  · cases rest
  · next fits =>
    obtain ⟨more, u, second, same⟩ := bind_eq_ok rest
    cases same
    have whole := seen.trans (link.adds_receiveExactly dad timeout second)
    rw [← List.map_append] at whole
    exact whole.mono (by simp only [headerLength, maxInfo, Checksum.length] at fits ⊢; omega)

theorem adds_of_receive_error (link : Link σ) (nad dad : UInt8) (timeout : Nat)
    {w w' : σ × List ChannelCall} {e : Error}
    (failed : receive link.watched dad .lrc timeout false w = .error e w') :
    ∃ raw, Link.Adds (raw.map .received) 258 w w' ∧ ¬ Writes nad raw := by
  unfold receive at failed
  rw [if_neg (by decide)] at failed
  cases first : link.watched.receiveExactly dad timeout headerLength w with
  | error e' v =>
    rw [bind_of_error first] at failed
    cases failed
    obtain ⟨raw, short, seen⟩ := link.adds_of_receiveExactly_error dad timeout first
    exact ⟨raw, seen.mono (by decide), not_writes_of_short (Nat.le_of_lt short)⟩
  | ok header v =>
    have three := Link.length_of_receiveExactly first
    have seen := link.adds_receiveExactly dad timeout first
    rw [bind_of_ok first] at failed
    dsimp only at failed
    split at failed
    · cases failed
      exact ⟨header, seen.mono (by decide), not_writes_of_short (Nat.le_of_eq three)⟩
    · next fits =>
      cases second : link.watched.receiveExactly dad timeout
          ((header.getD 2 0).toNat + Checksum.lrc.length) v with
      | error e' u =>
        rw [bind_of_error second] at failed
        cases failed
        obtain ⟨part, short, more⟩ := link.adds_of_receiveExactly_error dad timeout second
        have whole := seen.trans more
        rw [← List.map_append] at whole
        refine ⟨header ++ part, whole.mono ?_, not_writes_of_cut three short⟩
        simp only [headerLength, maxInfo, Checksum.length] at fits ⊢
        omega
      | ok more u =>
        rw [bind_of_ok second] at failed
        cases failed

end Block

namespace Gbp

/-! ## Turns -/

/-- A block that is sent, and all bytes that come back for it. -/
structure Turn where
  sent : Block
  raw : Bytes

def Turn.signals (dad : UInt8) (turn : Turn) : List Signal :=
  .sent dad (turn.sent.encode nad .lrc) :: turn.raw.map .received

/-- The bytes that come back are this block, whole and from the reader. -/
def Turn.Brings (turn : Turn) (block : Block) : Prop :=
  turn.raw = block.encode (Block.replyNad nad) .lrc ∧ block.info.length ≤ Block.maxInfo

theorem Turn.Brings.unique {turn : Turn} {block block' : Block} (brings : turn.Brings block)
    (brings' : turn.Brings block') : block = block' := by
  have read := (Block.decode_eq_ok_iff ..).mpr brings
  have read' := (Block.decode_eq_ok_iff ..).mpr brings'
  exact Except.ok.inj (read.symm.trans read')

theorem receive_brings (link : Link σ) (g : Gbp) {next : Block} {w w' : σ × List ChannelCall}
    (sent : g.send link.watched next w = .ok () w') : ∃ raw,
      Link.Adds (Turn.signals g.dad ⟨next, raw⟩) 259 w (g.receive link.watched w').2 ∧
      ∀ block, (g.receive link.watched w').1 = .ok block ↔ Turn.Brings ⟨next, raw⟩ block := by
  have posted : Link.Adds [.sent g.dad (next.encode nad .lrc)] 1 w w' :=
    (link.adds_send g.dad _).ok sent
  unfold receive
  cases result : Block.receive link.watched g.dad .lrc g.timeout false w' with
  | ok bytes u =>
    have seen := Block.adds_receive link g.dad g.timeout result
    exact ⟨bytes, posted.trans seen, fun block => Block.decode_eq_ok_iff ..⟩
  | error e u =>
    obtain ⟨raw, seen, nothing⟩ :=
      Block.adds_of_receive_error link (Block.replyNad nad) g.dad g.timeout result
    refine ⟨raw, posted.trans seen, fun block => ⟨?_, fun brings => ?_⟩⟩
    · intro read
      cases read
    · exact absurd ⟨block, brings⟩ nothing

/-! ## What an engine makes of what it receives -/

/-- The block carries an answer with this number. -/
def IsAnswer (nr : Bool) (block : Block) : Prop :=
  ∃ more, block.kind = .information nr more

/-- The blocks that an attempt sends: the request, or a receipt. -/
inductive Speaks (g : Gbp) (request : Bytes) : Block → Prop where
  | request : Speaks g request (.information g.ns false request)
  | receipt (flaw : Block.Flaw) : Speaks g request (.receipt g.nr flaw)

/-- What becomes of what was received. -/
inductive Reacts (g : Gbp) (request : Bytes) (received : Except Error Block) : Verdict → Prop where
  | answered {block : Block} (read : received = .ok block) (due : IsAnswer g.nr block) :
      Reacts g request received (.answered block.info)
  | repeated {reply : Block} (other : ∀ block, received = .ok block → ¬ IsAnswer g.nr block)
      (speaks : Speaks g request reply) : Reacts g request received (.repeated reply)
  | lost {e : Error} (failed : received = .error e) : Reacts g request received (.lost e)

theorem react_reacts (g : Gbp) (request : Bytes) (received : Except Error Block) :
    Reacts g request received (g.react request received) := by
  cases received with
  | error e =>
    rw [react]
    split
    · refine .repeated ?_ (.receipt _)
      intro block read
      cases read
    · exact .lost rfl
  | ok block =>
    -- Just I-blocks with the number that is due are answers.
    have other (not : ∀ more, block.kind ≠ .information g.nr more) :
        ∀ block', (.ok block : Except Error Block) = .ok block' → ¬ IsAnswer g.nr block' := by
      rintro _ ⟨⟩ ⟨more, same⟩
      exact not more same
    rw [react]
    cases kind : block.kind with
    | information ns more =>
      dsimp only
      split
      · next same =>
        rw [same] at kind
        exact .answered rfl ⟨more, kind⟩
      · next different =>
        refine .repeated (other ?_) (.receipt _)
        intro more' same
        cases kind.symm.trans same
        exact different rfl
    | receipt nr =>
      refine .repeated (other ?_) .request
      intro more same
      cases kind.symm.trans same
    | supervisory task response =>
      refine .repeated (other ?_) (.receipt _)
      intro more same
      cases kind.symm.trans same

/-! ## Attempts -/

/-- An attempt with so many retries left, from this block on, can take these turns and end so; with
no outcome if the retries are spent. -/
inductive Tries (g : Gbp) (request : Bytes) : (budget : Nat) → Block → List Turn →
    Option Ended → Prop where
  | lost {budget : Nat} {next : Block} {raw : Bytes} (e : Error)
      (nothing : ∀ block, ¬ Turn.Brings ⟨next, raw⟩ block) :
      Tries g request budget next [⟨next, raw⟩] (some (.error (.lost e)))
  | answered {budget : Nat} {next block : Block} {raw : Bytes}
      (brings : Turn.Brings ⟨next, raw⟩ block) (due : IsAnswer g.nr block) :
      Tries g request budget next [⟨next, raw⟩] (some (.ok block.info))
  | spent {next : Block} {raw : Bytes}
      (other : ∀ block, Turn.Brings ⟨next, raw⟩ block → ¬ IsAnswer g.nr block) :
      Tries g request 0 next [⟨next, raw⟩] none
  | repeated {budget : Nat} {next reply : Block} {raw : Bytes} {turns : List Turn}
      {outcome : Option Ended}
      (other : ∀ block, Turn.Brings ⟨next, raw⟩ block → ¬ IsAnswer g.nr block)
      (speaks : Speaks g request reply) (more : Tries g request budget reply turns outcome) :
      Tries g request (budget + 1) next (⟨next, raw⟩ :: turns) outcome

/-- The last of the turns brings the answer. -/
def Answered (nr : Bool) (turns : List Turn) (info : Bytes) : Prop :=
  ∃ last block, turns.getLast? = some last ∧ last.Brings block ∧ IsAnswer nr block ∧
    block.info = info

namespace Tries

variable {g : Gbp} {request : Bytes} {budget : Nat} {next : Block} {turns : List Turn}
  {outcome : Option Ended}

theorem ne_nil (tries : Tries g request budget next turns outcome) : turns ≠ [] := by
  cases tries <;> exact List.cons_ne_nil _ _

theorem length_le (tries : Tries g request budget next turns outcome) :
    turns.length ≤ budget + 1 := by
  induction tries with
  | lost | answered | spent => exact Nat.succ_le_succ (Nat.zero_le _)
  | repeated _ _ _ ih => exact Nat.succ_le_succ ih

/-- An attempt has no end of its own only when all its retries are spent. -/
theorem length_of_none (tries : Tries g request budget next turns none) :
    turns.length = budget + 1 := by
  generalize none' : (none : Option Ended) = outcome at tries
  induction tries with
  | lost | answered => cases none'
  | spent => rfl
  | repeated _ _ _ ih => exact congrArg Nat.succ (ih none')

theorem speaks (tries : Tries g request budget next turns outcome) (begun : Speaks g request next) :
    ∀ turn ∈ turns, Speaks g request turn.sent := by
  induction tries with
  | lost | answered | spent =>
    intro turn here
    cases List.mem_singleton.mp here
    exact begun
  | repeated _ speaks _ ih =>
    intro turn here
    rcases List.mem_cons.mp here with rfl | later
    · exact begun
    · exact ih speaks turn later

/-- **An attempt gives an answer just if its last turn brings it.** -/
theorem answered_iff (tries : Tries g request budget next turns outcome) (info : Bytes) :
    outcome = some (.ok info) ↔ Answered g.nr turns info := by
  induction tries with
  | lost e nothing =>
    constructor
    · intro same
      cases same
    · rintro ⟨_, block, ⟨⟩, brings, -⟩
      exact absurd brings (nothing block)
  | @answered budget next block raw brings due =>
    constructor
    · intro same
      cases same
      exact ⟨_, block, rfl, brings, due, rfl⟩
    · rintro ⟨_, block', ⟨⟩, brings', -, rfl⟩
      rw [brings.unique brings']
  | spent other =>
    constructor
    · intro same
      cases same
    · rintro ⟨_, block, ⟨⟩, brings, due, -⟩
      exact absurd due (other block brings)
  | repeated _ _ more ih =>
    unfold Answered at ih ⊢
    rw [List.getLast?_cons_of_ne_nil more.ne_nil]
    exact ih

theorem fault (tries : Tries g request budget next turns outcome) {fault : Fault}
    (failed : outcome = some (.error fault)) : ∃ e, fault = .lost e := by
  induction tries with
  | lost e =>
    cases failed
    exact ⟨e, rfl⟩
  | answered => cases failed
  | spent => cases failed
  | repeated _ _ _ ih => exact ih failed

end Tries

theorem Turn.not_brings_nil (next block : Block) : ¬ Turn.Brings ⟨next, []⟩ block :=
  fun brings => Block.not_writes_of_short (Nat.zero_le _) ⟨block, brings⟩

theorem run_tries (link : Link σ) (g : Gbp) (request : Bytes) (budget : Nat) (next : Block)
    (w : σ × List ChannelCall) : ∃ turns,
      Tries g request budget next turns (g.run link.watched request budget next w).1 ∧
      Link.Adds (turns.flatMap (Turn.signals g.dad)) (259 * turns.length) w
        (g.run link.watched request budget next w).2 := by
  induction budget using Nat.strongRecOn generalizing next w with
  | ind budget ih =>
    have send : Moves (Link.Adds [.sent g.dad (next.encode nad .lrc)] 1)
        (g.send link.watched next) := link.adds_send g.dad _
    unfold run
    cases sent : g.send link.watched next w with
    | error e w' =>
      have seen := (send.error sent).mono (show 1 ≤ 259 by decide)
      exact ⟨[⟨next, []⟩], .lost e (Turn.not_brings_nil next), seen⟩
    | ok _ w' =>
      obtain ⟨raw, seen, brings⟩ := receive_brings link g sent
      have reacts := react_reacts g request (g.receive link.watched w').1
      have alone : Link.Adds ([⟨next, raw⟩].flatMap (Turn.signals g.dad)) 259 w
          (g.receive link.watched w').2 := by
        rwa [List.flatMap_singleton]
      dsimp only
      generalize g.react request (g.receive link.watched w').1 = verdict at reacts ⊢
      cases reacts with
      | answered read due => exact ⟨_, .answered ((brings _).mp read) due, alone⟩
      | @lost e failed =>
        refine ⟨_, .lost e fun block brought => ?_, alone⟩
        cases failed.symm.trans ((brings block).mpr brought)
      | repeated other speaks =>
        have other (block : Block) (brought : Turn.Brings ⟨next, raw⟩ block) :
            ¬ IsAnswer g.nr block := other block ((brings block).mpr brought)
        cases budget with
        | zero => exact ⟨_, .spent other, alone⟩
        | succ left =>
          obtain ⟨turns, tries, later⟩ := ih left (Nat.lt_succ_self left) _ _
          refine ⟨⟨next, raw⟩ :: turns, .repeated other speaks tries, ?_⟩
          exact (seen.trans later).mono (by rw [List.length_cons]; omega)

/-! ## Starting the link afresh -/

/-- In this turn the reader is asked to start afresh. -/
def Turn.Asks (turn : Turn) : Prop :=
  turn.sent = .request .resynch []

/-- In this turn the reader agrees to start afresh. -/
def Turn.Agrees (turn : Turn) : Prop :=
  ∃ block, turn.Brings block ∧ block.kind = .supervisory .resynch true

theorem resynch_turn (link : Link σ) (g : Gbp) (w : σ × List ChannelCall) :
    ∃ turn : Turn, turn.Asks ∧
      Link.Adds (turn.signals g.dad) 259 w (g.resynch link.watched w).2 ∧
      ((g.resynch link.watched w).1 = .ok () ∧ turn.Agrees ∨
        ∃ e, (g.resynch link.watched w).1 = .error (.lost e)) := by
  have send : Moves (Link.Adds [.sent g.dad ((Block.request .resynch []).encode nad .lrc)] 1)
      (g.send link.watched (.request .resynch [])) := link.adds_send g.dad _
  unfold resynch
  cases sent : g.send link.watched (.request .resynch []) w with
  | error e w' =>
    have seen := (send.error sent).mono (show 1 ≤ 259 by decide)
    exact ⟨⟨_, []⟩, rfl, seen, .inr ⟨e, rfl⟩⟩
  | ok _ w' =>
    obtain ⟨raw, seen, brings⟩ := receive_brings link g sent
    refine ⟨⟨_, raw⟩, rfl, ?_⟩
    dsimp only
    rcases heard : g.receive link.watched w' with ⟨_ | block, w''⟩
    · rw [heard] at seen
      exact ⟨seen, .inr ⟨_, rfl⟩⟩
    · rw [heard] at seen brings
      dsimp only
      refine ⟨seen, ?_⟩
      split
      · next agreed => exact .inl ⟨rfl, block, (brings block).mp rfl, agreed⟩
      · exact .inr ⟨_, rfl⟩

/-! ## Exchanges -/

/-- The engine with a link that was started afresh. -/
def afresh (g : Gbp) : Gbp :=
  { g with ns := false, nr := false }

/-- The engine with both numbers moved on. -/
def advanced (g : Gbp) : Gbp :=
  { g with ns := !g.ns, nr := !g.nr }

/-- The engine after an attempt with this outcome. -/
def after (g : Gbp) : Ended → Gbp
  | .ok _ => g.advanced
  | .error _ => g

/-- A request that fits is tried, and tried once more if the link can be started afresh. -/
theorem transceive_eq (link : Link σ) (g : Gbp) {request : Bytes}
    (fits : request.length ≤ Block.maxInfo) (s : σ) : g.transceive link request s =
      match g.attempt link request s with
      | (some outcome, s) => ⟨outcome, g.after outcome, s⟩
      | (none, s) =>
        match g.resynch link s with
        | (.error fault, s) => ⟨.error fault, g, s⟩
        | (.ok _, s) =>
          match g.afresh.attempt link request s with
          | (some outcome, s) => ⟨outcome, g.afresh.after outcome, s⟩
          | (none, s) => ⟨.error (.lost .commError), g.afresh, s⟩ := by
  have finish (g : Gbp) (outcome : Ended) (s : σ) :
      g.finish outcome s = ⟨outcome, g.after outcome, s⟩ := by
    cases outcome <;> rfl
  unfold transceive
  rw [if_neg (Nat.not_lt.mpr fits)]
  simp only [finish]
  rfl

/-- An exchange can take this course: the turns of an attempt, perhaps one that starts the link
afresh, and then those of another attempt; and it can end so. -/
inductive Course (g : Gbp) (request : Bytes) :
    (first resynch second : List Turn) → Ended → Gbp → Prop where
  | settled {turns : List Turn} {outcome : Ended}
      (tries : Tries g request g.retries (g.carry request) turns (some outcome)) :
      Course g request turns [] [] outcome (g.after outcome)
  | refused {turns : List Turn} {turn : Turn} (e : Error)
      (tries : Tries g request g.retries (g.carry request) turns none) (asks : turn.Asks) :
      Course g request turns [turn] [] (.error (.lost e)) g
  | repaired {turns again : List Turn} {turn : Turn} {outcome : Ended}
      (tries : Tries g request g.retries (g.carry request) turns none) (asks : turn.Asks)
      (agrees : turn.Agrees)
      (more : Tries g.afresh request g.retries (g.afresh.carry request) again (some outcome)) :
      Course g request turns [turn] again outcome (g.afresh.after outcome)
  | exhausted {turns again : List Turn} {turn : Turn}
      (tries : Tries g request g.retries (g.carry request) turns none) (asks : turn.Asks)
      (agrees : turn.Agrees)
      (more : Tries g.afresh request g.retries (g.afresh.carry request) again none) :
      Course g request turns [turn] again (.error (.lost .commError)) g.afresh

/-- All that an exchange does is turns. -/
theorem transceive_course (link : Link σ) (g : Gbp) {request : Bytes}
    (fits : request.length ≤ Block.maxInfo) (w : σ × List ChannelCall) :
    ∃ first resynch second,
      Course g request first resynch second (g.transceive link.watched request w).outcome
        (g.transceive link.watched request w).engine ∧
      Link.Adds ((first ++ resynch ++ second).flatMap (Turn.signals g.dad))
        (259 * (first ++ resynch ++ second).length) w
        (g.transceive link.watched request w).device := by
  have attempt (g : Gbp) (w : σ × List ChannelCall) : ∃ turns,
      Tries g request g.retries (g.carry request) turns (g.attempt link.watched request w).1 ∧
      Link.Adds (turns.flatMap (Turn.signals g.dad)) (259 * turns.length) w
        (g.attempt link.watched request w).2 :=
    run_tries link g request g.retries (g.carry request) w
  rw [transceive_eq link.watched g fits]
  obtain ⟨turns, tries, seen⟩ := attempt g w
  generalize g.attempt link.watched request w = attempted at tries seen ⊢
  obtain ⟨_ | outcome, v⟩ := attempted
  · obtain ⟨turn, asks, asked, agreed⟩ := resynch_turn link g v
    have seen := seen.trans asked
    have signals (again : List Turn) : (turns ++ [turn] ++ again).flatMap (Turn.signals g.dad) =
        turns.flatMap (Turn.signals g.dad) ++ turn.signals g.dad ++
          again.flatMap (Turn.signals g.dad) := by
      simp only [List.flatMap_append, List.flatMap_singleton]
    have length (again : List Turn) : 259 * (turns ++ [turn] ++ again).length =
        259 * turns.length + 259 + 259 * again.length := by
      simp only [List.length_append, List.length_singleton]
      omega
    dsimp only
    generalize g.resynch link.watched v = started at seen agreed ⊢
    obtain ⟨fault | _, u⟩ := started
    · rcases agreed with ⟨agreed, -⟩ | ⟨e, refused⟩
      · cases agreed
      · cases refused
        refine ⟨turns, [turn], [], .refused e tries asks, ?_⟩
        rw [signals, length, List.flatMap_nil, List.append_nil]
        exact seen
    · obtain ⟨again, more, rest⟩ := attempt g.afresh u
      have seen := seen.trans rest
      have agrees : turn.Agrees := by
        rcases agreed with ⟨-, agrees⟩ | ⟨e, refused⟩
        · exact agrees
        · cases refused
      dsimp only
      refine ⟨turns, [turn], again, ?_⟩
      rw [signals, length]
      generalize g.afresh.attempt link.watched request u = attempted at more seen ⊢
      obtain ⟨_ | outcome, u'⟩ := attempted
      · exact ⟨.exhausted tries asks agrees more, seen⟩
      · exact ⟨.repaired tries asks agrees more, seen⟩
  · refine ⟨turns, [], [], .settled tries, ?_⟩
    rw [List.append_nil, List.append_nil]
    exact seen

/-- An exchange of a request that fits, as it should be: these are the turns of its first attempt,
the one that starts the link afresh, and those of its second attempt. -/
structure Orderly (g : Gbp) (request : Bytes) (x : Exchange Ended Gbp (σ × List ChannelCall))
    (first resynch second : List Turn) : Prop where
  /-- Nothing else is seen. -/
  seen : transcript x.device.2 = (first ++ resynch ++ second).flatMap (Turn.signals g.dad)
  calls : x.device.2.length ≤ 259 * (2 * (g.retries + 1) + 1)
  first_le : first.length ≤ g.retries + 1
  resynch_le : resynch.length ≤ 1
  second_le : second.length ≤ g.retries + 1
  /-- The link is started afresh only when all retries are spent. -/
  spent : resynch ≠ [] → first.length = g.retries + 1
  /-- The request is sent unchanged and with the number in force; the rest is receipts. -/
  first_speaks : ∀ turn ∈ first, Speaks g request turn.sent
  asks : ∀ turn ∈ resynch, turn.Asks
  second_speaks : ∀ turn ∈ second, Speaks g.afresh request turn.sent
  /-- There is a second attempt only if the reader agrees to it. -/
  agreed : second ≠ [] → ∃ turn ∈ resynch, turn.Agrees
  /-- There is an answer just if the last turn brings it, and this is not the one that starts the
  link afresh. -/
  answered_iff : ∀ info, x.outcome = .ok info ↔
    resynch = [] ∧ Answered g.nr first info ∨ Answered false second info
  /-- An answer moves both numbers on, once since the start or since the link was started afresh. -/
  advanced : ∀ info, x.outcome = .ok info →
    x.engine = (if resynch = [] then g else g.afresh).advanced
  lost : ∀ fault, x.outcome = .error fault → ∃ e, fault = .lost e

theorem not_answered_nil (nr : Bool) (info : Bytes) : ¬ Answered nr [] info := by
  rintro ⟨last, block, none, -⟩
  cases none

namespace Course

variable {g engine : Gbp} {request : Bytes} {first resynch second : List Turn}
  {outcome : Ended}

theorem inStep (course : Course g request first resynch second outcome engine)
    (inStep : g.ns = g.nr) : engine.ns = engine.nr := by
  cases course with
  | settled =>
    cases outcome with
    | ok => exact congrArg Bool.not inStep
    | error => exact inStep
  | refused => exact inStep
  | repaired => cases outcome <;> rfl
  | exhausted => rfl

theorem few (course : Course g request first resynch second outcome engine) :
    first.length ≤ g.retries + 1 ∧ resynch.length ≤ 1 ∧ second.length ≤ g.retries + 1 := by
  cases course with
  | settled tries => exact ⟨tries.length_le, Nat.zero_le _, Nat.zero_le _⟩
  | refused e tries => exact ⟨tries.length_le, Nat.le_refl _, Nat.zero_le _⟩
  | repaired tries _ _ more => exact ⟨tries.length_le, Nat.le_refl _, more.length_le⟩
  | exhausted tries _ _ more => exact ⟨tries.length_le, Nat.le_refl _, more.length_le⟩

theorem spent (course : Course g request first resynch second outcome engine)
    (asked : resynch ≠ []) : first.length = g.retries + 1 := by
  cases course with
  | settled => exact absurd rfl asked
  | refused _ tries | repaired tries | exhausted tries => exact tries.length_of_none

theorem first_speaks (course : Course g request first resynch second outcome engine) :
    ∀ turn ∈ first, Speaks g request turn.sent := by
  cases course with
  | settled tries | refused _ tries | repaired tries | exhausted tries =>
    exact tries.speaks .request

theorem second_speaks (course : Course g request first resynch second outcome engine) :
    ∀ turn ∈ second, Speaks g.afresh request turn.sent := by
  cases course with
  | settled | refused =>
    intro turn here
    cases here
  | repaired _ _ _ more | exhausted _ _ _ more => exact more.speaks .request

/-- One turn at most starts the link afresh, and there is a second attempt only if the reader agrees
to it. -/
theorem resynch_asks (course : Course g request first resynch second outcome engine) :
    (∀ turn ∈ resynch, turn.Asks) ∧ (second ≠ [] → ∃ turn ∈ resynch, turn.Agrees) := by
  cases course with
  | settled =>
    refine ⟨?_, fun some => absurd rfl some⟩
    intro turn here
    cases here
  | refused _ _ asks =>
    refine ⟨?_, fun some => absurd rfl some⟩
    intro turn here
    cases List.mem_singleton.mp here
    exact asks
  | repaired _ asks agrees | exhausted _ asks agrees =>
    refine ⟨?_, fun _ => ⟨_, List.mem_singleton_self _, agrees⟩⟩
    intro turn here
    cases List.mem_singleton.mp here
    exact asks

theorem answered_iff (course : Course g request first resynch second outcome engine)
    (info : Bytes) : outcome = .ok info ↔
      resynch = [] ∧ Answered g.nr first info ∨ Answered false second info := by
  have nothing := not_answered_nil false info
  cases course with
  | settled tries =>
    rw [← tries.answered_iff, Option.some.injEq]
    simp [nothing]
  | refused => simp [nothing]
  | repaired _ _ _ more =>
    have answered : some outcome = some (.ok info) ↔ Answered false second info :=
      more.answered_iff info
    rw [Option.some.injEq] at answered
    simpa using answered
  | exhausted _ _ _ more =>
    have answered : (none : Option Ended) = some (.ok info) ↔
        Answered false second info := more.answered_iff info
    simpa using answered

theorem engine_of_ok (course : Course g request first resynch second outcome engine) {info : Bytes}
    (answered : outcome = .ok info) :
    engine = (if resynch = [] then g else g.afresh).advanced := by
  cases course with
  | settled | repaired =>
    cases answered
    rfl
  | refused | exhausted => cases answered

theorem lost (course : Course g request first resynch second outcome engine) {fault : Fault}
    (failed : outcome = .error fault) : ∃ e, fault = .lost e := by
  cases course with
  | settled tries => exact tries.fault (congrArg some failed)
  | repaired _ _ _ more => exact more.fault (congrArg some failed)
  | refused | exhausted =>
    cases failed
    exact ⟨_, rfl⟩

theorem orderly {w : σ × List ChannelCall} {s : σ}
    (course : Course g request first resynch second outcome engine)
    (adds : Link.Adds ((first ++ resynch ++ second).flatMap (Turn.signals g.dad))
      (259 * (first ++ resynch ++ second).length) (s, []) w) :
    Orderly g request ⟨outcome, engine, w⟩ first resynch second where
  seen := adds.fresh.1
  calls := by
    have few := course.few
    refine Nat.le_trans adds.fresh.2 ?_
    simp only [List.length_append]
    omega
  first_le := course.few.1
  resynch_le := course.few.2.1
  second_le := course.few.2.2
  spent := course.spent
  first_speaks := course.first_speaks
  asks := course.resynch_asks.1
  second_speaks := course.second_speaks
  agreed := course.resynch_asks.2
  answered_iff := course.answered_iff
  advanced := fun _ => course.engine_of_ok
  lost := fun _ => course.lost

end Course

theorem length_of_transceive (link : Link σ) (g : Gbp) (request : Bytes) (s : σ) {answer : Bytes}
    (answered : (g.transceive link request s).outcome = .ok answer) :
    answer.length ≤ Block.maxInfo := by
  have fits {nr : Bool} {turns : List Turn} (brought : Answered nr turns answer) :
      answer.length ≤ Block.maxInfo := by
    obtain ⟨last, block, -, brings, -, rfl⟩ := brought
    exact brings.2
  by_cases short : request.length ≤ Block.maxInfo
  · obtain ⟨_, _, _, course, -⟩ := transceive_course link g short (s, [])
    have unwatched := transceive_shows link.watched_shows g request (s, [])
    have watched := (congrArg Exchange.outcome unwatched).symm.trans answered
    rcases (course.answered_iff answer).mp watched with ⟨-, first⟩ | second
    · exact fits first
    · exact fits second
  · unfold transceive at answered
    rw [if_pos (Nat.lt_of_not_le short)] at answered
    cases answered

/-! ## Histories -/

/-- A use of an engine: how patient it is to be, and what is requested. -/
structure Use where
  retries : Nat
  timeout : Nat
  request : Bytes

/-- The engine as it is to be for this use. -/
def Use.prepare (use : Use) (g : Gbp) : Gbp :=
  { g with retries := use.retries, timeout := use.timeout }

def serve (link : Link σ) : Gbp → List Use → σ → Gbp × σ
  | g, [], s => (g, s)
  | g, use :: uses, s =>
    let x := (use.prepare g).transceive link use.request s
    serve link x.engine uses x.device

theorem inStep_transceive (link : Link σ) {g : Gbp} (inStep : g.ns = g.nr) (request : Bytes)
    (s : σ) :
    (g.transceive link request s).engine.ns = (g.transceive link request s).engine.nr := by
  by_cases fits : request.length ≤ Block.maxInfo
  · have unwatched := transceive_shows link.watched_shows g request (s, [])
    obtain ⟨_, _, _, course, -⟩ := transceive_course link g fits (s, [])
    have same : (g.transceive link request s).engine =
        (g.transceive link.watched request (s, [])).engine := congrArg Exchange.engine unwatched
    rw [same]
    exact course.inStep inStep
  · unfold transceive
    rw [if_pos (Nat.lt_of_not_le fits)]
    exact inStep

theorem inStep_serve (link : Link σ) {g : Gbp} (inStep : g.ns = g.nr) (uses : List Use) (s : σ) :
    (serve link g uses s).1.ns = (serve link g uses s).1.nr := by
  induction uses generalizing g s with
  | nil => exact inStep
  | cons use uses ih =>
    have prepared : (use.prepare g).ns = (use.prepare g).nr := inStep
    exact ih (inStep_transceive link prepared use.request s) _

/-- **Exchanges over the block protocol of readers are orderly.** Whatever a fresh engine has been
used for, over any channel and whatever was received, the two sides' numbers are the same. A request
that does not fit into a block is refused without a call and without a change. Any other one takes
two attempts at most, with as many turns each as there are retries and one more, and one turn
between them that starts the link afresh. -/
theorem exchange_orderly (link : Link σ) (dad : UInt8) (history : List Use) (use : Use) (s : σ) :
    let before := serve link (new dad) history s
    let g := use.prepare before.1
    let x := g.transceive link.watched use.request (before.2, [])
    g.ns = g.nr ∧ x.engine.ns = x.engine.nr ∧
      if Block.maxInfo < use.request.length then
        x = ⟨.error (.failed .invalidArg), g, (before.2, [])⟩
      else ∃ first resynch second, Orderly g use.request x first resynch second := by
  intro before g x
  have inStep : g.ns = g.nr := inStep_serve link rfl history s
  refine ⟨inStep, inStep_transceive link.watched inStep _ _, ?_⟩
  split
  · next long =>
    exact if_pos long
  · next fits =>
    obtain ⟨first, resynch, second, course, adds⟩ :=
      transceive_course link g (Nat.le_of_not_lt fits) (before.2, [])
    exact ⟨first, resynch, second, course.orderly adds⟩

/-- A channel that gives these bytes in order, as many as there is room for. -/
def stream : Link Bytes where
  send _ _ := pure ()
  recv _ room _ := fun coming => .ok (coming.take room) (coming.drop room)
  patience := 0

theorem delivers_stream (dad : UInt8) (timeout : Nat) :
    stream.Delivers dad timeout (fun coming left => left = coming) where
  recv := by
    rintro _ coming room rfl some positive
    refine ⟨coming.take room, coming.drop room, _, ?_, List.length_take_le ..,
      List.take_append_drop .., rfl, rfl⟩
    simp [some, Nat.ne_of_gt positive]

theorem receive_stream (dad : UInt8) (timeout : Nat) (header rest coming : Bytes)
    (three : header.length = Block.headerLength) (fits : (header.getD 2 0).toNat ≤ Block.maxInfo)
    (sized : rest.length = (header.getD 2 0).toNat + Checksum.lrc.length) :
    Block.receive stream dad .lrc timeout false (header ++ (rest ++ coming)) =
      .ok (header ++ rest) coming := by
  obtain ⟨_, first, rfl⟩ := (delivers_stream dad timeout).receiveExactly header rfl
  obtain ⟨_, second, rfl⟩ := (delivers_stream dad timeout).receiveExactly rest rfl
  unfold Block.receive
  rw [if_neg (by decide), ← three, bind_of_ok first]
  dsimp only
  rw [if_neg (Nat.not_lt.mpr fits), ← sized, bind_of_ok second]
  rfl

def impatient : Gbp :=
  { new 0 with retries := 0 }

/-- The writing of an answer with the number that a fresh engine expects. -/
def reply : Bytes :=
  [0x24, 0x00, 0x01, 0x00, 0x25]

/-- The answer to starting the link afresh is not taken for the answer to a request, even if it is
one. -/
theorem resynch_not_answered :
    reply = (Block.information false false [0x00]).encode (Block.replyNad nad) .lrc ∧
      IsAnswer impatient.nr (.information false false [0x00]) ∧
      impatient.transceive stream [0x12] ([0x24, 0x00, 0x00, 0xFF] ++ reply) =
        ⟨.error (.lost .commError), impatient, []⟩ := by
  have first : Block.receive stream impatient.dad .lrc impatient.timeout false
      ([0x24, 0x00, 0x00, 0xFF] ++ reply) = .ok [0x24, 0x00, 0x00, 0xFF] reply :=
    receive_stream 0 2000 [0x24, 0x00, 0x00] [0xFF] reply rfl (by decide) rfl
  have second : Block.receive stream impatient.dad .lrc impatient.timeout false reply =
      .ok reply [] :=
    receive_stream 0 2000 [0x24, 0x00, 0x01] [0x00, 0x25] [] rfl (by decide) rfl
  have tried : impatient.attempt stream [0x12] ([0x24, 0x00, 0x00, 0xFF] ++ reply) =
      (none, reply) := by
    unfold attempt run
    rw [show impatient.send stream _ _ = .ok () _ from rfl]
    dsimp only
    rw [receive, first]
    rfl
  have started : impatient.resynch stream reply = (.error (.lost .commError), []) := by
    unfold resynch
    rw [show impatient.send stream _ _ = .ok () _ from rfl]
    dsimp only
    rw [receive, second]
    rfl
  refine ⟨rfl, ⟨false, by decide⟩, ?_⟩
  rw [transceive_eq stream impatient (by decide), tried]
  dsimp only
  rw [started]

end Gbp

end CardTerminal
