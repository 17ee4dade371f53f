import CardTerminal.Proofs.Action
import CardTerminal.Protocol.Gbp
import CardTerminal.Protocol.T0
import CardTerminal.Protocol.T1

/-!
What exchanges do to a device: nothing but sending and receiving.

If sending and receiving change the device in a way that is a path (`Action.Path`), then whole
exchanges change it in this way too, however they go and however they end.
-/

namespace CardTerminal

open CardTerminal.Action

variable {σ : Type}

/-- Receiving changes the device in this way. -/
structure Link.Receives (R : σ → σ → Prop) (link : Link σ) : Prop where
  recv : ∀ dad room timeout, Action.Moves R (link.recv dad room timeout)

/-- Sending and receiving change the device in this way. -/
structure Link.Moves (R : σ → σ → Prop) (link : Link σ) : Prop extends link.Receives R where
  send : ∀ dad bytes, Action.Moves R (link.send dad bytes)

variable {R : σ → σ → Prop} {link : Link σ}

/-! ## Receiving -/

namespace Link.Receives

theorem receive (receives : link.Receives R) (dad : UInt8) (room timeout : Nat) :
    Action.Moves R (link.receive dad room timeout) := by
  intro s
  simp only [after, Link.receive]
  split
  · next received => exact (receives.recv dad room timeout).ok received
  · next failed => exact (receives.recv dad room timeout).error failed

theorem gather (receives : link.Receives R) (path : Path R) (dad : UInt8) (timeout wanted : Nat)
    (s : σ) : R s (left (link.gather dad timeout wanted s).2) := by
  have receive := fun wanted => receives.receive dad wanted timeout
  fun_induction Link.gather link dad timeout wanted s with
  | case1 s => exact path.refl s
  | case2 wanted s _ e s' failed => exact (receive wanted).error failed
  | case3 wanted s _ s' nothing => exact (receive wanted).ok nothing
  | case4 wanted s _ b bs s' received more ending rest ih =>
    rw [rest] at ih
    exact path.trans ((receive wanted).ok received) ih

theorem receiveExactly (receives : link.Receives R) (path : Path R) (dad : UInt8)
    (timeout wanted : Nat) : Action.Moves R (link.receiveExactly dad timeout wanted) := by
  intro s
  have gather := receives.gather path dad timeout wanted s
  simp only [after, Link.receiveExactly]
  split
  · next gathered => rwa [gathered] at gather
  · next gathered => rwa [gathered] at gather

theorem block (receives : link.Receives R) (path : Path R) (dad : UInt8) (cs : Checksum)
    (timeout : Nat) (whole : Bool) : Action.Moves R (Block.receive link dad cs timeout whole) := by
  unfold Block.receive
  split
  · exact receives.receive dad _ timeout
  · apply Moves.bind path (receives.receiveExactly path dad timeout _)
    intro header
    have rest := receives.receiveExactly path dad timeout ((header.getD 2 0).toNat + cs.length)
    have whole := Moves.bind path rest fun rest => Moves.pure path (header ++ rest)
    exact Moves.ite (Moves.bind path (Moves.throw path _) fun _ => whole) whole

end Link.Receives

/-! ## What is received -/

theorem Link.length_of_receive {link : Link σ} {dad : UInt8} {room timeout : Nat} {s s' : σ}
    {bytes : Bytes} (received : link.receive dad room timeout s = .ok bytes s') :
    bytes.length ≤ room := by
  unfold receive at received
  split at received
  · cases received
    exact List.length_take_le ..
  · cases received

theorem Link.length_of_gather (link : Link σ) (dad : UInt8) (timeout wanted : Nat) (s s' : σ)
    (bytes : Bytes) (gathered : link.gather dad timeout wanted s = (bytes, .ok () s')) :
    bytes.length = wanted := by
  fun_induction Link.gather link dad timeout wanted s generalizing bytes with
  | case1 s =>
    cases gathered
    rfl
  | case2 wanted s some e s' failed => cases gathered
  | case3 wanted s some s' nothing => cases gathered
  | case4 wanted s some b bs s' received more ending rest ih =>
    obtain ⟨rfl, rfl⟩ := Prod.mk.inj gathered
    have fits : (b :: bs).length ≤ wanted := length_of_receive received
    have others := ih more rest
    simp only [List.length_append, List.length_cons] at fits ⊢
    omega

theorem Link.length_of_receiveExactly {link : Link σ} {dad : UInt8} {timeout wanted : Nat}
    {s s' : σ} {bytes : Bytes}
    (received : link.receiveExactly dad timeout wanted s = .ok bytes s') :
    bytes.length = wanted := by
  unfold receiveExactly at received
  split at received
  · next gathered =>
    cases received
    exact link.length_of_gather dad timeout wanted s s' bytes gathered
  · cases received

/-- The channel delivers what is to come from a node: where `coming bytes s` holds, these bytes are
to come, and a call gives some of them, as many as the channel likes and there is room for. -/
structure Link.Delivers (link : Link σ) (dad : UInt8) (timeout : Nat) (coming : Bytes → σ → Prop) :
    Prop where
  recv : ∀ {bytes : Bytes} {s : σ} {room : Nat}, coming bytes s → bytes ≠ [] → 0 < room →
    ∃ chunk rest s', chunk ≠ [] ∧ chunk.length ≤ room ∧ chunk ++ rest = bytes ∧
      link.recv dad room timeout s = .ok chunk s' ∧ coming rest s'

namespace Link.Delivers

variable {dad : UInt8} {timeout : Nat} {coming : Bytes → σ → Prop}

/-- However what is to come is cut, as much of it is received as is wanted, and the rest is left. -/
theorem gather (delivers : link.Delivers dad timeout coming) (first : Bytes) {rest : Bytes} {s : σ}
    (comes : coming (first ++ rest) s) :
    ∃ s', link.gather dad timeout first.length s = (first, .ok () s') ∧ coming rest s' := by
  -- Each call leaves less of what is wanted.
  induction length : first.length using Nat.strongRecOn generalizing first s with
  | ind wanted ih =>
    subst length
    rcases Decidable.em (first = []) with rfl | some
    · exact ⟨s, by rw [List.length_nil, Link.gather, if_pos rfl], comes⟩
    · obtain ⟨chunk, left, s', given, fits, whole, received, comes'⟩ :=
        delivers.recv comes (by simp [some]) (List.length_pos_iff.mpr some)
      obtain ⟨wanted, rfl⟩ : chunk <+: first :=
        List.prefix_of_prefix_length_le ⟨left, whole⟩ (List.prefix_append first rest) fits
      rw [List.append_assoc, List.append_cancel_left_eq] at whole
      subst whole
      obtain ⟨s'', gathered, comes''⟩ := ih wanted.length
        (by have := List.length_pos_iff.mpr given; rw [List.length_append]; omega) wanted comes' rfl
      refine ⟨s'', ?_, comes''⟩
      have taken : link.receive dad (chunk ++ wanted).length timeout s = .ok chunk s' := by
        simp only [Link.receive, received, List.take_of_length_le fits]
      obtain ⟨b, bs, rfl⟩ := List.exists_cons_of_ne_nil given
      rw [Link.gather, if_neg (by simp), taken]
      dsimp only
      rw [← List.length_cons, List.length_append, Nat.add_sub_cancel_left, gathered]

theorem receiveExactly (delivers : link.Delivers dad timeout coming) (first : Bytes)
    {rest : Bytes} {s : σ} (comes : coming (first ++ rest) s) :
    ∃ s', link.receiveExactly dad timeout first.length s = .ok first s' ∧ coming rest s' := by
  obtain ⟨s', gathered, comes'⟩ := delivers.gather first comes
  exact ⟨s', by simp only [Link.receiveExactly, gathered], comes'⟩

end Link.Delivers

/-! ## T=1 -/

namespace T1

theorem send_moves (moves : link.Moves R) (t : T1) (block : Block) :
    Action.Moves R (t.send link block) :=
  moves.send t.nad _

theorem receive_moves (receives : link.Receives R) (path : Path R) (t : T1) (timeout : Nat) :
    Action.Moves R (t.receive link timeout) := by
  apply Moves.bind path (receives.block path t.nad t.checksum timeout t.blockOriented)
  intro bytes
  split
  · exact Moves.throw path _
  · exact Moves.ite (Moves.throw path _) (Moves.pure path _)

/-- What comes back after a block was sent, which an attempt takes as a value. -/
def hear (link : Link σ) (t : T1) (a : Attempt) (s : σ) : Except Error Block × σ :=
  match t.receive link (t.timeout * a.stretch) s with
  | .ok block s => (.ok block, s)
  | .error e s => (.error e, s)

/-- One round of an attempt: a block is sent, and what to do then depends on what is heard. -/
theorem run_succ (link : Link σ) (patience : Nat) (t : T1) (a : Attempt) (s : σ) :
    run link (patience + 1) t a s =
      match t.send link a.next s with
      | .error e s => (.faulted (.lost e), t, s)
      | .ok _ s =>
        match t.react a (t.hear link a s).1 with
        | .proceed t' a' => run link patience t' a' (t.hear link a s).2
        | .finished t' answer => (.answered answer, t', (t.hear link a s).2)
        | .outOfStep t' => (.outOfStep, t', (t.hear link a s).2)
        | .lost t' cause => (.faulted (.lost cause), t', (t.hear link a s).2)
        | .aborted t' =>
          match t'.send link (.response .abort []) (t.hear link a s).2 with
          | .error e s => (.faulted (.lost e), t', s)
          | .ok _ s => (.faulted (.failed .cardAborted), t', s) :=
  rfl

theorem hear_moves (receives : link.Receives R) (path : Path R) (t : T1) (a : Attempt) (s : σ) :
    R s (t.hear link a s).2 := by
  have receive := receive_moves receives path t
  unfold hear
  split
  · next received => exact (receive _).ok received
  · next failed => exact (receive _).error failed

/-- Once a block was sent, the rest of an attempt is hearing what comes back, and going on. -/
theorem run_moves (moves : link.Moves R) (path : Path R) (patience : Nat) (t : T1) (a : Attempt)
    (s : σ) : R s (run link patience t a s).2.2 := by
  have send := send_moves moves
  induction patience generalizing t a s with
  | zero => exact path.refl s
  | succ patience ih =>
    rw [run_succ]
    split
    · next failed => exact (send t a.next).error failed
    · next s' sent =>
      refine path.trans ((send t a.next).ok sent) ?_
      refine path.trans (hear_moves moves.toReceives path t a s') ?_
      split
      · exact ih ..
      · exact path.refl _
      · exact path.refl _
      · exact path.refl _
      · split
        · next failed => exact (send _ _).error failed
        · next sent => exact (send _ _).ok sent

theorem resynch_moves (moves : link.Moves R) (path : Path R) (t : T1) (s : σ) :
    R s (t.resynch link s).2 := by
  unfold resynch
  split
  · next failed => exact (send_moves moves t _).error failed
  · next sent =>
    refine path.trans ((send_moves moves t _).ok sent) ?_
    split
    · next failed => exact (receive_moves moves.toReceives path t _).error failed
    · next received => exact (receive_moves moves.toReceives path t _).ok received

theorem recover_moves_after (moves : link.Moves R) (path : Path R) (command : Bytes) {budget : Nat}
    (recovers : ∀ t s, R s (recover link command budget t s).device) (t : T1) (s : σ) :
    R (t.resynch link s).2 (recover link command (budget + 1) t s).device := by
  unfold recover
  split
  · next refused =>
    rw [refused]
    exact recovers ..
  · next s' agreed =>
    rw [agreed]
    have again := run_moves moves path link.patience
      { t with ns := false, nr := false, phase := .alive }
      ({ t with ns := false, nr := false, phase := .alive }.start command) s'
    unfold attempt
    split
    · next h => rwa [h] at again
    · next h => rwa [h] at again
    · next h => rwa [h] at again
    · next h =>
      rw [h] at again
      exact path.trans again (recovers ..)

theorem recover_moves (moves : link.Moves R) (path : Path R) (command : Bytes) (budget : Nat)
    (t : T1) (s : σ) : R s (recover link command budget t s).device := by
  induction budget generalizing t s with
  | zero => exact path.refl s
  | succ budget ih =>
    have first := resynch_moves moves path t s
    exact path.trans first (recover_moves_after moves path command ih t s)

theorem transceive_moves (moves : link.Moves R) (path : Path R) (t : T1) (command : Bytes)
    (s : σ) : R s (t.transceive link command s).device := by
  have first := run_moves moves path link.patience t (t.start command) s
  unfold transceive attempt
  split
  · next h => rwa [h] at first
  · next h => rwa [h] at first
  · next h => rwa [h] at first
  · next h =>
    rw [h] at first
    exact path.trans first (recover_moves moves path ..)

theorem announce_moves (receives : link.Receives R) (path : Path R) (t : T1) (size : UInt8)
    (send : Moves R (t.send link (.request .ifs [size]))) (tries : Nat) :
    Moves R (t.announce link size tries) := by
  induction tries with
  | zero => exact Moves.throw path _
  | succ tries ih =>
    apply Moves.bind path send
    intro _
    refine Moves.bind path ?_ ?_
    · intro s
      simp only [after]
      split
      · next received => exact (receive_moves receives path t _).ok received
      · next failed => exact (receive_moves receives path t _).error failed
    · intro received
      split
      · exact Moves.ite (Moves.pure path _) ih
      · exact Moves.ite ih (Moves.throw path _)

theorem negotiateIfsd_moves (receives : link.Receives R) (path : Path R) (t : T1)
    (send : ∀ size, Moves R (t.send link (.request .ifs [size]))) (ifsd : Nat) :
    Moves R (t.negotiateIfsd link ifsd) :=
  Moves.ite (announce_moves receives path t _ (send _) _) (Moves.throw path _)

end T1

/-! ## T=0 -/

namespace T0

theorem toNat_succ_of_fits {n : UInt32} (fits : ¬ n.toNat + 1 = UInt32.size) :
    (n + 1).toNat = n.toNat + 1 := by
  have := n.toNat_lt
  simp only [UInt32.size] at fits
  rw [UInt32.toNat_add, UInt32.toNat_one, Nat.mod_eq_of_lt (by omega)]

theorem toNat_succ {n bound : UInt32} (below : n < bound) : (n + 1).toNat = n.toNat + 1 := by
  have := UInt32.lt_iff_toNat_lt.mp below
  have := bound.toNat_lt
  exact toNat_succ_of_fits (by simp only [UInt32.size]; omega)

theorem converse_null {t : T0} {ins : UInt8} {s s' : σ} {first : Bytes}
    (received : link.receiveExactly t.dad t.timeout 1 s = .ok first s')
    (null : procedure ins (first.headD 0) = .null) {nulls : UInt32} (more : nulls < t.maxNulls)
    (left : Transfer) (answer : Bytes) :
    t.converse link ins nulls left answer s =
      t.converse link ins (nulls + 1) left answer s' := by
  have next := toNat_succ more
  have fits := (nulls + 1).toNat_lt
  have more := UInt32.lt_iff_toNat_lt.mp more
  have counted : ¬ t.maxNulls < nulls + 1 := by
    rw [UInt32.lt_iff_toNat_lt]
    omega
  rw [converse, received]
  simp only [null]
  rw [dif_neg (by simp only [UInt32.size]; omega), if_neg counted]

theorem converse_status {t : T0} {ins : UInt8} {s s' s'' : σ} {first second : Bytes}
    (received : link.receiveExactly t.dad t.timeout 1 s = .ok first s')
    (status : procedure ins (first.headD 0) = .status)
    (received' : link.receiveExactly t.dad t.timeout 1 s' = .ok second s'') (nulls : UInt32)
    (left : Transfer) (answer : Bytes) :
    t.converse link ins nulls left answer s =
      ⟨some (.ok (answer ++ first.headD 0 :: second)), { t with phase := .idle }, s''⟩ := by
  rw [converse, received]
  simp only [status, received']

theorem converse_outgoing {t : T0} {ins : UInt8} {s s' : σ} {first : Bytes}
    (received : link.receiveExactly t.dad t.timeout 1 s = .ok first s')
    (null : procedure ins (first.headD 0) ≠ .null)
    (status : procedure ins (first.headD 0) ≠ .status)
    (unexpected : procedure ins (first.headD 0) ≠ .unexpected) (nulls : UInt32)
    (data answer : Bytes) :
    t.converse link ins nulls (.outgoing data) answer s =
      let n := (procedure ins (first.headD 0)).amount data.length
      if n = 0 then t.lost (.protocolError .moreDataAsked) s'
      else
        match link.send t.dad (data.take n) s' with
        | .error e s => t.lost e s
        | .ok _ s => t.converse link ins nulls (.outgoing (data.drop n)) answer s := by
  rw [converse, received]
  dsimp only
  split <;> first | contradiction | rfl

theorem converse_incoming {t : T0} {ins : UInt8} {s s' : σ} {first : Bytes}
    (received : link.receiveExactly t.dad t.timeout 1 s = .ok first s')
    (null : procedure ins (first.headD 0) ≠ .null)
    (status : procedure ins (first.headD 0) ≠ .status)
    (unexpected : procedure ins (first.headD 0) ≠ .unexpected) (nulls : UInt32) (wanted : Nat)
    (answer : Bytes) :
    t.converse link ins nulls (.incoming wanted) answer s =
      let n := (procedure ins (first.headD 0)).amount wanted
      if n = 0 then t.lost (.protocolError .tooMuchData) s'
      else
        match link.receiveExactly t.dad t.timeout n s' with
        | .error e s => t.lost e s
        | .ok got s => t.converse link ins nulls (.incoming (wanted - n)) (answer ++ got) s := by
  rw [converse, received]
  dsimp only
  split <;> first | contradiction | rfl

theorem converse_moves (moves : link.Moves R) (path : Path R) (t : T0) (ins : UInt8)
    (nulls : UInt32) (transfer : Transfer) (answer : Bytes) (s : σ) :
    R s (t.converse link ins nulls transfer answer s).device := by
  have receive := moves.toReceives.receiveExactly path t.dad t.timeout
  -- One case for each way to follow a procedure byte; the last ones move data.
  fun_induction converse link t ins nulls transfer answer s with
  | case1 nulls left answer s e s' failed => exact (receive 1).error failed
  | case2 nulls left answer s _ s' received b null overflown => exact (receive 1).ok received
  | case3 nulls left answer s _ s' received b null _ mute => exact (receive 1).ok received
  | case4 nulls left answer s _ s' received b null _ _ ih =>
    exact path.trans ((receive 1).ok received) ih
  | case5 nulls left answer s _ s' received b status e s'' failed =>
    exact path.trans ((receive 1).ok received) ((receive 1).error failed)
  | case6 nulls left answer s _ s' received b status second s'' received' =>
    exact path.trans ((receive 1).ok received) ((receive 1).ok received')
  | case7 nulls left answer s _ s' received b unexpected => exact (receive 1).ok received
  | case8 nulls answer s _ s' received b data _ _ _ n none => exact (receive 1).ok received
  | case9 nulls answer s _ s' received b data e s'' _ _ _ n some failed =>
    exact path.trans ((receive 1).ok received) ((moves.send _ _).error failed)
  | case10 nulls answer s _ s' received b data _ s'' _ _ _ n some sent ih =>
    exact path.trans ((receive 1).ok received) (path.trans ((moves.send _ _).ok sent) ih)
  | case11 nulls answer s _ s' received b wanted _ _ _ n none => exact (receive 1).ok received
  | case12 nulls answer s _ s' received b wanted e s'' _ _ _ n some failed =>
    exact path.trans ((receive 1).ok received) ((receive n).error failed)
  | case13 nulls answer s _ s' received b wanted got s'' _ _ _ n some received' ih =>
    exact path.trans ((receive 1).ok received) (path.trans ((receive n).ok received') ih)

theorem transfer_moves (moves : link.Moves R) (path : Path R) (t : T0) (header data : Bytes)
    (wanted : Nat) (s : σ) : R s (t.transfer link header data wanted s).device := by
  unfold transfer
  split
  · unfold transferBlock
    split
    · next failed => exact (moves.send _ _).error failed
    · next s' sent =>
      refine path.trans ((moves.send _ _).ok sent) ?_
      split
      · next failed => exact (moves.toReceives.receive _ _ _).error failed
      · next received =>
        refine path.trans ((moves.toReceives.receive _ _ _).ok received) ?_
        split <;> exact path.refl _
  · split
    · next failed => exact (moves.send _ _).error failed
    · next s' sent =>
      refine path.trans ((moves.send _ _).ok sent) ?_
      split <;> exact converse_moves moves path ..

theorem fetch_moves (moves : link.Moves R) (path : Path R) (t : T0) (header : Bytes)
    (wanted : Nat) (s : σ) : R s (t.fetch link header wanted s).device := by
  have first := transfer_moves moves path t header [] wanted s
  unfold fetch
  dsimp only
  split
  · exact path.trans first (transfer_moves moves path ..)
  · exact first

theorem sendAndFetch_moves (moves : link.Moves R) (path : Path R) (t : T0) (header data : Bytes)
    (wanted : Nat) (s : σ) : R s (t.sendAndFetch link header data wanted s).device := by
  have first := transfer_moves moves path t header data 0 s
  unfold sendAndFetch
  dsimp only
  split
  · exact path.trans first (fetch_moves moves path ..)
  · exact first

theorem transceive_moves (moves : link.Moves R) (path : Path R) (t : T0) (command : Bytes)
    (s : σ) : R s (t.transceive link command s).device := by
  unfold transceive
  split
  · exact path.refl s
  · dsimp only
    split
    · exact transfer_moves moves path ..
    · exact fetch_moves moves path ..
    · exact transfer_moves moves path ..
    · exact sendAndFetch_moves moves path ..
    · exact path.refl s

end T0

/-! ## The block protocol of readers -/

namespace Gbp

theorem send_moves (moves : link.Moves R) (g : Gbp) (block : Block) :
    Action.Moves R (g.send link block) :=
  moves.send g.dad _

theorem receive_moves (receives : link.Receives R) (path : Path R) (g : Gbp) (s : σ) :
    R s (g.receive link s).2 := by
  have block := receives.block path g.dad .lrc g.timeout false
  unfold receive
  split
  · next received => exact block.ok received
  · next failed => exact block.error failed

theorem run_moves (moves : link.Moves R) (path : Path R) (g : Gbp) (request : Bytes)
    (budget : Nat) (next : Block) (s : σ) : R s (g.run link request budget next s).2 := by
  have receive := receive_moves moves.toReceives path g
  induction budget generalizing next s with
  | zero =>
    unfold run
    split
    · next failed => exact (send_moves moves g next).error failed
    · next s' sent =>
      refine path.trans ((send_moves moves g next).ok sent) (path.trans (receive s') ?_)
      dsimp only
      split <;> exact path.refl _
  | succ budget ih =>
    unfold run
    split
    · next failed => exact (send_moves moves g next).error failed
    · next s' sent =>
      refine path.trans ((send_moves moves g next).ok sent) (path.trans (receive s') ?_)
      dsimp only
      split
      · exact path.refl _
      · exact path.refl _
      · exact ih ..

theorem attempt_moves (moves : link.Moves R) (path : Path R) (g : Gbp) (request : Bytes) (s : σ) :
    R s (g.attempt link request s).2 :=
  run_moves moves path g request g.retries (g.carry request) s

theorem resynch_moves (moves : link.Moves R) (path : Path R) (g : Gbp) (s : σ) :
    R s (g.resynch link s).2 := by
  unfold resynch
  split
  · next failed => exact (send_moves moves g _).error failed
  · next s' sent =>
    refine path.trans ((send_moves moves g _).ok sent) ?_
    have receive := receive_moves moves.toReceives path g s'
    split
    · next received => rwa [received] at receive
    · next received => rwa [received] at receive

theorem outcome_finish (g : Gbp) (outcome : Ended) (s : σ) :
    (g.finish outcome s).outcome = outcome := by
  cases outcome <;> rfl

theorem device_finish (g : Gbp) (outcome : Ended) (s : σ) :
    (g.finish outcome s).device = s := by
  cases outcome <;> rfl

theorem transceive_moves_after (moves : link.Moves R) (path : Path R) (g : Gbp) {request : Bytes}
    {s : σ} (fits : request.length ≤ Block.maxInfo) :
    R (g.attempt link request s).2 (g.transceive link request s).device := by
  unfold transceive
  rw [if_neg (Nat.not_lt.mpr fits)]
  split
  · next attempted =>
    rw [attempted, device_finish]
    exact path.refl _
  · next s' attempted =>
    rw [attempted]
    have resynch := resynch_moves moves path g s'
    split
    · next failed => rwa [failed] at resynch
    · next s'' agreed =>
      rw [agreed] at resynch
      refine path.trans resynch ?_
      have again := attempt_moves moves path { g with ns := false, nr := false } request s''
      dsimp only
      split
      · next attempted' =>
        rw [attempted'] at again
        rwa [device_finish]
      · next attempted' => rwa [attempted'] at again

theorem transceive_moves (moves : link.Moves R) (path : Path R) (g : Gbp) (request : Bytes)
    (s : σ) : R s (g.transceive link request s).device := by
  by_cases fits : request.length ≤ Block.maxInfo
  · exact path.trans (attempt_moves moves path g request s)
      (transceive_moves_after moves path g fits)
  · rw [transceive, if_pos (Nat.lt_of_not_le fits)]
    exact path.refl s

end Gbp

end CardTerminal
