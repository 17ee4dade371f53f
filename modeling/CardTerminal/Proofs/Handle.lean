import CardTerminal.Driver.Minimal
import CardTerminal.Proofs.Watched

/-!
No engine stays in use that has lost its card.

An exchange that fails either refused the command without a call, and left the engine as it was; or
its first call was to send something, and then the fault is fatal, so the handle is lost. There is
one failure in the middle of an exchange that is not fatal: a T=1 card that gives a command up has
the host confirm this, and both sides know where they are (`T1.farewell`).

Main statement: `Handle.stays_in_step`.
-/

namespace CardTerminal

open CardTerminal.Action

variable {σ ε : Type} {link : Link σ}

/-! ## Notes of calls -/

def ChannelCall.isSend : ChannelCall → Bool
  | .send _ _ _ => true
  | .recv _ _ _ _ => false

namespace Link

/-- Further calls may have been noted. -/
def Later (w w' : σ × List ChannelCall) : Prop :=
  w.2 <+: w'.2

/-- Further calls have been noted, and the first of them was to send something. -/
def Sends (w w' : σ × List ChannelCall) : Prop :=
  ∃ dad bytes outcome, w.2 ++ [.send dad bytes outcome] <+: w'.2

theorem Later.path : Path (Later : σ × List ChannelCall → σ × List ChannelCall → Prop) where
  refl w := List.prefix_refl w.2
  trans first second := first.trans second

theorem Sends.later {u v w : σ × List ChannelCall} (sends : Sends u v) (later : Later v w) :
    Sends u w := by
  obtain ⟨dad, bytes, outcome, noted⟩ := sends
  exact ⟨dad, bytes, outcome, noted.trans later⟩

theorem Sends.isSend {w : σ} {w' : σ × List ChannelCall} (sends : Sends (w, []) w') :
    ∃ call ∈ w'.2, call.isSend = true := by
  obtain ⟨dad, bytes, outcome, noted⟩ := sends
  exact ⟨_, noted.subset (List.mem_singleton_self _), rfl⟩

theorem watched_send (link : Link σ) (dad : UInt8) (bytes : Bytes) :
    Action.Moves Sends (link.watched.send dad bytes) := by
  rintro ⟨s, calls⟩
  simp only [after, watched, noted]
  cases link.send dad bytes s with
  | ok u s' => exact ⟨dad, bytes, .ok u, List.prefix_refl _⟩
  | error e s' => exact ⟨dad, bytes, .error e, List.prefix_refl _⟩

theorem watched_moves (link : Link σ) : link.watched.Moves Later where
  recv dad room timeout := by
    rintro ⟨s, calls⟩
    simp only [after, watched, noted]
    cases link.recv dad room timeout s <;> exact List.prefix_append ..
  send dad bytes w := by
    obtain ⟨_, _, _, noted⟩ := link.watched_send dad bytes w
    exact (List.prefix_append ..).trans noted

theorem getLast?_of_sent {dad : UInt8} {bytes : Bytes} {w w' : σ × List ChannelCall}
    (sent : link.watched.send dad bytes w = .ok () w') :
    w'.2.getLast? = some (.send dad bytes (.ok ())) := by
  obtain ⟨s, calls⟩ := w
  simp only [watched, noted] at sent
  cases result : link.send dad bytes s with
  | ok u s' =>
    rw [result] at sent
    cases sent
    exact List.getLast?_concat
  | error e s' =>
    rw [result] at sent
    cases sent

end Link

open Link

/-! ## Ways to fail -/

/-- An exchange that fails has refused the command without a call, and left the engine as it was; or
it has sent something first, and then the engine has to be given up, unless the exchange is
excused. -/
def Exchange.FailsInStep (engine : ε) (w : σ × List ChannelCall)
    (excused : Exchange (Option Ended) ε (σ × List ChannelCall) → Prop)
    (x : Exchange (Option Ended) ε (σ × List ChannelCall)) : Prop :=
  ∀ fault, x.outcome = some (.error fault) →
    fault.isFatal = false ∧ x.engine = engine ∧ x.device.2 = w.2 ∨
      Sends w x.device ∧ (fault.isFatal = true ∨ excused x)

theorem Exchange.FailsInStep.of_fatal {engine : ε} {w : σ × List ChannelCall}
    {excused : Exchange (Option Ended) ε (σ × List ChannelCall) → Prop}
    {x : Exchange (Option Ended) ε (σ × List ChannelCall)} (sends : Sends w x.device)
    (fatal : ∀ {fault}, x.outcome = some (.error fault) → fault.isFatal = true) :
    x.FailsInStep engine w excused :=
  fun _ failed => .inr ⟨sends, .inl (fatal failed)⟩

theorem Exchange.FailsInStep.refused (engine : ε) (w : σ × List ChannelCall)
    (excused : Exchange (Option Ended) ε (σ × List ChannelCall) → Prop) (e : Error) :
    (⟨some (.error (.failed e)), engine, w⟩ :
      Exchange (Option Ended) ε (σ × List ChannelCall)).FailsInStep engine w
      excused := by
  rintro fault ⟨⟩
  exact .inl ⟨rfl, rfl, rfl⟩

def Exchange.Unexcused (_ : Exchange (Option Ended) ε (σ × List ChannelCall)) : Prop :=
  False

/-! ## T=0 -/

namespace T0

theorem converse_fatal (t : T0) (ins : UInt8) (nulls : UInt32) (transfer : Transfer)
    (answer : Bytes) (s : σ) {fault : Fault}
    (failed : (t.converse link ins nulls transfer answer s).outcome = some (.error fault)) :
    fault.isFatal = true := by
  fun_induction converse link t ins nulls transfer answer s with
  | case4 nulls left answer s _ s' received b null _ more ih => exact ih failed
  | case10 nulls answer s _ s' received b data _ s'' _ _ _ n some sent ih => exact ih failed
  | case13 nulls answer s _ s' received b wanted got s'' _ _ _ n some received' ih =>
    exact ih failed
  | _ => cases failed <;> rfl

theorem transfer_fatal (t : T0) (header data : Bytes) (wanted : Nat) (s : σ) {fault : Fault}
    (failed : (t.transfer link header data wanted s).outcome = some (.error fault)) :
    fault.isFatal = true := by
  unfold transfer at failed
  split at failed
  · unfold transferBlock at failed
    split at failed
    · cases failed
      rfl
    · split at failed
      · cases failed
        rfl
      · split at failed <;> cases failed
        rfl
  · split at failed
    · cases failed
      rfl
    · dsimp only at failed
      split at failed <;> exact converse_fatal _ _ _ _ _ _ failed

theorem fetch_fatal (t : T0) (header : Bytes) (wanted : Nat) (s : σ) {fault : Fault}
    (failed : (t.fetch link header wanted s).outcome = some (.error fault)) :
    fault.isFatal = true := by
  unfold fetch at failed
  dsimp only at failed
  split at failed <;> exact transfer_fatal _ _ _ _ _ failed

theorem sendAndFetch_fatal (t : T0) (header data : Bytes) (wanted : Nat) (s : σ) {fault : Fault}
    (failed : (t.sendAndFetch link header data wanted s).outcome = some (.error fault)) :
    fault.isFatal = true := by
  unfold sendAndFetch at failed
  dsimp only at failed
  split at failed
  · exact fetch_fatal _ _ _ _ failed
  · exact transfer_fatal _ _ _ _ _ failed

theorem transfer_sends (link : Link σ) (t : T0) (header data : Bytes) (wanted : Nat)
    (w : σ × List ChannelCall) :
    Sends w (t.transfer link.watched header data wanted w).device := by
  have moves := link.watched_moves
  unfold transfer
  split
  · unfold transferBlock
    split
    · next failed => exact (link.watched_send _ _).error failed
    · next w' sent =>
      refine ((link.watched_send _ _).ok sent).later ?_
      split
      · next failed => exact (moves.toReceives.receive _ _ _).error failed
      · next received =>
        have later := (moves.toReceives.receive _ _ _).ok received
        split <;> exact later
  · split
    · next failed => exact (link.watched_send _ _).error failed
    · next w' sent =>
      refine ((link.watched_send _ _).ok sent).later ?_
      split <;> exact converse_moves moves Later.path ..

theorem fetch_sends (t : T0) (header : Bytes) (wanted : Nat) (w : σ × List ChannelCall) :
    Sends w (t.fetch link.watched header wanted w).device := by
  have first := transfer_sends link t header [] wanted w
  unfold fetch
  dsimp only
  split
  · exact first.later (transfer_moves link.watched_moves Later.path ..)
  · exact first

theorem sendAndFetch_sends (t : T0) (header data : Bytes) (wanted : Nat)
    (w : σ × List ChannelCall) :
    Sends w (t.sendAndFetch link.watched header data wanted w).device := by
  have first := transfer_sends link t header data 0 w
  unfold sendAndFetch
  dsimp only
  split
  · exact first.later (fetch_moves link.watched_moves Later.path ..)
  · exact first

theorem fails_in_step (link : Link σ) (t : T0) (command : Bytes) (w : σ × List ChannelCall) :
    (t.transceive link.watched command w).FailsInStep t w Exchange.Unexcused := by
  unfold transceive
  split
  · exact Exchange.FailsInStep.refused t w _ _
  · dsimp only
    split
    · exact .of_fatal (transfer_sends ..) (transfer_fatal _ _ _ _ _)
    · exact .of_fatal (fetch_sends ..) (fetch_fatal _ _ _ _)
    · exact .of_fatal (transfer_sends ..) (transfer_fatal _ _ _ _ _)
    · exact .of_fatal (sendAndFetch_sends ..) (sendAndFetch_fatal _ _ _ _ _)
    · exact Exchange.FailsInStep.refused t w _ _

end T0

/-! ## T=1 -/

namespace T1

/-- The last thing that a host says of a command that the card gave up. -/
def farewell (t : T1) : ChannelCall :=
  .send t.nad ((Block.response .abort []).encode t.nad t.checksum) (.ok ())

/-- The card gave the command up, and the host confirmed this last. -/
def Excused (x : Exchange (Option Ended) T1 (σ × List ChannelCall)) : Prop :=
  x.outcome = some (.error (.failed .cardAborted)) ∧ x.device.2.getLast? = some x.engine.farewell

theorem run_sends {patience : Nat} {t : T1} {a : Attempt} {w : σ × List ChannelCall}
    (ended : (run link.watched patience t a w).1 ≠ .unfinished) :
    Sends w (run link.watched patience t a w).2.2 := by
  obtain _ | patience := patience
  · exact absurd rfl ended
  have moves := link.watched_moves
  have send : Moves Sends (t.send link.watched a.next) := link.watched_send t.nad _
  rw [run_succ]
  split
  · next failed => exact send.error failed
  · next w' sent =>
    have heard := (send.ok sent).later (hear_moves moves.toReceives Later.path t a w')
    split
    · exact heard.later (run_moves moves Later.path ..)
    · exact heard
    · exact heard
    · exact heard
    · split
      · next failed => exact heard.later ((send_moves moves _ _).error failed)
      · next sent => exact heard.later ((send_moves moves _ _).ok sent)

/-- An attempt is broken off without a fatal fault only if the card gave the command up. -/
theorem run_faulted {patience : Nat} {t t' : T1} {a : Attempt} {w w' : σ × List ChannelCall}
    {fault : Fault} (broken : run link.watched patience t a w = (.faulted fault, t', w')) :
    fault.isFatal = true ∨ Excused ⟨some (.error fault), t', w'⟩ := by
  induction patience generalizing t a w with
  | zero => cases broken
  | succ patience ih =>
    rw [run_succ] at broken
    split at broken
    · cases broken
      exact .inl rfl
    · split at broken
      · exact ih broken
      · cases broken
      · cases broken
      · cases broken
        exact .inl rfl
      · split at broken
        · cases broken
          exact .inl rfl
        · next sent =>
          cases broken
          exact .inr ⟨rfl, getLast?_of_sent sent⟩

theorem recover_faulted (command : Bytes) {budget : Nat} {t : T1} {w : σ × List ChannelCall}
    {fault : Fault}
    (failed : (recover link.watched command budget t w).outcome = some (.error fault)) :
    fault.isFatal = true ∨ Excused (recover link.watched command budget t w) := by
  induction budget generalizing t w with
  | zero =>
    cases failed
    exact .inl rfl
  | succ budget ih =>
    unfold recover at failed ⊢
    split
    · next refused =>
      rw [refused] at failed
      exact ih failed
    · next agreed =>
      rw [agreed] at failed
      dsimp only at failed
      split
      · next attempted =>
        rw [attempted] at failed
        cases failed
      · next attempted =>
        rw [attempted] at failed
        cases failed
        exact run_faulted attempted
      · next attempted =>
        rw [attempted] at failed
        cases failed
      · next attempted =>
        rw [attempted] at failed
        exact ih failed

theorem fails_in_step (link : Link σ) (t : T1) (command : Bytes) (w : σ × List ChannelCall) :
    (t.transceive link.watched command w).FailsInStep t w Excused := by
  have sends (ended : (t.attempt link.watched command w).1 ≠ .unfinished) :
      Sends w (t.attempt link.watched command w).2.2 := run_sends ended
  intro fault failed
  refine .inr ?_
  unfold transceive at failed ⊢
  split
  · next attempted =>
    rw [attempted] at failed
    cases failed
  · next attempted =>
    rw [attempted] at failed sends
    cases failed
    exact ⟨sends nofun, run_faulted attempted⟩
  · next attempted =>
    rw [attempted] at failed
    cases failed
  · next attempted =>
    rw [attempted] at failed sends
    exact ⟨(sends nofun).later (recover_moves link.watched_moves Later.path ..),
      recover_faulted command failed⟩

end T1

/-! ## The block protocol of readers -/

namespace Gbp

theorem run_sends (g : Gbp) (request : Bytes) (budget : Nat) (next : Block)
    (w : σ × List ChannelCall) :
    Sends w (g.run link.watched request budget next w).2 := by
  have moves := link.watched_moves
  have send : Moves Sends (g.send link.watched next) := link.watched_send g.dad _
  unfold run
  split
  · next failed => exact send.error failed
  · next w' sent =>
    have heard := (send.ok sent).later (receive_moves moves.toReceives Later.path g w')
    dsimp only
    split
    · exact heard
    · exact heard
    · split
      · exact heard
      · exact heard.later (run_moves moves Later.path ..)

theorem run_fatal (g : Gbp) (request : Bytes) {budget : Nat} {next : Block} {s s' : σ}
    {fault : Fault} (broken : g.run link request budget next s = (some (.error fault), s')) :
    fault.isFatal = true := by
  induction budget generalizing next s with
  | zero =>
    unfold run at broken
    split at broken
    · cases broken
      rfl
    · dsimp only at broken
      split at broken <;> cases broken
      rfl
  | succ budget ih =>
    unfold run at broken
    split at broken
    · cases broken
      rfl
    · dsimp only at broken
      split at broken
      · cases broken
      · cases broken
        rfl
      · exact ih broken

theorem resynch_fatal {g : Gbp} {s s' : σ} {fault : Fault}
    (failed : g.resynch link s = (.error fault, s')) : fault.isFatal = true := by
  unfold resynch at failed
  split at failed
  · cases failed
    rfl
  · split at failed
    · split at failed <;> cases failed
      rfl
    · cases failed
      rfl

theorem transceive_fatal (g : Gbp) {request : Bytes} {s : σ} {fault : Fault}
    (fits : request.length ≤ Block.maxInfo)
    (failed : (g.transceive link request s).outcome = .error fault) : fault.isFatal = true := by
  unfold transceive at failed
  rw [if_neg (Nat.not_lt.mpr fits)] at failed
  split at failed
  · next attempted =>
    rw [outcome_finish] at failed
    subst failed
    exact run_fatal g request attempted
  · split at failed
    · next refused =>
      cases failed
      exact resynch_fatal refused
    · dsimp only at failed
      split at failed
      · next attempted =>
        rw [outcome_finish] at failed
        subst failed
        exact run_fatal _ request attempted
      · cases failed
        rfl

theorem fails_in_step (link : Link σ) (g : Gbp) (request : Bytes) (w : σ × List ChannelCall) :
    (g.transceive link.watched request w).ended.FailsInStep g w Exchange.Unexcused := by
  by_cases fits : request.length ≤ Block.maxInfo
  · have sends : Sends w (g.attempt link.watched request w).2 := run_sends g request _ _ w
    exact .of_fatal (sends.later (transceive_moves_after link.watched_moves Later.path g fits))
      fun failed => transceive_fatal g fits (Option.some.inj failed)
  · rw [transceive, if_pos (Nat.not_le.mp fits)]
    exact Exchange.FailsInStep.refused g w _ _

end Gbp

/-! ## Engines -/

namespace Engine

/-- A T=1 card gave the command up, and the host confirmed this last. -/
def Excused (x : Exchange (Option Ended) Engine (σ × List ChannelCall)) : Prop :=
  x.outcome = some (.error (.failed .cardAborted)) ∧
    ∃ t, x.engine = .t1 t ∧ x.device.2.getLast? = some t.farewell

theorem mapEngine_in_step {ε : Type} {f : ε → Engine} {engine : ε} {w : σ × List ChannelCall}
    {excused : Exchange (Option Ended) ε (σ × List ChannelCall) → Prop}
    {x : Exchange (Option Ended) ε (σ × List ChannelCall)}
    (fails : x.FailsInStep engine w excused) (excuse : excused x → Excused (x.mapEngine f)) :
    (x.mapEngine f).FailsInStep (f engine) w Excused := by
  intro fault failed
  rcases fails fault failed with ⟨mild, same, none⟩ | ⟨sends, fatal | excused⟩
  · exact .inl ⟨mild, congrArg f same, none⟩
  · exact .inr ⟨sends, .inl fatal⟩
  · exact .inr ⟨sends, .inr (excuse excused)⟩

theorem delegate_in_step (engine : Engine) (call : Action σ Bytes) (w : σ × List ChannelCall) :
    (engine.delegate call.unnoted w).FailsInStep engine w Excused := by
  intro fault failed
  obtain ⟨s, calls⟩ := w
  simp only [delegate, unnoted] at failed ⊢
  cases result : call s with
  | ok answer s' =>
    rw [result] at failed
    cases failed
  | error e s' =>
    rw [result] at failed
    cases failed
    exact .inl ⟨rfl, rfl, rfl⟩

theorem fails_in_step (driver : Driver σ) (slot : Nat) (command : Bytes) (engine : Engine)
    (w : σ × List ChannelCall) :
    (engine.transceive driver.watched slot command w).FailsInStep engine w Excused := by
  cases engine with
  | t0 t => exact mapEngine_in_step (t.fails_in_step driver.toLink command w) False.elim
  | t1 t =>
    exact mapEngine_in_step (t.fails_in_step driver.toLink command w)
      fun excused => ⟨excused.1, _, rfl, excused.2⟩
  | gbp g => exact mapEngine_in_step (g.fails_in_step driver.toLink command w) False.elim
  | transparent => exact delegate_in_step _ (driver.transparent slot command) w
  | escape => exact delegate_in_step _ (driver.escape slot command) w
  | memory kind => exact Exchange.FailsInStep.refused _ w _ _

theorem id_transceive (driver : Driver σ) (slot : Nat) (command : Bytes) (engine : Engine)
    (s : σ) : (engine.transceive driver slot command s).engine.id = engine.id := by
  cases engine with
  | transparent =>
    simp only [transceive, delegate]
    split <;> rfl
  | escape =>
    simp only [transceive, delegate]
    split <;> rfl
  | _ => rfl

end Engine

/-! ## Handles -/

namespace Handle

theorem after_of_mild {x : Exchange (Option Ended) Engine σ} {fault : Fault}
    (failed : x.outcome = some (.error fault)) (mild : fault.isFatal = false) :
    after x = .active x.engine := by
  simp only [after, failed, mild]
  rfl

theorem after_of_fatal {x : Exchange (Option Ended) Engine σ} {fault : Fault}
    (failed : x.outcome = some (.error fault)) (fatal : fault.isFatal = true) :
    after x = .lost x.engine.id := by
  simp only [after, failed, fatal]
  rfl

/-- **No engine stays in use that has lost its card.** Watched or not, an exchange comes to the
same, for every driver. If it fails and nothing was sent, the handle is as it was. If it fails and
something was sent, the handle is lost; the only exception is a T=1 card that gave the command up,
when the last call was to confirm this, and was carried out. A lost handle fails with a
communication error, in the same way for all drivers and without a change to the device, so no hook
is called. -/
theorem stays_in_step (driver : Driver σ) (slot : Nat) (command : Bytes) (handle : Handle)
    (s : σ) :
    (∃ outcome left s' calls,
      handle.transceive driver slot command s = (outcome, left, s') ∧
      handle.transceive driver.watched slot command (s, []) = (outcome, left, s', calls) ∧
      ∀ e, outcome = some (.error e) →
        ((∀ call ∈ calls, call.isSend = false) → left = handle) ∧
        ((∃ call ∈ calls, call.isSend = true) → left = .lost handle.id ∨
          e = .cardAborted ∧ ∃ t t', handle = .active (.t1 t) ∧ left = .active (.t1 t') ∧
            calls.getLast? = some (.send t'.nad
              ((Block.response .abort []).encode t'.nad t'.checksum) (.ok ())))) ∧
    ∀ id, handle = .lost id → ∀ any : Driver σ,
      handle.transceive any slot command s = (some (.error .commError), handle, s) := by
  refine ⟨⟨_, _, _, _, handle.transceive_watched driver slot command s [], rfl, ?_⟩, ?_⟩
  · cases handle with
    | lost id => exact fun e _ => ⟨fun _ => rfl, fun ⟨call, noted, _⟩ => by cases noted⟩
    | active engine =>
      have ends := engine.fails_in_step driver slot command (s, [])
      have same := engine.id_transceive driver.watched slot command (s, [])
      simp only [transceive]
      -- All that matters is how the watched exchange ended.
      generalize engine.transceive driver.watched slot command (s, []) = x at ends same ⊢
      intro e failed
      rcases faulted : x.outcome with _ | _ | _
      case none =>
        rw [faulted] at failed
        cases failed
      case some.ok answer =>
        rw [faulted] at failed
        cases failed
      case some.error fault =>
        rw [faulted] at failed
        cases failed
        rcases ends fault faulted with ⟨mild, kept, none⟩ | ⟨sends, ends⟩
        · refine ⟨fun _ => (after_of_mild faulted mild).trans (congrArg _ kept), ?_⟩
          rintro ⟨call, noted, -⟩
          rw [none] at noted
          cases noted
        · obtain ⟨call, noted, sent⟩ := sends.isSend
          refine ⟨fun silent => (by cases (silent call noted).symm.trans sent), fun _ => ?_⟩
          rcases ends with fatal | ⟨aborted, t', switched, last⟩
          · left
            rw [after_of_fatal faulted fatal, same]
            rfl
          · right
            cases faulted.symm.trans aborted
            have left := after_of_mild faulted rfl
            rw [switched] at same left
            cases engine with
            | t1 t => exact ⟨rfl, t, t', rfl, left, last⟩
            | memory kind => cases kind <;> cases same
            | _ => cases same
  · rintro id rfl any
    rfl

/-- A driver whose card gives up every command: all that it ever says is an ABORT request. -/
def aborting : Driver Unit :=
  { Minimal.driver with
    send := fun _ _ => pure ()
    recv := fun _ _ _ => pure [0x00, 0xC2, 0x00, 0xC2]
    patience := 8 }

def blockwise : Handle :=
  .active (.t1 { T1.new 0 with blockOriented := true })

/-- The engine of a card that gave up stays in use, and what was sent last is the confirmation. An
engine that could not send is lost. -/
theorem stays_in_step_aborting :
    (∃ calls, blockwise.transceive aborting.watched 0 [0, 0, 0, 0] ((), []) =
        (some (.error .cardAborted), blockwise, (), calls) ∧
      calls.getLast? = some (.send 0 [0x00, 0xE2, 0x00, 0xE2] (.ok ()))) ∧
    (blockwise.transceive Minimal.driver 0 [0, 0, 0, 0] ()).2.1 = .lost .t1 := by
  constructor
  · obtain ⟨⟨outcome, left, s', calls, -, noted, ends⟩, -⟩ :=
      stays_in_step aborting 0 [0, 0, 0, 0] blockwise ()
    have told : blockwise.transceive aborting.watched 0 [0, 0, 0, 0] ((), []) =
        (some (.error .cardAborted), blockwise, (), _) := rfl
    cases told.symm.trans noted
    refine ⟨_, rfl, ?_⟩
    rcases (ends _ rfl).2 ⟨_, .head _, rfl⟩ with lost | ⟨-, t, t', here, there, last⟩
    · cases lost
    · cases there
      exact last
  · obtain ⟨⟨outcome, left, s', calls, plain, noted, ends⟩, -⟩ :=
      stays_in_step Minimal.driver 0 [0, 0, 0, 0] blockwise ()
    have told : blockwise.transceive Minimal.driver.watched 0 [0, 0, 0, 0] ((), []) =
        (some (.error .notSupported), _, (), [.send 0 _ (.error .notSupported)]) := rfl
    cases told.symm.trans noted
    rw [plain]
    rcases (ends _ rfl).2 ⟨_, .head _, rfl⟩ with lost | ⟨aborted, -⟩
    · exact lost
    · cases aborted

end Handle

end CardTerminal
