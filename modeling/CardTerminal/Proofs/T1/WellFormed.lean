import CardTerminal.Proofs.T1.Answers

/-!
What a T=1 engine sends is always a block.

A length byte has room for fields of up to 254 bytes. Lengths come in from all sides: from the
answer to reset, from the card in the middle of an exchange, and from the reader that has its own
field announced. Each is looked at where it comes in, so the field lengths of an engine are ones
that a field can have (`Sane`), however it has been used. So the slices that the engine cuts fit
into a block, and so does what the card is told back of its own words, since they have come in a
block (`Built`).

Main statement: `blocks_well_formed`.
-/

namespace CardTerminal.T1

open CardTerminal.Action

variable {σ : Type}

/-! ## Field lengths -/

/-- A field can be so long, and does not have to be empty. -/
def IsField (length : Nat) : Prop :=
  1 ≤ length ∧ length ≤ Block.maxInfo

/-- The field lengths that an engine keeps are ones that a field can have. -/
structure Sane (t : T1) : Prop where
  ifsc : IsField t.ifsc
  ifsd : IsField t.ifsd

theorem isField_default : IsField defaultIfs :=
  ⟨by decide, by decide⟩

theorem sane_configure (nad : UInt8) (info : Atr.Info) : Sane ((new nad).configure info) := by
  refine ⟨?_, isField_default⟩
  cases named : info.t1Ifsc with
  | none =>
    simp only [configure, named, Option.map_none, Option.getD_none]
    exact isField_default
  | some size =>
    obtain ⟨-, legal⟩ := Option.filter_eq_some_iff.mp named
    have positive : size ≠ 0 := by
      rintro rfl
      simp at legal
    have nonzero : size.toNat ≠ 0 := fun zero => positive (UInt8.toNat_inj.mp zero)
    simp only [configure, named, Option.map_some, Option.getD_some, IsField]
    exact ⟨by simp only [Block.maxInfo]; omega, Nat.min_le_right _ _⟩

theorem isField_requested {received : Except Error Block} {size : Nat}
    (asked : requested received = some size) : IsField size := by
  unfold requested at asked
  split at asked
  · cases asked
  · dsimp only at asked
    split at asked
    · next legal =>
      cases asked
      exact legal.2
    · cases asked

theorem Sane.renewed {t : T1} (sane : Sane t) : Sane t.renewed :=
  ⟨sane.ifsc, sane.ifsd⟩

theorem Sane.react {t : T1} (sane : Sane t) (a : Attempt) (received : Except Error Block) :
    Sane (t.react a received).engine := by
  obtain ⟨ns, nr, engine⟩ := t.engine_react a received
  rw [engine]
  refine ⟨?_, sane.ifsd⟩
  cases asked : requested received with
  | none => exact sane.ifsc
  | some size => exact isField_requested asked

section

variable {u v t : T1} {a : Attempt} {command : Bytes} {past turns : List Turn} {ending : Ending}

/-- At every point of an attempt the field lengths are sane. -/
theorem Sane.reached (sane : Sane u) (reached : Reached u command past t a) : Sane t := by
  induction reached with
  | start => exact sane
  | @proceed past t t' a a' received reached verdict ih =>
    have engine := ih.react a received
    rwa [verdict] at engine

theorem Sane.concluded (sane : Sane u) (concluded : Concluded u command turns ending v) :
    Sane v := by
  cases concluded with
  | unfinished reached => exact sane.reached reached
  | unsent reached e => exact sane.reached reached
  | @answered past t t' a received answer reached verdict =>
    have engine := (sane.reached reached).react a received
    rwa [verdict] at engine
  | @outOfStep past t t' a received reached verdict =>
    have engine := (sane.reached reached).react a received
    rwa [verdict] at engine
  | @lost past t t' a received cause reached verdict =>
    have engine := (sane.reached reached).react a received
    rwa [verdict] at engine
  | @aborted past t t' a received reached verdict fault =>
    have engine := (sane.reached reached).react a received
    rwa [verdict] at engine

end

section

variable {command : Bytes} {phase : Phase} {budget : Nat} {t v : T1} {story : List Passage}
  {outcome : Option Ended}

/-- An exchange leaves a sane engine, and every attempt of it is begun by one. -/
theorem Sane.told (sane : Sane t) (told : Told command phase budget t story outcome v) :
    Sane v ∧ ∀ u turns, .attempt u turns ∈ story → Sane u := by
  induction told with
  | ended concluded ends =>
    refine ⟨sane.concluded concluded, fun u turns here => ?_⟩
    cases List.mem_singleton.mp here
    exact sane
  | outOfStep concluded told ih =>
    obtain ⟨left, begun⟩ := ih (sane.concluded concluded)
    refine ⟨left, fun u turns here => ?_⟩
    rcases List.mem_cons.mp here with first | later
    · cases first
      exact sane
    · exact begun u turns later
  | exhausted t =>
    refine ⟨⟨sane.ifsc, sane.ifsd⟩, ?_⟩
    intro u turns here
    cases here
  | refused heard told ih =>
    obtain ⟨left, begun⟩ := ih sane
    refine ⟨left, ?_⟩
    intro u turns here
    rcases List.mem_cons.mp here with first | later
    · cases first
    · exact begun u turns later
  | agreed heard told ih =>
    obtain ⟨left, begun⟩ := ih sane.renewed
    refine ⟨left, ?_⟩
    intro u turns here
    rcases List.mem_cons.mp here with first | later
    · cases first
    · exact begun u turns later

/-- Whom blocks are for, and how they are protected, is the same after an exchange. -/
theorem Told.kept (told : Told command phase budget t story outcome v) :
    v.nad = t.nad ∧ v.checksum = t.checksum := by
  induction told with
  | ended concluded ends => exact ⟨by rw [concluded.engine], by rw [concluded.engine]⟩
  | outOfStep concluded told ih =>
    exact ⟨by rw [ih.1, concluded.engine], by rw [ih.2, concluded.engine]⟩
  | exhausted t => exact ⟨rfl, rfl⟩
  | refused heard told ih => exact ih
  | agreed heard told ih => exact ih

end

/-! ## Blocks that an engine builds -/

/-- The blocks that an engine builds: their numbers are single bits, and their fields fit. -/
inductive Built : Block → Prop where
  | slice (ns more : Bool) {info : Bytes} (fits : info.length ≤ Block.maxInfo) :
      Built (.information ns more info)
  | receipt (nr : Bool) (flaw : Block.Flaw) : Built (.receipt nr flaw)
  | request (task : Block.Task) {info : Bytes} (fits : info.length ≤ Block.maxInfo) :
      Built (.request task info)
  | response (task : Block.Task) {info : Bytes} (fits : info.length ≤ Block.maxInfo) :
      Built (.response task info)

theorem Built.fits {block : Block} (built : Built block) : block.info.length ≤ Block.maxInfo := by
  cases built with
  | slice ns more fits => exact fits
  | receipt nr flaw => exact Nat.zero_le _
  | request task fits => exact fits
  | response task fits => exact fits

theorem Built.farewell : Built Turn.farewell.sent :=
  .response .abort (Nat.zero_le _)

/-- The blocks that an attempt keeps are built by the engine. -/
structure Attempt.Built (a : Attempt) : Prop where
  current : T1.Built a.current
  next : T1.Built a.next

section

variable {t t' : T1} {a a' : Attempt}

theorem built_advance (sane : Sane t) (command answer : Bytes) :
    (t.advance command answer).Built := by
  have short : (command.take t.ifsc).length ≤ Block.maxInfo :=
    Nat.le_trans (List.length_take_le ..) sane.ifsc.2
  exact ⟨.slice _ _ short, .slice _ _ short⟩

theorem Attempt.Built.spend (built : a.Built) {reply : Block} (made : T1.Built reply)
    (verdict : t.spend a reply = .proceed t' a') : a'.Built := by
  obtain ⟨left, -, -, rfl⟩ := spend_eq_proceed verdict
  exact ⟨built.current, made⟩

theorem Attempt.Built.onReceipt (built : a.Built) (sane : Sane t) {nr : Bool}
    (verdict : t.onReceipt a nr = .proceed t' a') : a'.Built := by
  unfold T1.onReceipt at verdict
  split at verdict
  · cases verdict
    exact built_advance (t := { t with ns := !t.ns }) ⟨sane.ifsc, sane.ifsd⟩ a.rest a.answer
  · refine built.spend ?_ verdict
    split
    · exact built.current
    · exact .receipt ..

theorem Attempt.Built.onInformation (built : a.Built) {ns more : Bool} {info : Bytes}
    (verdict : t.onInformation a ns more info = .proceed t' a') : a'.Built := by
  unfold T1.onInformation at verdict
  split at verdict
  · exact built.spend (.receipt ..) verdict
  · dsimp only at verdict
    generalize (if a.sending = true then { t with ns := !t.ns } else t) = u at verdict
    split at verdict
    · exact Attempt.Built.spend (a := { a with sending := false }) ⟨built.current, built.next⟩
        (.receipt ..) verdict
    · split at verdict <;> cases verdict
      exact ⟨built.current, .receipt ..⟩

theorem Attempt.Built.onRequest (built : a.Built) {task : Block.Task} {info : Bytes}
    (fits : info.length ≤ Block.maxInfo) (verdict : t.onRequest a task info = .proceed t' a') :
    a'.Built := by
  cases task with
  | wtx =>
    cases verdict
    exact ⟨built.current, .response .wtx (by simp [Block.maxInfo])⟩
  | ifs =>
    cases verdict
    exact ⟨built.current, .response .ifs fits⟩
  | abort => cases verdict
  | resynch => exact built.spend (.receipt ..) verdict
  | unknown number => exact built.spend (.receipt ..) verdict

/-- Whatever is heard in blocks, the blocks said next are built by the engine. -/
theorem Attempt.Built.react (built : a.Built) (sane : Sane t) {received : Except Error Block}
    (fits : ∀ block, received = .ok block → block.info.length ≤ Block.maxInfo)
    (verdict : t.react a received = .proceed t' a') : a'.Built := by
  unfold T1.react at verdict
  split at verdict
  · split at verdict
    · exact built.spend (.receipt ..) verdict
    · cases verdict
  · next block =>
    split at verdict
    · exact built.onReceipt sane verdict
    · exact built.onInformation verdict
    · exact built.onRequest (fits block rfl) verdict
    · exact built.spend (.receipt ..) verdict

end

/-! ## Blocks that are sent -/

theorem length_of_heard {link : Link σ} {t : T1} {a : Attempt} {s : σ} {block : Block}
    (heard : (t.hear link a s).1 = .ok block) : block.info.length ≤ Block.maxInfo := by
  obtain ⟨s', received⟩ := (hear_eq_ok_iff ..).mp heard
  exact ((receive_eq_ok_iff ..).mp received).2.1

theorem built_turns (link : Link σ) (patience : Nat) {t : T1} {a : Attempt} (sane : Sane t)
    (built : a.Built) (s : σ) : ∀ turn ∈ turns link patience t a s, Built turn.sent := by
  induction patience generalizing t a s with
  | zero =>
    intro turn here
    cases here
  | succ patience ih =>
    rw [turns]
    cases t.send link a.next s with
    | error e s' =>
      intro turn here
      cases List.mem_singleton.mp here
      exact built.next
    | ok v s' =>
      rintro turn (_ | ⟨_, later⟩)
      · exact built.next
      · have left := sane.react a (t.hear link a s').1
        cases verdict : t.react a (t.hear link a s').1 with
        | proceed t' a' =>
          rw [verdict] at left later
          exact ih left (built.react sane (fun block => length_of_heard) verdict) _ turn later
        | aborted t' =>
          rw [verdict] at later
          cases List.mem_singleton.mp later
          exact .farewell
        | _ =>
          rw [verdict] at later
          cases later

theorem built_story (link : Link σ) {t : T1} (sane : Sane t) (command : Bytes) (s : σ) :
    ∀ turn ∈ (t.story link command s).flatMap Passage.turns, Built turn.sent := by
  intro turn here
  obtain ⟨passage, told, here⟩ := List.mem_flatMap.mp here
  cases passage with
  | attempt u turns =>
    have begun := (sane.told (transceive_told link t command s)).2 u turns told
    obtain ⟨s', rfl⟩ := story_attempt link told
    exact built_turns link link.patience begun (built_advance begun command []) s' turn here
  | resynch heard =>
    cases List.mem_singleton.mp here
    exact .request .resynch (Nat.zero_le _)

/-! ## Announcing the host's field length -/

/-- One try: the field length is announced, and what to do then depends on what is heard. -/
theorem announce_succ (link : Link σ) (t : T1) (size : UInt8) (tries : Nat) (s : σ) :
    t.announce link size (tries + 1) s =
      match t.send link (.request .ifs [size]) s with
      | .error e s => .error e s
      | .ok _ s =>
        match t.receive link t.timeout s with
        | .ok block s =>
          if block.kind = .supervisory .ifs true ∧ block.info = [size] then
            .ok { t with ifsd := size.toNat } s
          else t.announce link size tries s
        | .error e s =>
          if Block.recoverable e then t.announce link size tries s else .error e s := by
  rw [announce]
  cases send : t.send link (.request .ifs [size]) s with
  | error e s' => rw [bind_of_error send]
  | ok v s' =>
    rw [bind_of_ok send]
    simp only [bind, EStateM.bind]
    cases t.receive link t.timeout s' with
    | ok block s'' => dsimp only; split <;> rfl
    | error e s'' => dsimp only; split <;> rfl

theorem posted_announce (link : Link σ) (t : T1) (size : UInt8) (tries : Nat)
    (w : σ × List ChannelCall) :
    ∃ n, posted (after (t.announce link.watched size tries) w).2 =
      posted w.2 ++ List.replicate n (t.post (.request .ifs [size])) := by
  induction tries generalizing w with
  | zero => exact ⟨0, (List.append_nil _).symm⟩
  | succ tries ih =>
    have sent := posted_send link t (.request .ifs [size]) w
    have receive := receive_moves (watched_receives link)
      (Keeps.path fun w : σ × List ChannelCall => posted w.2) t t.timeout
    -- The announcement stands before those of the tries that are left.
    have again {w' : σ × List ChannelCall}
        (same : posted w'.2 = posted w.2 ++ [t.post (.request .ifs [size])]) :
        ∃ n, posted (after (t.announce link.watched size tries) w').2 =
          posted w.2 ++ List.replicate n (t.post (.request .ifs [size])) := by
      obtain ⟨n, said⟩ := ih w'
      exact ⟨n + 1, by rw [said, same, List.append_assoc]; rfl⟩
    simp only [after, announce_succ] at again ⊢
    cases send : t.send link.watched (.request .ifs [size]) w with
    | error e w' =>
      rw [after_of_error send] at sent
      exact ⟨1, sent⟩
    | ok v w' =>
      rw [after_of_ok send] at sent
      dsimp only
      cases received : t.receive link.watched t.timeout w' with
      | ok block w'' =>
        have same := (receive.ok received).trans sent
        dsimp only
        split
        · exact ⟨1, same⟩
        · exact again same
      | error e w'' =>
        have same := (receive.error received).trans sent
        dsimp only
        split
        · exact again same
        · exact ⟨1, same⟩

theorem announce_eq_ok {link : Link σ} {t t' : T1} {size : UInt8} {tries : Nat} {s s' : σ}
    (agreed : t.announce link size tries s = .ok t' s') : t' = { t with ifsd := size.toNat } := by
  induction tries generalizing s with
  | zero => cases agreed
  | succ tries ih =>
    rw [announce_succ] at agreed
    split at agreed
    · cases agreed
    · split at agreed
      · split at agreed
        · cases agreed
          rfl
        · exact ih agreed
      · split at agreed
        · exact ih agreed
        · cases agreed

/-- A length that is negotiated is one that a field can have, and it is kept as it was given. -/
theorem negotiateIfsd_eq_ok {link : Link σ} {t t' : T1} {ifsd : Nat} {s s' : σ}
    (agreed : t.negotiateIfsd link ifsd s = .ok t' s') : t' = { t with ifsd } ∧ IsField ifsd := by
  unfold negotiateIfsd at agreed
  split at agreed
  · next legal =>
    have whole : (UInt8.ofNat ifsd).toNat = ifsd := by
      have fits := legal.2
      rw [UInt8.toNat_ofNat']
      exact Nat.mod_eq_of_lt (by simp only [Block.maxInfo] at fits; omega)
    have engine := announce_eq_ok agreed
    rw [whole] at engine
    exact ⟨engine, legal⟩
  · cases agreed

/-! ## An engine at work -/

/-- A call of an engine. -/
inductive Call where
  | exchange (command : Bytes)
  | negotiate (ifsd : Nat)
  deriving DecidableEq, Repr

/-- The engine and the device after a call, however it ends. -/
def Call.perform (link : Link σ) (t : T1) (s : σ) : Call → T1 × σ
  | .exchange command =>
    ((t.transceive link command s).engine, (t.transceive link command s).device)
  | .negotiate ifsd =>
    match t.negotiateIfsd link ifsd s with
    | .ok t' s' => (t', s')
    | .error _ s' => (t, s')

def serve (link : Link σ) (t : T1) : List Call → σ → T1 × σ
  | [], s => (t, s)
  | call :: calls, s => serve link (call.perform link t s).1 calls (call.perform link t s).2

theorem Sane.perform {t : T1} (sane : Sane t) (link : Link σ) (call : Call) (s : σ) :
    Sane (call.perform link t s).1 := by
  cases call with
  | exchange command => exact (sane.told (transceive_told link t command s)).1
  | negotiate ifsd =>
    simp only [Call.perform]
    cases agreed : t.negotiateIfsd link ifsd s with
    | ok t' s' =>
      obtain ⟨rfl, legal⟩ := negotiateIfsd_eq_ok agreed
      exact ⟨sane.ifsc, legal⟩
    | error e s' => exact sane

theorem Sane.serve {t : T1} (sane : Sane t) (link : Link σ) (calls : List Call) (s : σ) :
    Sane (serve link t calls s).1 := by
  induction calls generalizing t s with
  | nil => exact sane
  | cons call calls ih => exact ih (sane.perform link call s) _

theorem Call.kept (link : Link σ) (t : T1) (call : Call) (s : σ) :
    (call.perform link t s).1.nad = t.nad ∧ (call.perform link t s).1.checksum = t.checksum := by
  cases call with
  | exchange command => exact (transceive_told link t command s).kept
  | negotiate ifsd =>
    simp only [Call.perform]
    cases agreed : t.negotiateIfsd link ifsd s with
    | ok t' s' =>
      obtain ⟨rfl, -⟩ := negotiateIfsd_eq_ok agreed
      exact ⟨rfl, rfl⟩
    | error e s' => exact ⟨rfl, rfl⟩

theorem serve_kept (link : Link σ) (t : T1) (calls : List Call) (s : σ) :
    (serve link t calls s).1.nad = t.nad ∧ (serve link t calls s).1.checksum = t.checksum := by
  induction calls generalizing t s with
  | nil => exact ⟨rfl, rfl⟩
  | cons call calls ih =>
    obtain ⟨nad, checksum⟩ := call.kept link t s
    obtain ⟨nad', checksum'⟩ := ih (call.perform link t s).1 (call.perform link t s).2
    exact ⟨nad'.trans nad, checksum'.trans checksum⟩

/-- What a call has the driver send is written from blocks that the engine builds. -/
theorem posted_perform (link : Link σ) {t : T1} (sane : Sane t) (call : Call)
    (w : σ × List ChannelCall) :
    ∃ blocks : List Block, (∀ block ∈ blocks, Built block) ∧
      posted (call.perform link.watched t w).2.2 = posted w.2 ++ blocks.map t.post := by
  cases call with
  | exchange command =>
    refine ⟨((t.story link.watched command w).flatMap Passage.turns).map Turn.sent, ?_, ?_⟩
    · intro block here
      obtain ⟨turn, said, rfl⟩ := List.mem_map.mp here
      exact built_story link.watched sane command w turn said
    · rw [List.map_map]
      exact posted_transceive link t command w
  | negotiate ifsd =>
    have device : (Call.perform link.watched t w (.negotiate ifsd)).2 =
        after (t.negotiateIfsd link.watched ifsd) w := by
      simp only [Call.perform, after]
      cases t.negotiateIfsd link.watched ifsd w <;> rfl
    rw [device]
    unfold negotiateIfsd
    split
    · obtain ⟨n, said⟩ := posted_announce link t (UInt8.ofNat ifsd) (t.retries + 1) w
      refine ⟨List.replicate n (.request .ifs [UInt8.ofNat ifsd]), ?_, ?_⟩
      · intro block here
        rw [List.eq_of_mem_replicate here]
        exact .request .ifs (by simp [Block.maxInfo])
      · rw [said, List.map_replicate]
    · exact ⟨[], fun block here => absurd here List.not_mem_nil, (List.append_nil _).symm⟩

theorem posted_serve (link : Link σ) {t : T1} (sane : Sane t) (calls : List Call)
    (w : σ × List ChannelCall) :
    ∃ blocks : List Block, (∀ block ∈ blocks, Built block) ∧
      posted (serve link.watched t calls w).2.2 = posted w.2 ++ blocks.map t.post := by
  induction calls generalizing t w with
  | nil => exact ⟨[], fun block here => absurd here List.not_mem_nil, (List.append_nil _).symm⟩
  | cons call calls ih =>
    obtain ⟨first, made, said⟩ := posted_perform link sane call w
    obtain ⟨rest, made', said'⟩ := ih (sane.perform link.watched call w) _
    obtain ⟨nad, checksum⟩ := call.kept link.watched t w
    refine ⟨first ++ rest, ?_, ?_⟩
    · intro block here
      exact (List.mem_append.mp here).elim (made block) (made' block)
    · rw [serve, said', said, post_engine nad checksum, List.map_append, List.append_assoc]

/-- **Every block that is sent is well formed.** Take an engine as an answer to reset asks for it,
and use it as you like, over any channel, whatever is received. Then its field lengths are ones that
a field can have, after every call and at every point of every exchange, and a length that it
announces is kept as it was given. It keeps its node and its checksum, and all that the driver is
given to send is written, for this node and with this checksum, from blocks that an engine builds,
whose numbers are single bits; each of them has the length that its length byte says, and is read
back as what it was written from. -/
theorem blocks_well_formed (link : Link σ) (nad : UInt8) (info : Atr.Info) (calls : List Call)
    (s : σ) :
    let t := (new nad).configure info
    let (now, s') := serve link t calls s
    Sane now ∧ now.nad = t.nad ∧ now.checksum = t.checksum ∧
      (∀ command u turns, .attempt u turns ∈ now.story link command s' →
        ∀ past v a, Reached u command past v a → Sane v) ∧
      (∀ ifsd t' s'', now.negotiateIfsd link ifsd s' = .ok t' s'' → t'.ifsd = ifsd) ∧
      ∃ blocks : List Block,
        posted (serve link.watched t calls (s, [])).2.2 = blocks.map t.post ∧
          ∀ block ∈ blocks, Built block ∧
            (UInt8.ofNat block.info.length).toNat = block.info.length ∧
            Block.decode t.nad t.checksum (block.encode t.nad t.checksum) = .ok block := by
  intro t
  have fresh : Sane t := sane_configure nad info
  have sane := fresh.serve link calls s
  obtain ⟨nad, checksum⟩ := serve_kept link t calls s
  refine ⟨sane, nad, checksum, ?_, ?_, ?_⟩
  · intro command u turns begun past v a reached
    exact ((sane.told (transceive_told link _ command _)).2 u turns begun).reached reached
  · intro ifsd t' s'' agreed
    rw [(negotiateIfsd_eq_ok agreed).1]
  · obtain ⟨blocks, made, said⟩ := posted_serve link fresh calls (s, [])
    refine ⟨blocks, said, fun block here => ?_⟩
    have built := made block here
    exact ⟨built, Block.toNat_length built.fits, Block.decode_encode _ _ block built.fits⟩

end CardTerminal.T1
