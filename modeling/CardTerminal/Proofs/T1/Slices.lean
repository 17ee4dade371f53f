import CardTerminal.Proofs.T1.Course
import Mathlib.Data.List.Destutter
import Mathlib.Logic.Function.Iterate

/-!
A T=1 command goes out in slices.

The slices that an attempt sends, without their repetitions, are a chain (`chain`): they carry the
command from its beginning, their numbers alternate, and each of them says whether more follows. The
attempt keeps the slice that it sent last, and sends it again as it was until the card lets the next
one through.

Main statements: the slices of every attempt are the chain of a part of the command, and of the
whole command if it was answered (`command_fragmented`); and a slice fits the field length that is
in force when it is sent first, so that a repetition is too long just if the card has asked for less
since then (`slice_fits_unless_shrunk`).
-/

namespace CardTerminal.T1

variable {σ : Type}

/-! ## Slices -/

/-- Whether a block carries a slice of a command. -/
def isSlice (block : Block) : Bool :=
  match block.kind with
  | .information _ _ => true
  | .receipt _ | .supervisory _ _ => false

/-- The slices among some blocks, as often as they were sent. -/
def slices (blocks : List Block) : List Block :=
  blocks.filter isSlice

/-- The slices among some blocks, without their repetitions. -/
def fresh (blocks : List Block) : List Block :=
  (slices blocks).destutter (· ≠ ·)

/-- A command in slices of these bytes: the numbers alternate, and each slice but one that ends the
command says that more follows. -/
def chain (ns : Bool) (command : Bytes) : List Bytes → List Block
  | [] => []
  | info :: infos =>
    .information ns (info.length < command.length) info ::
      chain (!ns) (command.drop info.length) infos

theorem isSlice_information (ns more : Bool) (info : Bytes) :
    isSlice (.information ns more info) = true := by
  simp [isSlice, kind_information]

theorem isSlice_of_polite {block : Block} (polite : Polite block) : isSlice block = false := by
  rcases polite with ⟨nr, kind⟩ | ⟨task, kind⟩ <;> simp [isSlice, kind]

theorem slices_concat {block : Block} (slice : isSlice block = true) (blocks : List Block) :
    slices (blocks ++ [block]) = slices blocks ++ [block] := by
  simp [slices, slice]

theorem slices_concat_polite {block : Block} (other : isSlice block = false)
    (blocks : List Block) : slices (blocks ++ [block]) = slices blocks := by
  simp [slices, other]

theorem destutter'_concat (blocks : List Block) (first last : Block) :
    (blocks ++ [last]).destutter' (· ≠ ·) first =
      blocks.destutter' (· ≠ ·) first ++
        if (first :: blocks).getLast? = some last then [] else [last] := by
  induction blocks generalizing first with
  | nil =>
    by_cases same : first = last <;> simp [same]
  | cons block blocks ih =>
    by_cases same : first = block
    · subst same
      simp [ih]
    · simp [same, ih]

theorem destutter_concat (blocks : List Block) (last : Block) :
    (blocks ++ [last]).destutter (· ≠ ·) =
      blocks.destutter (· ≠ ·) ++ if blocks.getLast? = some last then [] else [last] := by
  cases blocks with
  | nil => simp
  | cons first blocks => exact destutter'_concat blocks first last

theorem fresh_concat_polite {block : Block} (other : isSlice block = false)
    (blocks : List Block) : fresh (blocks ++ [block]) = fresh blocks := by
  rw [fresh, slices_concat_polite other, fresh]

theorem fresh_concat_repeated {block : Block} {blocks : List Block}
    (repeated : (slices blocks).getLast? = some block) (slice : isSlice block = true) :
    fresh (blocks ++ [block]) = fresh blocks := by
  rw [fresh, slices_concat slice, destutter_concat, if_pos repeated, List.append_nil, fresh]

theorem fresh_concat_new {block : Block} {blocks : List Block}
    (new : (slices blocks).getLast? ≠ some block) (slice : isSlice block = true) :
    fresh (blocks ++ [block]) = fresh blocks ++ [block] := by
  rw [fresh, slices_concat slice, destutter_concat, if_neg new, fresh]

theorem chain_concat (ns : Bool) {command rest : Bytes} {infos : List Bytes}
    (whole : infos.flatten ++ rest = command) (info : Bytes) :
    chain ns command (infos ++ [info]) =
      chain ns command infos ++
        [.information (not^[infos.length] ns) (info.length < rest.length) info] := by
  induction infos generalizing ns command with
  | nil =>
    subst whole
    rfl
  | cons first infos ih =>
    have left : infos.flatten ++ rest = command.drop first.length := by
      rw [← whole, List.flatten_cons, List.append_assoc, List.drop_left]
    simp only [List.cons_append, chain, ih (!ns) left, List.length_cons,
      Function.iterate_succ_apply]

/-! ## Slices of an attempt -/

/-- The slice that was sent last in some turns. -/
def lastSlice (turns : List Turn) : Option Block :=
  (slices (turns.map Turn.sent)).getLast?

/-- The card has just let the next slice through: the last thing heard is an R-block whose number is
not the one of the slice that was sent last. -/
def Prompted (turns : List Turn) : Prop :=
  ∃ slice ns more turn receipt nr, lastSlice turns = some slice ∧
    slice.kind = .information ns more ∧ turns.getLast? = some turn ∧
    turn.heard = some (.ok receipt) ∧ receipt.kind = .receipt nr ∧ nr ≠ ns

/-- The blocks that were sent, and the next one. -/
def said (past : List Turn) (a : Attempt) : List Block :=
  past.map Turn.sent ++ [a.next]

theorem said_concat (past : List Turn) (a a' : Attempt) (heard : Option (Except Error Block)) :
    said (past ++ [⟨a.next, heard⟩]) a' = said past a ++ [a'.next] := by
  simp [said]

theorem lastSlice_concat (past : List Turn) (a : Attempt) (heard : Option (Except Error Block)) :
    lastSlice (past ++ [⟨a.next, heard⟩]) = (slices (said past a)).getLast? := by
  simp [lastSlice, said]

theorem slice_eq (t : T1) (command : Bytes) :
    t.slice command = .information t.ns ((command.take t.ifsc).length < command.length)
      (command.take t.ifsc) := by
  have same : t.ifsc < command.length ↔ (command.take t.ifsc).length < command.length := by
    rw [List.length_take]
    omega
  simp only [slice, same]

variable {u v t t' : T1} {a a' : Attempt} {command answer : Bytes} {past : List Turn}
  {received : Except Error Block}

theorem Advances.next (advances : Advances t a received t' a') : a'.next = a'.current := by
  rw [advances.attempt]
  rfl

theorem Advances.fits (advances : Advances t a received t' a')
    (reached : Reached u command past t' a') :
    a'.current.info.length ≤ inForce u.ifsc (requests past) := by
  have ifsc : t'.ifsc = inForce u.ifsc (requests past) := by rw [reached.engine]
  rw [← ifsc, advances.attempt, advances.engine]
  exact List.length_take_le ..

/-- A slice that is next is the one that the attempt keeps. -/
theorem Tracks.next_eq_current (tracks : Tracks u past t a) (sent : isSlice a.next = true) :
    a.next = a.current := by
  rcases tracks.next with ⟨-, next⟩ | polite
  · exact next
  · rw [isSlice_of_polite polite] at sent
    cases sent

theorem Reached.isSlice_current (reached : Reached u command past t a) :
    isSlice a.current = true := by
  simp [isSlice, reached.tracks.current]

/-- The slice that was sent last, or is next, is the one that the attempt keeps. -/
theorem Reached.getLast?_slices (reached : Reached u command past t a) :
    (slices (said past a)).getLast? = some a.current := by
  induction reached with
  | start => simp [said, slices, T1.start, advance, slice, isSlice_information]
  | @proceed past t t' a a' received reached verdict ih =>
    have slice := (reached.proceed verdict).isSlice_current
    rw [said_concat]
    rcases proceed_cases verdict with advances | stays
    · rw [advances.next, slices_concat slice, List.getLast?_concat]
    · rcases stays.next with next | polite
      · rw [next, ← stays.current, slices_concat slice, List.getLast?_concat]
      · rw [slices_concat_polite (isSlice_of_polite polite), ih, stays.current]

/-- The next slice differs from the one before it, at least in its number. -/
theorem Advances.new (advances : Advances t a received t' a') (tracks : Tracks u past t a) :
    a'.next ≠ a.current := by
  intro same
  have kind := tracks.current
  rw [← same, advances.attempt, advances.engine] at kind
  simp [advance, slice, kind_information, T1.position, advances.sending] at kind

/-- The slices sent so far, and the next one, are a chain of what is gone of the command. -/
structure Chained (u : T1) (command : Bytes) (past : List Turn) (t : T1) (a : Attempt) : Prop where
  chain : fresh (said past a) = chain u.ns command ((fresh (said past a)).map Block.info)
  whole : ((fresh (said past a)).map Block.info).flatten ++ a.rest = command
  number : not^[(fresh (said past a)).length] u.ns = !(t.position a).ns

theorem Chained.stays (chained : Chained u command past t a)
    (last : (slices (said past a)).getLast? = some a.current) (slice : isSlice a.current = true)
    (stays : Stays t a t' a') : Chained u command (past ++ [⟨a.next, some received⟩]) t' a' := by
  have same : fresh (said (past ++ [⟨a.next, some received⟩]) a') = fresh (said past a) := by
    rw [said_concat]
    rcases stays.next with next | polite
    · rw [next, fresh_concat_repeated last slice]
    · rw [fresh_concat_polite (isSlice_of_polite polite)]
  refine ⟨?_, ?_, ?_⟩
  · rw [same]
    exact chained.chain
  · rw [same, stays.rest]
    exact chained.whole
  · rw [same, stays.ns]
    exact chained.number

theorem Chained.advances (chained : Chained u command past t a)
    (tracks : Tracks u past t a) (last : (slices (said past a)).getLast? = some a.current)
    (advances : Advances t a received t' a') :
    Chained u command (past ++ [⟨a.next, some received⟩]) t' a' := by
  have ns : (t.position a).ns = t.ns := by simp [T1.position, advances.sending]
  have next : a'.next = .information (!t.ns)
      ((a.rest.take t.ifsc).length < a.rest.length) (a.rest.take t.ifsc) := by
    rw [advances.attempt, advances.engine]
    exact slice_eq ..
  have slice : isSlice a'.next = true := by
    rw [next]
    exact isSlice_information ..
  have new : (slices (said past a)).getLast? ≠ some a'.next := by
    rw [last]
    exact fun same => advances.new tracks (Option.some.inj same).symm
  have grown : fresh (said (past ++ [⟨a.next, some received⟩]) a') =
      fresh (said past a) ++ [a'.next] := by
    rw [said_concat, fresh_concat_new new slice]
  have infos : (fresh (said (past ++ [⟨a.next, some received⟩]) a')).map Block.info =
      (fresh (said past a)).map Block.info ++ [a.rest.take t.ifsc] := by
    rw [grown, List.map_append, next]
    rfl
  refine ⟨?_, ?_, ?_⟩
  · rw [infos, chain_concat u.ns chained.whole, ← chained.chain, List.length_map, chained.number,
      ns, grown, next]
  · have rest : a'.rest = a.rest.drop t.ifsc := by
      rw [advances.attempt, advances.engine]
      rfl
    rw [infos, rest, List.flatten_append, List.append_assoc]
    simpa using chained.whole
  · have number : (t'.position a').ns = !t.ns := by
      rw [advances.attempt, advances.engine]
      rfl
    rw [grown, List.length_append, List.length_singleton, Function.iterate_succ_apply',
      chained.number, ns, number]

theorem Reached.chained (reached : Reached u command past t a) :
    Chained u command past t a := by
  -- A reaction either adds the next slice to the chain, or leaves it as it is.
  induction reached with
  | start =>
    have one : fresh (said [] (u.start command)) = [u.slice command] := by
      simp [fresh, slices, said, T1.start, advance, slice, isSlice_information]
    refine ⟨?_, ?_, ?_⟩
    · rw [one, slice_eq]
      rfl
    · rw [one]
      simp [slice, Block.information, T1.start, advance]
    · rw [one]
      rfl
  | @proceed past t t' a a' received reached verdict ih =>
    rcases proceed_cases verdict with advances | stays
    · exact ih.advances reached.tracks reached.getLast?_slices advances
    · exact ih.stays reached.getLast?_slices reached.isSlice_current stays

/-- A slice that is sent is the one that was sent last, or the next one that the card let
through. -/
theorem Reached.next_slice (reached : Reached u command past t a) (sent : isSlice a.next = true) :
    lastSlice past = some a.next ∨
      a.next.info.length ≤ inForce u.ifsc (requests past) ∧ (past = [] ∨ Prompted past) := by
  cases reached with
  | start =>
    refine .inr ⟨?_, .inl rfl⟩
    exact List.length_take_le ..
  | @proceed before w _ b _ received earlier verdict =>
    rcases proceed_cases verdict with advances | stays
    · have length := advances.fits (earlier.proceed verdict)
      rw [← advances.next] at length
      have current := earlier.tracks.current
      simp only [T1.position, advances.sending, if_true] at current
      obtain ⟨receipt, nr, rfl, kind, news⟩ := advances.news
      refine .inr ⟨length, .inr ⟨b.current, w.ns, !b.rest.isEmpty, ⟨b.next, some (.ok receipt)⟩,
        receipt, nr, ?_, current, List.getLast?_concat, rfl, kind, news⟩⟩
      rw [lastSlice_concat, earlier.getLast?_slices]
    · rcases stays.next with next | polite
      · exact .inl (by rw [lastSlice_concat, earlier.getLast?_slices, next])
      · rw [isSlice_of_polite polite] at sent
        cases sent

theorem Concluded.fresh {turns : List Turn} {ending : Ending}
    (concluded : Concluded u command turns ending v) :
    turns = [] ∨ ∃ past t a, Reached u command past t a ∧
      fresh (turns.map Turn.sent) = T1.fresh (said past a) := by
  have said (past : List Turn) (a : Attempt) (heard : Option (Except Error Block)) :
      (past ++ [Turn.mk a.next heard]).map Turn.sent = said past a := by simp [said]
  cases concluded with
  | unfinished reached =>
    cases reached with
    | start => exact .inl rfl
    | proceed reached verdict => exact .inr ⟨_, _, _, reached, congrArg T1.fresh (said ..)⟩
  | unsent reached e => exact .inr ⟨_, _, _, reached, congrArg T1.fresh (said ..)⟩
  | answered reached verdict => exact .inr ⟨_, _, _, reached, congrArg T1.fresh (said ..)⟩
  | outOfStep reached verdict => exact .inr ⟨_, _, _, reached, congrArg T1.fresh (said ..)⟩
  | lost reached verdict => exact .inr ⟨_, _, _, reached, congrArg T1.fresh (said ..)⟩
  | @aborted past t t' a received reached verdict fault =>
    refine .inr ⟨past, t, a, reached, ?_⟩
    have parting : (past ++ [Turn.mk a.next (some received), .farewell]).map Turn.sent =
        T1.said past a ++ [Turn.farewell.sent] := by
      simp [T1.said]
    rw [parting, fresh_concat_polite rfl]

/-! ## Fragmentation -/

/-- The attempt by engine `u` sends the command in slices as it should. -/
structure Fragmented (u : T1) (command : Bytes) (turns : List Turn) : Prop where
  chain : fresh (turns.map Turn.sent) =
    chain u.ns command ((fresh (turns.map Turn.sent)).map Block.info)
  begins : ((fresh (turns.map Turn.sent)).map Block.info).flatten <+: command
  next : ∀ before turn after, turns = before ++ turn :: after → isSlice turn.sent = true →
    lastSlice before = some turn.sent ∨
      turn.sent.info.length ≤ inForce u.ifsc (requests before) ∧ (before = [] ∨ Prompted before)

theorem Concluded.fragmented {turns : List Turn} {ending : Ending}
    (concluded : Concluded u command turns ending v) : Fragmented u command turns := by
  refine ⟨?_, ?_, ?_⟩
  · rcases concluded.fresh with rfl | ⟨past, t, a, reached, same⟩
    · rfl
    · rw [same]
      exact reached.chained.chain
  · rcases concluded.fresh with rfl | ⟨past, t, a, reached, same⟩
    · exact List.nil_prefix
    · rw [same]
      exact ⟨a.rest, reached.chained.whole⟩
  · intro before turn after split sent
    rcases concluded.turn split with ⟨rfl, -⟩ | ⟨t, a, reached, same⟩
    · cases sent
    · rw [same] at sent ⊢
      exact reached.next_slice sent

/-- An answer is whole with a part that says so, when the whole command has been sent. -/
theorem Tracks.finished (tracks : Tracks u past t a)
    (verdict : t.react a received = .finished t' answer) :
    ∃ block, received = .ok block ∧ block.kind = .information t.nr false ∧ a.rest = [] ∧
      t' = { t.conceded a with nr := !t.nr } ∧ answer = a.answer ++ block.info := by
  obtain ⟨meaning, v, means, reacts, reaction⟩ := t.react_cases a received
  rw [reacts] at verdict
  cases reaction with
  | @last block kind rest =>
    cases verdict
    refine ⟨block, rfl, kind, ?_, rfl, rfl⟩
    cases sending : a.sending with
    | true => exact rest sending
    | false => exact tracks.arrived sending
  | onward => cases verdict
  | part => cases verdict
  | request => cases verdict
  | abort => cases verdict
  | lost => cases verdict
  | flaw => exact absurd verdict spend_ne_finished
  | stale => exact absurd verdict spend_ne_finished

/-- **A T=1 command goes out in consecutive slices.** Over any channel, whatever is received: the
blocks that the driver is given are those of the story. In each attempt the slices are a chain of a
part of the command, and each of them is either the one before again, byte for byte, or a new one,
which fits the field length in force and comes directly after an R-block that asks for it. And only
a command that was sent as a whole is answered. -/
theorem command_fragmented (link : Link σ) (t : T1) (command : Bytes) (s : σ) :
    posted (t.transceive link.watched command (s, [])).device.2 =
        t.postAll (t.story link command s) ∧
      (∀ earlier u turns later, t.story link command s = earlier ++ .attempt u turns :: later →
        u.ifsc = inForce t.ifsc (earlier.flatMap Passage.requests) ∧
          Fragmented u command turns) ∧
      ∀ answer, (t.transceive link command s).outcome = some (.ok answer) →
        ∃ earlier u turns, t.story link command s = earlier ++ [.attempt u turns] ∧
          ((fresh (turns.map Turn.sent)).map Block.info).flatten = command := by
  refine ⟨posted_story link t command s, ?_, ?_⟩
  · intro earlier u turns later split
    obtain ⟨⟨ending, v, concluded⟩, engine⟩ := (transceive_told link t command s).attempt split
    exact ⟨by rw [engine], concluded.fragmented⟩
  · intro answer answered
    obtain ⟨earlier, u, turns, split, concluded⟩ :=
      (transceive_told link t command s).answered answered
    refine ⟨earlier, u, turns, split, ?_⟩
    cases concluded with
    | @answered past t' v a received answer reached verdict =>
      obtain ⟨block, -, -, rest, -, -⟩ := reached.tracks.finished verdict
      have whole := reached.chained.whole
      rw [rest, List.append_nil, said] at whole
      rwa [List.map_append]

def narrow : T1 :=
  { wide with ifsc := 2 }

/-- A card that has a slice repeated, and asks for shorter ones before it takes the next. -/
def narrowing : List Block :=
  [.receipt true .none, .receipt true .checksum, .request .ifs [1], .receipt false .none,
    .information false false [0x90, 0x00]]

/-- What is said when it hears a command of three slices. -/
def narrowTurns : List Turn :=
  [⟨.information false true [1, 2], some (.ok (.receipt true .none))⟩,
    ⟨.information true true [3, 4], some (.ok (.receipt true .checksum))⟩,
    ⟨.information true true [3, 4], some (.ok (.request .ifs [1]))⟩,
    ⟨.response .ifs [1], some (.ok (.receipt false .none))⟩,
    ⟨.information false false [5], some (.ok (.information false false [0x90, 0x00]))⟩]

theorem command_fragmented_narrow :
    narrow.story (reciting 20) [1, 2, 3, 4, 5] narrowing = [.attempt narrow narrowTurns] ∧
      Fragmented narrow [1, 2, 3, 4, 5] narrowTurns ∧
      ((fresh (narrowTurns.map Turn.sent)).map Block.info).flatten = [1, 2, 3, 4, 5] := by
  have told : narrow.story (reciting 20) [1, 2, 3, 4, 5] narrowing =
      [.attempt narrow narrowTurns] := rfl
  obtain ⟨-, fragmented, whole⟩ :=
    command_fragmented (reciting 20) narrow [1, 2, 3, 4, 5] narrowing
  rw [told] at fragmented whole
  refine ⟨told, (fragmented [] _ _ [] rfl).2, ?_⟩
  obtain ⟨earlier, u, turns, split, sent⟩ := whole [0x90, 0x00] rfl
  obtain ⟨-, same⟩ := List.append_inj' ((List.nil_append _).trans split) rfl
  cases same
  exact sent

/-! ## Repetitions -/

/-- A slice was sent first after the first turns, and nothing but repeated since. -/
structure Repeated (slice : Block) (first since : List Turn) : Prop where
  new : lastSlice first ≠ some slice
  begins : ∀ turn ∈ since.head?, turn.sent = slice
  repeats : ∀ turn ∈ since, isSlice turn.sent = true → turn.sent = slice

theorem Repeated.again {slice sent : Block} {first since : List Turn}
    {heard : Option (Except Error Block)} (repeated : Repeated slice first since)
    (begins : since = [] → sent = slice) (same : isSlice sent = true → sent = slice) :
    Repeated slice first (since ++ [⟨sent, heard⟩]) := by
  refine ⟨repeated.new, ?_, ?_⟩
  · cases since with
    | nil => simpa using begins rfl
    | cons turn since => exact repeated.begins
  · intro turn sent
    rcases List.mem_append.mp sent with before | last
    · exact repeated.repeats turn before
    · cases List.mem_singleton.mp last
      exact same

/-- The slice that an attempt keeps was within bounds when it was sent first. -/
theorem Reached.repeated (reached : Reached u command past t a) :
    ∃ first since, past = first ++ since ∧ Repeated a.current first since ∧
      a.current.info.length ≤ inForce u.ifsc (requests first) ∧
      (since = [] → a.next = a.current) := by
  induction reached with
  | start =>
    refine ⟨[], [], rfl, ⟨by simp [lastSlice, slices], by simp, by simp⟩, ?_, fun _ => rfl⟩
    exact List.length_take_le ..
  | @proceed past t t' a a' received reached verdict ih =>
    rcases proceed_cases verdict with advances | stays
    · refine ⟨_, [], (List.append_nil _).symm, ⟨?_, by simp, by simp⟩,
        advances.fits (reached.proceed verdict), fun _ => advances.next⟩
      rw [lastSlice_concat, reached.getLast?_slices, ← advances.next]
      exact fun same => advances.new reached.tracks (Option.some.inj same).symm
    · obtain ⟨first, since, rfl, repeated, fits, begins⟩ := ih
      refine ⟨first, since ++ [⟨a.next, some received⟩], (List.append_assoc ..), ?_, ?_, ?_⟩
      · rw [stays.current]
        exact repeated.again begins reached.tracks.next_eq_current
      · rwa [stays.current]
      · simp

/-- What was within bounds exceeds them just if the last request since then asks for less. -/
theorem inForce_lt_iff {ifsc length : Nat} {first : List Nat} (fits : length ≤ inForce ifsc first)
    (since : List Nat) :
    inForce ifsc (first ++ since) < length ↔ ∃ size ∈ since.getLast?, size < length := by
  rw [inForce_append]
  cases last : since.getLast? with
  | none => simpa [inForce, last] using fits
  | some size => simp [inForce, last]

/-- **A slice fits the field length in force, unless the card has asked for less since it was sent
first.** Over any channel, whatever is received, every slice that the driver is given is no longer
than the field length that was in force when it was sent first, which is the last one that the card
asked for, or else that of the engine. A repetition exceeds the field length now in force just if
the last request since then is for less: a slice is repeated as it was, and not cut anew. What the
card asks for in place of starting afresh is refused, and so it is never in force. -/
theorem slice_fits_unless_shrunk (link : Link σ) (t : T1) (command : Bytes) (s : σ) :
    posted (t.transceive link.watched command (s, [])).device.2 =
        t.postAll (t.story link command s) ∧
      ∀ earlier u turns later, t.story link command s = earlier ++ .attempt u turns :: later →
        ∀ before turn after, turns = before ++ turn :: after → isSlice turn.sent = true →
          ∃ first since, before = first ++ since ∧ Repeated turn.sent first since ∧
            turn.sent.info.length ≤
              inForce t.ifsc (earlier.flatMap Passage.requests ++ requests first) ∧
            (inForce t.ifsc (earlier.flatMap Passage.requests ++ requests before) <
                turn.sent.info.length ↔
              ∃ size ∈ (requests since).getLast?, size < turn.sent.info.length) := by
  refine ⟨posted_story link t command s, ?_⟩
  intro earlier u turns later split before turn after split' sent
  obtain ⟨⟨ending, v, concluded⟩, engine⟩ := (transceive_told link t command s).attempt split
  rcases concluded.turn split' with ⟨rfl, -⟩ | ⟨t', a, reached, same⟩
  · cases sent
  obtain ⟨first, since, rfl, repeated, fits, -⟩ := reached.repeated
  have current : turn.sent = a.current :=
    same.trans (reached.tracks.next_eq_current (same ▸ sent))
  have ifsc : u.ifsc = inForce t.ifsc (earlier.flatMap Passage.requests) := by rw [engine]
  rw [← current] at repeated fits
  rw [ifsc, ← inForce_append] at fits
  refine ⟨first, since, rfl, repeated, fits, ?_⟩
  rw [requests_append, ← List.append_assoc]
  exact inForce_lt_iff fits _

/-- A card that asks for shorter slices, and then for the last one again. -/
def repenting : List Block :=
  [.request .ifs [2], .receipt false .none, .information false false [0x90, 0x00]]

/-- What is said when it hears a command of one slice, before the slice is repeated. -/
def repentTurns : List Turn :=
  [⟨.information false false [0x00, 0xA4, 0x00, 0x00], some (.ok (.request .ifs [2]))⟩,
    ⟨.response .ifs [2], some (.ok (.receipt false .none))⟩]

/-- The slice of four bytes is sent again to a card that takes two. -/
theorem slice_fits_unless_shrunk_repeated :
    ∃ turn, wide.story (reciting 20) [0x00, 0xA4, 0x00, 0x00] repenting =
        [.attempt wide (repentTurns ++ [turn])] ∧
      turn.sent.info.length = 4 ∧ inForce wide.ifsc (requests repentTurns) = 2 ∧
      ∃ first since, repentTurns = first ++ since ∧ Repeated turn.sent first since ∧
        ∃ size ∈ (requests since).getLast?, size < turn.sent.info.length := by
  have told : wide.story (reciting 20) [0x00, 0xA4, 0x00, 0x00] repenting =
      [.attempt wide (repentTurns ++ [⟨.information false false [0x00, 0xA4, 0x00, 0x00],
        some (.ok (.information false false [0x90, 0x00]))⟩])] := rfl
  obtain ⟨-, fits⟩ :=
    slice_fits_unless_shrunk (reciting 20) wide [0x00, 0xA4, 0x00, 0x00] repenting
  obtain ⟨first, since, split, repeated, -, exceeds⟩ :=
    fits [] wide _ [] told repentTurns _ [] rfl rfl
  exact ⟨_, told, rfl, rfl, first, since, split, repeated, exceeds.mp (by decide)⟩

end CardTerminal.T1
