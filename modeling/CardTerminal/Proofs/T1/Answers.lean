import CardTerminal.Proofs.Block
import CardTerminal.Proofs.T1.Slices

/-!
A T=1 answer is put together from parts.

What the host takes as a block is the writing of a block, from the card's node and of a length that
the host takes (`receive_eq_ok_iff`). Of these blocks, the parts of the answer are those that come
once the whole command was sent and have the number that is due (`parts`); all others add nothing to
it.

Main statement: an answer is the concatenation of the parts of the last attempt, whose numbers
alternate and of which all but the last say that more follows (`answer_reassembled`).
-/

namespace CardTerminal

open CardTerminal.Action

namespace T1

variable {σ : Type}

/-- The host takes just what is written as a block of the card's node, if the field is no longer
than a field may be, and than the host takes. -/
theorem receive_eq_ok_iff (link : Link σ) (t : T1) (timeout : Nat) (block : Block) (s s' : σ) :
    t.receive link timeout s = .ok block s' ↔
      Block.receive link t.nad t.checksum timeout t.blockOriented s =
          .ok (block.encode (Block.replyNad t.nad) t.checksum) s' ∧
        block.info.length ≤ Block.maxInfo ∧ block.info.length ≤ t.ifsd := by
  constructor
  · intro received
    obtain ⟨bytes, u, received, taken⟩ := bind_eq_ok received
    cases decoded : Block.decode (Block.replyNad t.nad) t.checksum bytes with
    | error e =>
      simp only [decoded] at taken
      cases taken
    | ok found =>
      simp only [decoded] at taken
      split at taken
      · cases taken
      · next fits =>
        cases taken
        obtain ⟨rfl, short⟩ := (Block.decode_eq_ok_iff ..).mp decoded
        exact ⟨received, short, Nat.le_of_not_lt fits⟩
  · rintro ⟨received, short, fits⟩
    have decoded := (Block.decode_eq_ok_iff _ _ _ _).mpr
      ⟨(rfl : block.encode (Block.replyNad t.nad) t.checksum = _), short⟩
    rw [receive, bind_of_ok received]
    simp only [decoded, Nat.not_lt.mpr fits, if_false]
    rfl

/-! ## Where the turns of a story come from -/

theorem recovery_attempt (link : Link σ) {command : Bytes} {budget : Nat} {t u : T1} {s : σ}
    {turns : List Turn} (h : .attempt u turns ∈ recovery link command budget t s) :
    ∃ s, turns = T1.turns link link.patience u (u.start command) s := by
  induction budget generalizing t s with
  | zero => simp [recovery] at h
  | succ budget ih =>
    rw [recovery] at h
    generalize t.resynch link s = asked at h
    obtain ⟨_ | _, s'⟩ := asked
    · exact ih ((List.mem_cons.mp h).resolve_left (by simp))
    · have answered := (List.mem_cons.mp h).resolve_left (by simp)
      rcases List.mem_cons.mp answered with same | later
      · cases same
        exact ⟨s', rfl⟩
      · generalize t.renewed.attempt link command s' = attempted at later
        obtain ⟨ending, t', s''⟩ := attempted
        cases ending with
        | outOfStep => exact ih later
        | _ => cases later

theorem story_attempt (link : Link σ) {command : Bytes} {t u : T1} {s : σ} {turns : List Turn}
    (h : .attempt u turns ∈ t.story link command s) :
    ∃ s, turns = T1.turns link link.patience u (u.start command) s := by
  rw [story] at h
  rcases List.mem_cons.mp h with same | later
  · cases same
    exact ⟨s, rfl⟩
  · generalize t.attempt link command s = attempted at later
    obtain ⟨ending, t', s'⟩ := attempted
    cases ending with
    | outOfStep => exact recovery_attempt link later
    | _ => cases later

theorem hear_engine (link : Link σ) (t : T1) (ns nr : Bool) (ifsc : Nat) (a : Attempt) :
    { t with ns, nr, ifsc }.hear link a = t.hear link a :=
  rfl

theorem turns_heard (link : Link σ) {u t : T1} {a : Attempt} {command : Bytes} {past : List Turn}
    (reached : Reached u command past t a) (patience : Nat) (s : σ) {turn : Turn}
    {received : Except Error Block} (told : turn ∈ turns link patience t a s)
    (heard : turn.heard = some received) : ∃ a s, received = (u.hear link a s).1 := by
  induction patience generalizing past t a s with
  | zero => cases told
  | succ patience ih =>
    rw [turns] at told
    cases send : t.send link a.next s with
    | error e s' =>
      rw [send] at told
      cases List.mem_singleton.mp told
      cases heard
    | ok v s' =>
      simp only [send] at told
      rcases List.mem_cons.mp told with rfl | later
      · cases heard
        refine ⟨a, s', ?_⟩
        rw [reached.engine, hear_engine]
      · cases verdict : t.react a (t.hear link a s').1 with
        | proceed t' a' =>
          rw [verdict] at later
          exact ih (.proceed reached verdict) _ later
        | aborted t' =>
          rw [verdict] at later
          cases List.mem_singleton.mp later
          cases heard
        | finished t' answer =>
          rw [verdict] at later
          cases later
        | outOfStep t' =>
          rw [verdict] at later
          cases later
        | lost t' cause =>
          rw [verdict] at later
          cases later

theorem hear_eq_ok_iff (link : Link σ) (t : T1) (a : Attempt) (s : σ) (block : Block) :
    (t.hear link a s).1 = .ok block ↔
      ∃ s', t.receive link (t.timeout * a.stretch) s = .ok block s' := by
  unfold hear
  cases t.receive link (t.timeout * a.stretch) s <;> simp

/-! ## The parts of an answer -/

/-- The parts of the answer in some turns of an attempt: the blocks that came when the last slice of
the command had been sent, and that had the number that was due. -/
def parts (u : T1) (turns : List Turn) : List Block :=
  (meanings (.start u) turns).filterMap Meaning.part?

/-- The answer was put together from these turns of an attempt by engine `u`, which left engine
`v`. -/
structure Assembled (u : T1) (turns : List Turn) (answer : Bytes) (v : T1) : Prop where
  answer : answer = ((parts u turns).map Block.info).flatten
  nonempty : parts u turns ≠ []
  kind : ∀ (i : Nat) (block : Block), (parts u turns)[i]? = some block →
    block.kind = .information (not^[i] u.nr) (i + 1 < (parts u turns).length)
  nr : v.nr = not^[(parts u turns).length] u.nr
  ns : v.ns = not^[(fresh (turns.map Turn.sent)).length] u.ns

/-- The answer so far is put together from the turns so far. -/
structure Assembling (u : T1) (past : List Turn) (t : T1) (a : Attempt) : Prop where
  answer : a.answer = ((parts u past).map Block.info).flatten
  kind : ∀ (i : Nat) (block : Block), (parts u past)[i]? = some block →
    block.kind = .information (not^[i] u.nr) true
  nr : t.nr = not^[(parts u past).length] u.nr

theorem earlier_or_last {blocks : List Block} {found last : Block} {i : Nat}
    (h : (blocks ++ [last])[i]? = some found) :
    blocks[i]? = some found ∧ i < blocks.length ∨ i = blocks.length ∧ found = last := by
  rw [List.getElem?_append] at h
  split at h
  · next earlier => exact .inl ⟨h, earlier⟩
  · next late =>
    rw [List.getElem?_singleton] at h
    split at h
    · next first =>
      cases h
      exact .inr ⟨by omega, rfl⟩
    · cases h

section

variable {u v t t' : T1} {a a' : Attempt} {command answer : Bytes} {past : List Turn}
  {received : Except Error Block}

theorem Tracks.parts (tracks : Tracks u past t a) (received : Except Error Block) :
    parts u (past ++ [⟨a.next, some received⟩]) =
      T1.parts u past ++ ((t.position a).meaning received).part?.toList := by
  rw [T1.parts, tracks.meanings, List.filterMap_append]
  rfl

theorem Assembling.unchanged (assembling : Assembling u past t a) {turn : Turn}
    (same : parts u (past ++ [turn]) = parts u past) (answer : a'.answer = a.answer)
    (nr : t'.nr = t.nr) : Assembling u (past ++ [turn]) t' a' := by
  refine ⟨?_, ?_, ?_⟩
  · rw [same, answer]
    exact assembling.answer
  · rw [same]
    exact assembling.kind
  · rw [same, nr]
    exact assembling.nr

theorem Assembling.proceed (assembling : Assembling u past t a) (tracks : Tracks u past t a)
    (verdict : t.react a received = .proceed t' a') :
    Assembling u (past ++ [⟨a.next, some received⟩]) t' a' := by
  have grown := tracks.parts received
  obtain ⟨meaning, w, means, reacts, reaction⟩ := t.react_cases a received
  rw [reacts] at verdict
  rw [means] at grown
  have same (none : meaning.part? = none) :
      parts u (past ++ [⟨a.next, some received⟩]) = parts u past := by
    rw [grown, none]
    exact List.append_nil _
  cases reaction with
  | onward =>
    cases verdict
    exact assembling.unchanged (same rfl) rfl rfl
  | @part block kind rest =>
    cases verdict
    simp only [Meaning.part?, Option.toList_some] at grown
    refine ⟨?_, ?_, ?_⟩
    · rw [grown, List.map_append, List.flatten_append, ← assembling.answer]
      simp
    · intro i found h
      rw [grown] at h
      rcases earlier_or_last h with ⟨earlier, -⟩ | ⟨rfl, rfl⟩
      · exact assembling.kind i found earlier
      · rw [kind, assembling.nr]
    · rw [grown, List.length_append, List.length_singleton, Function.iterate_succ_apply',
        ← assembling.nr]
  | last => cases verdict
  | request =>
    cases verdict
    exact assembling.unchanged (same rfl) rfl rfl
  | abort => cases verdict
  | lost => cases verdict
  | flaw =>
    obtain ⟨left, -, rfl, rfl⟩ := spend_eq_proceed verdict
    exact assembling.unchanged (same rfl) rfl rfl
  | stale =>
    obtain ⟨left, -, rfl, rfl⟩ := spend_eq_proceed verdict
    exact assembling.unchanged (same rfl) rfl rfl

theorem Reached.assembling (reached : Reached u command past t a) : Assembling u past t a := by
  induction reached with
  | start => exact ⟨rfl, by simp [parts, meanings], rfl⟩
  | proceed reached verdict ih => exact ih.proceed reached.tracks verdict

theorem Concluded.assembled {turns : List Turn}
    (concluded : Concluded u command turns (.answered answer) v) :
    Assembled u turns answer v := by
  cases concluded with
  | @answered past t v a received answer reached verdict =>
    have assembling := reached.assembling
    have tracks := reached.tracks
    have grown := tracks.parts received
    obtain ⟨block, rfl, kind, rest, rfl, rfl⟩ := tracks.finished verdict
    have part : (t.position a).meaning (.ok block) = .part block := by
      simp [Position.meaning, kind, position, rest]
    rw [part] at grown
    simp only [Meaning.part?, Option.toList_some] at grown
    have count : (parts u (past ++ [⟨a.next, some (.ok block)⟩])).length =
        (parts u past).length + 1 := by
      rw [grown, List.length_append, List.length_singleton]
    refine ⟨?_, by simp [grown], ?_, ?_, ?_⟩
    · rw [grown, List.map_append, List.flatten_append, ← assembling.answer]
      simp
    · intro i found h
      rw [count]
      rw [grown] at h
      rcases earlier_or_last h with ⟨earlier, inside⟩ | ⟨rfl, rfl⟩
      · simpa [inside] using assembling.kind i found earlier
      · simpa [assembling.nr] using kind
    · rw [count, Function.iterate_succ_apply', ← assembling.nr]
    · have number := reached.chained.number
      rw [said] at number
      rw [List.map_append]
      refine Eq.trans ?_ number.symm
      cases sending : a.sending <;> simp [T1.position, conceded, sending]

end

/-- **An answer is put together from the parts of the last attempt.** Over any channel, whatever is
received: the parts are the blocks that were heard when the whole command had been sent and that had
the number that was due. Their numbers alternate, all but the last say that more follows, and the
answer is what they carry, one after the other. The host has counted them, and the slices of its
command. And what it heard was a block just if the bytes that it received were the writing of that
block, from the card's node and of a length that both the protocol and the host allow. -/
theorem answer_reassembled (link : Link σ) (t : T1) (command : Bytes) (s : σ) (answer : Bytes)
    (answered : (t.transceive link command s).outcome = some (.ok answer)) :
    ∃ earlier u turns, t.story link command s = earlier ++ [.attempt u turns] ∧
      Assembled u turns answer (t.transceive link command s).engine ∧
      ∀ turn ∈ turns, ∀ received, turn.heard = some received →
        ∃ timeout s', ∀ block, received = .ok block ↔
          ∃ s'', Block.receive link u.nad u.checksum timeout u.blockOriented s' =
              .ok (block.encode (Block.replyNad u.nad) u.checksum) s'' ∧
            block.info.length ≤ Block.maxInfo ∧ block.info.length ≤ u.ifsd := by
  obtain ⟨earlier, u, turns, split, concluded⟩ :=
    (transceive_told link t command s).answered answered
  refine ⟨earlier, u, turns, split, concluded.assembled, ?_⟩
  intro turn told received heard
  have sent : .attempt u turns ∈ t.story link command s := by
    rw [split]
    exact List.mem_append_right _ (List.mem_singleton_self _)
  obtain ⟨s', rfl⟩ := story_attempt link sent
  obtain ⟨a, s'', rfl⟩ := turns_heard link .start link.patience s' told heard
  refine ⟨u.timeout * a.stretch, s'', fun block => ?_⟩
  rw [hear_eq_ok_iff]
  simp only [receive_eq_ok_iff]

/-- A card that says a part twice, and one with the wrong number before it. -/
def stammering : List Block :=
  [.information true false [0xFF], .information false true [0x01, 0x02],
    .information false true [0x01, 0x02], .request .wtx [2], .information true false [0x90, 0x00]]

theorem answer_reassembled_stammering :
    ∃ turns, wide.story (reciting 20) [0x00, 0xB0] stammering = [.attempt wide turns] ∧
      parts wide turns =
        [.information false true [0x01, 0x02], .information true false [0x90, 0x00]] ∧
      Assembled wide turns [0x01, 0x02, 0x90, 0x00]
        (wide.transceive (reciting 20) [0x00, 0xB0] stammering).engine := by
  obtain ⟨earlier, u, turns, split, assembled, -⟩ :=
    answer_reassembled (reciting 20) wide [0x00, 0xB0] stammering [0x01, 0x02, 0x90, 0x00] rfl
  have told : wide.story (reciting 20) [0x00, 0xB0] stammering =
      [] ++ [.attempt wide (T1.turns (reciting 20) 20 wide (wide.start [0x00, 0xB0]) stammering)] :=
    rfl
  obtain ⟨-, same⟩ := List.append_inj' (told.symm.trans split) rfl
  cases same
  exact ⟨_, told, rfl, assembled⟩

end T1

end CardTerminal
