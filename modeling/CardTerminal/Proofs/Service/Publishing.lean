import CardTerminal.Driver.Minimal
import CardTerminal.Proofs.Service.Answers
import CardTerminal.Proofs.Text

/-!
What the status file says of a reader in service.

A record always says what a reader is: its name, its flags and how many slots it has. Of the slots
it says what was published last (`Following.kept`), which is how the slots are after every request
that is understood and over, and after a tick or an event that tells of a change. A tick or an event
that takes a change back is not published. So a record may go on to say that a card changed; but it
does not miss a change, nor whether there is a card, as long as the driver does not fail after a
command (`Following.covered`).

Main statement: `record_follows`, with the card that stays changed in the record of
`record_follows_minimal`.
-/

namespace CardTerminal

open CardTerminal.Action

/-! ## What a record says -/

namespace Status.Record

variable {record : Record} {i slot : Nat} {status : CardStatus}

theorem cardStatus_set_same (stored : slot < maxSlots) :
    (record.setCardStatus slot status).cardStatus slot = status := by
  have room : slot < record.card.length := by
    rw [record.length_card]
    exact stored
  simp only [cardStatus, setCardStatus, List.getElem?_set_self room, CardStatus.ofBits_bits]

theorem cardStatus_set_other (other : slot ≠ i) :
    (record.setCardStatus slot status).cardStatus i = record.cardStatus i := by
  simp only [cardStatus, setCardStatus, List.getElem?_set_ne other]

/-- The record says what a reader is, and that its slots have these statuses. A name that is too
long for the record is cut, and one that holds a NUL is read up to it. -/
structure Tells (record : Record) (r : Reader) (statuses : List CardStatus) : Prop where
  name : record.name = Bytes.fit 64 ((Utf8.encode r.name).take 63)
  text : (Utf8.encode r.name).length ≤ 63 → 0 ∉ Utf8.encode r.name → record.nameText = r.name
  flags : record.flags = r.flags.bits
  slotCount : record.slotCount.toNat = r.slots.length
  card : (List.range r.slots.length).map record.cardStatus = statuses

theorem Tells.of_outline {r r' : Reader} {statuses : List CardStatus}
    (tells : record.Tells r statuses) (same : r'.outline = r.outline) :
    record.Tells r' statuses := by
  obtain ⟨name, flags, count⟩ : r'.name = r.name ∧ r'.flags = r.flags ∧
      r'.slots.length = r.slots.length := by
    simpa only [Reader.outline, Prod.mk.injEq] using same
  refine ⟨?_, ?_, ?_, ?_, ?_⟩
  · rw [name]
    exact tells.name
  · rw [name]
    exact tells.text
  · rw [flags]
    exact tells.flags
  · rw [count]
    exact tells.slotCount
  · rw [count]
    exact tells.card

/-- The NULs that a text is filled up with do not count. -/
theorem takeWhile_fit {n : Nat} {bytes : Bytes} (fits : bytes.length ≤ n) :
    (Bytes.fit n bytes).takeWhile (· ≠ 0) = bytes.takeWhile (· ≠ 0) := by
  have filled : Bytes.fit n bytes = bytes ++ List.replicate (n - bytes.length) 0 := by
    rw [Bytes.fit, Bytes.overlay, List.length_replicate, List.take_of_length_le fits,
      List.drop_replicate]
  have ended : (List.replicate (n - bytes.length) (0 : UInt8)).takeWhile (· ≠ 0) = [] := by
    cases n - bytes.length <;> rfl
  rw [filled, List.takeWhile_append, ended, List.append_nil]
  split
  · next whole => exact ((List.takeWhile_prefix _).eq_of_length whole).symm
  · rfl

/-- A stored name is read as far as it goes before a NUL, and as much of it as there is room
for. -/
theorem nameText_of_stored {name : String}
    (stored : record.name = Bytes.fit 64 ((Utf8.encode name).take 63)) :
    record.nameText = Utf8.decodeLossy (((Utf8.encode name).takeWhile (· ≠ 0)).take 63) := by
  have fits : ((Utf8.encode name).take 63).length ≤ 64 :=
    Nat.le_trans (List.length_take_le 63 _) (by decide)
  rw [nameText, stored, takeWhile_fit fits, ← List.take_takeWhile]

theorem nameText_of_fit {name : String}
    (stored : record.name = Bytes.fit 64 ((Utf8.encode name).take 63))
    (fits : (Utf8.encode name).length ≤ 63) (plain : 0 ∉ Utf8.encode name) :
    record.nameText = name := by
  have up : ∀ b ∈ Utf8.encode name, decide (b ≠ 0) = true := fun b member =>
    decide_eq_true fun zero => plain (zero ▸ member)
  have whole : (Utf8.encode name).takeWhile (· ≠ 0) = Utf8.encode name := by
    rw [← List.append_nil (Utf8.encode name), List.takeWhile_append_of_pos up, List.takeWhile_nil]
  rw [nameText_of_stored stored, whole, List.take_of_length_le fits, Utf8.decodeLossy_encode]

end Status.Record

namespace Service

open Status

variable {σ : Type}

/-- The statuses of these slots, stored one after the other. -/
def setStatuses (record : Record) (entries : List (Nat × CardStatus)) : Record :=
  entries.foldl (fun record (slot, status) => record.setCardStatus slot status) record

theorem setStatuses_heading (record : Record) (entries : List (Nat × CardStatus)) :
    (setStatuses record entries).pid = record.pid ∧
      (setStatuses record entries).name = record.name ∧
      (setStatuses record entries).flags = record.flags ∧
      (setStatuses record entries).slotCount = record.slotCount := by
  induction entries generalizing record with
  | nil => exact ⟨rfl, rfl, rfl, rfl⟩
  | cons entry entries ih => exact ih (record.setCardStatus entry.1 entry.2)

theorem pid_describe (r : Reader) (record : Record) : (describe r record).pid = record.pid :=
  (setStatuses_heading _ _).1

theorem cardStatus_setStatuses_of_other {record : Record} {entries : List (Nat × CardStatus)}
    {i : Nat} (other : ∀ entry ∈ entries, entry.1 ≠ i) :
    (setStatuses record entries).cardStatus i = record.cardStatus i := by
  induction entries generalizing record with
  | nil => rfl
  | cons entry entries ih =>
    rw [List.forall_mem_cons] at other
    exact (ih other.2).trans (Record.cardStatus_set_other other.1)

theorem cardStatus_setStatuses (record : Record) (statuses : List CardStatus) {k m : Nat}
    (enough : statuses.length ≤ m) (stored : k + m ≤ maxSlots) :
    (List.range' k statuses.length).map
      (setStatuses record ((List.range' k m).zip statuses)).cardStatus = statuses := by
  induction statuses generalizing record k m with
  | nil => rfl
  | cons status statuses ih =>
    rw [List.length_cons] at enough ⊢
    obtain ⟨m, rfl⟩ : ∃ m', m = m' + 1 := ⟨m - 1, by omega⟩
    rw [List.range'_succ, List.range'_succ, List.zip_cons_cons, List.map_cons]
    refine List.cons_eq_cons.mpr ⟨?_, ih (record.setCardStatus k status) (by omega) (by omega)⟩
    have behind : ∀ entry ∈ (List.range' (k + 1) m).zip statuses, entry.1 ≠ k := by
      intro entry member
      have := List.mem_range'_1.mp (List.of_mem_zip member).1
      omega
    exact (cardStatus_setStatuses_of_other behind).trans
      (Record.cardStatus_set_same (by omega))

theorem describe_tells (r : Reader) (record : Record) (slots : r.slots.length ≤ maxSlots) :
    (describe r record).Tells r r.statuses := by
  obtain ⟨-, name, flags, slotCount⟩ := setStatuses_heading
    { record.setName r.name with
      flags := r.flags.bits, slotCount := UInt32.ofNat (min r.slots.length maxSlots) }
    ((List.range maxSlots).zip r.statuses)
  have count : r.statuses.length = r.slots.length := List.length_map _
  refine ⟨name, fun fits plain => Record.nameText_of_fit name fits plain, flags, ?_, ?_⟩
  · rw [describe, ← setStatuses, slotCount, UInt32.toNat_ofNat', Nat.min_eq_left slots]
    exact Nat.mod_eq_of_lt (by simp only [maxSlots] at slots; omega)
  · rw [← count, describe, ← setStatuses, List.range_eq_range', List.range_eq_range']
    exact cardStatus_setStatuses _ r.statuses (by omega) (by omega)

end Service

/-! ## What is known of a slot that was seen -/

/-- Who knows the one status knows as much of a slot with the other: whether there is a card, and
that it changed if it did. -/
def CardStatus.Covers (known current : CardStatus) : Prop :=
  known.present = current.present ∧ (current.changed = true → known.changed = true)

theorem CardStatus.Covers.refl (s : CardStatus) : s.Covers s :=
  ⟨rfl, id⟩

theorem CardStatus.Covers.trans {s t u : CardStatus} (first : s.Covers t) (second : t.Covers u) :
    s.Covers u :=
  ⟨first.1.trans second.1, first.2 ∘ second.2⟩

/-- A slot of which nothing new is known. -/
def Slot.Calmed (slot slot' : Slot) : Prop :=
  slot.status.Covers slot'.status

theorem Slot.Calmed.path : Path Slot.Calmed :=
  ⟨fun slot => .refl slot.status, CardStatus.Covers.trans⟩

theorem Slot.calmed_observe {slot : Slot} {reported : CardStatus}
    (calm : (slot.observe reported).status.changed = false) :
    slot.Calmed (slot.observe reported) := by
  refine ⟨?_, fun changed => absurd (calm.symm.trans changed) Bool.false_ne_true⟩
  unfold observe at calm ⊢
  by_cases news : slot.isNews reported = true
  · rw [if_pos news] at calm
    cases calm
  · rw [if_neg news]
    simp only [isNews, Bool.or_eq_true, bne_iff_ne, not_or, Decidable.not_not] at news
    exact news.1.symm

namespace Reader

variable {σ : Type} {driver : Driver σ}

theorem pollSlots_calm (ends : ∀ s, ∃ s', driver.afterCommand s = .ok () s') {i : Nat}
    {numbers : List Nat} {w w' : Reader × σ} (calm : pollSlots driver numbers w = .ok false w') :
    At i Slot.Calmed w w' := by
  have way : Way (At i Slot.Calmed : Reader × σ → Reader × σ → Prop) := At.way Slot.Calmed.path
  induction numbers generalizing w with
  | nil =>
    cases calm
    exact way.refl _
  | cons m rest ih =>
    obtain ⟨r, s⟩ := w
    simp only [pollSlots] at calm
    split at calm
    · cases calm
    · next u _ failed =>
      obtain ⟨r', s'⟩ := u
      obtain rfl : r' = r := cardStatus_eq_error ends failed
      exact way.trans (way.device r' s s') (ih calm)
    · next status u given =>
      split at calm
      · next changed u' polled =>
        injection calm with quiet left
        obtain ⟨unchanged, rfl⟩ := Bool.or_eq_false_iff.mp quiet
        obtain ⟨slot, reported, s', found, rfl, rfl⟩ := cardStatus_eq_ok given
        refine way.trans ?_ (ih (polled.trans (by rw [left])))
        refine way.trans (fun known there => ?_) (way.device _ s s')
        by_cases same : m = i
        · subst same
          cases found.symm.trans there
          refine ⟨slot.observe reported, ?_, Slot.calmed_observe unchanged⟩
          exact modifySlot_found found _
        · exact ⟨known, (getElem?_modifySlot_of_ne r same _).trans there, .refl _⟩
      · cases calm

theorem poll_calm (ends : ∀ s, ∃ s', driver.afterCommand s = .ok () s') {i : Nat}
    {w w' : Reader × σ} (calm : poll driver w = .ok false w') : At i Slot.Calmed w w' := by
  have way : Way (At i Slot.Calmed : Reader × σ → Reader × σ → Prop) := At.way Slot.Calmed.path
  obtain ⟨r, s⟩ := w
  simp only [poll] at calm
  split at calm
  · cases calm
  · exact way.trans (way.device r s _) (pollSlots_calm ends calm)

theorem handleEvent_calm {i : Nat} {w w' : Reader × σ}
    (calm : handleEvent driver w = .ok false w') : At i Slot.Calmed w w' := by
  obtain ⟨r, s⟩ := w
  rw [handleEvent_eq] at calm
  cases reported : driver.event r.statuses s with
  | error e s' =>
    rw [reported] at calm
    cases calm
  | ok reports s' =>
    rw [reported] at calm
    injection calm with quiet left
    subst left
    intro slot found
    have observed := (getElem?_observeAll r.slots reports i).trans (congrArg _ found)
    refine ⟨_, observed, ?_⟩
    have unchanged := (List.any_eq_false.mp quiet) _ (List.mem_of_getElem? observed)
    cases told : reports[i]? with
    | none => exact .refl _
    | some reported =>
      rw [told] at unchanged
      exact Slot.calmed_observe (Bool.eq_false_iff.mpr unchanged)

end Reader

namespace Service

open Status

variable {σ α : Type} {driver : Driver σ} {n : Nat}

/-! ## What happens to the record -/

/-- What a service has published: where, and what. -/
def World.page (w : World σ) :
    Option Nat × List CardStatus × Table × (Nat → Except IoFailure Unit) :=
  (w.service.record, w.service.published, w.table, w.flushes)

theorem onReader_keeps_page (op : Reader.Op σ α) : Keeps World.page (onReader op) := by
  intro w
  simp only [after, onReader]
  cases op (w.service.reader, w.device) <;> rfl

theorem perform_keeps_page (driver : Driver σ) (peer : Peer) (order : Order) :
    Keeps World.page (perform driver peer order) := by
  intro w
  cases order with
  | describe => rfl
  | lock slot kind =>
    simp only [after, perform_lock]
    cases w.service.locks.lock peer.id peer.uid slot kind <;> rfl
  | unlock slot handle =>
    simp only [after, perform_unlock]
    cases w.service.locks.unlock peer.id slot handle <;> rfl
  | _ => exact (onReader_keeps_page _).bind (fun _ => Keeps.pure _) w

/-- What happens makes the service publish, should there be something new. -/
def World.Publishes (driver : Driver σ) (w : World σ) : Happening → Prop
  | .request peer payload => (∃ request, Request.decode payload = .ok request) ∧
      ∀ w', process driver peer payload w ≠ .ok none w'
  | .tick => ∃ x, Reader.poll driver w.reader = .ok true x
  | .event => ∃ x, Reader.handleEvent driver w.reader = .ok true x
  | .closed _ | .hangUp => False

theorem dispatch_keeps_page (driver : Driver σ) (peer : Peer) (request : Request) :
    Keeps World.page (dispatch driver peer request) := by
  refine Keeps.bind (fun _ => rfl) fun w => (require_keeps _).bind fun order => ?_
  exact (perform_keeps_page driver peer order).bind encodeReply_keeps

theorem publishIf_page (op : Reader.Op σ Bool) (w : World σ) :
    ∃ u : World σ, u.page = w.page ∧
      ((∃ x, op w.reader = .ok true x) ∧ after (publishIf (onReader op)) w = publish u ∨
        (¬ ∃ x, op w.reader = .ok true x) ∧ after (publishIf (onReader op)) w = u) := by
  refine ⟨after (onReader op) w, onReader_keeps_page op w, ?_⟩
  have side : op (w.service.reader, w.device) = op w.reader := rfl
  simp only [after, publishIf, onReader, side]
  cases op w.reader with
  | ok changed x =>
    cases changed
    · refine .inr ⟨?_, rfl⟩
      rintro ⟨_, ⟨⟩⟩
    · exact .inl ⟨⟨x, rfl⟩, rfl⟩
  | error e x =>
    refine .inr ⟨?_, rfl⟩
    rintro ⟨_, ⟨⟩⟩

/-- **Whatever happens, publishing is the last thing that a service does about it**, if it does
that at all. -/
theorem respond_page (driver : Driver σ) (w : World σ) (h : Happening) :
    ∃ u : World σ, u.page = w.page ∧
      (w.Publishes driver h ∧ respond driver w h = publish u ∨
        ¬ w.Publishes driver h ∧ respond driver w h = u) := by
  cases h with
  | request peer payload =>
    simp only [World.Publishes, respond]
    cases decoded : Request.decode payload with
    | ok request =>
      have same : process driver peer payload w = publishing (dispatch driver peer request) w :=
        bind_of_ok (by simp only [require, decoded])
      have page := dispatch_keeps_page driver peer request w
      refine ⟨after (dispatch driver peer request) w, page, ?_⟩
      simp only [after, same, publishing]
      rcases dispatch driver peer request w with ⟨_ | body, u⟩ | ⟨e, u⟩
      · exact .inr ⟨fun publishes => publishes.2 u rfl, rfl⟩
      · exact .inl ⟨⟨⟨request, rfl⟩, fun _ unended => by cases unended⟩, rfl⟩
      · exact .inl ⟨⟨⟨request, rfl⟩, fun _ unended => by cases unended⟩, rfl⟩
    | error e =>
      refine ⟨w, rfl, .inr ⟨?_, ?_⟩⟩
      · rintro ⟨⟨_, ⟨⟩⟩, -⟩
      · have refused : process driver peer payload w = .error e w :=
          bind_of_error (by simp only [require, decoded])
        exact after_of_error refused
  | closed peer =>
    refine ⟨respond driver w (.closed peer), ?_, .inr ⟨id, rfl⟩⟩
    rfl
  | tick => exact publishIf_page _ w
  | event => exact publishIf_page _ w
  | hangUp =>
    exact ⟨_, (onReader_keeps_page _).bind (fun _ => Keeps.throw _) w, .inr ⟨id, rfl⟩⟩

theorem outline_respond (driver : Driver σ) (w : World σ) (h : Happening) :
    (respond driver w h).service.reader.outline = w.service.reader.outline := by
  rw [show (respond driver w h).service.reader = (respond driver w h).reader.1 from rfl,
    reader_respond]
  cases w.operation h with
  | none => rfl
  | some op => exact Reader.perform_outline driver op w.reader

/-- Before a service publishes, nothing about what is published has changed, nor what the reader
is. -/
theorem respond_ends (driver : Driver σ) (w : World σ) (h : Happening) :
    ∃ u : World σ, u.page = w.page ∧ u.service.reader.outline = w.service.reader.outline ∧
      (w.Publishes driver h ∧ respond driver w h = publish u ∨
        ¬ w.Publishes driver h ∧ respond driver w h = u) := by
  obtain ⟨u, page, ends⟩ := respond_page driver w h
  refine ⟨u, page, ?_, ends⟩
  rw [← outline_respond driver w h]
  rcases ends with ⟨-, ends⟩ | ⟨-, ends⟩
  · rw [ends, publish_reader]
  · rw [ends]

/-! ## What the record says -/

/-- Record `n` of the status file says what the reader is, and that its slots have these
statuses. -/
def World.Told (w : World σ) (n : Nat) (statuses : List CardStatus) : Prop :=
  ∃ record, w.table[n]? = some record ∧ record.Tells w.service.reader statuses

theorem World.Told.unique {w : World σ} {statuses statuses' : List CardStatus}
    (told : w.Told n statuses) (told' : w.Told n statuses') : statuses = statuses' := by
  obtain ⟨record, stored, tells⟩ := told
  obtain ⟨record', stored', tells'⟩ := told'
  cases stored.symm.trans stored'
  exact tells.card.symm.trans tells'.card

/-- A service that holds record `n` of a file whose flushes succeed, and has published there what it
has published last. -/
structure Kept (n : Nat) (w : World σ) : Prop where
  claimed : w.service.record = some n
  flushed : ∀ k, w.flushes k = .ok ()
  slots : w.service.reader.slots.length ≤ maxSlots
  told : w.Told n w.service.published

/-- What is published is told, if the flush succeeds and what was published before still is. -/
theorem told_publish {w : World σ} {record : Record} (claimed : w.service.record = some n)
    (flushed : w.flushes 0 = .ok ()) (stored : w.table[n]? = some record)
    (slots : w.service.reader.slots.length ≤ maxSlots)
    (told : w.service.reader.statuses = w.service.published → w.Told n w.service.published) :
    (publish w).Told n (publish w).service.published ∧
      (publish w).service.published = (publish w).service.reader.statuses := by
  unfold publish
  by_cases same : w.service.reader.statuses = w.service.published
  · rw [if_pos same]
    exact ⟨told same, same.symm⟩
  · have updated : w.table.update n (describe w.service.reader) (w.flushes 0) =
        (.ok (), w.table.set n (describe w.service.reader record)) := by
      simp only [Table.update, stored, flushed]
    obtain ⟨room, _⟩ := List.getElem?_eq_some_iff.mp stored
    simp only [if_neg same, claimed, updated]
    refine ⟨⟨_, List.getElem?_set_self room, describe_tells _ record slots⟩, ?_⟩
    trivial

theorem publish_flushed {w : World σ} (flushed : ∀ k, w.flushes k = .ok ()) (k : Nat) :
    (publish w).flushes k = .ok () := by
  unfold publish
  dsimp only
  repeat' split
  all_goals exact flushed _

theorem kept_publish {w : World σ} {record : Record} (claimed : w.service.record = some n)
    (flushed : ∀ k, w.flushes k = .ok ()) (stored : w.table[n]? = some record)
    (slots : w.service.reader.slots.length ≤ maxSlots)
    (told : w.service.reader.statuses = w.service.published → w.Told n w.service.published) :
    Kept n (publish w) ∧ (publish w).service.published = (publish w).service.reader.statuses := by
  obtain ⟨told', now⟩ := told_publish claimed (flushed 0) stored slots told
  refine ⟨⟨(publish_record w).trans claimed, publish_flushed flushed, ?_, told'⟩, now⟩
  rw [publish_reader]
  exact slots

/-- Whatever happens, the record tells what was published last, and that is how the slots are if
something was published just now. -/
theorem Kept.respond {w : World σ} (kept : Kept n w) (driver : Driver σ) (h : Happening) :
    Kept n (respond driver w h) ∧
      (w.Publishes driver h → (Service.respond driver w h).service.published =
        (Service.respond driver w h).service.reader.statuses) ∧
      (¬ w.Publishes driver h →
        (Service.respond driver w h).service.published = w.service.published) := by
  obtain ⟨u, page, same, ends⟩ := respond_ends driver w h
  obtain ⟨claimed, published, table, flushes⟩ : u.service.record = w.service.record ∧
      u.service.published = w.service.published ∧ u.table = w.table ∧ u.flushes = w.flushes := by
    simpa only [World.page, Prod.mk.injEq] using page
  obtain ⟨record, stored, tells⟩ := kept.told
  have still : Kept n u := by
    refine ⟨claimed.trans kept.claimed, flushes ▸ kept.flushed, ?_, record, table ▸ stored, ?_⟩
    · have count := congrArg (fun outline => outline.2.2) same
      exact Nat.le_trans (Nat.le_of_eq count) kept.slots
    · rw [published]
      exact tells.of_outline same
  rcases ends with ⟨publishes, ends⟩ | ⟨silent, ends⟩
  · rw [ends]
    obtain ⟨kept', told⟩ := kept_publish still.claimed still.flushed (table ▸ stored)
      still.slots fun _ => still.told
    exact ⟨kept', fun _ => told, fun silent => absurd publishes silent⟩
  · rw [ends]
    exact ⟨still, fun publishes => absurd publishes silent, fun _ => published⟩

/-! ## Runs -/

/-- What a service does about it has not failed; a request may be refused. -/
def World.Fine (driver : Driver σ) (w : World σ) : Happening → Prop
  | .request _ _ | .closed _ => True
  | .tick => ∃ w', tick driver w = .ok () w'
  | .event => ∃ w', event driver w = .ok () w'
  | .hangUp => False

/-- A service that was started with a record of its own, `n`, and has been in service since. All
flushes of the status file succeed. -/
inductive Following (driver : Driver σ) (n : Nat) : World σ → Prop where
  | start {s s' : σ} {reader : Reader} (attached : Reader.attach driver s = .ok reader s')
      {p : Holder} {given table : Table} {index : Option Nat}
      (claimed : given.claim p index (.ok ()) = (.ok n, table)) :
      Following driver n (Service.start reader (some n) table (fun _ => .ok ()) s')
  | step {w : World σ} (following : Following driver n w) {h : Happening}
      (fine : w.Fine driver h) : Following driver n (respond driver w h)

theorem attach_slots {s s' : σ} {reader : Reader}
    (attached : Reader.attach driver s = .ok reader s') :
    reader.slots ≠ [] ∧ reader.slots.length ≤ maxSlots := by
  obtain ⟨info, t, _, checked⟩ := bind_eq_ok attached
  simp only [] at checked
  split at checked
  · cases checked
  · next fine =>
    injection checked with same
    subst same
    simp only [not_or, Decidable.not_not] at fine
    obtain ⟨some, few, count⟩ := fine
    refine ⟨fun none => some ?_, ?_⟩
    · rw [← count]
      simpa using none
    · rw [List.length_map, count]
      exact Nat.le_of_not_lt few

theorem kept_start {s s' : σ} {reader : Reader} {p : Holder} {given table : Table}
    {index : Option Nat} (attached : Reader.attach driver s = .ok reader s')
    (claimed : given.claim p index (.ok ()) = (.ok n, table)) :
    Kept n (Service.start reader (some n) table (fun _ => .ok ()) s') ∧
      (Service.start reader (some n) table (fun _ => .ok ()) s').service.published =
        (Service.start reader (some n) table (fun _ => .ok ()) s').service.reader.statuses := by
  obtain ⟨some, slots⟩ := attach_slots attached
  obtain ⟨record, stored, -, rfl⟩ := Table.claim_spares claimed
  obtain ⟨room, _⟩ := List.getElem?_eq_some_iff.mp stored
  refine kept_publish rfl (fun _ => rfl) (List.getElem?_set_self room) slots fun none =>
    absurd ?_ some
  exact List.map_eq_nil_iff.mp none

theorem Following.kept {w : World σ} (following : Following driver n w) : Kept n w := by
  induction following with
  | start attached claimed => exact (kept_start attached claimed).1
  | step _ _ ih => exact (ih.respond driver _).1

theorem publishIf_eq_ok {op : Reader.Op σ Bool} {w w' : World σ}
    (done : publishIf (onReader op) w = .ok () w') : ∃ changed x, op w.reader = .ok changed x := by
  simp only [publishIf, onReader] at done
  cases result : op (w.service.reader, w.device) with
  | ok changed x => exact ⟨changed, x, result⟩
  | error e x =>
    rw [result] at done
    cases done

/-- What is not published has told nothing new of any slot. -/
theorem calmed_respond (ends : ∀ s, ∃ s', driver.afterCommand s = .ok () s') {w : World σ}
    {h : Happening} (fine : w.Fine driver h) (silent : ¬ w.Publishes driver h) (i : Nat) :
    Reader.At i Slot.Calmed w.reader (respond driver w h).reader := by
  rw [reader_respond]
  cases h with
  | request peer payload =>
    cases decoded : Request.decode payload with
    | ok request =>
      have unended : ∃ w', process driver peer payload w = .ok none w' := by
        refine Classical.byContradiction fun ended => silent ⟨⟨request, decoded⟩, ?_⟩
        exact fun w' unended => ended ⟨w', unended⟩
      obtain ⟨w', unended⟩ := unended
      obtain ⟨m, command, ordered, -⟩ := endless_of_process unended
      have exchange : w.operation (.request peer payload) = some (.transceive m command) := by
        simp only [World.operation, ordered, Order.operation]
      rw [exchange]
      -- An exchange puts a handle into its slot, and tells nothing of the card.
      exact Reader.perform_moves Slot.Calmed.path driver (.transceive m command) False.elim
        False.elim False.elim (fun _ slot _ => .refl slot.status) w.reader
    | error e =>
      have none : w.operation (.request peer payload) = none := by
        simp only [World.operation, World.orderOf, decoded]
      rw [none]
      exact (Reader.At.way Slot.Calmed.path).refl _
  | closed peer => exact (Reader.At.way Slot.Calmed.path).refl _
  | tick =>
    obtain ⟨w', done⟩ := fine
    obtain ⟨changed, x, polled⟩ := publishIf_eq_ok done
    have performed : operatedBy driver w.reader (some .poll) = x :=
      (after_bind_pure (Reader.poll driver) _ w.reader).trans (after_of_ok polled)
    rw [World.operation, performed]
    cases changed with
    | true => exact absurd ⟨x, polled⟩ silent
    | false => exact Reader.poll_calm ends polled
  | event =>
    obtain ⟨w', done⟩ := fine
    obtain ⟨changed, x, happened⟩ := publishIf_eq_ok done
    have performed : operatedBy driver w.reader (some .handleEvent) = x :=
      (after_bind_pure (Reader.handleEvent driver) _ w.reader).trans (after_of_ok happened)
    rw [World.operation, performed]
    cases changed with
    | true => exact absurd ⟨x, happened⟩ silent
    | false => exact Reader.handleEvent_calm happened
  | hangUp => exact fine.elim

/-- What was published last covers how the slots are. -/
def World.Covered (w : World σ) : Prop :=
  ∀ (i : Nat) (known current : CardStatus), w.service.published[i]? = some known →
    w.service.reader.statuses[i]? = some current → known.Covers current

theorem World.covered_of_same {w : World σ}
    (same : w.service.published = w.service.reader.statuses) : w.Covered := by
  intro i known current found found'
  rw [same, found'] at found
  cases found
  exact .refl _

theorem Following.covered (ends : ∀ s, ∃ s', driver.afterCommand s = .ok () s') {w : World σ}
    (following : Following driver n w) : w.Covered := by
  induction following with
  | start attached claimed => exact World.covered_of_same (kept_start attached claimed).2
  | @step w following h fine ih =>
    obtain ⟨-, told, left⟩ := following.kept.respond driver h
    by_cases publishes : w.Publishes driver h
    · exact World.covered_of_same (told publishes)
    · intro i known current found found'
      rw [left publishes] at found
      rw [Reader.statuses, List.getElem?_map, Option.map_eq_some_iff] at found'
      obtain ⟨slot', there', rfl⟩ := found'
      have count : (respond driver w h).service.reader.slots.length =
          w.service.reader.slots.length :=
        congrArg (fun outline => outline.2.2) (outline_respond driver w h)
      obtain ⟨slot, there⟩ : ∃ slot, w.service.reader.slots[i]? = some slot := by
        obtain ⟨within, _⟩ := List.getElem?_eq_some_iff.mp there'
        exact ⟨_, List.getElem?_eq_getElem (count ▸ within)⟩
      obtain ⟨slot'', there'', calmed⟩ := calmed_respond ends fine publishes i slot there
      cases there'.symm.trans there''
      have known : w.service.reader.statuses[i]? = some slot.status := by
        rw [Reader.statuses, List.getElem?_map, there]
        rfl
      exact (ih i _ slot.status found known).trans calmed

/-- **What the status file says of a reader in service**, whatever it has been asked, and after
ticks and events that were carried out. Its record always tells the name, the flags and how many
slots there are, and of the slots what was published last. Whatever happens next, the record tells
of the slots as they are just if a request was understood and is over, or a tick or an event told of
a change, or they are as they were published before. And unless the driver fails after a command,
the record is right about which slots hold a card, and misses no change. -/
theorem record_follows (driver : Driver σ) {w : World σ} (following : Following driver n w) :
    ∃ record, w.table[n]? = some record ∧
      record.Tells w.service.reader w.service.published ∧
      (∀ h, (respond driver w h).Told n (respond driver w h).service.reader.statuses ↔
        w.Publishes driver h ∨
          (respond driver w h).service.reader.statuses = w.service.published) ∧
      ((∀ s, ∃ s', driver.afterCommand s = .ok () s') →
        ∀ i slot, w.service.reader.slots[i]? = some slot →
          (record.cardStatus i).present = slot.status.present ∧
          (slot.status.changed = true → (record.cardStatus i).changed = true)) := by
  obtain ⟨record, stored, tells⟩ := following.kept.told
  refine ⟨record, stored, tells, fun h => ?_, fun ends i slot found => ?_⟩
  · obtain ⟨kept, told, left⟩ := following.kept.respond driver h
    by_cases publishes : w.Publishes driver h
    · exact ⟨fun _ => .inl publishes, fun _ => told publishes ▸ kept.told⟩
    · rw [← left publishes]
      refine ⟨fun now => .inr (now.unique kept.told), ?_⟩
      rintro (other | same)
      · exact absurd other publishes
      · exact same ▸ kept.told
  · obtain ⟨within, _⟩ := List.getElem?_eq_some_iff.mp found
    refine following.covered ends i (record.cardStatus i) slot.status ?_ ?_
    · rw [← tells.card, List.getElem?_map, List.getElem?_range within]
      rfl
    · rw [Reader.statuses, List.getElem?_map, found]
      rfl

def minimalReader : Reader :=
  ⟨"Minimal reader", .displayAndKeypad, [.unknown 0x00, .unknown 0x32], none⟩

theorem claim_only :
    Table.claim ⟨1, fun _ => true⟩ [.empty] (some 0) (.ok ()) = (.ok 0, [.heldBy 1]) :=
  rfl

/-- Its reader in service, after the tick that found the cards. -/
def tickedWorld : World Unit :=
  respond Minimal.driver (start minimalReader (some 0) [.heldBy 1] (fun _ => .ok ()) ()) .tick

/-- The next tick finds the cards unchanged, and the record goes on to say that they changed. It is
right about there being a card. -/
theorem record_follows_minimal :
    (respond Minimal.driver tickedWorld .tick).service.reader.statuses =
        [⟨true, false⟩, ⟨true, false⟩] ∧
      ¬ (respond Minimal.driver tickedWorld .tick).Told 0 [⟨true, false⟩, ⟨true, false⟩] ∧
      ∃ record, (respond Minimal.driver tickedWorld .tick).table[0]? = some record ∧
        (record.cardStatus 0).present = true := by
  have attached : Reader.attach Minimal.driver () = .ok minimalReader () := rfl
  have started : Following Minimal.driver 0 tickedWorld :=
    .step (.start attached claim_only) ⟨_, rfl⟩
  have ticked : Following Minimal.driver 0 (respond Minimal.driver tickedWorld .tick) :=
    .step started ⟨_, rfl⟩
  obtain ⟨_, -, -, told, -⟩ := record_follows Minimal.driver started
  obtain ⟨record, stored, -, -, right⟩ := record_follows Minimal.driver ticked
  refine ⟨rfl, fun now => ?_, record, stored, (right (fun _ => ⟨(), rfl⟩) 0 _ rfl).1⟩
  rcases (told .tick).mp now with ⟨x, polled⟩ | same
  · cases polled
  · exact absurd same (by decide)

/-- A driver like the least one that always fails after a command. -/
def failing : Driver Unit :=
  { Minimal.driver with afterCommand := throw .commError }

/-- **A card is found and not told of**: the tick that finds it is carried out, but the failure
after the command hides that it changed. -/
theorem presence_missed :
    let before := start minimalReader (some 0) [.heldBy 1] (fun _ => .ok ()) ()
    let ticked := respond failing before .tick
    before.Fine failing .tick ∧
      ticked.service.reader.statuses = [⟨true, true⟩, ⟨true, true⟩] ∧
      ticked.Told 0 [.empty, .empty] := by
  intro before ticked
  have attached : Reader.attach failing () = .ok minimalReader () := rfl
  exact ⟨⟨_, rfl⟩, rfl, ((kept_start attached claim_only).1.respond failing .tick).1.told⟩

end Service

end CardTerminal
