import CardTerminal.Proofs.Client.Language
import CardTerminal.Proofs.Service.Publishing
import CardTerminal.Status.Discovery

/-!
The two ways to learn of a reader.

A client finds the readers in the status file, or asks the service of a reader what the reader is.
A name takes a way of its own in either case: it is cut and then read up to a NUL in the file, and
read up to a NUL and then cut in the answer. Both ways end at the same text
(`Record.nameText_of_stored`), because cutting and stopping at a NUL can be done in any order. Flags
without a meaning are left out on both ways.

Main statement: `discovery_agrees`.
-/

namespace CardTerminal

open CardTerminal.Action

namespace Status

/-! ## The readers in the file -/

theorem Table.mem_readers {p : Holder} {t : Table} {i : Nat} {record : Record} :
    (i, record) ∈ t.readers p ↔ t[i]? = some record ∧ record.isAlive p = true := by
  have listed : (i, record) ∈ (List.range t.length).zip t ↔ t[i]? = some record := by
    rw [List.mem_iff_getElem?]
    simp only [List.getElem?_zip_eq_some]
    constructor
    · rintro ⟨k, place, stored⟩
      obtain ⟨within, same⟩ := List.getElem?_eq_some_iff.mp place
      rw [List.getElem_range] at same
      exact same ▸ stored
    · intro stored
      obtain ⟨within, -⟩ := List.getElem?_eq_some_iff.mp stored
      exact ⟨i, List.getElem?_range within, stored⟩
  rw [readers, List.mem_filter, listed]

/-- A reader that is being served has one entry, the one that its record makes. -/
theorem Place.entries_of_stored {p : Holder} {place : Place} {file : File} {n : Nat}
    {record : Record} (current : place.current = some file) (stored : file.table[n]? = some record)
    (alive : record.isAlive p = true) :
    ∃ entries, place.entries p = .ok entries ∧
      ∀ entry, entry ∈ entries ∧ entry.index = n ↔ entry = record.entry n := by
  obtain ⟨m, named, found⟩ := Option.bind_eq_some_iff.mp current
  have opened : place.open? = .ok m := by
    have usable : file.usable = .ok file := by
      rw [File.usable, if_neg]
      intro empty
      rw [List.isEmpty_iff.mp empty] at stored
      cases stored
    simp only [open?, named, current, usable]
    rfl
  have table : place.table m = file.table := by
    simp only [Place.table, found]
  refine ⟨file.table.entries p, by simp only [entries, opened, table], fun entry => ?_⟩
  simp only [Table.entries, List.mem_map]
  constructor
  · rintro ⟨⟨⟨i, record'⟩, listed, rfl⟩, same⟩
    obtain rfl : i = n := same
    cases stored.symm.trans (Table.mem_readers.mp listed).1
    rfl
  · rintro rfl
    exact ⟨⟨_, Table.mem_readers.mpr ⟨stored, alive⟩, rfl⟩, rfl⟩

end Status

namespace Service

open Status

variable {σ : Type} {driver : Driver σ} {p : Holder} {n : Nat}

/-! ## Services with a record -/

/-- A service that was started with a record of its own, `n`, and has been in service since, while
other processes might change other records and flushes of the file might fail. -/
inductive Serving (driver : Driver σ) (p : Holder) (n : Nat) : World σ → Prop where
  | start {s s' : σ} {reader : Reader} (attached : Reader.attach driver s = .ok reader s')
      {given table : Table} {index : Option Nat} {flush : Except IoFailure Unit}
      (claimed : given.claim p index flush = (.ok n, table))
      (flushes : Nat → Except IoFailure Unit) :
      Serving driver p n (Service.start reader (some n) table flushes s')
  | step {w : World σ} (serving : Serving driver p n w) (h : Happening) :
      Serving driver p n (respond driver w h)
  | others {w : World σ} (serving : Serving driver p n w) {table : Table}
      (spared : table[n]? = w.table[n]?) : Serving driver p n { w with table }

/-- A service with a record that has published right now, and with success. If there was nothing to
write, what was published before is in the record. -/
inductive Published (driver : Driver σ) (p : Holder) (n : Nat) : World σ → Prop where
  | start {s s' : σ} {reader : Reader} (attached : Reader.attach driver s = .ok reader s')
      {given table : Table} {index : Option Nat} {flush : Except IoFailure Unit}
      (claimed : given.claim p index flush = (.ok n, table))
      (flushes : Nat → Except IoFailure Unit) (flushed : flushes 0 = .ok ()) :
      Published driver p n (Service.start reader (some n) table flushes s')
  | step {w : World σ} (serving : Serving driver p n w) {h : Happening}
      (publishes : w.Publishes driver h) (flushed : w.flushes 0 = .ok ())
      (sound : (respond driver w h).service.reader.statuses = w.service.published →
        w.Told n w.service.published) : Published driver p n (respond driver w h)

/-- A service that holds record `n`, and whose process has its number there. -/
structure Holding (n : Nat) (pid : UInt32) (w : World σ) : Prop where
  claimed : w.service.record = some n
  slots : w.service.reader.slots.length ≤ maxSlots
  owned : ∃ record, w.table[n]? = some record ∧ record.pid = pid

theorem Holding.publish {w : World σ} {pid : UInt32} (holding : Holding n pid w) :
    Holding n pid (publish w) := by
  obtain ⟨claimed, slots, record, stored, own⟩ := holding
  refine ⟨(publish_record w).trans claimed, publish_reader w ▸ slots, ?_⟩
  obtain ⟨room, _⟩ := List.getElem?_eq_some_iff.mp stored
  have written : ∃ record', (w.table.set n (describe w.service.reader record))[n]? = some record' ∧
      record'.pid = pid :=
    ⟨_, List.getElem?_set_self room, (pid_describe _ record).trans own⟩
  unfold Service.publish
  by_cases same : w.service.reader.statuses = w.service.published
  · rw [if_pos same]
    exact ⟨record, stored, own⟩
  · simp only [if_neg same, claimed, Table.update, stored]
    cases w.flushes 0 <;> exact written

/-- Before a service publishes, it holds its record as it did before something happened. -/
theorem Holding.of_page {w u : World σ} {pid : UInt32} (holding : Holding n pid w)
    (page : u.page = w.page) (outline : u.service.reader.outline = w.service.reader.outline) :
    Holding n pid u := by
  obtain ⟨record, published, table, flushes⟩ : u.service.record = w.service.record ∧
      u.service.published = w.service.published ∧ u.table = w.table ∧ u.flushes = w.flushes := by
    simpa only [World.page, Prod.mk.injEq] using page
  refine ⟨record.trans holding.claimed, ?_, table ▸ holding.owned⟩
  exact Nat.le_trans (Nat.le_of_eq (congrArg (fun outline => outline.2.2) outline)) holding.slots

theorem Holding.respond {w : World σ} {pid : UInt32} (holding : Holding n pid w)
    (driver : Driver σ) (h : Happening) : Holding n pid (respond driver w h) := by
  obtain ⟨u, page, outline, ends⟩ := respond_ends driver w h
  have still := holding.of_page page outline
  rcases ends with ⟨-, ends⟩ | ⟨-, ends⟩
  · rw [ends]
    exact still.publish
  · rw [ends]
    exact still

theorem holding_started {s s' : σ} {reader : Reader} {given table : Table} {index : Option Nat}
    {flush : Except IoFailure Unit} (attached : Reader.attach driver s = .ok reader s')
    (claimed : given.claim p index flush = (.ok n, table)) (flushes : Nat → Except IoFailure Unit) :
    Holding n p.self ⟨⟨reader, .none, some n, []⟩, table, flushes, s'⟩ := by
  obtain ⟨record, stored, -, rfl⟩ := Table.claim_spares claimed
  obtain ⟨room, _⟩ := List.getElem?_eq_some_iff.mp stored
  exact ⟨rfl, (attach_slots attached).2, .heldBy p.self, List.getElem?_set_self room, rfl⟩

/-- Whatever happens, the record stays with the process. -/
theorem Serving.holding {w : World σ} (serving : Serving driver p n w) : Holding n p.self w := by
  induction serving with
  | start attached claimed flushes => exact (holding_started attached claimed flushes).publish
  | step serving h ih => exact ih.respond driver h
  | others serving spared ih =>
    obtain ⟨record, stored, own⟩ := ih.owned
    exact ⟨ih.claimed, ih.slots, record, spared.trans stored, own⟩

/-- What is published with success is in the process's own record. -/
theorem Holding.record {w : World σ} {pid : UInt32} (holding : Holding n pid w)
    (flushed : w.flushes 0 = .ok ())
    (sound : w.service.reader.statuses = w.service.published → w.Told n w.service.published) :
    let later := Service.publish w
    ∃ record, later.table[n]? = some record ∧ record.pid = pid ∧
      record.Tells later.service.reader later.service.reader.statuses ∧
      later.service.reader.slots.length ≤ maxSlots := by
  intro later
  obtain ⟨given, there, -⟩ := holding.owned
  obtain ⟨⟨record, stored, tells⟩, now⟩ :=
    told_publish holding.claimed flushed there holding.slots sound
  obtain ⟨-, slots, record', stored', own⟩ := holding.publish
  cases stored.symm.trans stored'
  exact ⟨record, stored, own, now ▸ tells, slots⟩

/-- Right after publishing, the record is the process's own, and tells of the slots as they are. -/
theorem Published.record {w : World σ} (published : Published driver p n w) :
    ∃ record, w.table[n]? = some record ∧ record.pid = p.self ∧
      record.Tells w.service.reader w.service.reader.statuses ∧
      w.service.reader.slots.length ≤ maxSlots := by
  cases published with
  | start attached claimed flushes flushed =>
    refine (holding_started attached claimed flushes).record flushed fun none => ?_
    exact absurd (List.map_eq_nil_iff.mp none) (attach_slots attached).1
  | @step w serving h publishes flushed sound =>
    obtain ⟨u, page, outline, ⟨-, ends⟩ | ⟨silent, -⟩⟩ := respond_ends driver w h
    · obtain ⟨-, published, table, flushes⟩ : u.service.record = w.service.record ∧
          u.service.published = w.service.published ∧ u.table = w.table ∧
          u.flushes = w.flushes := by
        simpa only [World.page, Prod.mk.injEq] using page
      rw [ends] at sound ⊢
      rw [publish_reader] at sound
      refine (serving.holding.of_page page outline).record (flushes ▸ flushed) fun same => ?_
      obtain ⟨record, stored, tells⟩ := sound (same.trans published)
      exact ⟨record, table ▸ stored, published ▸ tells.of_outline outline⟩
    · exact absurd publishes silent

end Service

namespace Client

open CardTerminal.Status CardTerminal.Client.Call

variable {σ : Type} {driver : Driver σ} {c : Client (Service.World σ)}

/-! ## Asking the reader -/

theorem encode_description {r : Reader} (short : (Utf8.encode r.name).length ≤ 254)
    (slots : r.slots.length ≤ maxSlots) : ∃ body, (Service.description r).encode = .ok body := by
  refine ⟨_, Tlv.write_eq_ok.mpr ⟨?_, rfl⟩⟩
  simp only [List.forall_mem_cons, List.not_mem_nil, false_implies, implies_true, and_true]
  refine ⟨short, ?_, ?_⟩
  · show ((List.range r.slots.length).map UInt8.ofNat).length ≤ 254
    rw [List.length_map, List.length_range]
    exact Nat.le_trans slots (by decide)
  · exact Nat.le_trans (Bytes.length_minimalBe _) (by decide)

/-- A client that asks what the reader is learns its name as far as there is room for it, all its
slots, and the flags that have a meaning. -/
theorem call_describe (peer : Peer) (clear : c.Clear)
    (short : (Utf8.encode c.peer.service.reader.name).length ≤ 254)
    (slots : c.peer.service.reader.slots.length ≤ maxSlots) :
    (c.call (attended driver peer) .describe).1 =
      .ok (.description (clipped 63 c.peer.service.reader.name)
        ((List.range c.peer.service.reader.slots.length).map UInt8.ofNat)
        c.peer.service.reader.flags.known) := by
  let request : Request := ⟨.status, unitReader, []⟩
  have asked : Call.describe.request? = .ok request := rfl
  obtain ⟨body, encoded⟩ := encode_description short slots
  have bound : body.length ≤ 256 * 3 := Tlv.length_of_write encoded
  have fits : body.length ≤ Packet.maxPayload := Nat.le_trans bound (by decide)
  have answered : Service.process driver peer request.encode c.peer =
      .ok (some body) (Service.publish c.peer) :=
    Service.process_of_performed (orderOf_request asked) rfl encoded
  have exchanged := exchange_attended clear (show request.encode.length ≤ _ by decide)
    (show (Server.readerHost driver).process peer request.encode c.peer =
      some (.ok body, Service.publish c.peer) by simp only [Server.readerHost, answered])
    rfl rfl fits
  simp only [Client.call, asked, exchanged]
  exact answer_description encoded

/-- **The two ways to learn of a reader agree.** Right after a service has published, and as long as
its process runs, the status file has exactly one entry for its place. A client that asks the
service instead learns the same name, however long that is and whatever characters it is cut in,
and the same flags, and is told as many units as the entry has slots; and the entry tells of the
slots as they are. The name must fit an item, and other processes may have changed other records of
the file. -/
theorem discovery_agrees {p q : Holder} {n : Nat} (peer : Peer)
    (published : Service.Published driver p n c.peer)
    (short : (Utf8.encode c.peer.service.reader.name).length ≤ 254) (clear : c.Clear)
    (pid : p.self ≠ 0 ∧ p.self.toNat ≤ maxPid) (runs : q.runs p.self = true)
    {place : Place} {file : File} (current : place.current = some file)
    (shared : file.table[n]? = c.peer.table[n]?) :
    ∃ entries entry, place.entries q = .ok entries ∧
      (∀ other, other ∈ entries ∧ other.index = n ↔ other = entry) ∧
      (c.call (attended driver peer) .describe).1 =
        .ok (.description entry.name ((List.range entry.slots.length).map UInt8.ofNat)
          entry.flags) ∧
      entry.slots = c.peer.service.reader.statuses ∧
      entry.name = clipped 63 c.peer.service.reader.name ∧
      entry.flags = c.peer.service.reader.flags.known := by
  obtain ⟨record, stored, own, tells, slots⟩ := published.record
  have alive : record.isAlive q = true := by
    simp only [Record.isAlive, own, runs, Bool.and_eq_true, decide_eq_true_eq]
    exact ⟨pid.1, pid.2, trivial⟩
  obtain ⟨entries, listed, only⟩ := Place.entries_of_stored current (shared.trans stored) alive
  have name : record.nameText = clipped 63 c.peer.service.reader.name :=
    Record.nameText_of_stored tells.name
  have flags : ReaderFlags.known ⟨record.flags⟩ = c.peer.service.reader.flags.known := by
    rw [tells.flags]
  have statuses : (record.entry n).slots = c.peer.service.reader.statuses := by
    rw [← tells.card, ← tells.slotCount]
    rfl
  have count : (record.entry n).slots.length = c.peer.service.reader.slots.length := by
    rw [statuses]
    exact List.length_map _
  refine ⟨entries, record.entry n, listed, only, ?_, statuses, name, flags⟩
  rw [call_describe peer clear short slots, count]
  show _ = Except.ok (Answer.description record.nameText _ (ReaderFlags.known ⟨record.flags⟩))
  rw [name, flags]

/-- A driver like the least one, with a name for its reader that does not fit a record: the last
byte that there is room for is the first one of the last character. -/
def verbose : Driver Unit :=
  { Minimal.driver with
    attach := pure { ReaderInfo.new
      "Reader with a name that is cut within its last character, the é" 2 with
      flags := .displayAndKeypad } }

def verboseWorld : Service.World Unit :=
  Service.start ⟨"Reader with a name that is cut within its last character, the é",
    .displayAndKeypad, [.unknown 0x00, .unknown 0x32], none⟩ (some 0) [.heldBy 1]
    (fun _ => .ok ()) ()

/-- Both ways, what is left of the last character is shown as one that cannot be read. -/
theorem discovery_agrees_cut :
    let c : Client (Service.World Unit) := .new verboseWorld
    ∃ entries entry,
      Place.entries ⟨2, (· = 1)⟩ ⟨[⟨verboseWorld.table, []⟩], some 0⟩ = .ok entries ∧
      entry ∈ entries ∧
      entry.name = "Reader with a name that is cut within its last character, the \ufffd" ∧
      (c.call (attended verbose ⟨0, 1000⟩) .describe).1 =
        .ok (.description entry.name [0x00, 0x01] .displayAndKeypad) := by
  intro c
  have attached : Reader.attach verbose () = .ok _ () := rfl
  have started : Service.Published verbose ⟨1, fun _ => true⟩ 0 c.peer :=
    .start attached Service.claim_only (fun _ => .ok ()) rfl
  have short : (Utf8.encode c.peer.service.reader.name).length ≤ 254 := by decide +kernel
  have current : Place.current ⟨[⟨verboseWorld.table, []⟩], some 0⟩ =
      some ⟨verboseWorld.table, []⟩ := rfl
  obtain ⟨entries, entry, listed, only, told, slots, name, flags⟩ :=
    discovery_agrees (q := ⟨2, (· = 1)⟩) ⟨0, 1000⟩ started short (clear_new _)
      ⟨by decide, by decide⟩ rfl current rfl
  refine ⟨entries, entry, listed, ((only entry).mpr rfl).1, ?_, ?_⟩
  · rw [name]
    decide +kernel
  · rw [told, slots, flags]
    rfl

end Client

end CardTerminal
