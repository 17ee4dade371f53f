import CardTerminal.Proofs.Transcript

/-!
What a T=0 card makes of a transfer, one procedure byte after the other.

A procedure byte that keeps a transfer going is a beat: it uses up patience, or it moves at least
one byte of what is left. So there is an end to them, whatever the card says (`Runs`), and what the
beats move comes out of what there was (`Runs.outgoing_prefix`, `Runs.incoming_le`). All that is
heard in a transfer is read by the host as beats and one ending, and all that is sent is sent by
them (`converse_follows`). The only transfer without a result is one with more null bytes than the
host can count (`Follows.overflown`).
-/

namespace CardTerminal.T0

/-! ## Beats -/

/-- What a procedure byte that keeps a transfer going comes to. -/
inductive Beat where
  /-- The card wants to be waited for. -/
  | null
  /-- It asks for data, and is sent some. -/
  | sent (ack : UInt8) (bytes : Bytes)
  /-- It announces data, and this is stored. -/
  | stored (ack : UInt8) (bytes : Bytes)
  deriving DecidableEq, Repr

namespace Beat

def outgoing : Beat → Bytes
  | .sent _ bytes => bytes
  | _ => []

def incoming : Beat → Bytes
  | .stored _ bytes => bytes
  | _ => []

def signals (dad : UInt8) : Beat → List Signal
  | .null => [.received 0x60]
  | .sent ack bytes => [.received ack, .sent dad bytes]
  | .stored ack bytes => (ack :: bytes).map .received

end Beat

def Transfer.data : Transfer → Bytes
  | .outgoing data => data
  | .incoming _ => []

/-- How many bytes a transfer still brings. -/
def Transfer.brings : Transfer → Nat
  | .outgoing _ => 0
  | .incoming wanted => wanted

/-- What a transfer comes to: a status, or what the card was lost for. There is neither if the count
of null bytes overflows. -/
abbrev Result : Type :=
  Option (Except Error Bytes)

/-- How a transfer ends, with so many null bytes still tolerated and this left to move: the last
bytes of the card, and what it comes to. -/
inductive Ends (ins : UInt8) (nulls : Nat) (left : Transfer) : Bytes → Result → Prop where
  | status {high low : UInt8} (status : procedure ins high = .status) :
      Ends ins nulls left [high, low] (some (.ok [high, low]))
  /-- There is no byte any more, or data cannot be sent. -/
  | silent (e : Error) : Ends ins nulls left [] (some (.error e))
  /-- There is only half a status. -/
  | half {high : UInt8} (status : procedure ins high = .status) (e : Error) :
      Ends ins nulls left [high] (some (.error e))
  | mute (spent : nulls = 0) : Ends ins nulls left [0x60] (some (.error .cardMute))
  | overflown (spent : nulls = 0) : Ends ins nulls left [0x60] none
  | unexpected {b : UInt8} (unexpected : procedure ins b = .unexpected) :
      Ends ins nulls left [b] (some (.error (.protocolError .unexpectedProcedureByte)))
  /-- The card wants to move more than there is. -/
  | overdrawn {b : UInt8} (asks : procedure ins b = .all ∨ procedure ins b = .one)
      (nothing : left.size = 0) (violation : Violation) :
      Ends ins nulls left [b] (some (.error (.protocolError violation)))
  /-- The card announces more than it gives. -/
  | short {b : UInt8} {part : Bytes}
      (fewer : part.length < (procedure ins b).amount left.brings) (e : Error) :
      Ends ins nulls left (b :: part) (some (.error e))

/-- A transfer can take this course, with so many null bytes tolerated and this left to move: some
beats, and an ending. What a beat moves and what is left after it make up what was there before. -/
inductive Runs (ins : UInt8) :
    (nulls : Nat) → Transfer → List Beat → Bytes → Result → Prop where
  | ends {nulls : Nat} {left : Transfer} {tail : Bytes} {result : Result}
      (ends : Ends ins nulls left tail result) : Runs ins nulls left [] tail result
  | null {nulls : Nat} {left : Transfer} {beats : List Beat} {tail : Bytes}
      {result : Result} (more : Runs ins nulls left beats tail result) :
      Runs ins (nulls + 1) left (.null :: beats) tail result
  | sent {nulls : Nat} {data bytes rest : Bytes} {ack : UInt8} {beats : List Beat} {tail : Bytes}
      {result : Result} (parts : data = bytes ++ rest) (some : bytes ≠ [])
      (asked : (procedure ins ack).amount data.length = bytes.length)
      (more : Runs ins nulls (.outgoing rest) beats tail result) :
      Runs ins nulls (.outgoing data) (.sent ack bytes :: beats) tail result
  | stored {nulls wanted rest : Nat} {bytes : Bytes} {ack : UInt8} {beats : List Beat}
      {tail : Bytes} {result : Result} (parts : wanted = bytes.length + rest)
      (some : bytes ≠ []) (asked : (procedure ins ack).amount wanted = bytes.length)
      (more : Runs ins nulls (.incoming rest) beats tail result) :
      Runs ins nulls (.incoming wanted) (.stored ack bytes :: beats) tail result

namespace Runs

variable {ins : UInt8} {nulls : Nat} {left : Transfer} {beats : List Beat} {tail : Bytes}
  {result : Result}

theorem count_null_le (runs : Runs ins nulls left beats tail result) :
    beats.count .null ≤ nulls := by
  induction runs with
  | ends => exact Nat.zero_le _
  | null _ ih =>
    rw [List.count_cons_self]
    exact Nat.succ_le_succ ih
  | sent _ _ _ _ ih | stored _ _ _ _ ih => rwa [List.count_cons_of_ne (by simp)]

/-- The data for the card is sent from its start, in order and once. -/
theorem outgoing_prefix (runs : Runs ins nulls left beats tail result) :
    beats.flatMap Beat.outgoing <+: left.data := by
  induction runs with
  | ends => exact List.nil_prefix
  | null _ ih => exact ih
  | sent parts _ _ _ ih =>
    rw [Transfer.data, parts]
    exact (List.prefix_append_right_inj _).mpr ih
  | stored _ _ _ _ ih => exact ih

theorem incoming_le (runs : Runs ins nulls left beats tail result) :
    (beats.flatMap Beat.incoming).length ≤ left.brings := by
  induction runs with
  | ends => exact Nat.zero_le _
  | null _ ih => exact ih
  | sent _ _ _ _ ih => exact ih
  | @stored _ wanted rest bytes _ _ _ _ parts _ _ _ ih =>
    calc ((Beat.stored _ bytes :: _).flatMap Beat.incoming).length
        = bytes.length + (List.flatMap Beat.incoming _).length := List.length_append
      _ ≤ bytes.length + rest := Nat.add_le_add_left ih _
      _ = wanted := parts.symm

theorem length_status {status : Bytes} (runs : Runs ins nulls left beats tail (some (.ok status))) :
    status.length = 2 := by
  generalize answered : some (Except.ok status) = result at runs
  induction runs with
  | ends ends =>
    cases ends with
    | status =>
      cases answered
      rfl
    | _ => cases answered
  | null _ ih => exact ih answered
  | sent _ _ _ _ ih => exact ih answered
  | stored _ _ _ _ ih => exact ih answered

end Runs

/-! ## Procedure bytes -/

theorem eq_null_byte {ins b : UInt8} (null : procedure ins b = .null) : b = 0x60 := by
  apply Decidable.byContradiction
  intro other
  rw [procedure, if_neg other] at null
  split at null
  · cases null
  · split at null
    · cases null
    · split at null <;> cases null

/-- A procedure byte that is none of the others asks for data to be moved. -/
theorem Procedure.asks {p : Procedure} (null : p ≠ .null) (status : p ≠ .status)
    (unexpected : p ≠ .unexpected) : p = .all ∨ p = .one := by
  cases p <;> simp at *

theorem Procedure.nothing_left {p : Procedure} (asks : p = .all ∨ p = .one) {size : Nat}
    (none : p.amount size = 0) : size = 0 := by
  rcases asks with rfl | rfl
  · exact none
  · simp only [amount] at none
    omega

/-! ## Following the card -/

variable {σ : Type} {link : Link σ}

/-- What the answer of a transfer is, or what it was lost for. -/
def conclude (answer : Bytes) : Result → Option Ended
  | some (.ok status) => some (.ok (answer ++ status))
  | some (.error e) => some (.error (.lost e))
  | none => none

/-- How many more null bytes an engine tolerates after so many. -/
def tolerance (t : T0) (nulls : UInt32) : Nat :=
  t.maxNulls.toNat - nulls.toNat

/-- An exchange that follows the card comes to these beats and this ending, in what is seen of it
and in its outcome, after so many null bytes have come. -/
structure Follows (t : T0) (ins : UInt8) (nulls : UInt32) (left : Transfer) (answer : Bytes)
    (w : σ × List ChannelCall) (x : Exchange (Option Ended) T0 (σ × List ChannelCall))
    (beats : List Beat) (tail : Bytes) (result : Result) : Prop where
  runs : Runs ins (t.tolerance nulls) left beats tail result
  seen : Link.Adds (beats.flatMap (Beat.signals t.dad) ++ tail.map .received)
    (t.tolerance nulls + 2 * left.size + 2) w x.device
  outcome : x.outcome = conclude (answer ++ beats.flatMap Beat.incoming) result
  engine : ∃ phase, x.engine = { t with phase } ∧ (x.outcome ≠ none → phase = .idle)
  /-- As many null bytes as can be counted have come, and one more. -/
  overflown : result = none → nulls.toNat + beats.count .null + 1 = UInt32.size

theorem tolerance_zero (t : T0) : t.tolerance 0 = t.maxNulls.toNat := by
  rw [tolerance, UInt32.toNat_zero, Nat.sub_zero]

theorem tolerance_eq_succ {t : T0} {nulls : UInt32} (more : nulls < t.maxNulls) :
    t.tolerance nulls = t.tolerance (nulls + 1) + 1 := by
  have below := UInt32.lt_iff_toNat_lt.mp more
  rw [tolerance, tolerance, toNat_succ more]
  omega

theorem tolerance_eq_zero {t : T0} {nulls : UInt32} (fits : ¬ nulls.toNat + 1 = UInt32.size)
    (mute : t.maxNulls < nulls + 1) : t.tolerance nulls = 0 := by
  rw [UInt32.lt_iff_toNat_lt, toNat_succ_of_fits fits] at mute
  rw [tolerance]
  omega

theorem lt_of_not_mute {t : T0} {nulls : UInt32} (fits : ¬ nulls.toNat + 1 = UInt32.size)
    (patient : ¬ t.maxNulls < nulls + 1) : nulls < t.maxNulls := by
  rw [UInt32.lt_iff_toNat_lt, toNat_succ_of_fits fits] at patient
  rw [UInt32.lt_iff_toNat_lt]
  omega

namespace Follows

variable {t : T0} {ins : UInt8} {nulls : UInt32} {left : Transfer} {answer : Bytes}
  {w w' : σ × List ChannelCall} {x : Exchange (Option Ended) T0 (σ × List ChannelCall)}
  {beats : List Beat} {tail : Bytes} {result : Result}

theorem ended {ending : Except Error Bytes}
    (ends : Ends ins (t.tolerance nulls) left tail (some ending)) {count : Nat}
    (seen : Link.Adds (tail.map .received) count w w')
    (few : count ≤ t.tolerance nulls + 2 * left.size + 2) :
    Follows t ins nulls left answer w
      ⟨conclude answer (some ending), { t with phase := .idle }, w'⟩ [] tail (some ending) where
  runs := .ends ends
  seen := seen.mono few
  outcome := by rw [List.flatMap_nil, List.append_nil]
  engine := ⟨.idle, rfl, fun _ => rfl⟩
  overflown := nofun

theorem uncounted (seen : Link.Adds [.received 0x60] 1 w w')
    (spent : nulls.toNat + 1 = UInt32.size) :
    Follows t ins nulls left answer w ⟨none, t, w'⟩ [] [0x60] none where
  runs := by
    refine .ends (.overflown ?_)
    have := t.maxNulls.toNat_lt
    simp only [tolerance, UInt32.size] at *
    omega
  seen := seen.mono (by omega)
  outcome := rfl
  engine := ⟨t.phase, rfl, fun ended => absurd rfl ended⟩
  overflown _ := by rwa [List.count_nil, Nat.add_zero]

theorem null (more : nulls < t.maxNulls) (seen : Link.Adds [.received 0x60] 1 w w')
    (follows : Follows t ins (nulls + 1) left answer w' x beats tail result) :
    Follows t ins nulls left answer w x (.null :: beats) tail result where
  runs := by
    rw [tolerance_eq_succ more]
    exact .null follows.runs
  seen := by
    rw [tolerance_eq_succ more]
    exact (seen.trans follows.seen).mono (by omega)
  outcome := follows.outcome
  engine := follows.engine
  overflown unended := by
    have counted := follows.overflown unended
    rw [toNat_succ more] at counted
    rw [List.count_cons_self]
    omega

theorem sent {data bytes rest : Bytes} {ack : UInt8} (parts : data = bytes ++ rest)
    (some : bytes ≠ []) (asked : (procedure ins ack).amount data.length = bytes.length)
    (seen : Link.Adds [.received ack, .sent t.dad bytes] 2 w w')
    (more : Follows t ins nulls (.outgoing rest) answer w' x beats tail result) :
    Follows t ins nulls (.outgoing data) answer w x (.sent ack bytes :: beats) tail result where
  runs := .sent parts some asked more.runs
  seen := by
    have positive := List.length_pos_iff.mpr some
    refine (seen.trans more.seen).mono ?_
    rw [parts]
    simp only [Transfer.size, List.length_append]
    omega
  outcome := more.outcome
  engine := more.engine
  overflown unended := by
    rw [List.count_cons_of_ne (by simp)]
    exact more.overflown unended

theorem stored {wanted rest : Nat} {bytes : Bytes} {ack : UInt8}
    (parts : wanted = bytes.length + rest) (some : bytes ≠ [])
    (asked : (procedure ins ack).amount wanted = bytes.length)
    (seen : Link.Adds ((ack :: bytes).map .received) (1 + bytes.length) w w')
    (more : Follows t ins nulls (.incoming rest) (answer ++ bytes) w' x beats tail result) :
    Follows t ins nulls (.incoming wanted) answer w x (.stored ack bytes :: beats) tail result where
  runs := .stored parts some asked more.runs
  seen := by
    have positive := List.length_pos_iff.mpr some
    rw [List.flatMap_cons, List.append_assoc]
    refine (seen.trans more.seen).mono ?_
    simp only [Transfer.size]
    omega
  outcome := by
    rw [more.outcome, List.append_assoc]
    rfl
  engine := more.engine
  overflown unended := by
    rw [List.count_cons_of_ne (by simp)]
    exact more.overflown unended

end Follows

theorem adds_procedure {t : T0} {w w' : σ × List ChannelCall} {first : Bytes}
    (received : link.watched.receiveExactly t.dad t.timeout 1 w = .ok first w') :
    Link.Adds [.received (first.headD 0)] 1 w w' := by
  have seen := link.adds_receiveExactly t.dad t.timeout received
  obtain ⟨b, rfl⟩ := List.length_eq_one_iff.mp (Link.length_of_receiveExactly received)
  exact seen

theorem adds_silence {t : T0} {w w' : σ × List ChannelCall} {e : Error}
    (failed : link.watched.receiveExactly t.dad t.timeout 1 w = .error e w') :
    Link.Adds [] 1 w w' := by
  obtain ⟨part, short, seen⟩ := link.adds_of_receiveExactly_error t.dad t.timeout failed
  obtain rfl := List.length_eq_zero_iff.mp (Nat.lt_one_iff.mp short)
  exact seen

/-- **All that is said in a transfer is beats and an ending.** -/
theorem converse_follows (link : Link σ) (t : T0) (ins : UInt8) (nulls : UInt32) (left : Transfer)
    (answer : Bytes) (w : σ × List ChannelCall) : ∃ beats tail result,
      Follows t ins nulls left answer w (t.converse link.watched ins nulls left answer w) beats
        tail result := by
  have send := link.adds_send t.dad
  -- One case for each way to follow a procedure byte; the induction is on patience and data.
  fun_induction converse link.watched t ins nulls left answer w with
  | case1 nulls left answer w e w' failed =>
    exact ⟨[], [], some (.error e), .ended (.silent e) (adds_silence failed) (by omega)⟩
  | case2 nulls left answer w first w' received b null spent =>
    have seen := adds_procedure received
    rw [show first.headD 0 = 0x60 from eq_null_byte null] at seen
    exact ⟨[], [0x60], none, .uncounted seen spent⟩
  | case3 nulls left answer w first w' received b null fits mute =>
    have seen := adds_procedure received
    rw [show first.headD 0 = 0x60 from eq_null_byte null] at seen
    exact ⟨[], [0x60], _, .ended (.mute (tolerance_eq_zero fits mute)) seen (by omega)⟩
  | case4 nulls left answer w first w' received b null fits patient ih =>
    obtain ⟨beats, tail, result, follows⟩ := ih
    have seen := adds_procedure received
    rw [show first.headD 0 = 0x60 from eq_null_byte null] at seen
    exact ⟨_, tail, result, follows.null (lt_of_not_mute fits patient) seen⟩
  | case5 nulls left answer w first w' received b status e w'' failed =>
    have seen := (adds_procedure received).trans (adds_silence failed)
    exact ⟨[], [b], some (.error e), .ended (.half status e) seen (by omega)⟩
  | case6 nulls left answer w first w' received b status second w'' received' =>
    have seen := (adds_procedure received).trans (adds_procedure received')
    obtain ⟨low, rfl⟩ := List.length_eq_one_iff.mp (Link.length_of_receiveExactly received')
    exact ⟨[], [b, low], some (.ok [b, low]), .ended (.status status) seen (by omega)⟩
  | case7 nulls left answer w first w' received b unexpected =>
    exact ⟨[], [b], _, .ended (.unexpected unexpected) (adds_procedure received) (by omega)⟩
  | case8 nulls answer w first w' received b data null status unexpected n none =>
    have asks := Procedure.asks null status unexpected
    have nothing : (Transfer.outgoing data).size = 0 := Procedure.nothing_left asks none
    exact ⟨[], [b], _, .ended (.overdrawn asks nothing _) (adds_procedure received) (by omega)⟩
  | case9 nulls answer w first w' received b data e w'' null status unexpected n moving failed =>
    have fits : n ≤ data.length := Procedure.amount_le _ _
    have length : (data.take n).length = n := by rw [List.length_take, Nat.min_eq_left fits]
    have seen := (adds_procedure received).trans ((send (data.take n)).error failed)
    refine ⟨[.sent b (data.take n)], [], some (.error e), ?_⟩
    refine .sent (List.take_append_drop n data).symm ?_ length.symm seen ?_
    · exact List.length_pos_iff.mp (by omega)
    · exact .ended (.silent e) (.refl w'') (by omega)
  | case10 nulls answer w first w' received b data _ w'' null status unexpected n some sent ih =>
    obtain ⟨beats, tail, result, follows⟩ := ih
    have fits : n ≤ data.length := Procedure.amount_le _ _
    have length : (data.take n).length = n := by rw [List.length_take, Nat.min_eq_left fits]
    have seen := (adds_procedure received).trans ((send (data.take n)).ok sent)
    refine ⟨_, tail, result, follows.sent (List.take_append_drop n data).symm ?_ length.symm seen⟩
    exact List.length_pos_iff.mp (by omega)
  | case11 nulls answer w first w' received b wanted null status unexpected n none =>
    have asks := Procedure.asks null status unexpected
    have nothing : (Transfer.incoming wanted).size = 0 := Procedure.nothing_left asks none
    exact ⟨[], [b], _, .ended (.overdrawn asks nothing _) (adds_procedure received) (by omega)⟩
  | case12 nulls answer w first w' received b wanted e w'' null status unexpected n moving failed =>
    have fits : n ≤ wanted := Procedure.amount_le _ _
    obtain ⟨part, short, rest⟩ := link.adds_of_receiveExactly_error t.dad t.timeout failed
    have seen := (adds_procedure received).trans rest
    exact ⟨[], b :: part, some (.error e), .ended (.short short e) seen
      (by simp only [Transfer.size]; omega)⟩
  | case13 nulls answer w first w' received b wanted got w'' null status unexpected n some more
      ih =>
    obtain ⟨beats, tail, result, follows⟩ := ih
    have fits : n ≤ wanted := Procedure.amount_le _ _
    have length : got.length = n := Link.length_of_receiveExactly more
    have rest := link.adds_receiveExactly t.dad t.timeout more
    have seen := (adds_procedure received).trans rest
    rw [← length] at seen
    refine ⟨_, tail, result, follows.stored (by omega) ?_ length.symm seen⟩
    exact List.length_pos_iff.mp (by omega)

end CardTerminal.T0
