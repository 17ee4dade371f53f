import CardTerminal.Proofs.Watched

/-!
What goes over a byte channel, in both directions and in order.

The notes of a watched channel say more than that: how much room there was, how long it took to
fail. Read as a transcript they say which bytes were sent and which single bytes came in. A stretch
of an exchange is described by the transcript that it adds and by how many calls it takes at most
(`Link.Adds`), and stretches are put together.
-/

namespace CardTerminal

variable {σ : Type}

/-- What is seen on a byte channel. -/
inductive Signal where
  /-- Bytes for a node, sent in one piece. -/
  | sent (dad : UInt8) (bytes : Bytes)
  /-- One byte that came in. -/
  | received (b : UInt8)
  deriving DecidableEq, Repr

/-- What a call puts on the channel. Bytes without room are not received, and a call to receive that
fails gives none. -/
def ChannelCall.signals : ChannelCall → List Signal
  | .send dad bytes _ => [.sent dad bytes]
  | .recv _ room _ (.ok bytes) => (bytes.take room).map .received
  | .recv _ _ _ (.error _) => []

/-- What the calls put on the channel. -/
def transcript (calls : List ChannelCall) : List Signal :=
  calls.flatMap ChannelCall.signals

@[simp] theorem transcript_append (calls more : List ChannelCall) :
    transcript (calls ++ more) = transcript calls ++ transcript more :=
  List.flatMap_append

namespace Link

/-- Calls have been noted that put these signals on the channel, and so many calls at most. -/
def Adds (signals : List Signal) (count : Nat) (w w' : σ × List ChannelCall) : Prop :=
  ∃ more, w'.2 = w.2 ++ more ∧ transcript more = signals ∧ more.length ≤ count

namespace Adds

variable {signals more : List Signal} {m n : Nat} {u v w : σ × List ChannelCall}

theorem refl (w : σ × List ChannelCall) : Adds [] 0 w w :=
  ⟨[], (List.append_nil _).symm, rfl, Nat.le_refl _⟩

theorem trans (first : Adds signals m u v) (second : Adds more n v w) :
    Adds (signals ++ more) (m + n) u w := by
  obtain ⟨calls, noted, rfl, few⟩ := first
  obtain ⟨calls', noted', rfl, few'⟩ := second
  refine ⟨calls ++ calls', ?_, transcript_append .., ?_⟩
  · rw [noted', noted, List.append_assoc]
  · rw [List.length_append]
    exact Nat.add_le_add few few'

theorem mono (adds : Adds signals m u v) (le : m ≤ n) : Adds signals n u v := by
  obtain ⟨calls, noted, read, few⟩ := adds
  exact ⟨calls, noted, read, Nat.le_trans few le⟩

theorem fresh {s : σ} (adds : Adds signals n (s, []) w) :
    transcript w.2 = signals ∧ w.2.length ≤ n := by
  obtain ⟨calls, noted, read, few⟩ := adds
  rw [noted]
  exact ⟨read, few⟩

end Adds

variable (link : Link σ) (dad : UInt8) (timeout : Nat) {w w' : σ × List ChannelCall} {e : Error}

/-! ## Sending -/

theorem adds_send (bytes : Bytes) :
    Action.Moves (Adds [.sent dad bytes] 1) (link.watched.send dad bytes) := by
  rintro ⟨s, calls⟩
  simp only [Action.after, watched, Action.noted]
  cases link.send dad bytes s with
  | ok u s' => exact ⟨[.send dad bytes (.ok u)], rfl, rfl, Nat.le_refl _⟩
  | error e s' => exact ⟨[.send dad bytes (.error e)], rfl, rfl, Nat.le_refl _⟩

/-! ## Receiving -/

theorem adds_receive {room : Nat} {bytes : Bytes}
    (received : link.watched.receive dad room timeout w = .ok bytes w') :
    Adds (bytes.map .received) 1 w w' := by
  obtain ⟨s, calls⟩ := w
  simp only [receive, watched, Action.noted] at received
  cases result : link.recv dad room timeout s with
  | ok all s' =>
    rw [result] at received
    cases received
    exact ⟨[.recv dad room timeout (.ok all)], rfl, List.append_nil _, Nat.le_refl _⟩
  | error e s' =>
    rw [result] at received
    cases received

theorem adds_of_receive_error {room : Nat}
    (failed : link.watched.receive dad room timeout w = .error e w') : Adds [] 1 w w' := by
  obtain ⟨s, calls⟩ := w
  simp only [receive, watched, Action.noted] at failed
  cases result : link.recv dad room timeout s with
  | ok all s' =>
    rw [result] at failed
    cases failed
  | error e s' =>
    rw [result] at failed
    cases failed
    exact ⟨[.recv dad room timeout (.error e)], rfl, rfl, Nat.le_refl _⟩

/-- Every call to receive brings a byte, or is the last. -/
theorem adds_gather {wanted : Nat} {bytes : Bytes}
    {result : EStateM.Result Error (σ × List ChannelCall) Unit}
    (gathered : link.watched.gather dad timeout wanted w = (bytes, result)) :
    Adds (bytes.map .received) wanted w (Action.left result) ∧
      ∀ {e w'}, result = .error e w' → bytes.length < wanted := by
  fun_induction gather link.watched dad timeout wanted w generalizing bytes with
  | case1 w =>
    cases gathered
    refine ⟨.refl w, ?_⟩
    intro e w' failed
    cases failed
  | case2 wanted w some e w' failed =>
    cases gathered
    have positive := Nat.pos_of_ne_zero some
    exact ⟨(link.adds_of_receive_error dad timeout failed).mono positive, fun _ => positive⟩
  | case3 wanted w some w' nothing =>
    cases gathered
    have positive := Nat.pos_of_ne_zero some
    exact ⟨(link.adds_receive dad timeout nothing).mono positive, fun _ => positive⟩
  | case4 wanted w some b bs w' received more ending rest ih =>
    obtain ⟨rfl, rfl⟩ := Prod.mk.inj gathered
    obtain ⟨adds, short⟩ := ih rest
    have first := link.adds_receive dad timeout received
    have fits : bs.length + 1 ≤ wanted := length_of_receive received
    refine ⟨?_, fun failed => ?_⟩
    · rw [List.map_append]
      exact (first.trans adds).mono (by omega)
    · have := short failed
      simp only [List.length_append, List.length_cons]
      omega

theorem adds_receiveExactly {wanted : Nat} {bytes : Bytes}
    (received : link.watched.receiveExactly dad timeout wanted w = .ok bytes w') :
    Adds (bytes.map .received) wanted w w' := by
  unfold receiveExactly at received
  split at received
  · next gathered =>
    cases received
    exact (link.adds_gather dad timeout gathered).1
  · cases received

theorem adds_of_receiveExactly_error {wanted : Nat}
    (failed : link.watched.receiveExactly dad timeout wanted w = .error e w') :
    ∃ part : Bytes, part.length < wanted ∧ Adds (part.map .received) wanted w w' := by
  unfold receiveExactly at failed
  split at failed
  · cases failed
  · next part _ _ gathered =>
    cases failed
    obtain ⟨adds, short⟩ := link.adds_gather dad timeout gathered
    exact ⟨part, short rfl, adds⟩

end Link

end CardTerminal
