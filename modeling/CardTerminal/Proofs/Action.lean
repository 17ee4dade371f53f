import CardTerminal.Link

/-!
How actions run, and what they leave alone.

An action succeeds or fails, and in either case there is a state after it (`Action.after`). What an
action may do is named by a relation between the states before and after it (`Action.Moves`), and
what it leaves alone by a view of the state that is the same in both (`Action.Keeps`). Sequences do
what their parts do many times over, so the relation has to be a path: one that can be walked not at
all and on from where it led.
-/

namespace CardTerminal.Action

variable {σ α β γ : Type}

/-- The state that comes with a value or an error. -/
def left : EStateM.Result Error σ α → σ
  | .ok _ s => s
  | .error _ s => s

/-- The state that an action leaves, whether it succeeds or fails. -/
def after (x : Action σ α) (s : σ) : σ :=
  left (x s)

theorem after_of_ok {x : Action σ α} {s s' : σ} {v : α} (h : x s = .ok v s') : after x s = s' := by
  simp only [after, h, left]

theorem after_of_error {x : Action σ α} {s s' : σ} {e : Error} (h : x s = .error e s') :
    after x s = s' := by
  simp only [after, h, left]

/-! ## Sequences -/

theorem bind_of_ok {x : Action σ α} {f : α → Action σ β} {s s' : σ} {v : α}
    (h : x s = .ok v s') : (x >>= f) s = f v s' := by
  simp only [bind, EStateM.bind, h]

theorem bind_of_error {x : Action σ α} {f : α → Action σ β} {s s' : σ} {e : Error}
    (h : x s = .error e s') : (x >>= f) s = .error e s' := by
  simp only [bind, EStateM.bind, h]

theorem get_bind (f : σ → Action σ β) (s : σ) : (get >>= f) s = f s s := rfl

theorem bind_eq_ok {x : Action σ α} {f : α → Action σ β} {s s' : σ} {v : β}
    (h : (x >>= f) s = .ok v s') : ∃ u t, x s = .ok u t ∧ f u t = .ok v s' := by
  cases first : x s with
  | ok u t =>
    rw [bind_of_ok (f := f) first] at h
    exact ⟨u, t, rfl, h⟩
  | error e t =>
    rw [bind_of_error (f := f) first] at h
    cases h

theorem after_bind_pure (x : Action σ α) (f : α → β) (s : σ) :
    after (x >>= fun v => pure (f v)) s = after x s := by
  cases h : x s with
  | ok v s' =>
    rw [after_of_ok h, after, bind_of_ok h]
    rfl
  | error e s' => rw [after_of_error h, after_of_error (bind_of_error h)]

/-! ## Where an action leads -/

/-- A way for states to change, step after step. -/
structure Path (R : σ → σ → Prop) : Prop where
  refl : ∀ s, R s s
  trans : ∀ {s t u}, R s t → R t u → R s u

/-- Whether it succeeds or fails, the action changes the state in this way. -/
def Moves (R : σ → σ → Prop) (x : Action σ α) : Prop :=
  ∀ s, R s (after x s)

namespace Moves

variable {R : σ → σ → Prop}

theorem ok {x : Action σ α} (hx : Moves R x) {s s' : σ} {v : α} (h : x s = .ok v s') : R s s' :=
  after_of_ok h ▸ hx s

theorem error {x : Action σ α} (hx : Moves R x) {s s' : σ} {e : Error} (h : x s = .error e s') :
    R s s' :=
  after_of_error h ▸ hx s

theorem pure (path : Path R) (v : α) : Moves R (pure v : Action σ α) :=
  fun s => path.refl s

theorem throw (path : Path R) (e : Error) : Moves R (throw e : Action σ α) :=
  fun s => path.refl s

theorem bind (path : Path R) {x : Action σ α} {f : α → Action σ β} (hx : Moves R x)
    (hf : ∀ v, Moves R (f v)) : Moves R (x >>= f) := by
  intro s
  cases first : x s with
  | ok v s' =>
    have : after (x >>= f) s = after (f v) s' := by
      simp only [after, bind_of_ok first]
    rw [this]
    exact path.trans (hx.ok first) (hf v s')
  | error e s' =>
    rw [after_of_error (bind_of_error first)]
    exact hx.error first

theorem ite {c : Prop} [Decidable c] {x y : Action σ α} (hx : Moves R x) (hy : Moves R y) :
    Moves R (if c then x else y) := by
  split
  · exact hx
  · exact hy

end Moves

/-! ## What is left alone -/

/-- The action leaves a view of the state as it is. -/
def Keeps (view : σ → γ) (x : Action σ α) : Prop :=
  Moves (fun s s' => view s' = view s) x

namespace Keeps

variable {view : σ → γ}

theorem path (view : σ → γ) : Path (fun s s' => view s' = view s) where
  refl _ := rfl
  trans first second := second.trans first

theorem pure (v : α) : Keeps view (pure v : Action σ α) :=
  Moves.pure (path view) v

theorem throw (e : Error) : Keeps view (throw e : Action σ α) :=
  Moves.throw (path view) e

/-- What comes after does not matter for a view that it keeps. -/
theorem after_bind {x : Action σ α} {f : α → Action σ β} (hf : ∀ v, Keeps view (f v)) (s : σ) :
    view (after (x >>= f) s) = view (after x s) := by
  cases first : x s with
  | ok v s' =>
    rw [after_of_ok first, ← hf v s']
    simp only [after, bind_of_ok first]
  | error e s' => rw [after_of_error (bind_of_error first), after_of_error first]

theorem bind {x : Action σ α} {f : α → Action σ β} (hx : Keeps view x)
    (hf : ∀ v, Keeps view (f v)) : Keeps view (x >>= f) :=
  Moves.bind (path view) hx hf

end Keeps

end CardTerminal.Action
