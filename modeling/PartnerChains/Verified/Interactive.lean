import Mathlib.Tactic

/-!
# Programs that talk to the outside

A program goes from a state to a result and the state after it.  A program that
fails has a state after it as well: what was done before the failure is not
undone.

There are four kinds of statements about programs, each with its rules for the
ways to build one.  `run_bind` takes a successful run apart.  `Keeps` is for
what a program never touches, however it ends, and `Maintains` for what it never
breaks.  A `Triple` has a postcondition for success and one for failure.
-/

namespace PartnerChains.Verified.Interactive

/-- A computation over a state that survives a failure. -/
def Program (σ ε α : Type) := σ → Except ε α × σ

variable {σ ε α β γ : Type}

instance instMonadProgram : Monad (Program σ ε) where
  pure a := fun s => (.ok a, s)
  bind p f := fun s =>
    match p s with
    | (.ok a, s') => f a s'
    | (.error e, s') => (.error e, s')

/-- Ends with the error and leaves the state. -/
def fail (e : ε) : Program σ ε α := fun s => (.error e, s)

/-- Something is read off the state, and may be missing. -/
def attempt (f : σ → Except ε α) : Program σ ε α := fun s => (f s, s)

/-- The state is changed, or the program fails and leaves it as it is. -/
def change (f : σ → Except ε σ) : Program σ ε Unit := fun s =>
  match f s with
  | .ok s' => (.ok (), s')
  | .error e => (.error e, s)

/-- A value that is there or not, in the middle of a program. -/
def lift (value : Except ε α) : Program σ ε α := attempt fun _ => value

/-- A program that works on a part of the state. -/
def within {τ : Type} (get : σ → τ) (put : τ → σ → σ) (p : Program τ ε α) : Program σ ε α :=
  fun s => ((p (get s)).1, put (p (get s)).2 s)

section Run

variable {p : Program σ ε α} {f : α → Program σ ε β} {s s' s'' : σ} {a : α} {b : β}

theorem bind_of_ok (h : p s = (.ok a, s')) : (p >>= f) s = f a s' := by
  simp only [bind, h]

theorem bind_of_error {e : ε} (h : p s = (.error e, s')) : (p >>= f) s = (.error e, s') := by
  simp only [bind, h]

/-- A sequence succeeds exactly if both parts do. -/
theorem run_bind : (p >>= f) s = (.ok b, s'') ↔
    ∃ a s', p s = (.ok a, s') ∧ f a s' = (.ok b, s'') := by
  rcases hp : p s with ⟨result, s'⟩
  cases result with
  | error e => simp [bind_of_error hp]
  | ok a => simp [bind_of_ok hp]

theorem run_pure {a' : α} : (pure a : Program σ ε α) s = (.ok a', s') ↔ a' = a ∧ s' = s := by
  show (Except.ok a, s) = _ ↔ _
  simp [eq_comm]

theorem fail_ne_ok {e : ε} : (fail e : Program σ ε α) s ≠ (.ok a, s') := by
  intro h
  cases h

theorem run_attempt {f : σ → Except ε α} :
    attempt f s = (.ok a, s') ↔ f s = .ok a ∧ s' = s := by
  show (f s, s) = _ ↔ _
  rw [Prod.mk.injEq, eq_comm (a := s)]

theorem run_change {f : σ → Except ε σ} {u : Unit} :
    change f s = (.ok u, s') ↔ f s = .ok s' := by
  unfold change
  cases hf : f s with
  | error e => simp
  | ok t => simp

theorem run_lift {value : Except ε α} :
    lift value s = (.ok a, s') ↔ value = .ok a ∧ s' = s := run_attempt

/-- A program on a part of the state. -/
theorem run_within {τ : Type} {get : σ → τ} {put : τ → σ → σ} {p : Program τ ε α} :
    within get put p s = (.ok a, s') ↔ ∃ t, p (get s) = (.ok a, t) ∧ s' = put t s := by
  rcases hp : p (get s) with ⟨result, t⟩
  simp [within, hp, eq_comm]

/-- A program without a value has nothing to pass on. -/
theorem bind_pure_unit (p : Program σ ε Unit) : (p >>= fun _ => pure ()) = p := by
  funext s
  rcases hp : p s with ⟨result, s'⟩
  cases result with
  | error e => rw [bind_of_error hp]
  | ok u => rw [bind_of_ok hp]; rfl

end Run

/-! ## What a program does not touch or break -/

/-- However the program ends, the state is as good after it as before. -/
def Maintains (I : σ → Prop) (p : Program σ ε α) : Prop := ∀ s, I s → I (p s).2

/-- However the program ends, the view of the state is the same after it. -/
def Keeps {τ : Type*} (view : σ → τ) (p : Program σ ε α) : Prop := ∀ s, view (p s).2 = view s

namespace Keeps

variable {τ : Type*} {view : σ → τ} {p : Program σ ε α} {f : α → Program σ ε β}

/-- The view after a run, whatever its result. -/
theorem of_run (h : Keeps view p) {s s' : σ} {result : Except ε α} (hrun : p s = (result, s')) :
    view s' = view s := by
  rw [← h s, hrun]

theorem pure (a : α) : Keeps view (pure a : Program σ ε α) := fun _ => rfl

theorem fail (e : ε) : Keeps view (fail e : Program σ ε α) := fun _ => rfl

theorem attempt (f : σ → Except ε α) : Keeps view (attempt f) := fun _ => rfl

theorem lift (value : Except ε α) : Keeps view (lift value : Program σ ε α) := fun _ => rfl

theorem change {f : σ → Except ε σ} (h : ∀ s s', f s = .ok s' → view s' = view s) :
    Keeps view (change f) := by
  intro s
  unfold Interactive.change
  cases hf : f s with
  | error e => rfl
  | ok s' => exact h s s' hf

theorem bind (hp : Keeps view p) (hf : ∀ a, Keeps view (f a)) : Keeps view (p >>= f) := by
  intro s
  rcases hrun : p s with ⟨result, s'⟩
  cases result with
  | error e =>
      rw [bind_of_error hrun]
      exact hp.of_run hrun
  | ok a =>
      rw [bind_of_ok hrun]
      exact (hf a s').trans (hp.of_run hrun)

theorem ite {c : Prop} [Decidable c] {p q : Program σ ε α} (hp : Keeps view p)
    (hq : Keeps view q) : Keeps view (if c then p else q) := by
  by_cases hc : c
  · rw [if_pos hc]
    exact hp
  · rw [if_neg hc]
    exact hq

/-- A property of what is kept is maintained. -/
theorem maintains (h : Keeps view p) (P : τ → Prop) : Maintains (fun s => P (view s)) p := by
  intro s hs
  rw [h s]
  exact hs

end Keeps

namespace Maintains

variable {I : σ → Prop} {p : Program σ ε α} {f : α → Program σ ε β}

theorem bind (hp : Maintains I p) (hf : ∀ a, Maintains I (f a)) : Maintains I (p >>= f) := by
  intro s hs
  have hs' := hp s hs
  rcases hrun : p s with ⟨result, s'⟩
  rw [hrun] at hs'
  cases result with
  | error e =>
      rw [bind_of_error hrun]
      exact hs'
  | ok a =>
      rw [bind_of_ok hrun]
      exact hf a s' hs'

theorem ite {c : Prop} [Decidable c] {p q : Program σ ε α} (hp : Maintains I p)
    (hq : Maintains I q) : Maintains I (if c then p else q) := by
  by_cases hc : c
  · rw [if_pos hc]
    exact hp
  · rw [if_neg hc]
    exact hq

end Maintains

/-! ## Pre- and postconditions -/

/-- From a state with `P` the program succeeds with `Q` or fails with `F`. -/
structure Triple (P : σ → Prop) (p : Program σ ε α) (Q : α → σ → Prop) (F : σ → Prop) : Prop where
  ok : ∀ {s a s'}, P s → p s = (.ok a, s') → Q a s'
  error : ∀ {s e s'}, P s → p s = (.error e, s') → F s'

namespace Triple

variable {P : σ → Prop} {p : Program σ ε α} {f : α → Program σ ε β} {Q : α → σ → Prop}
  {R : β → σ → Prop} {F : σ → Prop}

theorem bind (hp : Triple P p Q F) (hf : ∀ a, Triple (Q a) (f a) R F) :
    Triple P (p >>= f) R F where
  ok hs h := by
    obtain ⟨a, s', hrun, h⟩ := run_bind.mp h
    exact (hf a).ok (hp.ok hs hrun) h
  error {s e s'} hs h := by
    rcases hrun : p s with ⟨result, t⟩
    cases result with
    | error e' =>
        rw [bind_of_error hrun] at h
        obtain ⟨-, rfl⟩ := Prod.mk.inj h
        exact hp.error hs hrun
    | ok a =>
        rw [bind_of_ok hrun] at h
        exact (hf a).error (hp.ok hs hrun) h

/-- The condition after a failure can be weakened. -/
theorem weaken {F' : σ → Prop} (h : Triple P p Q F) (hF : ∀ s, F s → F' s) : Triple P p Q F' where
  ok := h.ok
  error hs hrun := hF _ (h.error hs hrun)

theorem pure {a : α} (h : ∀ s, P s → Q a s) : Triple P (pure a : Program σ ε α) Q F where
  ok hs hrun := by
    obtain ⟨rfl, rfl⟩ := run_pure.mp hrun
    exact h _ hs
  error _ hrun := by cases hrun

theorem lift {value : Except ε α} (hok : ∀ a, value = .ok a → ∀ s, P s → Q a s)
    (herror : ∀ e, value = .error e → ∀ s, P s → F s) :
    Triple P (lift value : Program σ ε α) Q F where
  ok hs hrun := by
    obtain ⟨hvalue, rfl⟩ := run_lift.mp hrun
    exact hok _ hvalue _ hs
  error hs hrun := by
    obtain ⟨hvalue, rfl⟩ := Prod.mk.inj hrun
    exact herror _ hvalue _ hs

theorem change {f : σ → Except ε σ} {Q : Unit → σ → Prop}
    (hok : ∀ s s', P s → f s = .ok s' → Q () s') (herror : ∀ s e, P s → f s = .error e → F s) :
    Triple P (change f) Q F where
  ok hs hrun := hok _ _ hs (run_change.mp hrun)
  error {s e s'} hs hrun := by
    unfold Interactive.change at hrun
    cases hf : f s with
    | ok t => simp [hf] at hrun
    | error e' =>
        simp only [hf, Prod.mk.injEq] at hrun
        obtain ⟨-, rfl⟩ := hrun
        exact herror s e' hs hf

theorem ite {c : Prop} [Decidable c] {p q : Program σ ε α} (hp : c → Triple P p Q F)
    (hq : ¬ c → Triple P q Q F) : Triple P (if c then p else q) Q F := by
  by_cases hc : c
  · rw [if_pos hc]
    exact hp hc
  · rw [if_neg hc]
    exact hq hc

/-- What the precondition says about no state can be used for the program. -/
theorem assuming {c : Prop} (h : c → Triple P p Q F) : Triple (fun s => P s ∧ c) p Q F where
  ok hs hrun := (h hs.2).ok hs.1 hrun
  error hs hrun := (h hs.2).error hs.1 hrun

/-- An existential precondition is proved case by case. -/
theorem of_forall {ι : Type*} {P : ι → σ → Prop} (h : ∀ i, Triple (P i) p Q F) :
    Triple (fun s => ∃ i, P i s) p Q F where
  ok hs hrun := (h hs.choose).ok hs.choose_spec hrun
  error hs hrun := (h hs.choose).error hs.choose_spec hrun

/-- An invariant is a triple with one condition throughout. -/
theorem of_maintains {I : σ → Prop} (h : Maintains I p) : Triple I p (fun _ => I) I where
  ok {s a s'} hs hrun := by
    have hs' := h s hs
    rwa [hrun] at hs'
  error {s e s'} hs hrun := by
    have hs' := h s hs
    rwa [hrun] at hs'

theorem maintains {I : σ → Prop} (h : Triple I p (fun _ => I) I) : Maintains I p := by
  intro s hs
  rcases hrun : p s with ⟨result, s'⟩
  cases result with
  | error e => exact h.error hs hrun
  | ok a => exact h.ok hs hrun

end Triple

end PartnerChains.Verified.Interactive
