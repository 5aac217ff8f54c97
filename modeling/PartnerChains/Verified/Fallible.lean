import Mathlib.Tactic

/-!
# Fallible computations

A sequence of computations in `Except` succeeds exactly if every step does;
`bind_eq_ok`, `mapError_eq_ok` and `okOr_eq_ok` take such a sequence apart,
`mapError_eq_error` says where a failure comes from.  `List.mapM` stops at the
first failure.  It succeeds when every step does, and then its result is the
list of the results.
-/

namespace PartnerChains.Verified.Fallible

variable {α β γ ε : Type*}

/-- The value, or the error if there is none. -/
def okOr (value : Option α) (error : ε) : Except ε α :=
  match value with
  | some a => .ok a
  | none => .error error

theorem okOr_eq_ok {value : Option α} {error : ε} {a : α} :
    okOr value error = .ok a ↔ value = some a := by
  cases value with
  | none => simp [okOr]
  | some b => simp [okOr]

/-- A sequence succeeds exactly if both parts do. -/
theorem bind_eq_ok {x : Except ε α} {f : α → Except ε β} {b : β} :
    x.bind f = .ok b ↔ ∃ a, x = .ok a ∧ f a = .ok b := by
  cases x with
  | error e => simp [Except.bind]
  | ok a => simp [Except.bind]

theorem mapError_eq_ok {ε' : Type*} {x : Except ε α} {f : ε → ε'} {a : α} :
    x.mapError f = .ok a ↔ x = .ok a := by
  cases x with
  | error e => simp [Except.mapError]
  | ok a => simp [Except.mapError]

theorem mapError_eq_error {ε' : Type*} {x : Except ε α} {f : ε → ε'} {e : ε'} :
    x.mapError f = .error e ↔ ∃ e', x = .error e' ∧ f e' = e := by
  cases x with
  | error e' => simp [Except.mapError]
  | ok a => simp [Except.mapError]

/-- Errors that are renamed injectively are told apart. -/
theorem mapError_inj {ε' : Type*} {x y : Except ε α} {f : ε → ε'}
    (hf : Function.Injective f) : x.mapError f = y.mapError f ↔ x = y := by
  cases x with
  | error e =>
      cases y with
      | error e' => simp [Except.mapError, hf.eq_iff]
      | ok a => simp [Except.mapError]
  | ok a =>
      cases y with
      | error e => simp [Except.mapError]
      | ok b => simp [Except.mapError]

/-- If every element succeeds, the list does. -/
theorem mapM_ok {f : α → Except ε β} {g : α → β} {l : List α}
    (h : ∀ a ∈ l, f a = .ok (g a)) : l.mapM f = .ok (l.map g) := by
  induction l with
  | nil => rfl
  | cons a l ih =>
      rw [List.mapM_cons, h a List.mem_cons_self, ih fun b hb => h b (List.mem_cons_of_mem _ hb)]
      rfl

/-- When all failures are the same, it does not matter which comes first. -/
theorem mapM_error {f : α → Except ε β} {e : ε} {l : List α} {a : α} (ha : a ∈ l)
    (hfa : f a = .error e) (hall : ∀ b ∈ l, ∀ e', f b = .error e' → e' = e) :
    l.mapM f = .error e := by
  induction l with
  | nil => simp at ha
  | cons b l ih =>
      rw [List.mapM_cons]
      cases hfb : f b with
      | error e' =>
          rw [hall b List.mem_cons_self e' hfb]
          rfl
      | ok result =>
          have hmem : a ∈ l := by
            rcases List.mem_cons.mp ha with rfl | hmem
            · simp [hfa] at hfb
            · exact hmem
          rw [ih hmem fun c hc => hall c (List.mem_cons_of_mem _ hc)]
          rfl

/-- Two passes are one pass when the second pass cannot fail. -/
theorem mapM_bind_mapM {f : α → Except ε β} {g : β → Except ε γ} {k : α → Except ε γ}
    {l : List α} (h : ∀ a ∈ l, k a = (f a).bind g)
    (hg : ∀ a ∈ l, ∀ b, f a = .ok b → ∃ c, g b = .ok c) :
    (l.mapM f).bind (fun results => results.mapM g) = l.mapM k := by
  induction l with
  | nil => rfl
  | cons a l ih =>
      have ih := ih (fun b hb => h b (List.mem_cons_of_mem _ hb))
        fun b hb => hg b (List.mem_cons_of_mem _ hb)
      rw [List.mapM_cons, List.mapM_cons, ← ih, h a List.mem_cons_self]
      cases hfa : f a with
      | error e => rfl
      | ok b =>
          obtain ⟨c, hc⟩ := hg a List.mem_cons_self b hfa
          cases l.mapM f with
          | error e => simp [bind, Except.bind, hc]
          | ok rest => simp [bind, Except.bind, pure, Except.pure, List.mapM_cons]

theorem foldlM_ok {f : β → α → Except ε β} {g : β → α → β} {l : List α}
    (h : ∀ a ∈ l, ∀ b, f b a = .ok (g b a)) (b : β) : l.foldlM f b = .ok (l.foldl g b) := by
  induction l generalizing b with
  | nil => rfl
  | cons a l ih =>
      rw [List.foldlM_cons, h a List.mem_cons_self]
      exact ih (fun a ha => h a (List.mem_cons_of_mem _ ha)) (g b a)

end PartnerChains.Verified.Fallible
