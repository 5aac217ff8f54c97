import Mathlib.Tactic

/-!
# Binary search

A binary search for a place that compares equal, among the places from `left`
on and before `stop`.  Comparisons may fail, which ends the search.

The comparisons need not come from an order.  `search_isSome` asks for one place
that is looked for, such that no comparison leads away from it; several places
may compare equal.  The place before `bound` need not be comparable at all,
since it is not looked at as long as there is something else to look at.
-/

namespace PartnerChains.Verified.BinarySearch

/-- Binary search over `[left, stop)`, with a comparison that may fail. -/
def search (f : Nat → Option Ordering) (left stop : Nat) : Option Nat :=
  if left < stop then
    let middle := (left + stop - 1) / 2
    match f middle with
    | none => none
    | some .eq => some middle
    | some .lt => search f (middle + 1) stop
    | some .gt => search f left middle
  else none
termination_by stop - left
decreasing_by
  · omega
  · omega

/-- The place `t` is looked for, and the comparisons with the places from
`first` on and before `bound` lead to it. -/
structure Around (f : Nat → Option Ordering) (first bound t : Nat) : Prop where
  lt_bound : t < bound
  eq : f t = some .eq
  below : ∀ m, first ≤ m → m < t → f m = some .lt ∨ f m = some .eq
  above : ∀ m, t < m → m < bound → f m = some .gt ∨ f m = some .eq

variable {f : Nat → Option Ordering} {left stop : Nat}

/-- What is found lies in the range and compares as equal. -/
theorem search_eq_some {n : Nat} (h : search f left stop = some n) :
    left ≤ n ∧ n < stop ∧ f n = some .eq := by
  fun_induction search f left stop with
  | case1 left stop hlt middle hf => cases h
  | case2 left stop hlt middle hf =>
      obtain rfl := Option.some.inj h
      exact ⟨by omega, by omega, hf⟩
  | case3 left stop hlt middle hf ih =>
      obtain ⟨hleft, hstop, heq⟩ := ih h
      exact ⟨by omega, hstop, heq⟩
  | case4 left stop hlt middle hf ih =>
      obtain ⟨hleft, hstop, heq⟩ := ih h
      exact ⟨hleft, by omega, heq⟩
  | case5 left stop hlt => cases h

/-- A comparison with a place that is not `t` leads to `t`, or finds the place. -/
theorem Around.cases {first bound t m : Nat} (h : Around f first bound t) (hfirst : first ≤ m)
    (hbound : m < bound) :
    f m = some .eq ∨ (f m = some .lt ∧ m < t) ∨ (f m = some .gt ∧ t < m) := by
  rcases Nat.lt_trichotomy m t with hmt | rfl | htm
  · rcases h.below m hfirst hmt with hf | hf
    · exact .inr (.inl ⟨hf, hmt⟩)
    · exact .inl hf
  · exact .inl h.eq
  · rcases h.above m htm hbound with hf | hf
    · exact .inr (.inr ⟨hf, htm⟩)
    · exact .inl hf

/-- The place that is looked for stays between the bounds. -/
theorem search_isSome {first bound t : Nat} (h : Around f first bound t) (hfirst : first ≤ left)
    (hleft : left ≤ t) (hstop : t < stop) (hbound : stop ≤ bound + 1) :
    (search f left stop).isSome := by
  have hlt := h.lt_bound
  fun_induction search f left stop with
  | case1 left stop hlt middle hf =>
      have hcases := @Around.cases f first bound t middle h (by omega) (by omega)
      simp [hf] at hcases
  | case2 left stop hlt middle hf => rfl
  | case3 left stop hlt middle hf ih =>
      have hcases := @Around.cases f first bound t middle h (by omega) (by omega)
      have hmt : middle < t := by simpa [hf] using hcases
      exact ih (by omega) hmt hstop hbound
  | case4 left stop hlt middle hf ih =>
      have hcases := @Around.cases f first bound t middle h (by omega) (by omega)
      have htm : t < middle := by simpa [hf] using hcases
      exact ih hfirst hleft htm (by omega)
  | case5 left stop hlt => omega

end PartnerChains.Verified.BinarySearch
