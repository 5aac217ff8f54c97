import Mathlib.Data.List.Sort
import Mathlib.Tactic

/-!
# Taking the largest elements first

The first elements of a list in decreasing order weigh at least as much as any
other choice of as many elements.  So no choice reaches an amount with fewer
elements than the shortest beginning of the list that does.
-/

namespace PartnerChains.Verified.LargestFirst

variable {α : Type*}

/-- The weight of a list. -/
def weight (f : α → Nat) (l : List α) : Nat := (l.map f).sum

variable {f : α → Nat} {l s : List α}

@[simp] theorem weight_nil : weight f [] = 0 := rfl

@[simp] theorem weight_cons (a : α) (l : List α) : weight f (a :: l) = f a + weight f l :=
  List.sum_cons

theorem weight_perm (h : l.Perm s) : weight f l = weight f s := (h.map f).sum_eq

private theorem weight_le_of_sublist (h : s.Sublist l) : weight f s ≤ weight f l :=
  (h.map f).sum_le_sum (by simp)

/-- A part weighs at most as much as the whole. -/
theorem weight_le_of_subperm (h : s.Subperm l) : weight f s ≤ weight f l := by
  obtain ⟨s', hperm, hsub⟩ := h
  rw [← weight_perm hperm]
  exact weight_le_of_sublist hsub

/-- The exchange argument: the first of the chosen elements weighs at most as
much as the first element, and the others are chosen from the rest. -/
theorem weight_le_weight_take_of_sublist (hl : l.Pairwise fun a b => f b ≤ f a)
    (hsub : s.Sublist l) {k : Nat} (hk : s.length ≤ k) : weight f s ≤ weight f (l.take k) := by
  induction l generalizing s k with
  | nil =>
      rw [List.sublist_nil.mp hsub]
      exact Nat.zero_le _
  | cons a l ih =>
      obtain ⟨ha, hl⟩ := List.pairwise_cons.mp hl
      cases s with
      | nil => exact Nat.zero_le _
      | cons b s =>
          cases k with
          | zero => simp at hk
          | succ k =>
              have hba : f b ≤ f a := by
                rcases List.mem_cons.mp (hsub.subset List.mem_cons_self) with rfl | hb
                · exact Nat.le_refl _
                · exact ha b hb
              have hrest := ih hl (List.Sublist.of_cons_cons hsub)
                (Nat.le_of_succ_le_succ hk)
              rw [List.take_succ_cons, weight_cons, weight_cons]
              omega

private theorem weight_le_weight_take (hl : l.Pairwise fun a b => f b ≤ f a) (hsub : s.Subperm l)
    {k : Nat} (hk : s.length ≤ k) : weight f s ≤ weight f (l.take k) := by
  obtain ⟨s', hperm, hsub⟩ := hsub
  rw [← weight_perm hperm]
  exact weight_le_weight_take_of_sublist hl hsub (hperm.length_eq ▸ hk)

/-- The shortest beginning of the list that reaches the amount has `n`
elements. -/
structure IsShortest (f : α → Nat) (l : List α) (amount n : Nat) : Prop where
  le_length : n ≤ l.length
  reaches : amount ≤ weight f (l.take n)
  shortest : ∀ m < n, weight f (l.take m) < amount

/-- No choice of elements reaches the amount with fewer of them. -/
theorem IsShortest.le_of_subperm {amount n : Nat} (h : IsShortest f l amount n)
    (hl : l.Pairwise fun a b => f b ≤ f a) (hsub : s.Subperm l) (hs : amount ≤ weight f s) :
    n ≤ s.length := by
  by_contra hlt
  have hshort := h.shortest s.length (Nat.lt_of_not_le hlt)
  have htake := weight_le_weight_take hl hsub (Nat.le_refl s.length)
  omega

end PartnerChains.Verified.LargestFirst
