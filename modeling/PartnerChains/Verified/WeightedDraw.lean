import Mathlib.Data.List.Perm.Lattice
import PartnerChains.Verified.StableSort

/-!
# Drawing by cumulative weight

Walking a weighted list until the running total exceeds `r` draws the `r`-th
element of its *urn*, the list that repeats every value as often as its
weight says.  Facts about draws are facts about urns: permuted lists have
permuted urns, sorted lists sorted urns, and two sorted urns with the same
content are equal once the order separates the values that occur.  The last
section reads the urn of a stable sort.
-/

namespace PartnerChains.Verified.WeightedDraw

open PartnerChains.Verified.StableSort

variable {α β : Type*}

/-- Every value, as often as its weight says. -/
def urn (l : List (α × Nat)) : List α :=
  l.flatMap fun p => List.replicate p.2 p.1

/-- The sum of the weights. -/
def totalWeight (l : List (α × Nat)) : Nat := (l.map Prod.snd).sum

/-- The first value whose cumulative weight, counted from `acc`, exceeds
`r`. -/
def walk : List (α × Nat) → Nat → Nat → Option α
  | [], _, _ => none
  | (a, w) :: rest, acc, r =>
      if r < acc + w then some a else walk rest (acc + w) r

@[simp] theorem urn_nil : urn ([] : List (α × Nat)) = [] := rfl

@[simp] theorem urn_cons (a : α) (w : Nat) (l : List (α × Nat)) :
    urn ((a, w) :: l) = List.replicate w a ++ urn l := rfl

@[simp] theorem urn_append (l₁ l₂ : List (α × Nat)) :
    urn (l₁ ++ l₂) = urn l₁ ++ urn l₂ := List.flatMap_append

@[simp] theorem totalWeight_nil : totalWeight ([] : List (α × Nat)) = 0 := rfl

@[simp] theorem totalWeight_cons (p : α × Nat) (l : List (α × Nat)) :
    totalWeight (p :: l) = p.2 + totalWeight l := by
  simp [totalWeight]

@[simp] theorem totalWeight_append (l₁ l₂ : List (α × Nat)) :
    totalWeight (l₁ ++ l₂) = totalWeight l₁ + totalWeight l₂ := by
  simp [totalWeight]

theorem totalWeight_perm {l₁ l₂ : List (α × Nat)} (h : l₁.Perm l₂) :
    totalWeight l₁ = totalWeight l₂ :=
  (h.map Prod.snd).sum_eq

/-- The urn has as many entries as there is weight. -/
theorem length_urn (l : List (α × Nat)) : (urn l).length = totalWeight l := by
  induction l with
  | nil => rfl
  | cons p l ih =>
      obtain ⟨a, w⟩ := p
      simp [ih]

/-- The walk reads the urn at the distance of `r` from the running total. -/
theorem walk_eq_urn (l : List (α × Nat)) :
    ∀ acc r : Nat, acc ≤ r → walk l acc r = (urn l)[r - acc]? := by
  induction l with
  | nil => intro acc r _; rfl
  | cons p l ih =>
      obtain ⟨a, w⟩ := p
      intro acc r hacc
      simp only [walk, urn_cons]
      by_cases hr : r < acc + w
      · have hlt : r - acc < w := by omega
        rw [if_pos hr, List.getElem?_append_left (by simpa using hlt),
          List.getElem?_replicate, if_pos hlt]
      · rw [if_neg hr, ih (acc + w) r (by omega),
          List.getElem?_append_right (by simp; omega), List.length_replicate]
        congr 1
        omega

/-- Walking along the weights is drawing from the urn. -/
theorem walk_zero_eq_urn (l : List (α × Nat)) (r : Nat) :
    walk l 0 r = (urn l)[r]? := walk_eq_urn l 0 r (Nat.zero_le r)

private theorem urn_perm {l₁ l₂ : List (α × Nat)} (h : l₁.Perm l₂) :
    (urn l₁).Perm (urn l₂) := h.flatMap_right _

/-- Only what has weight is in the urn. -/
theorem mem_urn {l : List (α × Nat)} {a : α} :
    a ∈ urn l ↔ ∃ w, 0 < w ∧ (a, w) ∈ l := by
  simp only [urn, List.mem_flatMap, List.mem_replicate, Prod.exists]
  constructor
  · rintro ⟨b, w, hmem, hw, rfl⟩
    exact ⟨w, Nat.pos_of_ne_zero hw, hmem⟩
  · rintro ⟨w, hw, hmem⟩
    exact ⟨a, w, hmem, hw.ne', rfl⟩

private theorem urn_map (f : α → β) (l : List (α × Nat)) :
    urn (l.map fun p => (f p.1, p.2)) = (urn l).map f := by
  induction l with
  | nil => rfl
  | cons p l ih =>
      obtain ⟨a, w⟩ := p
      simp [ih]

/-- A list in the order of a reflexive relation has its urn in that order. -/
theorem urn_pairwise {R : α → α → Prop} (hrefl : ∀ a, R a a)
    {l : List (α × Nat)} (h : l.Pairwise fun p q => R p.1 q.1) :
    (urn l).Pairwise R := by
  induction l with
  | nil => exact List.Pairwise.nil
  | cons p l ih =>
      obtain ⟨a, w⟩ := p
      obtain ⟨hp, hl⟩ := List.pairwise_cons.mp h
      rw [urn_cons, List.pairwise_append]
      refine ⟨?_, ih hl, ?_⟩
      · rw [List.pairwise_replicate]
        exact Or.inr (hrefl a)
      · intro x hx y hy
        obtain ⟨v, -, hmem⟩ := mem_urn.mp hy
        rw [List.eq_of_mem_replicate hx]
        exact hp (y, v) hmem

/-- Permuted lists in the order of one relation draw alike, as soon as the
relation is antisymmetric on the values that can be drawn. -/
theorem urn_eq_of_perm {R : α → α → Prop} (hrefl : ∀ a, R a a)
    {l₁ l₂ : List (α × Nat)} (hperm : l₁.Perm l₂)
    (h₁ : l₁.Pairwise fun p q => R p.1 q.1)
    (h₂ : l₂.Pairwise fun p q => R p.1 q.1)
    (hanti : ∀ p ∈ l₁, ∀ q ∈ l₁, 0 < p.2 → 0 < q.2 →
      R p.1 q.1 → R q.1 p.1 → p.1 = q.1) :
    urn l₁ = urn l₂ := by
  refine List.Perm.eq_of_pairwise ?_ (urn_pairwise hrefl h₁)
    (urn_pairwise hrefl h₂) (urn_perm hperm)
  intro a b ha hb hab hba
  obtain ⟨w, hw, hamem⟩ := mem_urn.mp ha
  obtain ⟨v, hv, hbmem⟩ := mem_urn.mp hb
  exact hanti (a, w) hamem (b, v) (hperm.mem_iff.mpr hbmem) hw hv hab hba

/-! ## How often a value is drawn -/

section Count

variable [DecidableEq α]

/-- The places of a list that hold a value. -/
theorem countP_range_getElem? (l : List α) (a : α) :
    (List.range l.length).countP (fun r => decide (l[r]? = some a)) = l.count a := by
  induction l with
  | nil => rfl
  | cons b l ih =>
      rw [List.length_cons, List.range_succ_eq_map, List.countP_cons, List.countP_map,
        List.count_cons]
      have htail : ((fun r => decide ((b :: l)[r]? = some a)) ∘ Nat.succ) =
          fun r => decide (l[r]? = some a) := rfl
      rw [htail, ih]
      simp

/-- Among distinct values each one is in the urn as often as its weight says. -/
theorem count_urn {l : List (α × Nat)} (hnodup : (l.map Prod.fst).Nodup) {a : α} {w : Nat}
    (h : (a, w) ∈ l) : (urn l).count a = w := by
  induction l with
  | nil => simp at h
  | cons p l ih =>
      obtain ⟨b, v⟩ := p
      rw [List.map_cons, List.nodup_cons] at hnodup
      rw [urn_cons, List.count_append, List.count_replicate]
      rcases List.mem_cons.mp h with heq | hmem
      · obtain ⟨rfl, rfl⟩ := Prod.mk.inj heq
        have hnot : a ∉ urn l := by
          intro hmem
          obtain ⟨w', -, hw'⟩ := mem_urn.mp hmem
          exact hnodup.1 (List.mem_map.mpr ⟨(a, w'), hw', rfl⟩)
        simp [List.count_eq_zero_of_not_mem hnot]
      · have hne : b ≠ a := by
          rintro rfl
          exact hnodup.1 (List.mem_map.mpr ⟨(b, w), hmem, rfl⟩)
        simp [hne, ih hnodup.2 hmem]

end Count

/-! ## Urns of stable sorts -/

section Sorted

variable {κ : Type*} [LinearOrder κ] (key : α → κ)

/-- In the urn of a stable sort a value lies behind the weights of the
smaller keys and the weights of its own key that come earlier in the input. -/
theorem urn_sortByKey_getElem (before after : List (α × Nat)) (a : α) {w : Nat}
    (hw : 0 < w) :
    (urn (sortByKey (fun p => key p.1) (before ++ (a, w) :: after)))[
        totalWeight ((before ++ (a, w) :: after).filter
            fun p => decide (key p.1 < key a)) +
          totalWeight (before.filter fun p => decide (key p.1 = key a))]? = some a := by
  obtain ⟨above, hsplit⟩ := sortByKey_split (fun p : α × Nat => key p.1)
    (before ++ (a, w) :: after) (key a)
  have hbelow : totalWeight ((sortByKey (fun p : α × Nat => key p.1)
      (before ++ (a, w) :: after)).filter fun p => decide (key p.1 < key a)) =
      totalWeight ((before ++ (a, w) :: after).filter
        fun p => decide (key p.1 < key a)) :=
    totalWeight_perm ((sortByKey_perm _ _).filter _)
  have hat : (before ++ (a, w) :: after).filter (fun p => decide (key p.1 = key a)) =
      before.filter (fun p => decide (key p.1 = key a)) ++
        (a, w) :: after.filter fun p => decide (key p.1 = key a) := by
    simp
  rw [hsplit, ← hbelow, hat, urn_append, urn_append, urn_append, urn_cons,
    List.getElem?_append_right (by rw [length_urn]; omega), length_urn,
    Nat.add_sub_cancel_left, List.append_assoc,
    List.getElem?_append_right (by rw [length_urn]), length_urn, Nat.sub_self,
    List.append_assoc, List.getElem?_append_left (by simpa using hw),
    List.getElem?_replicate, if_pos hw]

/-- Two orders of one input in which two values of one key have the same
weights before them: one number draws either of them. -/
theorem exists_draw_of_perm {before₁ after₁ before₂ after₂ : List (α × Nat)} {a b : α}
    {w v : Nat} (hw : 0 < w) (hv : 0 < v) (hkey : key a = key b)
    (hall : (before₁ ++ (a, w) :: after₁).Perm (before₂ ++ (b, v) :: after₂))
    (hbefore : before₁.Perm before₂) :
    ∃ r : Nat, (urn (sortByKey (fun p => key p.1) (before₁ ++ (a, w) :: after₁)))[r]? = some a ∧
      (urn (sortByKey (fun p => key p.1) (before₂ ++ (b, v) :: after₂)))[r]? = some b := by
  have hget := urn_sortByKey_getElem key before₂ after₂ b hv
  rw [← hkey, ← totalWeight_perm (hall.filter _), ← totalWeight_perm (hbefore.filter _)] at hget
  exact ⟨_, urn_sortByKey_getElem key before₁ after₁ a hw, hget⟩

/-- Two blocks of weighted values, each value marked with its block. -/
def tagged (l m : List (α × Nat)) : List ((Bool × α) × Nat) :=
  l.map (fun p => ((false, p.1), p.2)) ++ m.map fun p => ((true, p.1), p.2)

private theorem tagged_untag (l m : List (α × Nat)) :
    (tagged l m).map (fun p => (p.1.2, p.2)) = l ++ m := by
  simp [tagged, Function.comp_def]

private theorem mem_tagged {l m : List (α × Nat)} {t : Bool} {a : α} {w : Nat} :
    ((t, a), w) ∈ tagged l m ↔
      t = false ∧ (a, w) ∈ l ∨ t = true ∧ (a, w) ∈ m := by
  simp only [tagged, List.mem_append, List.mem_map, Prod.mk.injEq, Prod.exists]
  constructor
  · rintro (⟨a', w', hmem, ⟨rfl, rfl⟩, rfl⟩ | ⟨a', w', hmem, ⟨rfl, rfl⟩, rfl⟩)
    · exact Or.inl ⟨rfl, hmem⟩
    · exact Or.inr ⟨rfl, hmem⟩
  · rintro (⟨rfl, hmem⟩ | ⟨rfl, hmem⟩)
    · exact Or.inl ⟨a, w, hmem, ⟨rfl, rfl⟩, rfl⟩
    · exact Or.inr ⟨a, w, hmem, ⟨rfl, rfl⟩, rfl⟩

/-- The order in which a stable sort leaves marked values. -/
def KeyThenTag (p q : Bool × α) : Prop :=
  key p.2 < key q.2 ∨ key p.2 = key q.2 ∧ p.1 ≤ q.1

private theorem sortByKey_tagged_pairwise (l m : List (α × Nat)) :
    (sortByKey (fun p : (Bool × α) × Nat => key p.1.2) (tagged l m)).Pairwise
      fun p q => KeyThenTag key p.1 q.1 := by
  apply sortByKey_pairwise_lex _ (fun p : (Bool × α) × Nat => p.1.1) _
  rw [tagged, List.pairwise_append]
  refine ⟨?_, ?_, ?_⟩
  · exact List.pairwise_map.mpr (List.pairwise_of_forall fun _ _ => le_refl _)
  · exact List.pairwise_map.mpr (List.pairwise_of_forall fun _ _ => le_refl _)
  · simp

private theorem KeyThenTag.antisymm {p q : Bool × α} (hpq : KeyThenTag key p q)
    (hqp : KeyThenTag key q p) : key p.2 = key q.2 ∧ p.1 = q.1 := by
  rcases hpq with h | ⟨hkey, htag⟩
  · rcases hqp with h' | ⟨hkey, -⟩
    · exact absurd h' h.asymm
    · exact absurd h (by simp [hkey])
  · rcases hqp with h' | ⟨-, htag'⟩
    · exact absurd h' (by simp [hkey])
    · exact ⟨hkey, le_antisymm htag htag'⟩

/-- Permuting two blocks of the input separately does not change the urn of
the stable sort, when in each block the key separates the values that can be
drawn. -/
theorem urn_sortByKey_append {l₁ l₂ m₁ m₂ : List (α × Nat)}
    (hl : l₁.Perm l₂) (hm : m₁.Perm m₂)
    (hsepl : ∀ p ∈ l₁, ∀ q ∈ l₁, 0 < p.2 → 0 < q.2 → key p.1 = key q.1 → p.1 = q.1)
    (hsepm : ∀ p ∈ m₁, ∀ q ∈ m₁, 0 < p.2 → 0 < q.2 → key p.1 = key q.1 → p.1 = q.1) :
    urn (sortByKey (fun p => key p.1) (l₁ ++ m₁)) =
      urn (sortByKey (fun p => key p.1) (l₂ ++ m₂)) := by
  have hperm : (tagged l₁ m₁).Perm (tagged l₂ m₂) := (hl.map _).append (hm.map _)
  have hurn : urn (sortByKey (fun p : (Bool × α) × Nat => key p.1.2) (tagged l₁ m₁)) =
      urn (sortByKey (fun p : (Bool × α) × Nat => key p.1.2) (tagged l₂ m₂)) := by
    refine urn_eq_of_perm (R := KeyThenTag key) (fun a => Or.inr ⟨rfl, le_refl _⟩)
      (((sortByKey_perm _ _).trans hperm).trans (sortByKey_perm _ _).symm)
      (sortByKey_tagged_pairwise key l₁ m₁) (sortByKey_tagged_pairwise key l₂ m₂) ?_
    rintro ⟨⟨s, a⟩, w⟩ hp ⟨⟨t, b⟩, v⟩ hq hw hv hpq hqp
    obtain ⟨hkey, htag⟩ := hpq.antisymm key hqp
    obtain rfl : s = t := htag
    rw [(sortByKey_perm _ _).mem_iff, mem_tagged] at hp hq
    rcases hp with ⟨rfl, hp⟩ | ⟨rfl, hp⟩
    · have hq : (b, v) ∈ l₁ := by simpa using hq
      exact congrArg (Prod.mk false) (hsepl _ hp _ hq hw hv hkey)
    · have hq : (b, v) ∈ m₁ := by simpa using hq
      exact congrArg (Prod.mk true) (hsepm _ hp _ hq hw hv hkey)
  rw [← tagged_untag l₁ m₁, ← tagged_untag l₂ m₂, sortByKey_map, sortByKey_map,
    urn_map Prod.snd, urn_map Prod.snd, hurn]

end Sorted

end PartnerChains.Verified.WeightedDraw
