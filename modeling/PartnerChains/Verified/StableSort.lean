import Mathlib.Data.List.Sort
import Mathlib.Tactic

/-!
# Stable sorting by a key

`List.mergeSort` is stable.  Read through a key function this says that the
sorted list splits at every key `k` into three parts: the elements below `k`,
the elements at `k` in the order of the input, and the elements above `k`.
The lemmas below state this split and what it gives for inputs that are
themselves the concatenation of two lists.
-/

namespace PartnerChains.Verified.StableSort

variable {α κ : Type*} [LinearOrder κ] (key : α → κ)

/-- Stable sort by `key`. -/
def sortByKey (l : List α) : List α :=
  l.mergeSort fun a b => decide (key a ≤ key b)

theorem sortByKey_perm (l : List α) : (sortByKey key l).Perm l :=
  List.mergeSort_perm l _

theorem sortByKey_pairwise (l : List α) :
    (sortByKey key l).Pairwise fun a b => key a ≤ key b := by
  have h := @List.pairwise_mergeSort α (fun a b => decide (key a ≤ key b))
    (by
      intro a b c hab hbc
      simp only [decide_eq_true_eq] at hab hbc ⊢
      exact hab.trans hbc)
    (by
      intro a b
      simpa using le_total (key a) (key b)) l
  exact h.imp (by simp)

/-- With distinct keys the order of the input does not matter. -/
theorem sortByKey_eq_of_perm (hinj : Function.Injective key) {l l' : List α} (h : l.Perm l') :
    sortByKey key l = sortByKey key l' := by
  refine List.Perm.eq_of_pairwise ?_ (sortByKey_pairwise key l) (sortByKey_pairwise key l') ?_
  · exact fun a b _ _ hab hba => hinj (le_antisymm hab hba)
  · exact ((sortByKey_perm key l).trans h).trans (sortByKey_perm key l').symm

/-- Stability: the elements with one key keep their order. -/
theorem filter_sortByKey (l : List α) (k : κ) :
    (sortByKey key l).filter (fun a => decide (key a = k)) =
      l.filter (fun a => decide (key a = k)) := by
  have hpair : (l.filter fun a => decide (key a = k)).Pairwise
      fun a b => decide (key a ≤ key b) = true := by
    apply List.pairwise_of_forall_mem_list
    intro a ha b hb
    simp only [List.mem_filter, decide_eq_true_eq] at ha hb
    simp [ha.2, hb.2]
  have hsub : (l.filter fun a => decide (key a = k)).Sublist (sortByKey key l) :=
    List.sublist_mergeSort
      (by
        intro a b c hab hbc
        simp only [decide_eq_true_eq] at hab hbc ⊢
        exact hab.trans hbc)
      (by
        intro a b
        simpa using le_total (key a) (key b))
      hpair List.filter_sublist
  have hfilter := hsub.filter fun a => decide (key a = k)
  rw [List.filter_filter] at hfilter
  simp only [Bool.and_self] at hfilter
  refine (hfilter.eq_of_length ?_).symm
  exact ((sortByKey_perm key l).filter _).length_eq.symm

/-- A list sorted by key is the part below `k`, the part at `k` and the part
above `k`. -/
theorem split_of_pairwise (k : κ) {l : List α}
    (h : l.Pairwise fun a b => key a ≤ key b) :
    l = l.filter (fun a => decide (key a < k)) ++
      (l.filter (fun a => decide (key a = k)) ++
        l.filter (fun a => decide (k < key a))) := by
  induction l with
  | nil => rfl
  | cons x xs ih =>
      obtain ⟨hx, hxs⟩ := List.pairwise_cons.mp h
      have hih := ih hxs
      rcases lt_trichotomy (key x) k with hlt | heq | hgt
      · have hne : key x ≠ k := ne_of_lt hlt
        have hng : ¬ k < key x := not_lt.mpr hlt.le
        simp only [List.filter_cons, hlt, hne, hng, decide_true, decide_false,
          if_true, Bool.false_eq_true, if_false, List.cons_append]
        exact congrArg _ hih
      · have hbelow : xs.filter (fun a => decide (key a < k)) = [] := by
          rw [List.filter_eq_nil_iff]
          intro a ha
          have := hx a ha
          simpa using heq ▸ this
        rw [hbelow, List.nil_append] at hih
        simp only [List.filter_cons, heq, lt_irrefl, decide_true, decide_false,
          if_true, Bool.false_eq_true, if_false, hbelow, List.nil_append,
          List.cons_append]
        exact congrArg _ hih
      · have hnone : ∀ a ∈ x :: xs, k < key a := by
          intro a ha
          rcases List.mem_cons.mp ha with rfl | ha
          · exact hgt
          · exact lt_of_lt_of_le hgt (hx a ha)
        have hbelow : (x :: xs).filter (fun a => decide (key a < k)) = [] := by
          rw [List.filter_eq_nil_iff]
          intro a ha
          simpa using (hnone a ha).le
        have hat : (x :: xs).filter (fun a => decide (key a = k)) = [] := by
          rw [List.filter_eq_nil_iff]
          intro a ha
          simpa using (hnone a ha).ne'
        have habove : (x :: xs).filter (fun a => decide (k < key a)) = x :: xs := by
          rw [List.filter_eq_self]
          intro a ha
          simpa using hnone a ha
        rw [hbelow, hat, habove, List.nil_append, List.nil_append]

/-- The split of a stable sort at `k`: the middle part is read off the
input. -/
theorem sortByKey_split (l : List α) (k : κ) :
    ∃ above, sortByKey key l =
      (sortByKey key l).filter (fun a => decide (key a < k)) ++
        (l.filter (fun a => decide (key a = k)) ++ above) := by
  refine ⟨(sortByKey key l).filter fun a => decide (k < key a), ?_⟩
  have h := split_of_pairwise key k (sortByKey_pairwise key l)
  rw [filter_sortByKey] at h
  exact h

/-- A second key that does not decrease along the input breaks the ties of
the first one in the sorted list. -/
theorem sortByKey_pairwise_lex {τ : Type*} [LinearOrder τ] (tag : α → τ)
    (l : List α) (htag : l.Pairwise fun a b => tag a ≤ tag b) :
    (sortByKey key l).Pairwise fun a b =>
      key a < key b ∨ key a = key b ∧ tag a ≤ tag b := by
  rw [List.pairwise_iff_forall_sublist]
  intro a b hab
  have hle : key a ≤ key b :=
    List.pairwise_iff_forall_sublist.mp (sortByKey_pairwise key l) hab
  rcases hle.lt_or_eq with hlt | heq
  · exact Or.inl hlt
  · refine Or.inr ⟨heq, ?_⟩
    have hfilter := hab.filter fun c => decide (key c = key b)
    rw [filter_sortByKey] at hfilter
    simp only [List.filter_cons, heq, decide_true, if_true,
      List.filter_nil] at hfilter
    have hsub : [a, b].Sublist l := hfilter.trans List.filter_sublist
    exact List.pairwise_iff_forall_sublist.mp htag hsub

theorem sortByKey_map {β : Type*} (f : β → α) (l : List β) :
    sortByKey key (l.map f) = (sortByKey (fun b => key (f b)) l).map f :=
  (List.map_mergeSort (by intros; rfl)).symm

/-! ## Positions -/

/-- The positions of the input, in the order of the sorted list. -/
def sortPositions (l : List α) : List Nat :=
  (sortByKey (fun p : α × Nat => key p.1) l.zipIdx).map Prod.snd

theorem sortPositions_perm (l : List α) :
    (sortPositions key l).Perm (List.range l.length) := by
  have h := (sortByKey_perm (fun p : α × Nat => key p.1) l.zipIdx).map Prod.snd
  rwa [List.zipIdx_map_snd, ← List.range_eq_range'] at h

/-- The sorted list has at each place what the input has at its position. -/
theorem getElem?_sortByKey (l : List α) (j : Nat) :
    (sortByKey key l)[j]? = (sortPositions key l)[j]?.bind fun i => l[i]? := by
  have hmap : sortByKey key l =
      (sortByKey (fun p : α × Nat => key p.1) l.zipIdx).map Prod.fst := by
    rw [← sortByKey_map key Prod.fst, List.zipIdx_map_fst]
  rw [hmap, sortPositions, List.getElem?_map, List.getElem?_map]
  cases hj : (sortByKey (fun p : α × Nat => key p.1) l.zipIdx)[j]? with
  | none => rfl
  | some p =>
      have hmem := (sortByKey_perm _ _).mem_iff.mp (List.mem_of_getElem? hj)
      simpa using (List.mem_zipIdx_iff_getElem?.mp hmem).symm

/-! ## Lists without ties -/

/-- Without ties the sorted list is strictly increasing. -/
theorem sortByKey_pairwise_lt (l : List α) (hnodup : (l.map key).Nodup) :
    (sortByKey key l).Pairwise fun a b => key a < key b := by
  have hsorted : ((sortByKey key l).map key).Pairwise (· ≤ ·) :=
    List.pairwise_map.mpr (sortByKey_pairwise key l)
  have hdistinct : ((sortByKey key l).map key).Pairwise (· ≠ ·) :=
    ((sortByKey_perm key l).map key).nodup_iff.mpr hnodup
  have hboth := hsorted.and hdistinct
  rw [List.pairwise_map] at hboth
  exact hboth.imp fun h => lt_of_le_of_ne h.1 h.2

/-- A strictly increasing list around one of its elements. -/
theorem split_at_mem {l : List α} (h : l.Pairwise fun a b => key a < key b) {a : α}
    (ha : a ∈ l) :
    l = l.filter (fun b => decide (key b < key a)) ++
      a :: l.filter (fun b => decide (key a < key b)) := by
  induction l with
  | nil => simp at ha
  | cons x xs ih =>
      obtain ⟨hx, hxs⟩ := List.pairwise_cons.mp h
      rcases List.mem_cons.mp ha with rfl | ha
      · have hbelow : xs.filter (fun b => decide (key b < key a)) = [] := by
          rw [List.filter_eq_nil_iff]
          intro b hb
          simpa using (hx b hb).le
        have habove : xs.filter (fun b => decide (key a < key b)) = xs := by
          rw [List.filter_eq_self]
          intro b hb
          simpa using hx b hb
        simp [hbelow, habove]
      · have hlt := hx a ha
        have hih := ih hxs ha
        simp only [List.filter_cons, hlt, hlt.asymm, decide_true, decide_false, if_true,
          Bool.false_eq_true, if_false, List.cons_append]
        exact congrArg _ hih

/-- In a sorted list the position of an element is the number of smaller ones. -/
theorem findIdx?_eq_length_filter {l : List α} (h : l.Pairwise fun a b => key a < key b)
    {a : α} (ha : a ∈ l) {p : α → Bool} (hp : ∀ b ∈ l, (p b = true ↔ b = a)) :
    l.findIdx? p = some (l.filter fun b => decide (key b < key a)).length := by
  have hbelow : (l.filter fun b => decide (key b < key a)).findIdx? p = none := by
    rw [List.findIdx?_eq_none_iff]
    intro b hb
    obtain ⟨hbl, hlt⟩ := List.mem_filter.mp hb
    refine Bool.eq_false_iff.mpr fun hpb => ?_
    have heq := (hp b hbl).mp hpb
    subst heq
    simp at hlt
  conv_lhs => rw [split_at_mem key h ha]
  rw [List.findIdx?_append, hbelow, List.findIdx?_cons, if_pos ((hp a ha).mpr rfl)]
  simp

/-- The elements up to and including `a`. -/
theorem take_length_filter {l : List α} (h : l.Pairwise fun a b => key a < key b) {a : α}
    (ha : a ∈ l) :
    l.take ((l.filter fun b => decide (key b < key a)).length + 1) =
      l.filter fun b => decide (key b ≤ key a) := by
  have hsplit := split_at_mem key h ha
  have htake := congrArg
    (List.take ((l.filter fun b => decide (key b < key a)).length + 1)) hsplit
  have hfilter := congrArg (List.filter fun b => decide (key b ≤ key a)) hsplit
  have hbelow : (l.filter fun b => decide (key b < key a)).filter
      (fun b => decide (key b ≤ key a)) = l.filter fun b => decide (key b < key a) := by
    rw [List.filter_eq_self]
    intro b hb
    simpa using (of_decide_eq_true (List.mem_filter.mp hb).2).le
  have habove : (l.filter fun b => decide (key a < key b)).filter
      (fun b => decide (key b ≤ key a)) = [] := by
    rw [List.filter_eq_nil_iff]
    intro b hb
    simpa using of_decide_eq_true (List.mem_filter.mp hb).2
  rw [List.append_cons, List.take_left' (by simp)] at htake
  rw [List.filter_append, hbelow, List.filter_cons_of_pos (by simp), habove] at hfilter
  rw [htake, hfilter]

/-- The elements after `a`. -/
theorem drop_length_filter {l : List α} (h : l.Pairwise fun a b => key a < key b) {a : α}
    (ha : a ∈ l) :
    l.drop ((l.filter fun b => decide (key b < key a)).length + 1) =
      l.filter fun b => decide (key a < key b) := by
  have hdrop := congrArg
    (List.drop ((l.filter fun b => decide (key b < key a)).length + 1)) (split_at_mem key h ha)
  rw [List.append_cons, List.drop_left' (by simp)] at hdrop
  exact hdrop

/-- The part of a strictly increasing list between two of its elements, cut
out by their positions. -/
theorem slice_between {l : List α} (h : l.Pairwise fun a b => key a < key b) {a b : α}
    (ha : a ∈ l) (hb : b ∈ l) (hab : key a < key b) :
    (l.drop ((l.filter fun x => decide (key x < key a)).length + 1)).take
        ((l.filter fun x => decide (key x < key b)).length -
          (l.filter fun x => decide (key x < key a)).length) =
      l.filter fun x => decide (key a < key x) && decide (key x ≤ key b) := by
  have hbelow : (l.filter fun x => decide (key x ≤ key b)).filter
      (fun x => decide (key x < key a)) = l.filter fun x => decide (key x < key a) := by
    rw [List.filter_filter]
    apply List.filter_congr
    intro x _
    by_cases hx : key x < key a
    · simp [hx, (hx.trans hab).le]
    · simp [hx]
  have hdrop := drop_length_filter key (h.sublist (List.filter_sublist
    (p := fun x => decide (key x ≤ key b)))) (a := a)
    (List.mem_filter.mpr ⟨ha, by simpa using hab.le⟩)
  rw [hbelow, ← take_length_filter key h hb, List.drop_take, take_length_filter key h hb,
    Nat.add_sub_add_right, List.filter_filter] at hdrop
  exact hdrop

end PartnerChains.Verified.StableSort
