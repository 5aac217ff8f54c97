import Mathlib.Algebra.BigOperators.Group.List.Basic
import Mathlib.Data.List.Dedup
import PartnerChains.Verified.StableSort

/-!
# Relational queries over lists of rows

The operators of a `SELECT`: inner and outer joins, grouping, sums and
ordering, over tables given as lists.  The rows of a table have no order of
their own, so a result about every list of rows is a result about every order
in which the database may visit them.

An outer join keeps a left row without partner, paired with `none`.  A
comparison with a missing value is not true; callers write it with
`Option.any`.

## Main results

* `sum_innerJoin`, `sum_leftJoin`: sums over joins are nested sums, `sum_join_comm`
  exchanges the two sides.
* `leftJoin_flatMap`: joins work row by row; `innerJoin_of_unique`, `leftJoin_of_unique`:
  along a unique column they look the partner up.
* `groupBy_flatMap`: rows produced block by block, with one key for each
  block, are grouped into these blocks.
* `filter_key_eq_singleton`: a unique column selects at most one row.
-/

namespace PartnerChains.Verified.Relational

open PartnerChains.Verified.StableSort

variable {α β γ κ : Type*}

/-- `left INNER JOIN right ON on`. -/
def innerJoin (right : List β) (on : α → β → Bool) (left : List α) : List (α × β) :=
  left.flatMap fun a => (right.filter (on a)).map fun b => (a, b)

/-- The partners of one row in an outer join. -/
def partners (matching : List β) : List (Option β) :=
  if matching.isEmpty then [none] else matching.map some

/-- `left LEFT JOIN right ON on`. -/
def leftJoin (right : List β) (on : α → β → Bool) (left : List α) : List (α × Option β) :=
  left.flatMap fun a => (partners (right.filter (on a))).map fun b => (a, b)

/-- `GROUP BY key`: the keys with their rows. -/
def groupBy [DecidableEq κ] (key : α → κ) (rows : List α) : List (κ × List α) :=
  (rows.map key).dedup.map fun k => (k, rows.filter fun r => decide (key r = k))

/-- `ORDER BY key DESC`. -/
def orderByDesc [LinearOrder κ] (key : α → κ) (rows : List α) : List α :=
  sortByKey (fun r => OrderDual.toDual (key r)) rows

@[simp] theorem partners_nil : partners ([] : List β) = [none] := rfl

@[simp] theorem partners_cons (b : β) (l : List β) :
    partners (b :: l) = (b :: l).map some := rfl

theorem partners_ne_nil (l : List β) : partners l ≠ [] := by
  cases l <;> simp

/-! ## Unique columns -/

/-- In a table with a unique column, the rows with a given value of it are at
most one. -/
theorem filter_key_eq_singleton [DecidableEq κ] {key : α → κ} {l : List α}
    (hnodup : (l.map key).Nodup) {a : α} (ha : a ∈ l) :
    l.filter (fun r => decide (key r = key a)) = [a] := by
  induction l with
  | nil => simp at ha
  | cons x l ih =>
      rw [List.map_cons, List.nodup_cons] at hnodup
      rcases List.mem_cons.mp ha with rfl | ha
      · have hnone : l.filter (fun r => decide (key r = key a)) = [] := by
          rw [List.filter_eq_nil_iff]
          intro r hr
          have hne : key r ≠ key a := by
            intro heq
            exact hnodup.1 (heq ▸ List.mem_map_of_mem hr)
          simpa using hne
        simp [hnone]
      · have hne : key x ≠ key a := by
          intro heq
          exact hnodup.1 (heq ▸ List.mem_map_of_mem ha)
        simp [hne, ih hnodup.2 ha]

/-- A key selects at most one row. -/
theorem filter_key_eq_nil_or_singleton [DecidableEq κ] {key : α → κ} {l : List α}
    (hnodup : (l.map key).Nodup) (k : κ) :
    l.filter (fun r => decide (key r = k)) = [] ∨
      ∃ a ∈ l, key a = k ∧ l.filter (fun r => decide (key r = k)) = [a] := by
  cases hfilter : l.filter (fun r => decide (key r = k)) with
  | nil => exact Or.inl rfl
  | cons a rest =>
      have hmem : a ∈ l.filter (fun r => decide (key r = k)) := by
        rw [hfilter]
        exact List.mem_cons_self
      obtain ⟨ha, hkey⟩ := List.mem_filter.mp hmem
      have hkey : key a = k := by simpa using hkey
      refine Or.inr ⟨a, ha, hkey, ?_⟩
      rw [← hfilter, ← hkey]
      exact filter_key_eq_singleton hnodup ha

/-- A condition that fixes a unique column selects at most one row. -/
theorem length_filter_le_one_of_key {key : α → κ} {l : List α} (hnodup : (l.map key).Nodup)
    {p : α → Bool} {k : κ} (hp : ∀ a ∈ l, p a = true → key a = k) :
    (l.filter p).length ≤ 1 := by
  classical
  rw [Nat.le_one_iff_eq_zero_or_eq_one, List.length_eq_zero_iff, List.length_eq_one_iff]
  have hle : (l.filter p).Sublist (l.filter fun a => decide (key a = k)) := by
    have hself : l.filter p = (l.filter p).filter fun a => decide (key a = k) := by
      symm
      rw [List.filter_eq_self]
      intro a ha
      obtain ⟨hal, hpa⟩ := List.mem_filter.mp ha
      simpa using hp a hal hpa
    rw [hself]
    exact List.filter_sublist.filter _
  rcases filter_key_eq_nil_or_singleton hnodup k with h | ⟨a, -, -, h⟩
  · rw [h] at hle
    exact Or.inl (List.sublist_nil.mp hle)
  · rw [h] at hle
    rcases List.sublist_singleton.mp hle with h | h
    · exact Or.inl h
    · exact Or.inr ⟨a, h⟩

/-- A row that is determined by its key is found. -/
theorem find?_eq_some_of_key {key : α → κ} {l : List α} (hnodup : (l.map key).Nodup)
    {p : α → Bool} {a : α} (ha : a ∈ l) (hpa : p a = true)
    (hp : ∀ b ∈ l, p b = true → key b = key a) : l.find? p = some a := by
  have hsome : (l.find? p).isSome := List.find?_isSome.mpr ⟨a, ha, hpa⟩
  obtain ⟨b, hb⟩ := Option.isSome_iff_exists.mp hsome
  have hmem := List.mem_of_find?_eq_some hb
  rw [hb, List.inj_on_of_nodup_map hnodup hmem ha (hp b hmem (List.find?_some hb))]

/-- Tables with the same selected rows. -/
theorem filter_perm_of_mem_iff {l l' : List α} (hl : l.Nodup) (hl' : l'.Nodup)
    {p : α → Bool} (h : ∀ a, p a = true → (a ∈ l ↔ a ∈ l')) :
    (l.filter p).Perm (l'.filter p) := by
  rw [List.perm_ext_iff_of_nodup (hl.filter _) (hl'.filter _)]
  intro a
  rw [List.mem_filter, List.mem_filter]
  exact and_congr_left fun hp => h a hp

/-! ## Sums -/

theorem sum_flatMap (f : α → List β) (g : β → Nat) (l : List α) :
    ((l.flatMap f).map g).sum = (l.map fun a => ((f a).map g).sum).sum := by
  induction l with
  | nil => rfl
  | cons a l ih => simp [ih]

theorem sum_filter (p : α → Bool) (f : α → Nat) (l : List α) :
    ((l.filter p).map f).sum = (l.map fun a => if p a then f a else 0).sum := by
  induction l with
  | nil => rfl
  | cons a l ih =>
      by_cases hp : p a
      · simp [hp, ih]
      · simp [hp, ih]

theorem sum_filterMap (f : α → Option Nat) (l : List α) :
    (l.filterMap f).sum = (l.map fun a => (f a).getD 0).sum := by
  induction l with
  | nil => rfl
  | cons a l ih =>
      cases hf : f a with
      | none => simp [hf, ih]
      | some x => simp [hf, ih]

/-- Summation over an inner join, row by row. -/
theorem sum_innerJoin (right : List β) (on : α → β → Bool) (left : List α)
    (f : α × β → Nat) :
    ((innerJoin right on left).map f).sum =
      (left.map fun a => ((right.filter (on a)).map fun b => f (a, b)).sum).sum := by
  rw [innerJoin, sum_flatMap]
  simp only [List.map_map, Function.comp_def]

/-- A left row without partner counts nothing when `f` does not see missing
partners. -/
theorem sum_leftJoin (right : List β) (on : α → β → Bool) (left : List α)
    (f : α × Option β → Nat) (hnone : ∀ a, f (a, none) = 0) :
    ((leftJoin right on left).map f).sum =
      (left.map fun a => ((right.filter (on a)).map fun b => f (a, some b)).sum).sum := by
  rw [leftJoin, sum_flatMap]
  congr 1
  apply List.map_congr_left
  intro a _
  cases right.filter (on a) with
  | nil => simp [hnone]
  | cons b l => simp [Function.comp_def]

/-- An outer join with at most one partner for each row does not change a sum
over the left rows. -/
theorem sum_leftJoin_of_unique (right : List β) (on : α → β → Bool) (left : List α)
    (f : α → Nat) (hunique : ∀ a ∈ left, (right.filter (on a)).length ≤ 1) :
    ((leftJoin right on left).map fun p => f p.1).sum = (left.map f).sum := by
  rw [leftJoin, sum_flatMap]
  congr 1
  apply List.map_congr_left
  intro a ha
  have hle := hunique a ha
  cases hmatch : right.filter (on a) with
  | nil => simp
  | cons b l =>
      rw [hmatch] at hle
      have hl : l = [] := by simpa using hle
      simp [hl]

/-- Summing over matching pairs does not depend on the side one starts
from. -/
theorem sum_join_comm (left : List α) (right : List β) (on : α → β → Bool)
    (f : α → β → Nat) :
    (left.map fun a => ((right.filter (on a)).map fun b => f a b).sum).sum =
      (right.map fun b => ((left.filter fun a => on a b).map fun a => f a b).sum).sum := by
  induction left with
  | nil => simp
  | cons a left ih =>
      have hsplit : ∀ b, (((a :: left).filter fun a => on a b).map fun a => f a b).sum =
          (if on a b then f a b else 0) +
            ((left.filter fun a => on a b).map fun a => f a b).sum := by
        intro b
        by_cases hon : on a b
        · simp [hon]
        · simp [hon]
      simp only [List.map_cons, List.sum_cons, ih, hsplit, List.sum_map_add]
      rw [sum_filter]

/-- When every right row has at most one partner, it is counted at most
once. -/
theorem sum_join_le (left : List α) (right : List β) (on : α → β → Bool) (f : β → Nat)
    (hunique : ∀ b, (left.filter fun a => on a b).length ≤ 1) :
    (left.map fun a => ((right.filter (on a)).map f).sum).sum ≤ (right.map f).sum := by
  rw [sum_join_comm left right on fun _ b => f b]
  apply List.sum_le_sum
  intro b _
  have hle := hunique b
  calc ((left.filter fun a => on a b).map fun _ => f b).sum
      = (left.filter fun a => on a b).length * f b := by simp
    _ ≤ 1 * f b := Nat.mul_le_mul_right _ hle
    _ = f b := Nat.one_mul _

/-! ## Joins row by row -/

/-- The rows of an inner join are the pairs that match. -/
theorem mem_innerJoin {right : List β} {on : α → β → Bool} {left : List α} {p : α × β} :
    p ∈ innerJoin right on left ↔ p.1 ∈ left ∧ p.2 ∈ right ∧ on p.1 p.2 = true := by
  simp only [innerJoin, List.mem_flatMap, List.mem_map, List.mem_filter]
  constructor
  · rintro ⟨a, ha, b, hb, rfl⟩
    exact ⟨ha, hb⟩
  · rintro ⟨ha, hb⟩
    exact ⟨p.1, ha, p.2, hb, rfl⟩

theorem leftJoin_flatMap (right : List β) (on : α → β → Bool) (f : γ → List α)
    (l : List γ) :
    leftJoin right on (l.flatMap f) = l.flatMap fun c => leftJoin right on (f c) :=
  List.flatMap_assoc

/-- A left join treats each row on its own. -/
theorem leftJoin_eq_flatMap (right : List β) (on : α → β → Bool) (left : List α) :
    leftJoin right on left = left.flatMap fun a => leftJoin right on [a] := by
  simp [leftJoin]

theorem filter_eq_toList_find? {p : β → Bool} {l : List β} (h : (l.filter p).length ≤ 1) :
    l.filter p = (l.find? p).toList := by
  rw [← List.head?_filter]
  cases hfilter : l.filter p with
  | nil => rfl
  | cons b rest =>
      rw [hfilter] at h
      cases rest with
      | nil => rfl
      | cons c rest => simp at h

/-- A join along a unique column looks the partner up. -/
theorem innerJoin_of_unique {right : List β} {on : α → β → Bool} {left : List α}
    (h : ∀ a ∈ left, (right.filter (on a)).length ≤ 1) :
    innerJoin right on left =
      left.filterMap fun a => (right.find? (on a)).map fun b => (a, b) := by
  induction left with
  | nil => rfl
  | cons a left ih =>
      rw [innerJoin, List.flatMap_cons, filter_eq_toList_find? (h a List.mem_cons_self)]
      have ih := ih fun b hb => h b (List.mem_cons_of_mem _ hb)
      rw [innerJoin] at ih
      rw [ih, List.filterMap_cons]
      cases right.find? (on a) <;> rfl

/-- With at most one partner a left join adds a column. -/
theorem leftJoin_of_unique {right : List β} {on : α → β → Bool} {left : List α}
    (h : ∀ a ∈ left, (right.filter (on a)).length ≤ 1) :
    leftJoin right on left = left.map fun a => (a, right.find? (on a)) := by
  induction left with
  | nil => rfl
  | cons a left ih =>
      rw [leftJoin, List.flatMap_cons, filter_eq_toList_find? (h a List.mem_cons_self)]
      have ih := ih fun b hb => h b (List.mem_cons_of_mem _ hb)
      rw [leftJoin] at ih
      rw [ih, List.map_cons]
      cases right.find? (on a) <;> rfl

theorem leftJoin_ne_nil (right : List β) (on : α → β → Bool) {left : List α}
    (h : left ≠ []) : leftJoin right on left ≠ [] := by
  cases left with
  | nil => exact absurd rfl h
  | cons a left =>
      intro hnil
      simp only [leftJoin, List.flatMap_cons, List.append_eq_nil_iff, List.map_eq_nil_iff] at hnil
      exact partners_ne_nil _ hnil.1

theorem fst_mem_of_mem_leftJoin {right : List β} {on : α → β → Bool} {left : List α}
    {r : α × Option β} (h : r ∈ leftJoin right on left) : r.1 ∈ left := by
  obtain ⟨a, ha, hr⟩ := List.mem_flatMap.mp h
  obtain ⟨b, -, rfl⟩ := List.mem_map.mp hr
  exact ha

/-- A condition on the block that produced a row selects blocks. -/
theorem filter_flatMap_of_forall {p : α → Bool} {q : γ → Bool} {rows : γ → List α}
    {l : List γ} (h : ∀ c ∈ l, ∀ r ∈ rows c, p r = q c) :
    (l.flatMap rows).filter p = (l.filter q).flatMap rows := by
  induction l with
  | nil => rfl
  | cons c l ih =>
      have hhead := h c List.mem_cons_self
      rw [List.flatMap_cons, List.filter_append,
        ih fun d hd => h d (List.mem_cons_of_mem _ hd)]
      by_cases hq : q c
      · rw [List.filter_cons_of_pos hq, List.flatMap_cons, List.filter_eq_self.mpr]
        intro r hr
        rw [hhead r hr, hq]
      · rw [List.filter_cons_of_neg hq, List.filter_eq_nil_iff.mpr, List.nil_append]
        intro r hr
        rw [hhead r hr]
        exact hq

/-! ## Grouping -/

private theorem dedup_replicate_append [DecidableEq κ] {k : κ} {n : Nat} (hn : n ≠ 0) {l : List κ}
    (hk : k ∉ l) : (List.replicate n k ++ l).dedup = k :: l.dedup := by
  obtain ⟨m, rfl⟩ := Nat.exists_eq_succ_of_ne_zero hn
  clear hn
  induction m with
  | zero => simp [hk]
  | succ m ih =>
      rw [List.replicate_succ, List.cons_append, List.dedup_cons_of_mem (by simp), ih]

section Blocks

variable [DecidableEq κ] {key : α → κ} {blockKey : γ → κ} {rows : γ → List α} {l : List γ}

/-- The keys of rows produced block by block, each once. -/
theorem dedup_map_key_flatMap (hne : ∀ c ∈ l, rows c ≠ [])
    (hkey : ∀ c ∈ l, ∀ r ∈ rows c, key r = blockKey c) (hnodup : (l.map blockKey).Nodup) :
    ((l.flatMap rows).map key).dedup = l.map blockKey := by
  induction l with
  | nil => rfl
  | cons c l ih =>
      rw [List.map_cons, List.nodup_cons] at hnodup
      have hconst : (rows c).map key = List.replicate (rows c).length (blockKey c) := by
        rw [List.eq_replicate_iff]
        refine ⟨by simp, ?_⟩
        intro k hk
        obtain ⟨r, hr, rfl⟩ := List.mem_map.mp hk
        exact hkey c List.mem_cons_self r hr
      have hrest : blockKey c ∉ (l.flatMap rows).map key := by
        intro hmem
        obtain ⟨r, hr, hrkey⟩ := List.mem_map.mp hmem
        obtain ⟨d, hd, hrd⟩ := List.mem_flatMap.mp hr
        rw [hkey d (List.mem_cons_of_mem _ hd) r hrd] at hrkey
        exact hnodup.1 (hrkey ▸ List.mem_map_of_mem hd)
      have hlength : (rows c).length ≠ 0 := by
        simpa using hne c List.mem_cons_self
      rw [List.flatMap_cons, List.map_append, hconst, dedup_replicate_append hlength hrest,
        ih (fun d hd => hne d (List.mem_cons_of_mem _ hd))
          (fun d hd => hkey d (List.mem_cons_of_mem _ hd)) hnodup.2, List.map_cons]

/-- The rows with a block's key are the rows of the block. -/
theorem filter_key_flatMap (hkey : ∀ c ∈ l, ∀ r ∈ rows c, key r = blockKey c)
    (hnodup : (l.map blockKey).Nodup) {c : γ} (hc : c ∈ l) :
    (l.flatMap rows).filter (fun r => decide (key r = blockKey c)) = rows c := by
  have hblocks : ∀ d ∈ l, ∀ r ∈ rows d,
      decide (key r = blockKey c) = decide (blockKey d = blockKey c) := by
    intro d hd r hr
    rw [hkey d hd r hr]
  rw [filter_flatMap_of_forall hblocks, filter_key_eq_singleton hnodup hc]
  exact List.flatMap_singleton rows c

variable (key blockKey rows) in
/-- Rows produced block by block, each block with a key of its own, are
grouped into the blocks. -/
theorem groupBy_flatMap (hne : ∀ c ∈ l, rows c ≠ [])
    (hkey : ∀ c ∈ l, ∀ r ∈ rows c, key r = blockKey c) (hnodup : (l.map blockKey).Nodup) :
    groupBy key (l.flatMap rows) = l.map fun c => (blockKey c, rows c) := by
  rw [groupBy, dedup_map_key_flatMap hne hkey hnodup, List.map_map]
  apply List.map_congr_left
  intro c hc
  show (blockKey c, _) = (blockKey c, rows c)
  rw [filter_key_flatMap hkey hnodup hc]

end Blocks

/-! ## Ordering -/

/-- Rows that are in order stay as they are. -/
theorem orderByDesc_of_pairwise [LinearOrder κ] {key : α → κ} {rows : List α}
    (h : rows.Pairwise fun a b => key b ≤ key a) : orderByDesc key rows = rows := by
  apply List.mergeSort_of_pairwise
  exact h.imp fun hle => decide_eq_true hle

/-- `ORDER BY key DESC LIMIT 1` is a row with the greatest key. -/
theorem head?_orderByDesc [LinearOrder κ] {key : α → κ} {rows : List α} {r : α}
    (h : (orderByDesc key rows).head? = some r) :
    r ∈ rows ∧ ∀ s ∈ rows, key s ≤ key r := by
  have hperm : (orderByDesc key rows).Perm rows := sortByKey_perm _ rows
  refine ⟨hperm.mem_iff.mp (List.mem_of_head? h), ?_⟩
  intro s hs
  obtain ⟨rest, hrest⟩ := List.head?_eq_some_iff.mp h
  have hpair : (orderByDesc key rows).Pairwise fun a b =>
      OrderDual.toDual (key a) ≤ OrderDual.toDual (key b) := sortByKey_pairwise _ rows
  rw [hrest, List.pairwise_cons] at hpair
  rcases List.mem_cons.mp (hrest ▸ hperm.mem_iff.mpr hs) with rfl | hmem
  · exact le_refl _
  · exact hpair.1 s hmem

/-- Sorting loses no row. -/
theorem head?_orderByDesc_eq_none [LinearOrder κ] {key : α → κ} {rows : List α} :
    (orderByDesc key rows).head? = none ↔ rows = [] := by
  have hperm : (orderByDesc key rows).Perm rows := sortByKey_perm _ rows
  rw [List.head?_eq_none_iff]
  exact ⟨fun h => by simpa [h] using hperm, fun h => by simpa [h] using hperm⟩

end PartnerChains.Verified.Relational
