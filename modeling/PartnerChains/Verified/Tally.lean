import Mathlib.Tactic
import Mathlib.Data.List.AList

/-!
# Tallies

A tally of a list has one entry for each of its elements, with the number of
its occurrences; its total is the length of the list.  `Counts` is the same for
a map of 32-bit counters that are raised one at a time, which wrap around.
-/

namespace PartnerChains.Verified.Tally

variable {α : Type*} [DecidableEq α]

/-- The entries are the elements of the list with the numbers of their
occurrences. -/
structure IsTally (entries : List (α × ℕ)) (l : List α) : Prop where
  nodup : (entries.map Prod.fst).Nodup
  mem_iff : ∀ a n, (a, n) ∈ entries ↔ 0 < n ∧ n = l.count a

theorem IsTally.perm {entries entries' : List (α × ℕ)} {l : List α} (h : IsTally entries l)
    (hperm : entries.Perm entries') : IsTally entries' l where
  nodup := ((hperm.map Prod.fst).nodup_iff).mp h.nodup
  mem_iff a n := by rw [← hperm.mem_iff, h.mem_iff]

/-- A tally counts every element once. -/
theorem IsTally.total {entries : List (α × ℕ)} {l : List α} (h : IsTally entries l) :
    (entries.map Prod.snd).sum = l.length := by
  have hmem : ∀ a, a ∈ entries.map Prod.fst ↔ a ∈ l.dedup := by
    intro a
    rw [List.mem_dedup, List.mem_map]
    constructor
    · rintro ⟨⟨b, n⟩, hentry, rfl⟩
      obtain ⟨hpos, rfl⟩ := (h.mem_iff b n).mp hentry
      exact List.count_pos_iff.mp hpos
    · intro hmem
      exact ⟨(a, l.count a), (h.mem_iff a _).mpr ⟨List.count_pos_iff.mpr hmem, rfl⟩, rfl⟩
  have hperm : (entries.map Prod.fst).Perm l.dedup :=
    (List.perm_ext_iff_of_nodup h.nodup l.nodup_dedup).mpr hmem
  have hvalues : entries.map Prod.snd = (entries.map Prod.fst).map fun a => l.count a := by
    rw [List.map_map]
    apply List.map_congr_left
    rintro ⟨a, n⟩ hentry
    exact ((h.mem_iff a n).mp hentry).2
  rw [hvalues, (hperm.map _).sum_eq, List.sum_map_count_dedup_eq_length]

/-- The counters of a map are the numbers of occurrences, as 32-bit words. -/
def Counts (m : AList fun _ : α => UInt32) (l : List α) : Prop :=
  ∀ a, m.lookup a = if l.count a = 0 then none else some (UInt32.ofNat (l.count a))

theorem counts_empty : Counts (∅ : AList fun _ : α => UInt32) [] := by
  intro a
  simp

/-- One more occurrence. -/
def raise (a : α) (m : AList fun _ : α => UInt32) : AList fun _ : α => UInt32 :=
  m.insert a (((m.lookup a).map fun old => old + 1).getD 1)

/-- Raising a count counts one more element. -/
theorem Counts.raise {m : AList fun _ : α => UInt32} {l : List α} (h : Counts m l) (a : α) :
    Counts (raise a m) (a :: l) := by
  intro b
  by_cases hb : b = a
  · subst hb
    rw [Tally.raise, AList.lookup_insert, h b, List.count_cons_self, if_neg (Nat.succ_ne_zero _)]
    by_cases hzero : l.count b = 0
    · rw [if_pos hzero, hzero]
      rfl
    · rw [if_neg hzero]
      simp [UInt32.ofNat_add]
  · rw [Tally.raise, AList.lookup_insert_ne hb, h b, List.count_cons_of_ne (Ne.symm hb)]

/-- As long as no counter wraps around, the entries are a tally. -/
theorem Counts.isTally {m : AList fun _ : α => UInt32} {l : List α} (h : Counts m l)
    (hfit : ∀ a, l.count a < 2 ^ 32) :
    IsTally (m.entries.map fun entry => (entry.1, entry.2.toNat)) l where
  nodup := by
    have hkeys := m.keys_nodup
    rw [List.map_map]
    exact hkeys
  mem_iff a n := by
    have hentry : (a, n) ∈ m.entries.map (fun entry => (entry.1, entry.2.toNat)) ↔
        ∃ word, m.lookup a = some word ∧ word.toNat = n := by
      simp only [List.mem_map, Prod.mk.injEq]
      constructor
      · rintro ⟨⟨b, word⟩, hmem, rfl, rfl⟩
        exact ⟨word, AList.mem_lookup_iff.mpr hmem, rfl⟩
      · rintro ⟨word, hword, rfl⟩
        exact ⟨⟨a, word⟩, AList.mem_lookup_iff.mp hword, rfl, rfl⟩
    rw [hentry, h a]
    by_cases hzero : l.count a = 0
    · rw [if_pos hzero, hzero]
      constructor
      · rintro ⟨word, hword, -⟩
        exact nomatch hword
      · rintro ⟨hpos, rfl⟩
        exact absurd hpos (Nat.lt_irrefl 0)
    · rw [if_neg hzero]
      constructor
      · rintro ⟨word, hword, rfl⟩
        obtain rfl := Option.some.inj hword
        rw [UInt32.toNat_ofNat_of_lt' (hfit a)]
        exact ⟨Nat.pos_of_ne_zero hzero, rfl⟩
      · rintro ⟨-, rfl⟩
        exact ⟨_, rfl, UInt32.toNat_ofNat_of_lt' (hfit a)⟩

end PartnerChains.Verified.Tally
