import PartnerChains.Ports.EpochCommittee

/-!
# What the block search finds

On a chain whose slots increase, each strategy finds what it is for, whenever it
is there.  The comparisons of the two strategies for a last block are not
monotone functions of the block, and the one after the best block cannot be
compared; it is enough that no comparison leads away from the block in question
(`Targets`).

Numbers start with 1.  The genesis block is never found, which
`genesisEpoch_not_found` shows for an epoch of its own.
-/

namespace PartnerChains.Ports.BlockSearchResults

open PartnerChains.Ports.SessionPallet
open PartnerChains.Ports.CommitteeRun
open PartnerChains.Ports.BlockSearch
open PartnerChains.Ports.EpochCommittee
open PartnerChains.Verified.BinarySearch
open PartnerChains.Verified.Fallible

/-! ## Searching -/

section Search

variable {compareBlock : UInt32 → Except ApiError Ordering} {bestNumber : UInt32}

/-- The search is for the block `t`. -/
structure Targets (compareBlock : UInt32 → Except ApiError Ordering) (bestNumber t : UInt32) :
    Prop where
  one_le : 1 ≤ t
  le_best : t ≤ bestNumber
  eq : compareBlock t = .ok .eq
  below : ∀ m, 1 ≤ m → m < t → compareBlock m = .ok .lt ∨ compareBlock m = .ok .eq
  above : ∀ m, t < m → m ≤ bestNumber → compareBlock m = .ok .gt ∨ compareBlock m = .ok .eq

/-- With the bound as a number, for `omega`. -/
theorem toNat_ofNat_of_lt {n : Nat} (h : n < 2 ^ 32) : (UInt32.ofNat n).toNat = n :=
  UInt32.toNat_ofNat_of_lt' h

/-- A target of the comparison is one of the search over numbers. -/
theorem Targets.around {t : UInt32} (h : Targets compareBlock bestNumber t) :
    Around (comparison compareBlock) 1 (bestNumber.toNat + 1) t.toNat where
  lt_bound := Nat.lt_succ_of_le (UInt32.le_iff_toNat_le.mp h.le_best)
  eq := by
    rw [comparison_toNat, h.eq]
    rfl
  below m hm hmt := by
    have hword := t.toNat_lt
    have htoNat : (UInt32.ofNat m).toNat = m := toNat_ofNat_of_lt (by omega)
    have hcases := h.below (UInt32.ofNat m) (UInt32.le_iff_toNat_le.mpr (by rwa [htoNat]))
      (UInt32.lt_iff_toNat_lt.mpr (by rwa [htoNat]))
    rcases hcases with hf | hf
    · exact .inl (by rw [comparison, hf]; rfl)
    · exact .inr (by rw [comparison, hf]; rfl)
  above m htm hm := by
    have hword := bestNumber.toNat_lt
    have htoNat : (UInt32.ofNat m).toNat = m := toNat_ofNat_of_lt (by omega)
    have hcases := h.above (UInt32.ofNat m) (UInt32.lt_iff_toNat_lt.mpr (by rwa [htoNat]))
      (UInt32.le_iff_toNat_le.mpr (by rw [htoNat]; omega))
    rcases hcases with hf | hf
    · exact .inl (by rw [comparison, hf]; rfl)
    · exact .inr (by rw [comparison, hf]; rfl)

/-- The search over words is the one over numbers. -/
theorem findBlockNumber_eq (hbest : bestNumber.toNat < 2 ^ 31 - 1) :
    findBlockNumber bestNumber compareBlock =
      ((search (comparison compareBlock) 1 (bestNumber.toNat + 2)).map UInt32.ofNat).elim
        (.error (.application "Could not find block number")) .ok :=
  Except.ok.inj ((findBlockNumberChecked_ok hbest compareBlock).symm.trans
    (findBlockNumberChecked_eq hbest compareBlock))

private theorem findBlockNumber_of_targets (hbest : bestNumber.toNat < 2 ^ 31 - 1) {t : UInt32}
    (ht : Targets compareBlock bestNumber t) :
    ∃ number, findBlockNumber bestNumber compareBlock = .ok number := by
  have hone := UInt32.le_iff_toNat_le.mp ht.one_le
  have hle := UInt32.le_iff_toNat_le.mp ht.le_best
  have hsome := search_isSome ht.around (Nat.le_refl 1) hone
    (Nat.lt_of_le_of_lt hle (by omega)) (Nat.le_refl (bestNumber.toNat + 2))
  obtain ⟨number, hnumber⟩ := Option.isSome_iff_exists.mp hsome
  rw [findBlockNumber_eq hbest, hnumber]
  exact ⟨UInt32.ofNat number, rfl⟩

private theorem one_le_of_findBlockNumber (hbest : bestNumber.toNat < 2 ^ 31 - 1) {number : UInt32}
    (h : findBlockNumber bestNumber compareBlock = .ok number) : 1 ≤ number := by
  rw [findBlockNumber_eq hbest] at h
  cases hsearch : search (comparison compareBlock) 1 (bestNumber.toNat + 2) with
  | none => simp [hsearch] at h
  | some n =>
      rw [hsearch] at h
      obtain rfl : UInt32.ofNat n = number := Except.ok.inj h
      obtain ⟨hone, hlt, -⟩ := search_eq_some hsearch
      rw [UInt32.le_iff_toNat_le, toNat_ofNat_of_lt (by omega)]
      exact hone

/-- If there is something to find, a wanted block is returned; otherwise the
result is an error. -/
def FindsWhen (result : Except ApiError UInt32) (Present : Prop) (Wanted : UInt32 → Prop) : Prop :=
  (Present → ∃ number, result = .ok number ∧ Wanted number) ∧
    (¬ Present → ∃ e, result = .error e)

/-- The search finds a block exactly when there is one, if each comparison of
`.eq` is right and each present block is a target. -/
theorem finds_of_targets (hbest : bestNumber.toNat < 2 ^ 31 - 1) {Present : Prop}
    {Wanted : UInt32 → Prop}
    (sound : ∀ number, 1 ≤ number → compareBlock number = .ok .eq → Present ∧ Wanted number)
    (complete : Present → ∃ t, Targets compareBlock bestNumber t) :
    FindsWhen (findBlockNumber bestNumber compareBlock) Present Wanted := by
  have hsound : ∀ number, findBlockNumber bestNumber compareBlock = .ok number →
      Present ∧ Wanted number := by
    intro number h
    exact sound number (one_le_of_findBlockNumber hbest h) (findBlockNumber_eq_ok h)
  constructor
  · intro hpresent
    obtain ⟨t, ht⟩ := complete hpresent
    obtain ⟨number, hnumber⟩ := findBlockNumber_of_targets hbest ht
    exact ⟨number, hnumber, (hsound number hnumber).2⟩
  · intro habsent
    cases hresult : findBlockNumber bestNumber compareBlock with
    | error e => exact ⟨e, rfl⟩
    | ok number => exact absurd (hsound number hresult).1 habsent

end Search

/-! ## Any block and the last one -/

/-- The last number with a property. -/
def IsLast (P : UInt32 → Prop) (n : UInt32) : Prop := P n ∧ ∀ m, P m → m ≤ n

/-- A property of some word has a last one. -/
theorem exists_isLast {P : UInt32 → Prop} (h : ∃ n, P n) : ∃ n, IsLast P n := by
  have hfinite : Set.Finite (Set.ofPred P) :=
    Set.Finite.of_finite_image (Set.Finite.subset (Set.finite_Iio (2 ^ 32)) (by
      rintro _ ⟨n, -, rfl⟩
      exact n.toNat_lt)) fun m _ n _ heq => UInt32.toNat_inj.mp heq
  obtain ⟨n, hn, hmax⟩ := Set.exists_max_image (Set.ofPred P) UInt32.toNat hfinite h
  exact ⟨n, hn, fun m hm => UInt32.le_iff_toNat_le.mpr (hmax m hm)⟩

theorem isLast_congr {P Q : UInt32 → Prop} (h : ∀ n, P n ↔ Q n) (n : UInt32) :
    IsLast P n ↔ IsLast Q n := by
  simp only [IsLast, h]

section Strategies

/-- The comparisons of a strategy for any block of a kind, around each of them. -/
structure Sorted (any : UInt32 → Except ApiError Ordering) (bestNumber : UInt32) : Prop where
  le_best : ∀ n, any n = .ok .eq → n ≤ bestNumber
  below : ∀ m t, 1 ≤ m → m < t → any t = .ok .eq → any m = .ok .lt ∨ any m = .ok .eq
  above : ∀ t m, 1 ≤ t → t < m → m ≤ bestNumber → any t = .ok .eq →
    any m = .ok .gt ∨ any m = .ok .eq

/-- The strategies for the last block of a kind also look at the next block. -/
def lastOf (any : UInt32 → Except ApiError Ordering) (looksAhead : UInt32 → Prop)
    [DecidablePred looksAhead] (block : UInt32) : Except ApiError Ordering := do
  let ordering ← any block
  match ordering with
  | .eq =>
      if looksAhead block then do
        let nextOrdering ← any (block + 1)
        match nextOrdering with
        | .gt => .ok .eq
        | _ => .ok .lt
      else .ok .eq
  | ordering => .ok ordering

private theorem lastBlockInEpoch_eq (getEpochOfBlock : UInt32 → Except ApiError UInt64)
    (epoch : UInt64) :
    lastBlockInEpoch getEpochOfBlock epoch =
      lastOf (anyBlockInEpoch getEpochOfBlock epoch) fun _ => True := by
  funext block
  cases hepoch : getEpochOfBlock block with
  | error e => simp [lastBlockInEpoch, lastOf, anyBlockInEpoch, hepoch, bind, Except.bind]
  | ok epochBlock =>
      simp only [lastBlockInEpoch, lastOf, anyBlockInEpoch, hepoch, bind, Except.bind, if_true]
      cases hnext : getEpochOfBlock (block + 1) with
      | error e => rfl
      | ok nextEpochBlock => rfl

private theorem latestBlockInSlotRange_eq (getSlotOfBlock : UInt32 → Except ApiError UInt64)
    (slotRange : SlotRange) (latestBlock : UInt32) :
    latestBlockInSlotRange getSlotOfBlock slotRange latestBlock =
      lastOf (anyBlockInSlotRange getSlotOfBlock slotRange) (· < latestBlock) :=
  rfl

variable {any : UInt32 → Except ApiError Ordering} {bestNumber : UInt32}
  {looksAhead : UInt32 → Prop} [DecidablePred looksAhead]

private theorem lastOf_of_ne {block : UInt32} {ordering : Ordering} (h : any block = .ok ordering)
    (hne : ordering ≠ .eq) : lastOf any looksAhead block = .ok ordering := by
  cases ordering with
  | eq => exact absurd rfl hne
  | lt => simp [lastOf, h, bind, Except.bind]
  | gt => simp [lastOf, h, bind, Except.bind]

private theorem lastOf_of_eq {block : UInt32} {ordering : Ordering} (h : any block = .ok .eq)
    (hahead : looksAhead block) (hnext : any (block + 1) = .ok ordering) :
    lastOf any looksAhead block = .ok (if ordering = .gt then .eq else .lt) := by
  cases ordering with
  | eq => simp [lastOf, h, hahead, hnext, bind, Except.bind]
  | lt => simp [lastOf, h, hahead, hnext, bind, Except.bind]
  | gt => simp [lastOf, h, hahead, hnext, bind, Except.bind]

/-- The comparison for the last block accepts a block whose successor is past the
range. -/
theorem lastOf_eq_eq {block : UInt32} (h : lastOf any looksAhead block = .ok .eq) :
    any block = .ok .eq ∧ (looksAhead block → any (block + 1) = .ok .gt) := by
  obtain ⟨ordering, hordering, h⟩ := bind_eq_ok.mp h
  cases ordering with
  | lt => cases h
  | gt => cases h
  | eq =>
      refine ⟨hordering, ?_⟩
      intro hahead
      simp only [if_pos hahead] at h
      obtain ⟨next, hnext, h⟩ := bind_eq_ok.mp h
      cases next with
      | lt => cases h
      | eq => cases h
      | gt => exact hnext

theorem succ_toNat {n : UInt32} (hbest : bestNumber.toNat < 2 ^ 31 - 1) (h : n ≤ bestNumber) :
    (n + 1).toNat = n.toNat + 1 := by
  have hle := UInt32.le_iff_toNat_le.mp h
  rw [UInt32.toNat_add, UInt32.toNat_one, Nat.mod_eq_of_lt (by omega)]

namespace Sorted

variable (sorted : Sorted any bestNumber) (hbest : bestNumber.toNat < 2 ^ 31 - 1)

include sorted

/-- Any block that a sorted comparison accepts is a target. -/
theorem targets {t : UInt32} (hone : 1 ≤ t) (heq : any t = .ok .eq) :
    Targets any bestNumber t where
  one_le := hone
  le_best := sorted.le_best t heq
  eq := heq
  below m hm hmt := sorted.below m t hm hmt heq
  above m htm hm := sorted.above t m hone htm hm heq

include hbest

/-- The strategy for the last block looks for the last one, provided that the
search looks ahead up to there. -/
theorem targets_lastOf {t : UInt32} (hlast : IsLast (fun n => 1 ≤ n ∧ any n = .ok .eq) t)
    (hahead : ∀ m, m < bestNumber → looksAhead m) (hend : looksAhead t → t < bestNumber) :
    Targets (lastOf any looksAhead) bestNumber t := by
  obtain ⟨⟨hone, heq⟩, hmax⟩ := hlast
  have hle := sorted.le_best t heq
  have hgt : ∀ m, t < m → m ≤ bestNumber → any m = .ok .gt := by
    intro m htm hm
    rcases sorted.above t m hone htm hm heq with hgt | heq'
    · exact hgt
    · exact absurd (hmax m ⟨UInt32.le_of_lt (UInt32.lt_of_le_of_lt hone htm), heq'⟩)
        (UInt32.not_le.mpr htm)
  refine ⟨hone, hle, ?_, ?_, ?_⟩
  · by_cases hlooks : looksAhead t
    · have hlt := UInt32.lt_iff_toNat_lt.mp (hend hlooks)
      have hsucc := succ_toNat hbest hle
      have hnext := hgt (t + 1) (UInt32.lt_iff_toNat_lt.mpr (by omega))
        (UInt32.le_iff_toNat_le.mpr (by omega))
      exact lastOf_of_eq heq hlooks hnext
    · simp [lastOf, heq, hlooks, bind, Except.bind]
  · intro m hm hmt
    refine .inl ?_
    rcases sorted.below m t hm hmt heq with hlt | heq'
    · exact lastOf_of_ne hlt (by decide)
    · have hmbest := UInt32.lt_of_lt_of_le hmt hle
      have hsucc := succ_toNat hbest (UInt32.le_of_lt hmbest)
      have hmt' := UInt32.lt_iff_toNat_lt.mp hmt
      rcases UInt32.lt_or_eq_of_le (a := m + 1) (b := t)
        (UInt32.le_iff_toNat_le.mpr (by omega)) with hlt | rfl
      · have hone' : 1 ≤ m + 1 := UInt32.le_iff_toNat_le.mpr (by rw [UInt32.toNat_one]; omega)
        rcases sorted.below (m + 1) t hone' hlt heq with hnext | hnext
        · exact lastOf_of_eq heq' (hahead m hmbest) hnext
        · exact lastOf_of_eq heq' (hahead m hmbest) hnext
      · exact lastOf_of_eq heq' (hahead m hmbest) heq
  · intro m htm hm
    exact .inl (lastOf_of_ne (hgt m htm hm) (by decide))

/-- What the strategy for the last block accepts is the last one. -/
theorem isLast_of_lastOf {n : UInt32} (hone : 1 ≤ n) (h : lastOf any looksAhead n = .ok .eq)
    (hahead : ∀ m, m < bestNumber → looksAhead m) :
    IsLast (fun n => 1 ≤ n ∧ any n = .ok .eq) n := by
  obtain ⟨heq, hnext⟩ := lastOf_eq_eq h
  refine ⟨⟨hone, heq⟩, ?_⟩
  rintro m ⟨-, hm⟩
  by_contra hnm
  have hlt := UInt32.lt_iff_toNat_lt.mp (UInt32.not_le.mp hnm)
  have hnbest := UInt32.lt_of_lt_of_le (UInt32.not_le.mp hnm) (sorted.le_best m hm)
  have hgt := hnext (hahead n hnbest)
  have hsucc := succ_toNat hbest (UInt32.le_of_lt hnbest)
  rcases UInt32.lt_or_eq_of_le (a := n + 1) (b := m)
    (UInt32.le_iff_toNat_le.mpr (by omega)) with hlt' | rfl
  · have hone' : 1 ≤ n + 1 := UInt32.le_iff_toNat_le.mpr (by rw [UInt32.toNat_one]; omega)
    rcases sorted.below (n + 1) m hone' hlt' hm with hf | hf
    · rw [hgt] at hf
      cases hf
    · rw [hgt] at hf
      cases hf
  · rw [hgt] at hm
    cases hm

end Sorted

end Strategies

/-! ## Chains -/

variable {Hash : Type} {client : SidechainClient Hash} {slotsPerEpoch : UInt32}
  {slot : UInt32 → UInt64}

/-- The blocks up to the best one have a status, with the slot and its epoch;
other numbers have none.  Slots increase, apart from the genesis block. -/
structure Chain (client : SidechainClient Hash) (slotsPerEpoch : UInt32)
    (slot : UInt32 → UInt64) : Prop where
  best_lt : client.bestNumber.toNat < 2 ^ 31 - 1
  known : ∀ n, n ≤ client.bestNumber → ∃ hash epoch, client.hash n = .ok (some hash) ∧
    client.getSidechainStatus hash = .ok ⟨epoch, slot n⟩ ∧
    Domain.epochNumber (slot n) slotsPerEpoch = some epoch
  unknown : ∀ n, client.bestNumber < n → ∀ hash, client.hash n ≠ .ok (some hash)
  increasing : ∀ m n, 1 ≤ m → m < n → n ≤ client.bestNumber → slot m < slot n

/-- A block other than the genesis block. -/
def IsBlock (client : SidechainClient Hash) (n : UInt32) : Prop := 1 ≤ n ∧ n ≤ client.bestNumber

/-- The epoch of a block, by its slot. -/
def epochAt (slotsPerEpoch : UInt32) (slot : UInt32 → UInt64) (n : UInt32) : UInt64 :=
  slot n / slotsPerEpoch.toUInt64

/-- A block that can be found, in the epoch. -/
def InEpoch (client : SidechainClient Hash) (slotsPerEpoch : UInt32) (slot : UInt32 → UInt64)
    (epoch : UInt64) (n : UInt32) : Prop :=
  IsBlock client n ∧ epochAt slotsPerEpoch slot n = epoch

/-- A block that can be found, in the range of slots. -/
def InSlotRange (client : SidechainClient Hash) (slot : UInt32 → UInt64) (slotRange : SlotRange)
    (n : UInt32) : Prop :=
  IsBlock client n ∧ slotRange.start ≤ slot n ∧ slot n < slotRange.stop

namespace Chain

/-- The status of every block up to the best one is known. -/
theorem statusOfBlock_of_le (chain : Chain client slotsPerEpoch slot) {n : UInt32}
    (h : n ≤ client.bestNumber) :
    client.statusOfBlock n = .ok ⟨epochAt slotsPerEpoch slot n, slot n⟩ := by
  obtain ⟨hash, epoch, hhash, hstatus, hepoch⟩ := chain.known n h
  have heq : epoch = epochAt slotsPerEpoch slot n := by
    unfold Domain.epochNumber at hepoch
    split at hepoch
    next => cases hepoch
    next => exact (Option.some.inj hepoch).symm
  simp only [SidechainClient.statusOfBlock, hhash, bind, Except.bind, Option.elim, hstatus, heq]

/-- There is no status above the best block. -/
theorem le_of_statusOfBlock (chain : Chain client slotsPerEpoch slot) {n : UInt32}
    {status : SidechainStatus} (h : client.statusOfBlock n = .ok status) :
    n ≤ client.bestNumber := by
  by_contra hlt
  have hunknown := chain.unknown n (UInt32.not_le.mp hlt)
  cases hhash : client.hash n with
  | error e => simp [SidechainClient.statusOfBlock, hhash, bind, Except.bind] at h
  | ok hash =>
      cases hash with
      | none => simp [SidechainClient.statusOfBlock, hhash, bind, Except.bind] at h
      | some hash => exact hunknown hash hhash

theorem getSlotOfBlock_of_le (chain : Chain client slotsPerEpoch slot) {n : UInt32}
    (h : n ≤ client.bestNumber) : client.getSlotOfBlock n = .ok (slot n) := by
  rw [SidechainClient.getSlotOfBlock, chain.statusOfBlock_of_le h]
  rfl

theorem getEpochOfBlock_of_le (chain : Chain client slotsPerEpoch slot) {n : UInt32}
    (h : n ≤ client.bestNumber) :
    client.getEpochOfBlock n = .ok (epochAt slotsPerEpoch slot n) := by
  rw [SidechainClient.getEpochOfBlock, chain.statusOfBlock_of_le h]
  rfl

private theorem getSlotOfBlock_eq_ok (chain : Chain client slotsPerEpoch slot) {n : UInt32}
    {s : UInt64} (h : client.getSlotOfBlock n = .ok s) : n ≤ client.bestNumber ∧ s = slot n := by
  obtain ⟨status, hstatus, -⟩ := bind_eq_ok.mp h
  have hle := chain.le_of_statusOfBlock hstatus
  rw [chain.getSlotOfBlock_of_le hle] at h
  exact ⟨hle, (Except.ok.inj h).symm⟩

/-- The epoch of a block is the one of its slot. -/
theorem getEpochOfBlock_eq_ok (chain : Chain client slotsPerEpoch slot) {n : UInt32}
    {epoch : UInt64} (h : client.getEpochOfBlock n = .ok epoch) :
    n ≤ client.bestNumber ∧ epoch = epochAt slotsPerEpoch slot n := by
  obtain ⟨status, hstatus, -⟩ := bind_eq_ok.mp h
  have hle := chain.le_of_statusOfBlock hstatus
  rw [chain.getEpochOfBlock_of_le hle] at h
  exact ⟨hle, (Except.ok.inj h).symm⟩

/-- Epochs do not decrease. -/
theorem epochAt_le (chain : Chain client slotsPerEpoch slot) {m n : UInt32} (hone : 1 ≤ m)
    (hle : m ≤ n) (hbest : n ≤ client.bestNumber) :
    epochAt slotsPerEpoch slot m ≤ epochAt slotsPerEpoch slot n := by
  rcases UInt32.lt_or_eq_of_le hle with hlt | rfl
  · have hslot := UInt64.lt_iff_toNat_lt.mp (chain.increasing m n hone hlt hbest)
    rw [UInt64.le_iff_toNat_le, epochAt, epochAt, UInt64.toNat_div, UInt64.toNat_div]
    exact Nat.div_le_div_right hslot.le
  · exact UInt64.le_refl _

end Chain

/-! ## The strategies on a chain -/

private theorem compare_cases (a b : UInt64) :
    (compare a b = .lt ∧ a < b) ∨ (compare a b = .eq ∧ a = b) ∨ (compare a b = .gt ∧ b < a) := by
  cases hcompare : compare a b with
  | lt => exact .inl ⟨rfl, Std.compare_eq_lt.mp hcompare⟩
  | eq => exact .inr (.inl ⟨rfl, Std.compare_eq_iff_eq.mp hcompare⟩)
  | gt => exact .inr (.inr ⟨rfl, Std.compare_eq_gt.mp hcompare⟩)

namespace Chain

section Epochs

variable (chain : Chain client slotsPerEpoch slot)

include chain

theorem anyBlockInEpoch_of_le (epoch : UInt64) {n : UInt32} (h : n ≤ client.bestNumber) :
    anyBlockInEpoch client.getEpochOfBlock epoch n =
      .ok (compare (epochAt slotsPerEpoch slot n) epoch) := by
  rw [anyBlockInEpoch, chain.getEpochOfBlock_of_le h]
  rfl

/-- A block is in the epoch exactly if the comparison says so. -/
theorem inEpoch_iff (epoch : UInt64) (n : UInt32) :
    InEpoch client slotsPerEpoch slot epoch n ↔
      1 ≤ n ∧ anyBlockInEpoch client.getEpochOfBlock epoch n = .ok .eq := by
  constructor
  · rintro ⟨⟨hone, hle⟩, rfl⟩
    rw [chain.anyBlockInEpoch_of_le _ hle, Std.compare_self]
    exact ⟨hone, rfl⟩
  · rintro ⟨hone, heq⟩
    obtain ⟨hle, hepoch⟩ := chain.getEpochOfBlock_eq_ok (anyBlockInEpoch_eq heq)
    exact ⟨⟨hone, hle⟩, hepoch.symm⟩

/-- Along the chain epochs do not decrease. -/
theorem sorted_anyBlockInEpoch (epoch : UInt64) :
    Sorted (anyBlockInEpoch client.getEpochOfBlock epoch) client.bestNumber where
  le_best n heq := (chain.getEpochOfBlock_eq_ok (anyBlockInEpoch_eq heq)).1
  below m t hm hmt heq := by
    obtain ⟨ht, rfl⟩ := chain.getEpochOfBlock_eq_ok (anyBlockInEpoch_eq heq)
    have hle := chain.epochAt_le hm (UInt32.le_of_lt hmt) ht
    rw [chain.anyBlockInEpoch_of_le _ (UInt32.le_of_lt (UInt32.lt_of_lt_of_le hmt ht))]
    rcases compare_cases (epochAt slotsPerEpoch slot m) (epochAt slotsPerEpoch slot t) with
      ⟨h, -⟩ | ⟨h, -⟩ | ⟨-, h⟩
    · exact .inl (by rw [h])
    · exact .inr (by rw [h])
    · exact absurd hle (UInt64.not_le.mpr h)
  above t m hone htm hm heq := by
    obtain ⟨-, rfl⟩ := chain.getEpochOfBlock_eq_ok (anyBlockInEpoch_eq heq)
    have hle := chain.epochAt_le hone (UInt32.le_of_lt htm) hm
    rw [chain.anyBlockInEpoch_of_le _ hm]
    rcases compare_cases (epochAt slotsPerEpoch slot m) (epochAt slotsPerEpoch slot t) with
      ⟨-, h⟩ | ⟨h, -⟩ | ⟨h, -⟩
    · exact absurd hle (UInt64.not_le.mpr h)
    · exact .inr (by rw [h])
    · exact .inl (by rw [h])

/-- Some block of the epoch is found, if there is one. -/
theorem finds_anyBlockInEpoch (epoch : UInt64) :
    FindsWhen (findBlockNumber client.bestNumber (anyBlockInEpoch client.getEpochOfBlock epoch))
      (∃ n, InEpoch client slotsPerEpoch slot epoch n)
      (InEpoch client slotsPerEpoch slot epoch) := by
  refine finds_of_targets chain.best_lt ?_ ?_
  · intro n hone heq
    have hin := (chain.inEpoch_iff epoch n).mpr ⟨hone, heq⟩
    exact ⟨⟨n, hin⟩, hin⟩
  · rintro ⟨t, ht⟩
    obtain ⟨hone, heq⟩ := (chain.inEpoch_iff epoch t).mp ht
    exact ⟨t, (chain.sorted_anyBlockInEpoch epoch).targets hone heq⟩

private theorem finds_lastBlockInEpoch (epoch : UInt64) :
    FindsWhen (findBlockNumber client.bestNumber (lastBlockInEpoch client.getEpochOfBlock epoch))
      ((∃ n, InEpoch client slotsPerEpoch slot epoch n) ∧
        ∃ n, IsBlock client n ∧ epoch < epochAt slotsPerEpoch slot n)
      (IsLast (InEpoch client slotsPerEpoch slot epoch)) := by
  have sorted := chain.sorted_anyBlockInEpoch epoch
  have hiff := isLast_congr (chain.inEpoch_iff epoch)
  rw [lastBlockInEpoch_eq]
  refine finds_of_targets chain.best_lt ?_ ?_
  · intro n hone heq
    have hlast := (hiff n).mpr
      (sorted.isLast_of_lastOf chain.best_lt hone heq fun _ _ => trivial)
    -- the next block is of a later epoch
    have hnext := (lastOf_eq_eq heq).2 trivial
    obtain ⟨nextEpoch, hepoch, hcompare⟩ := bind_eq_ok.mp hnext
    obtain ⟨hle, rfl⟩ := chain.getEpochOfBlock_eq_ok hepoch
    have hgt := Std.compare_eq_gt.mp (Except.ok.inj hcompare)
    have hsucc := succ_toNat chain.best_lt hlast.1.1.2
    have hone' : 1 ≤ n + 1 := UInt32.le_iff_toNat_le.mpr (by rw [UInt32.toNat_one]; omega)
    exact ⟨⟨⟨n, hlast.1⟩, n + 1, ⟨hone', hle⟩, hgt⟩, hlast⟩
  · rintro ⟨hex, n, ⟨hone, hle⟩, hlater⟩
    obtain ⟨t, ht⟩ := exists_isLast hex
    have hlt : t < client.bestNumber := by
      refine UInt32.lt_of_lt_of_le ?_ hle
      by_contra hnt
      have hmono := chain.epochAt_le hone (UInt32.not_lt.mp hnt) ht.1.1.2
      rw [ht.1.2] at hmono
      exact UInt64.not_le.mpr hlater hmono
    exact ⟨t, sorted.targets_lastOf chain.best_lt ((hiff t).mp ht) (fun _ _ => trivial)
      fun _ => hlt⟩

end Epochs

section Slots

variable (chain : Chain client slotsPerEpoch slot)

include chain

theorem anyBlockInSlotRange_of_le (slotRange : SlotRange) {n : UInt32}
    (h : n ≤ client.bestNumber) :
    anyBlockInSlotRange client.getSlotOfBlock slotRange n =
      .ok (if slot n < slotRange.start then .lt
        else if slot n ≥ slotRange.stop then .gt
        else .eq) := by
  rw [anyBlockInSlotRange, chain.getSlotOfBlock_of_le h]
  rfl

theorem anyBlockInSlotRange_eq_ok {slotRange : SlotRange} {n : UInt32} {ordering : Ordering}
    (h : anyBlockInSlotRange client.getSlotOfBlock slotRange n = .ok ordering) :
    n ≤ client.bestNumber := by
  obtain ⟨s, hs, -⟩ := bind_eq_ok.mp h
  exact (chain.getSlotOfBlock_eq_ok hs).1

/-- A block is in the range exactly if the comparison says so. -/
theorem inSlotRange_iff (slotRange : SlotRange) (n : UInt32) :
    InSlotRange client slot slotRange n ↔
      1 ≤ n ∧ anyBlockInSlotRange client.getSlotOfBlock slotRange n = .ok .eq := by
  constructor
  · rintro ⟨⟨hone, hle⟩, hstart, hstop⟩
    rw [chain.anyBlockInSlotRange_of_le _ hle, if_neg (UInt64.not_lt.mpr hstart),
      if_neg (UInt64.not_le.mpr hstop)]
    exact ⟨hone, rfl⟩
  · rintro ⟨hone, heq⟩
    have hle := chain.anyBlockInSlotRange_eq_ok heq
    rw [chain.anyBlockInSlotRange_of_le _ hle] at heq
    split at heq
    next => cases heq
    next hstart =>
      split at heq
      next => cases heq
      next hstop => exact ⟨⟨hone, hle⟩, UInt64.not_lt.mp hstart, UInt64.not_le.mp hstop⟩

/-- Along the chain slots increase. -/
theorem sorted_anyBlockInSlotRange (slotRange : SlotRange) :
    Sorted (anyBlockInSlotRange client.getSlotOfBlock slotRange) client.bestNumber where
  le_best n heq := chain.anyBlockInSlotRange_eq_ok heq
  below m t hm hmt heq := by
    have ht := chain.anyBlockInSlotRange_eq_ok heq
    have hone := UInt32.le_of_lt (UInt32.lt_of_le_of_lt hm hmt)
    obtain ⟨-, -, hstop⟩ := (chain.inSlotRange_iff slotRange t).mpr ⟨hone, heq⟩
    have hlt := UInt64.lt_trans (chain.increasing m t hm hmt ht) hstop
    rw [chain.anyBlockInSlotRange_of_le _ (UInt32.le_of_lt (UInt32.lt_of_lt_of_le hmt ht)),
      if_neg (UInt64.not_le.mpr hlt)]
    split
    next => exact .inl rfl
    next => exact .inr rfl
  above t m hone htm hm heq := by
    obtain ⟨-, hstart, -⟩ := (chain.inSlotRange_iff slotRange t).mpr ⟨hone, heq⟩
    have hle := UInt64.le_trans hstart (UInt64.le_of_lt (chain.increasing t m hone htm hm))
    rw [chain.anyBlockInSlotRange_of_le _ hm, if_neg (UInt64.not_lt.mpr hle)]
    split
    next => exact .inl rfl
    next => exact .inr rfl

private theorem finds_anyBlockInSlotRange (slotRange : SlotRange) :
    FindsWhen (findBlockNumber client.bestNumber
        (anyBlockInSlotRange client.getSlotOfBlock slotRange))
      (∃ n, InSlotRange client slot slotRange n) (InSlotRange client slot slotRange) := by
  refine finds_of_targets chain.best_lt ?_ ?_
  · intro n hone heq
    have hin := (chain.inSlotRange_iff slotRange n).mpr ⟨hone, heq⟩
    exact ⟨⟨n, hin⟩, hin⟩
  · rintro ⟨t, ht⟩
    obtain ⟨hone, heq⟩ := (chain.inSlotRange_iff slotRange t).mp ht
    exact ⟨t, (chain.sorted_anyBlockInSlotRange slotRange).targets hone heq⟩

private theorem finds_latestBlockInSlotRange (slotRange : SlotRange) :
    FindsWhen (findBlockNumber client.bestNumber
        (latestBlockInSlotRange client.getSlotOfBlock slotRange client.bestNumber))
      (∃ n, InSlotRange client slot slotRange n) (IsLast (InSlotRange client slot slotRange)) := by
  have sorted := chain.sorted_anyBlockInSlotRange slotRange
  have hiff := isLast_congr (chain.inSlotRange_iff slotRange)
  rw [latestBlockInSlotRange_eq]
  refine finds_of_targets chain.best_lt ?_ ?_
  · intro n hone heq
    have hlast := (hiff n).mpr
      (sorted.isLast_of_lastOf chain.best_lt hone heq fun _ h => h)
    exact ⟨⟨n, hlast.1⟩, hlast⟩
  · intro hex
    obtain ⟨t, ht⟩ := exists_isLast hex
    exact ⟨t, sorted.targets_lastOf chain.best_lt ((hiff t).mp ht) (fun _ h => h) fun h => h⟩

end Slots

end Chain

/-- Every strategy finds what it is for, and no arithmetic of the search
overflows. -/
theorem findBlockNumber_finds (chain : Chain client slotsPerEpoch slot) :
    (∀ compareBlock, findBlockNumberChecked client.bestNumber compareBlock =
      .ok (findBlockNumber client.bestNumber compareBlock)) ∧
    (∀ epoch,
      FindsWhen (findBlockNumber client.bestNumber (anyBlockInEpoch client.getEpochOfBlock epoch))
        (∃ n, InEpoch client slotsPerEpoch slot epoch n)
        (InEpoch client slotsPerEpoch slot epoch)) ∧
    (∀ epoch,
      FindsWhen (findBlockNumber client.bestNumber (lastBlockInEpoch client.getEpochOfBlock epoch))
        ((∃ n, InEpoch client slotsPerEpoch slot epoch n) ∧
          ∃ n, IsBlock client n ∧ epoch < epochAt slotsPerEpoch slot n)
        (IsLast (InEpoch client slotsPerEpoch slot epoch))) ∧
    (∀ slotRange,
      FindsWhen (findBlockNumber client.bestNumber
          (anyBlockInSlotRange client.getSlotOfBlock slotRange))
        (∃ n, InSlotRange client slot slotRange n) (InSlotRange client slot slotRange)) ∧
    ∀ slotRange,
      FindsWhen (findBlockNumber client.bestNumber
          (latestBlockInSlotRange client.getSlotOfBlock slotRange client.bestNumber))
        (∃ n, InSlotRange client slot slotRange n)
        (IsLast (InSlotRange client slot slotRange)) :=
  ⟨findBlockNumberChecked_ok chain.best_lt, chain.finds_anyBlockInEpoch,
    chain.finds_lastBlockInEpoch, chain.finds_anyBlockInSlotRange,
    chain.finds_latestBlockInSlotRange⟩

/-! ## Two chains

In the first one the epochs 0 to 2 have two blocks each after the genesis block.
In the second one the genesis block is the only one of epoch 0. -/

/-- Blocks at the same distance from each other. -/
def spacedSlot (distance : UInt64) (n : UInt32) : UInt64 := n.toUInt64 * distance

/-- A client with such blocks, whose hashes are their numbers. -/
def spacedClient (bestNumber : UInt32) (distance : UInt64) : SidechainClient UInt32 where
  bestNumber := bestNumber
  hash n := .ok (if n ≤ bestNumber then some n else none)
  getSidechainStatus n := .ok ⟨spacedSlot distance n / 60, spacedSlot distance n⟩

/-- Blocks at equal distances form a chain. -/
theorem spaced_chain {bestNumber : UInt32} {distance : UInt64}
    (hbest : bestNumber.toNat < 2 ^ 31 - 1) (hpos : 0 < distance.toNat)
    (hfits : bestNumber.toNat * distance.toNat < 2 ^ 64) :
    Chain (spacedClient bestNumber distance) 60 (spacedSlot distance) where
  best_lt := hbest
  known n hn := ⟨n, spacedSlot distance n / 60, congrArg Except.ok (if_pos hn), rfl, rfl⟩
  unknown n hn hash := by
    have hlt : ¬ n ≤ bestNumber := UInt32.not_le.mpr hn
    simp [spacedClient, hlt]
  increasing m n _ hmn hn := by
    have hslot {number : UInt32} (h : number.toNat ≤ bestNumber.toNat) :
        (spacedSlot distance number).toNat = number.toNat * distance.toNat := by
      rw [spacedSlot, UInt64.toNat_mul, UInt32.toNat_toUInt64]
      exact Nat.mod_eq_of_lt ((Nat.mul_le_mul_right _ h).trans_lt hfits)
    have hlt : m.toNat < n.toNat := UInt32.lt_iff_toNat_lt.mp hmn
    have hle : n.toNat ≤ bestNumber.toNat := UInt32.le_iff_toNat_le.mp hn
    rw [UInt64.lt_iff_toNat_lt, hslot hle, hslot (hlt.le.trans hle)]
    exact Nat.mul_lt_mul_of_pos_right hlt hpos

/-- Six blocks after the genesis block, at a distance of 25 slots. -/
def sixBlockClient : SidechainClient UInt32 := spacedClient 6 25

theorem findBlockNumber_finds_sixBlocks :
    (∃ n, findBlockNumber 6 (anyBlockInEpoch sixBlockClient.getEpochOfBlock 1) = .ok n ∧
      InEpoch sixBlockClient 60 (spacedSlot 25) 1 n) ∧
    (∃ n, findBlockNumber 6 (lastBlockInEpoch sixBlockClient.getEpochOfBlock 1) = .ok n ∧
      IsLast (InEpoch sixBlockClient 60 (spacedSlot 25) 1) n) ∧
    (∃ n, findBlockNumber 6 (anyBlockInSlotRange sixBlockClient.getSlotOfBlock ⟨60, 130⟩) = .ok n ∧
      InSlotRange sixBlockClient (spacedSlot 25) ⟨60, 130⟩ n) ∧
    ∃ n, findBlockNumber 6 (latestBlockInSlotRange sixBlockClient.getSlotOfBlock ⟨60, 130⟩ 6) =
        .ok n ∧
      IsLast (InSlotRange sixBlockClient (spacedSlot 25) ⟨60, 130⟩) n := by
  have chain : Chain sixBlockClient 60 (spacedSlot 25) :=
    spaced_chain (by decide) (by decide) (by decide)
  obtain ⟨-, hany, hlast, hrange, hlatest⟩ := findBlockNumber_finds chain
  have hepoch : InEpoch sixBlockClient 60 (spacedSlot 25) 1 3 := ⟨⟨by decide, by decide⟩, rfl⟩
  have hlater : IsBlock sixBlockClient 5 ∧ 1 < epochAt 60 (spacedSlot 25) 5 :=
    ⟨⟨by decide, by decide⟩, by decide⟩
  have hslots : InSlotRange sixBlockClient (spacedSlot 25) ⟨60, 130⟩ 3 :=
    ⟨⟨by decide, by decide⟩, by decide, by decide⟩
  exact ⟨(hany 1).1 ⟨3, hepoch⟩, (hlast 1).1 ⟨⟨3, hepoch⟩, 5, hlater⟩,
    (hrange ⟨60, 130⟩).1 ⟨3, hslots⟩, (hlatest ⟨60, 130⟩).1 ⟨3, hslots⟩⟩

/-- Every block begins an epoch. -/
def twoBlockSlot (n : UInt32) : UInt64 := spacedSlot 60 n

/-- One block after the genesis block. -/
def twoBlockClient : SidechainClient UInt32 := spacedClient 1 60

private theorem twoBlock_chain : Chain twoBlockClient 60 twoBlockSlot :=
  spaced_chain (by decide) (by decide) (by decide)

/-- The epoch of the genesis block has a block, and the search is an error. -/
theorem genesisEpoch_not_found :
    Chain twoBlockClient 60 twoBlockSlot ∧ twoBlockSlot 0 < twoBlockSlot 1 ∧
      twoBlockClient.getEpochOfBlock 0 = .ok 0 ∧
      findBlockNumber twoBlockClient.bestNumber
          (anyBlockInEpoch twoBlockClient.getEpochOfBlock 0) =
        .error (.application "Could not find block number") :=
  ⟨twoBlock_chain, by decide, rfl, rfl⟩

/-! ## Chains of executed blocks

The client of the committee query is such a client, and so every epoch with a
block has one that the query finds. -/

section Executed

variable {Id Keys Account H A : Type} {config : Config Id Keys Account H A}

/-- The client of the search, for the states of executed blocks. -/
def sidechainClient (client : Client config) : SidechainClient (State config) where
  bestNumber := UInt32.ofNat client.best.blockNumber
  hash n := .ok (client.stateAt n.toNat)
  getSidechainStatus st := do
    let epoch ← getSidechainStatusEpoch st
    .ok ⟨epoch, st.currentSlot⟩

private theorem getEpochOfBlock_toNat (client : Client config) (n : UInt32) :
    client.getEpochOfBlock n.toNat = (sidechainClient client).getEpochOfBlock n := by
  unfold SidechainClient.getEpochOfBlock SidechainClient.statusOfBlock
  simp only [Client.getEpochOfBlock, sidechainClient, bind, Except.bind]
  cases hst : client.stateAt n.toNat with
  | none => rfl
  | some st =>
      simp only [Option.elim]
      cases hepoch : getSidechainStatusEpoch st with
      | error e => rfl
      | ok epoch => rfl

/-- The slot of an executed block. -/
def slotAt (client : Client config) (n : UInt32) : UInt64 :=
  (client.stateAt n.toNat).elim 0 State.currentSlot

/-- The number of the best block fits in a word. -/
theorem toNat_bestNumber {client : Client config}
    (hbest : client.best.blockNumber < 2 ^ 31 - 1) :
    (sidechainClient client).bestNumber.toNat = client.best.blockNumber :=
  toNat_ofNat_of_lt (by omega)

private theorem findBlock_eq (client : Client config) (epoch : UInt64) :
    client.findBlock epoch =
      (findBlockNumber (sidechainClient client).bestNumber
        (anyBlockInEpoch (sidechainClient client).getEpochOfBlock epoch)).map
          fun number => number.toNat := by
  simp only [Client.findBlock, getEpochOfBlock_toNat]
  rfl

variable [DecidableEq Account]

/-- All blocks of a chain have the same slots per epoch. -/
theorem slotsPerEpoch_of_mem {genesis : Genesis config} {client : Client config}
    (h : Blocks genesis client.best client.older) {st : State config}
    (hst : st ∈ client.best :: client.older) :
    st.slotsPerEpoch = client.best.slotsPerEpoch := by
  rcases h.trichotomy hst List.mem_cons_self with rfl | hnew | hnew
  · rfl
  · exact hnew.slots.symm
  · exact hnew.slots

theorem blockNumber_le_of_mem {genesis : Genesis config} {client : Client config}
    (h : Blocks genesis client.best client.older) {st : State config}
    (hst : st ∈ client.best :: client.older) : st.blockNumber ≤ client.best.blockNumber := by
  rcases List.mem_cons.mp hst with rfl | hst
  · exact Nat.le_refl _
  · exact Nat.le_of_lt (List.rel_of_pairwise_cons h.pairwise hst).number

/-- Every number up to the best one has a block. -/
theorem stateAt_of_le {genesis : Genesis config} {client : Client config}
    (h : Blocks genesis client.best client.older) {n : UInt32}
    (hn : n.toNat ≤ client.best.blockNumber) :
    ∃ st ∈ client.best :: client.older, st.blockNumber = n.toNat ∧
      client.stateAt n.toNat = some st ∧ slotAt client n = st.currentSlot := by
  obtain ⟨st, hst, hnumber⟩ := h.exists_number hn
  have hstate : client.stateAt n.toNat = some st := hnumber ▸ stateAt_of_mem h hst
  exact ⟨st, hst, hnumber, hstate, by rw [slotAt, hstate]; rfl⟩

/-- The blocks of a run are what the search expects of a chain. -/
theorem chain_of_blocks {genesis : Genesis config} {client : Client config}
    (h : Blocks genesis client.best client.older)
    (hbest : client.best.blockNumber < 2 ^ 31 - 1) :
    Chain (sidechainClient client) client.best.slotsPerEpoch (slotAt client) := by
  have hbestNat := toNat_bestNumber hbest
  have hle : ∀ n, n ≤ (sidechainClient client).bestNumber →
      n.toNat ≤ client.best.blockNumber := by
    intro n hn
    rw [← hbestNat]
    exact UInt32.le_iff_toNat_le.mp hn
  refine ⟨by omega, ?_, ?_, ?_⟩
  · intro n hn
    obtain ⟨st, hst, -, hstate, hslot⟩ := stateAt_of_le h (hle n hn)
    obtain ⟨events, hrun⟩ := h.exists_run_of_mem hst
    refine ⟨st, epochOf st, congrArg Except.ok hstate, ?_, ?_⟩
    · simp only [sidechainClient, getSidechainStatusEpoch_eq hrun, bind, Except.bind, hslot]
    · rw [hslot, ← slotsPerEpoch_of_mem h hst]
      exact if_neg hrun.invariant.slots
  · intro n hn st hstate
    have hfind : client.stateAt n.toNat = some st := Except.ok.inj hstate
    have hnumber : st.blockNumber = n.toNat := by simpa using List.find?_some hfind
    have hlt := UInt32.lt_iff_toNat_lt.mp hn
    have hmem := blockNumber_le_of_mem h (List.mem_of_find?_eq_some hfind)
    omega
  · intro m n hm hmn hn
    have hlt := UInt32.lt_iff_toNat_lt.mp hmn
    have hone := UInt32.le_iff_toNat_le.mp hm
    rw [UInt32.toNat_one] at hone
    have hnBest := hle n hn
    obtain ⟨x, hx, hxn, -, hxslot⟩ := @stateAt_of_le _ _ _ _ _ _ _ _ _ h m (by omega)
    obtain ⟨y, hy, hyn, -, hyslot⟩ := stateAt_of_le h hnBest
    rw [hxslot, hyslot]
    rcases h.trichotomy hx hy with rfl | hnew | hnew
    · omega
    · have hnumber := hnew.number
      omega
    · exact hnew.slot (by omega)

/-- The blocks of an epoch are the states of it. -/
theorem exists_inEpoch_iff {genesis : Genesis config} {client : Client config}
    (h : Blocks genesis client.best client.older)
    (hbest : client.best.blockNumber < 2 ^ 31 - 1) (epoch : UInt64) :
    (∃ n, InEpoch (sidechainClient client) client.best.slotsPerEpoch (slotAt client) epoch n) ↔
      ∃ st ∈ client.best :: client.older, st.blockNumber ≠ 0 ∧ epochOf st = epoch := by
  have hbestNat := toNat_bestNumber hbest
  constructor
  · rintro ⟨n, ⟨hone, hn⟩, rfl⟩
    have hone' := UInt32.le_iff_toNat_le.mp hone
    rw [UInt32.toNat_one] at hone'
    obtain ⟨st, hst, hnumber, -, hslot⟩ :=
      stateAt_of_le h (hbestNat ▸ UInt32.le_iff_toNat_le.mp hn)
    refine ⟨st, hst, by omega, ?_⟩
    rw [epochOf, epochAt, hslot, slotsPerEpoch_of_mem h hst]
  · rintro ⟨st, hst, hnumber, rfl⟩
    have hle := blockNumber_le_of_mem h hst
    have hNat : (UInt32.ofNat st.blockNumber).toNat = st.blockNumber :=
      toNat_ofNat_of_lt (by omega)
    refine ⟨UInt32.ofNat st.blockNumber, ⟨?_, ?_⟩, ?_⟩
    · rw [UInt32.le_iff_toNat_le, hNat, UInt32.toNat_one]
      omega
    · rw [UInt32.le_iff_toNat_le, hNat, hbestNat]
      exact hle
    · rw [epochAt, slotAt, hNat, stateAt_of_mem h hst, epochOf, slotsPerEpoch_of_mem h hst]
      rfl

/-- The search of the query succeeds exactly for the epochs that have a block,
the genesis block apart. -/
theorem findBlock_isOk_iff {genesis : Genesis config} {client : Client config}
    (h : Blocks genesis client.best client.older)
    (hbest : client.best.blockNumber < 2 ^ 31 - 1) (epoch : UInt64) :
    (∃ number, client.findBlock epoch = .ok number) ↔
      ∃ st ∈ client.best :: client.older, st.blockNumber ≠ 0 ∧ epochOf st = epoch := by
  have hfinds := (chain_of_blocks h hbest).finds_anyBlockInEpoch epoch
  rw [← exists_inEpoch_iff h hbest, findBlock_eq]
  constructor
  · rintro ⟨number, hnumber⟩
    by_contra habsent
    obtain ⟨e, he⟩ := hfinds.2 habsent
    rw [he] at hnumber
    cases hnumber
  · intro hex
    obtain ⟨number, hnumber, -⟩ := hfinds.1 hex
    rw [hnumber]
    exact ⟨number.toNat, rfl⟩

end Executed

end PartnerChains.Ports.BlockSearchResults
