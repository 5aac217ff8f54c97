import PartnerChains.Ports.SelectionOrder

/-!
# How often each candidate is drawn

One draw takes a number below the total weight and walks over the cumulative
weights of the sorted candidates.  `seat_distribution` counts the numbers that
end at each candidate: with registered candidates that have seats and with
permissioned ones, they are in the proportions of the D-parameter; otherwise
one of the two groups is drawn from alone.  Candidates that sort alike, or are
even equal, are told apart by their positions in the input.
-/

namespace PartnerChains.Ports.SeatDistribution

open PartnerChains.Ports.Domain
open PartnerChains.Ports.CandidateFilter
open PartnerChains.Ports.SelectAuthorities
open PartnerChains.Ports.SelectionOrder
open PartnerChains.Verified.StableSort
open PartnerChains.Verified.WeightedDraw

variable {A K : Type}

/-! ## Weights without overflow -/

/-- The sum of the stakes. -/
def stakeSum (trustless : List (CandidateWithStake A K)) : Nat :=
  (trustless.map fun c => c.stakeDelegation.toNat).sum

/-- The weight of a registered candidate, with `n` permissioned ones. -/
def registeredWeight (dParameter : DParameter) (n stake : Nat) : Nat :=
  if n = 0 then stake else n * dParameter.numRegisteredCandidates.toNat * stake

/-- The weight of a permissioned candidate, with `W` at stake. -/
def permissionedWeight (dParameter : DParameter) (W : Nat) : Nat :=
  if W = 0 ∨ dParameter.numRegisteredCandidates = 0 then 1
  else dParameter.numPermissionedCandidates.toNat * W

/-- The sum of the weights. -/
def weightSum (dParameter : DParameter) (n W : Nat) : Nat :=
  if n = 0 then W
  else if W = 0 ∨ dParameter.numRegisteredCandidates = 0 then n
  else n * W * (dParameter.numPermissionedCandidates.toNat +
    dParameter.numRegisteredCandidates.toNat)

theorem stake_le_stakeSum {trustless : List (CandidateWithStake A K)}
    {c : CandidateWithStake A K} (h : c ∈ trustless) :
    c.stakeDelegation.toNat ≤ stakeSum trustless :=
  List.le_sum_of_mem (List.mem_map_of_mem h)

/-- The weights of all candidates of both groups. -/
theorem weightSum_eq (dParameter : DParameter) (n W : Nat) :
    weightSum dParameter n W =
      registeredWeight dParameter n W + n * permissionedWeight dParameter W := by
  simp only [weightSum, registeredWeight, permissionedWeight]
  by_cases hn : n = 0
  · simp [hn]
  · by_cases hW : W = 0
    · simp [hn, hW]
    · by_cases hT : dParameter.numRegisteredCandidates = 0
      · simp [hn, hT]
      · simp only [hn, hW, hT, or_self, if_false]
        ring

private theorem registeredWeight_sum (dParameter : DParameter) (n : Nat)
    (trustless : List (CandidateWithStake A K)) :
    (trustless.map fun c => registeredWeight dParameter n c.stakeDelegation.toNat).sum =
      registeredWeight dParameter n (stakeSum trustless) := by
  by_cases hn : n = 0
  · simp [registeredWeight, stakeSum, hn]
  · simp only [registeredWeight, stakeSum, hn, if_false]
    rw [List.sum_map_mul_left]

section Weights

variable {trustless : List (CandidateWithStake A K)} {permissioned : List (Candidate A K)}
  {dParameter : DParameter}

/-- If the sum fits, the weights of the registered candidates do not wrap. -/
theorem trustlessCandidatesWithWeights_eq
    (hstake : ∀ c ∈ trustless, 0 < c.stakeDelegation.toNat)
    (hfit : weightSum dParameter permissioned.length (stakeSum trustless) < 2 ^ 128) :
    trustlessCandidatesWithWeights trustless dParameter permissioned.length =
      trustless.map fun c => (c.candidate,
        registeredWeight dParameter permissioned.length c.stakeDelegation.toNat) := by
  apply List.map_congr_left
  intro c hc
  have hle := stake_le_stakeSum hc
  have hpos := hstake c hc
  have hlt : c.stakeDelegation.toNat < 2 ^ 64 := c.stakeDelegation.toNat_lt
  rw [weightSum_eq] at hfit
  by_cases hn : permissioned.length = 0
  · simp only [registeredWeight, hn, gt_iff_lt, lt_irrefl, if_false, if_true, Nat.mul_one]
    rw [Nat.mod_eq_of_lt (by omega)]
  · simp only [registeredWeight, hn, if_false] at hfit
    simp only [registeredWeight, hn, gt_iff_lt, Nat.pos_of_ne_zero hn, if_true, if_false]
    rw [Nat.mul_comm permissioned.length]
    rw [Nat.mul_comm permissioned.length] at hfit
    generalize dParameter.numRegisteredCandidates.toNat * permissioned.length = factor at *
    have hweight : factor * c.stakeDelegation.toNat ≤ factor * stakeSum trustless :=
      Nat.mul_le_mul_left _ hle
    have hfactor : factor ≤ factor * c.stakeDelegation.toNat := Nat.le_mul_of_pos_right _ hpos
    rw [Nat.mod_eq_of_lt (show factor < 2 ^ 128 by omega), Nat.mul_comm,
      Nat.mod_eq_of_lt (by omega)]

/-- Nor do those of the permissioned candidates, if the stakes fit where they
are used. -/
theorem permissionedCandidatesWithWeights_eq
    (hsum : dParameter.numRegisteredCandidates = 0 ∨ stakeSum trustless < 2 ^ 64) :
    permissionedCandidatesWithWeights permissioned dParameter trustless =
      permissioned.map fun c => (c, permissionedWeight dParameter (stakeSum trustless)) := by
  simp only [permissionedCandidatesWithWeights, permissionedWeight]
  by_cases hseats : dParameter.numRegisteredCandidates = 0
  · simp [hseats]
  · have hlt : stakeSum trustless < 2 ^ 64 := hsum.resolve_left hseats
    have htotal : totalStake trustless = stakeSum trustless := Nat.mod_eq_of_lt hlt
    have hP : dParameter.numPermissionedCandidates.toNat < 2 ^ 16 :=
      dParameter.numPermissionedCandidates.toNat_lt
    have hprod : dParameter.numPermissionedCandidates.toNat * stakeSum trustless < 2 ^ 128 := by
      calc _ < 2 ^ 16 * 2 ^ 64 := Nat.mul_lt_mul'' hP hlt
        _ < 2 ^ 128 := by norm_num
    rw [htotal, Nat.mod_eq_of_lt hprod]
    by_cases hW : stakeSum trustless = 0
    · simp [hW]
    · simp [hW, hseats, Nat.pos_of_ne_zero hW, UInt16.pos_iff_ne_zero]

/-- The list that is sorted, without overflow. -/
theorem weightedCandidates_eq (hstake : ∀ c ∈ trustless, 0 < c.stakeDelegation.toNat)
    (hsum : dParameter.numRegisteredCandidates = 0 ∨ permissioned = [] ∨
      stakeSum trustless < 2 ^ 64)
    (hfit : weightSum dParameter permissioned.length (stakeSum trustless) < 2 ^ 128) :
    weightedCandidates trustless permissioned dParameter =
      (trustless.map fun c => (c.candidate,
        registeredWeight dParameter permissioned.length c.stakeDelegation.toNat)) ++
      permissioned.map fun c => (c, permissionedWeight dParameter (stakeSum trustless)) := by
  rw [weightedCandidates, trustlessCandidatesWithWeights_eq hstake hfit]
  rcases hsum with hseats | rfl | hlt
  · rw [permissionedCandidatesWithWeights_eq (.inl hseats)]
  · rfl
  · rw [permissionedCandidatesWithWeights_eq (.inr hlt)]

/-- The weights add up to the promised sum, as long as nothing overflows. -/
theorem totalWeight_weightedCandidates
    (hstake : ∀ c ∈ trustless, 0 < c.stakeDelegation.toNat)
    (hsum : dParameter.numRegisteredCandidates = 0 ∨ permissioned = [] ∨
      stakeSum trustless < 2 ^ 64)
    (hfit : weightSum dParameter permissioned.length (stakeSum trustless) < 2 ^ 128) :
    totalWeight (weightedCandidates trustless permissioned dParameter) =
      weightSum dParameter permissioned.length (stakeSum trustless) := by
  rw [weightedCandidates_eq hstake hsum hfit, totalWeight_append, weightSum_eq,
    ← registeredWeight_sum]
  simp [totalWeight, Function.comp_def]

theorem stakeSum_pos {trustless : List (CandidateWithStake A K)}
    (hstake : ∀ c ∈ trustless, 0 < c.stakeDelegation.toNat) (hne : trustless ≠ []) :
    0 < stakeSum trustless := by
  obtain ⟨c, hc⟩ := List.exists_mem_of_ne_nil _ hne
  exact (hstake c hc).trans_le (stake_le_stakeSum hc)

private theorem weightSum_pos {trustless : List (CandidateWithStake A K)}
    {permissioned : List (Candidate A K)} (dParameter : DParameter)
    (hstake : ∀ c ∈ trustless, 0 < c.stakeDelegation.toNat)
    (hne : trustless ≠ [] ∨ permissioned ≠ []) :
    0 < weightSum dParameter permissioned.length (stakeSum trustless) := by
  simp only [weightSum]
  by_cases hn : permissioned.length = 0
  · have hnil : permissioned = [] := List.length_eq_zero_iff.mp hn
    simpa [hn] using stakeSum_pos hstake (hne.resolve_right (not_not_intro hnil))
  · simp only [hn, if_false]
    split
    next => omega
    next hboth =>
      obtain ⟨hW, hT⟩ := not_or.mp hboth
      have hT' : 0 < dParameter.numRegisteredCandidates.toNat :=
        UInt16.lt_iff_toNat_lt.mp (UInt16.pos_iff_ne_zero.mpr hT)
      exact Nat.mul_pos (Nat.mul_pos (Nat.pos_of_ne_zero hn) (Nat.pos_of_ne_zero hW)) (by omega)

end Weights

/-! ## Draws -/

/-- An entry of weight zero leaves the cumulative weight as it was, so the
scan goes past it. -/
theorem selectIndex_weight_pos {T : Type} (l : List (T × Nat)) :
    ∀ acc r i j : Nat, acc < 2 ^ 128 → acc ≤ r → selectIndex l acc r i = some j →
      ∃ p, l[j - i]? = some p ∧ 0 < p.2 ∧ i ≤ j := by
  induction l with
  | nil =>
      intro acc r i j _ _ h
      simp [selectIndex] at h
  | cons p l ih =>
      obtain ⟨a, w⟩ := p
      intro acc r i j hacc hr h
      simp only [selectIndex] at h
      split at h
      next hlt =>
        obtain rfl : i = j := Option.some.inj h
        refine ⟨(a, w), by simp, ?_, le_refl i⟩
        by_contra hzero
        have hw : w = 0 := by simpa using hzero
        rw [hw, Nat.add_zero, Nat.mod_eq_of_lt hacc] at hlt
        omega
      next hge =>
        obtain ⟨p, hp, hpos, hle⟩ := ih _ r (i + 1) j (Nat.mod_lt _ (Nat.two_pow_pos 128))
          (Nat.le_of_not_lt hge) h
        refine ⟨p, ?_, hpos, by omega⟩
        rw [show j - i = (j - (i + 1)) + 1 by omega, List.getElem?_cons_succ]
        exact hp

variable [LinearOrder A]

/-- The list of one draw. -/
def sorted (l : List (Candidate A K × Nat)) : List (Candidate A K × Nat) :=
  sortByKey (fun p => p.1.accountId) l

/-- The position in the input of the entry that a random number selects. -/
def drawnPosition (l : List (Candidate A K × Nat)) (randomNumber : Nat) : Option Nat :=
  (selectIndex (sorted l) 0 randomNumber 0).bind
    fun index => (sortPositions (fun p => p.1.accountId) l)[index]?

/-- How many random numbers below the total select the entry at a position. -/
def draws (l : List (Candidate A K × Nat)) (position : Nat) : Nat :=
  (List.range (totalWeight (sorted l) % 2 ^ 128)).countP
    fun r => decide (drawnPosition l r = some position)

/-- The sorted positions with the weights of their entries. -/
def sortedWeights (l : List (Candidate A K × Nat)) : List (Nat × Nat) :=
  (sortByKey (fun p : (Candidate A K × Nat) × Nat => p.1.1.accountId) l.zipIdx).map
    fun p => (p.2, p.1.2)

theorem totalWeight_sorted (l : List (Candidate A K × Nat)) :
    totalWeight (sorted l) = totalWeight l :=
  totalWeight_perm (sortByKey_perm _ _)

/-- Sorting the weights sorts the positions. -/
theorem sortedWeights_fst (l : List (Candidate A K × Nat)) :
    (sortedWeights l).map Prod.fst = sortPositions (fun p => p.1.accountId) l := by
  simp [sortedWeights, sortPositions, Function.comp_def]

/-- The scan reads weights only, so it stops at the same index. -/
theorem selectIndex_sorted (l : List (Candidate A K × Nat)) (r : Nat) :
    selectIndex (sorted l) 0 r 0 = selectIndex (sortedWeights l) 0 r 0 := by
  have hsorted : sorted l =
      (sortByKey (fun p : (Candidate A K × Nat) × Nat => p.1.1.accountId) l.zipIdx).map
        Prod.fst := by
    rw [sorted, ← sortByKey_map (fun p : Candidate A K × Nat => p.1.accountId) Prod.fst,
      List.zipIdx_map_fst]
  rw [← selectIndex_map (fun _ : Candidate A K => ()) (sorted l),
    ← selectIndex_map (fun _ : Nat => ()) (sortedWeights l), hsorted, sortedWeights,
    List.map_map, List.map_map]
  rfl

theorem totalWeight_sortedWeights (l : List (Candidate A K × Nat)) :
    totalWeight (sortedWeights l) = totalWeight l := by
  have hperm := (sortByKey_perm (fun p : (Candidate A K × Nat) × Nat => p.1.1.accountId)
    l.zipIdx).map fun p => (p.2, p.1.2)
  have hweights : l.zipIdx.map (fun p => p.1.2) = l.map Prod.snd := by
    have h := congrArg (List.map Prod.snd) (List.zipIdx_map_fst 0 l)
    rwa [List.map_map] at h
  rw [sortedWeights, totalWeight_perm hperm, totalWeight, List.map_map, totalWeight, ← hweights]
  rfl

/-- A draw is a position of the urn. -/
theorem drawnPosition_eq {l : List (Candidate A K × Nat)} (hfit : totalWeight l < 2 ^ 128)
    (r : Nat) : drawnPosition l r = (urn (sortedWeights l))[r]? := by
  rw [drawnPosition, selectIndex_sorted, ← sortedWeights_fst,
    ← selectIndex_bind (by rwa [totalWeight_sortedWeights])]
  simp

/-- Every entry is drawn as often as its weight says. -/
theorem draws_eq {l : List (Candidate A K × Nat)} (hfit : totalWeight l < 2 ^ 128)
    {position : Nat} {p : Candidate A K × Nat} (h : l[position]? = some p) :
    draws l position = p.2 := by
  have hlength : totalWeight (sorted l) % 2 ^ 128 = (urn (sortedWeights l)).length := by
    rw [totalWeight_sorted, Nat.mod_eq_of_lt hfit, length_urn, totalWeight_sortedWeights]
  have hnodup : ((sortedWeights l).map Prod.fst).Nodup := by
    rw [sortedWeights_fst]
    exact (sortPositions_perm _ l).nodup_iff.mpr List.nodup_range
  have hmem : (position, p.2) ∈ sortedWeights l := by
    refine List.mem_map.mpr ⟨(p, position), ?_, rfl⟩
    exact (sortByKey_perm _ _).mem_iff.mpr (List.mem_zipIdx_iff_getElem?.mpr h)
  simp only [draws, drawnPosition_eq hfit, hlength]
  rw [countP_range_getElem?, count_urn hnodup hmem]

/-- The position is where the selected entry was.  No random number selects an
entry of weight zero, even with overflow. -/
theorem drawnPosition_weight_pos {l : List (Candidate A K × Nat)} {r position : Nat}
    (h : drawnPosition l r = some position) :
    ∃ index p, selectIndex (sorted l) 0 r 0 = some index ∧ (sorted l)[index]? = some p ∧
      l[position]? = some p ∧ 0 < p.2 := by
  obtain ⟨j, hj, hposition⟩ := Option.bind_eq_some_iff.mp h
  obtain ⟨p, hp, hpos, -⟩ := selectIndex_weight_pos (sorted l) 0 r 0 j (Nat.two_pow_pos 128)
    (Nat.zero_le r) hj
  rw [Nat.sub_zero] at hp
  refine ⟨j, p, hj, hp, ?_, hpos⟩
  rw [sorted, getElem?_sortByKey, hposition] at hp
  exact hp

private theorem selectWithWeight_ok {l : List (Candidate A K × Nat)} (hpos : 0 < totalWeight l)
    (hfit : totalWeight l < 2 ^ 128) (rng : RandomGenerator) (rand : rng.State) :
    ∃ index next, selectWithWeight rng (sorted l) (totalWeight (sorted l) % 2 ^ 128) rand =
      .ok (index, next) := by
  rw [totalWeight_sorted, Nat.mod_eq_of_lt hfit]
  have hlt := rng.genRange_lt rand (totalWeight l) hpos
  obtain ⟨position, hposition⟩ :
      ∃ i, drawnPosition l (rng.genRange rand (totalWeight l)).1 = some i := by
    rw [drawnPosition_eq hfit]
    exact ⟨_, List.getElem?_eq_getElem (by rwa [length_urn, totalWeight_sortedWeights])⟩
  obtain ⟨index, hindex, -⟩ := Option.bind_eq_some_iff.mp hposition
  refine ⟨index, (rng.genRange rand (totalWeight l)).2, ?_⟩
  simp only [selectWithWeight, hpos.ne', if_false, hindex]

/-! ## The distribution of the seats -/

section Distribution

variable {trustless : List (CandidateWithStake A K)} {permissioned : List (Candidate A K)}
  {dParameter : DParameter}

private theorem total_eq (hstake : ∀ c ∈ trustless, 0 < c.stakeDelegation.toNat)
    (hsum : dParameter.numRegisteredCandidates = 0 ∨ permissioned = [] ∨
      stakeSum trustless < 2 ^ 64)
    (hfit : weightSum dParameter permissioned.length (stakeSum trustless) < 2 ^ 128) :
    totalWeight (sorted (weightedCandidates trustless permissioned dParameter)) % 2 ^ 128 =
      weightSum dParameter permissioned.length (stakeSum trustless) := by
  rw [totalWeight_sorted, totalWeight_weightedCandidates hstake hsum hfit,
    Nat.mod_eq_of_lt hfit]

private theorem draws_registered (hstake : ∀ c ∈ trustless, 0 < c.stakeDelegation.toNat)
    (hsum : dParameter.numRegisteredCandidates = 0 ∨ permissioned = [] ∨
      stakeSum trustless < 2 ^ 64)
    (hfit : weightSum dParameter permissioned.length (stakeSum trustless) < 2 ^ 128)
    {i : Nat} {c : CandidateWithStake A K} (h : trustless[i]? = some c) :
    draws (weightedCandidates trustless permissioned dParameter) i =
      registeredWeight dParameter permissioned.length c.stakeDelegation.toNat := by
  have hlt : i < trustless.length := (List.getElem?_eq_some_iff.mp h).1
  have hget : (weightedCandidates trustless permissioned dParameter)[i]? = some (c.candidate,
      registeredWeight dParameter permissioned.length c.stakeDelegation.toNat) := by
    rw [weightedCandidates_eq hstake hsum hfit, List.getElem?_append_left (by simpa using hlt),
      List.getElem?_map, h]
    rfl
  rw [draws_eq (by rwa [totalWeight_weightedCandidates hstake hsum hfit]) hget]

private theorem draws_permissioned (hstake : ∀ c ∈ trustless, 0 < c.stakeDelegation.toNat)
    (hsum : dParameter.numRegisteredCandidates = 0 ∨ permissioned = [] ∨
      stakeSum trustless < 2 ^ 64)
    (hfit : weightSum dParameter permissioned.length (stakeSum trustless) < 2 ^ 128)
    {i : Nat} {c : Candidate A K} (h : permissioned[i]? = some c) :
    draws (weightedCandidates trustless permissioned dParameter) (trustless.length + i) =
      permissionedWeight dParameter (stakeSum trustless) := by
  have hget : (weightedCandidates trustless permissioned dParameter)[trustless.length + i]? =
      some (c, permissionedWeight dParameter (stakeSum trustless)) := by
    rw [weightedCandidates_eq hstake hsum hfit, List.getElem?_append_right (by simp),
      List.length_map, Nat.add_sub_cancel_left, List.getElem?_map, h]
    rfl
  rw [draws_eq (by rwa [totalWeight_weightedCandidates hstake hsum hfit]) hget]

end Distribution

/-- The `W` at stake and the `n` permissioned candidates share the numbers of
one draw as the D-parameter says; if one of the two groups is missing, or the
registered one has no seats, the other one has all numbers. -/
theorem seat_distribution (trustless : List (CandidateWithStake A K))
    (permissioned : List (Candidate A K)) (dParameter : DParameter)
    (hstake : ∀ c ∈ trustless, 0 < c.stakeDelegation.toNat)
    (hfit : weightSum dParameter permissioned.length (stakeSum trustless) < 2 ^ 128) :
    let P := dParameter.numPermissionedCandidates.toNat
    let T := dParameter.numRegisteredCandidates.toNat
    let n := permissioned.length
    let W := stakeSum trustless
    let l := weightedCandidates trustless permissioned dParameter
    let total := totalWeight (sorted l) % 2 ^ 128
    (0 < T → trustless ≠ [] → permissioned ≠ [] → W < 2 ^ 64 →
      total = n * W * (P + T) ∧
      (∀ i c, trustless[i]? = some c → draws l i = n * T * c.stakeDelegation.toNat) ∧
      ∀ i c, permissioned[i]? = some c → draws l (trustless.length + i) = P * W) ∧
    (permissioned = [] →
      total = W ∧ ∀ i c, trustless[i]? = some c → draws l i = c.stakeDelegation.toNat) ∧
    (permissioned ≠ [] → trustless = [] ∨ T = 0 →
      total = n ∧
      (∀ i c, trustless[i]? = some c → draws l i = 0) ∧
      ∀ i c, permissioned[i]? = some c → draws l (trustless.length + i) = 1) ∧
    (∀ r i, drawnPosition l r = some i → ∃ index p,
      selectIndex (sorted l) 0 r 0 = some index ∧ (sorted l)[index]? = some p ∧
      l[i]? = some p ∧ 0 < p.2) ∧
    (trustless ≠ [] ∨ permissioned ≠ [] → W < 2 ^ 64 →
      ∀ (rng : RandomGenerator) (rand : rng.State), ∃ index next,
        selectWithWeight rng (sorted l) total rand = .ok (index, next)) := by
  intro P T n W l total
  have hseats : dParameter.numRegisteredCandidates = 0 ↔ T = 0 := by
    rw [← UInt16.toNat_inj]
    rfl
  refine ⟨?_, ?_, ?_, fun r i h => drawnPosition_weight_pos h, ?_⟩
  · intro hT htrustless hpermissioned hW
    have hn : n ≠ 0 := by simpa [n] using hpermissioned
    have hW0 : W ≠ 0 := (stakeSum_pos hstake htrustless).ne'
    have hboth : ¬ (W = 0 ∨ dParameter.numRegisteredCandidates = 0) := by
      rw [hseats]
      omega
    refine ⟨?_, ?_, ?_⟩
    · refine (total_eq hstake (.inr (.inr hW)) hfit).trans ?_
      rw [weightSum, if_neg hn, if_neg hboth]
    · intro i c h
      rw [draws_registered hstake (.inr (.inr hW)) hfit h, registeredWeight, if_neg hn]
    · intro i c h
      rw [draws_permissioned hstake (.inr (.inr hW)) hfit h, permissionedWeight, if_neg hboth]
  · intro hnil
    have hn : n = 0 := by simp [n, hnil]
    refine ⟨?_, ?_⟩
    · refine (total_eq hstake (.inr (.inl hnil)) hfit).trans ?_
      rw [weightSum, if_pos hn]
    · intro i c h
      rw [draws_registered hstake (.inr (.inl hnil)) hfit h, registeredWeight, if_pos hn]
  · intro hpermissioned hone
    have hn : n ≠ 0 := by simpa [n] using hpermissioned
    have hzero : W = 0 ∨ dParameter.numRegisteredCandidates = 0 := by
      rcases hone with rfl | hT
      · exact .inl rfl
      · exact .inr (hseats.mpr hT)
    have hsum : dParameter.numRegisteredCandidates = 0 ∨ permissioned = [] ∨ W < 2 ^ 64 := by
      rcases hzero with hW | hT
      · exact .inr (.inr (by omega))
      · exact .inl hT
    refine ⟨?_, ?_, ?_⟩
    · refine (total_eq hstake hsum hfit).trans ?_
      rw [weightSum, if_neg hn, if_pos hzero]
    · intro i c h
      rcases hone with rfl | hT
      · simp at h
      · rw [draws_registered hstake hsum hfit h, registeredWeight, if_neg hn,
          show dParameter.numRegisteredCandidates.toNat = 0 from hT, Nat.mul_zero, Nat.zero_mul]
    · intro i c h
      rw [draws_permissioned hstake hsum hfit h, permissionedWeight, if_pos hzero]
  · intro hne hW rng rand
    have htotal := totalWeight_weightedCandidates hstake (.inr (.inr hW)) hfit
    refine selectWithWeight_ok ?_ ?_ rng rand
    · rw [htotal]
      exact weightSum_pos dParameter hstake hne
    · rwa [htotal]

/-- Two registered candidates with stakes 5 and 7. -/
def twoRegistered : List (CandidateWithStake Nat Nat) := [⟨⟨1, 10⟩, 5⟩, ⟨⟨2, 20⟩, 7⟩]

/-- Three permissioned candidates; the first one is also registered. -/
def threePermissioned : List (Candidate Nat Nat) := [⟨1, 10⟩, ⟨3, 30⟩, ⟨4, 40⟩]

/-- Five candidates, with their shares of 108 draws. -/
theorem seat_distribution_five :
    (∀ c ∈ twoRegistered, 0 < c.stakeDelegation.toNat) ∧
    weightSum ⟨2, 1⟩ threePermissioned.length (stakeSum twoRegistered) < 2 ^ 128 ∧
    totalWeight (sorted (weightedCandidates twoRegistered threePermissioned ⟨2, 1⟩)) % 2 ^ 128 =
      108 ∧
    draws (weightedCandidates twoRegistered threePermissioned ⟨2, 1⟩) 0 = 15 ∧
    draws (weightedCandidates twoRegistered threePermissioned ⟨2, 1⟩) 2 = 24 := by
  have hstake : ∀ c ∈ twoRegistered, 0 < c.stakeDelegation.toNat := by decide
  have hfit : weightSum ⟨2, 1⟩ threePermissioned.length (stakeSum twoRegistered) < 2 ^ 128 := by
    decide
  obtain ⟨htotal, hregistered, hpermissioned⟩ :=
    (seat_distribution twoRegistered threePermissioned ⟨2, 1⟩ hstake hfit).1
      (by decide) (by decide) (by decide) (by decide)
  exact ⟨hstake, hfit, htotal, hregistered 0 _ rfl, hpermissioned 0 _ rfl⟩

end PartnerChains.Ports.SeatDistribution
