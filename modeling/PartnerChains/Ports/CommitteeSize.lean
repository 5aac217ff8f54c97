import PartnerChains.Ports.SelectionOrder

/-!
# The size of the selected committee

The documentation of `select_authorities` promises a committee of `P + T`
seats.  The size is a `u16` sum of two `u16` numbers, so it is `P + T` modulo
`2 ^ 16`, and with no seats the selection returns the empty committee even if
there are no candidates.  `promisedCommittee_iff` says for which D-parameters
the promise is kept.
-/

namespace PartnerChains.Ports.CommitteeSize

open PartnerChains.Ports.Domain
open PartnerChains.Ports.CandidateFilter
open PartnerChains.Ports.SelectAuthorities
open PartnerChains.Ports.SelectionOrder
open PartnerChains.Verified.StableSort
open PartnerChains.Verified.WeightedDraw

/-- `P + T`, without overflow. -/
def seats (dParameter : DParameter) : Nat :=
  dParameter.numPermissionedCandidates.toNat + dParameter.numRegisteredCandidates.toNat

/-- The size is computed in 16 bits. -/
theorem toNat_committeeSize (dParameter : DParameter) :
    (committeeSize dParameter).toNat = seats dParameter % 2 ^ 16 := by
  rw [committeeSize, UInt16.toNat_add, seats, Nat.add_comm]

private theorem committeeSize_ne_zero_iff (dParameter : DParameter) :
    committeeSize dParameter ≠ 0 ↔ seats dParameter % 2 ^ 16 ≠ 0 := by
  rw [← toNat_committeeSize, Ne, ← UInt16.toNat_inj]
  rfl

/-- A committee is drawn only if there is a candidate to draw. -/
theorem weightedSelection_nil {A K : Type} (rng : RandomGenerator) {size : UInt16}
    (hsize : size ≠ 0) (seed : FixedBytes 32) :
    weightedSelection rng ([] : List (Candidate A K × Nat)) size seed = .ok none := by
  have hpos : size.toNat ≠ 0 := by
    intro hzero
    exact hsize (UInt16.toNat_inj.mp hzero)
  obtain ⟨n, hn⟩ := Nat.exists_eq_succ_of_ne_zero hpos
  simp [weightedSelection, weightedRandomSelectAuthorities, hn, drawCommittee, bind,
    Except.bind]

section Selection

variable {A K : Type} (verification : SignatureVerification)
  (conversions : AccountConversions A K) (genesisUtxo : UtxoId)

/-- Account ids and keys of the valid candidates. -/
def validMembers (input : AuthoritySelectionInputs) : List (A × K) :=
  ((validTrustless verification conversions genesisUtxo input).map (·.candidate) ++
    validPermissioned conversions input).map fun c => (c.accountId, c.accountKeys)

private theorem weightedCandidates_fst (trustless : List (CandidateWithStake A K))
    (permissioned : List (Candidate A K)) (dParameter : DParameter) :
    (weightedCandidates trustless permissioned dParameter).map Prod.fst =
      trustless.map (·.candidate) ++ permissioned := by
  simp [weightedCandidates, trustlessCandidatesWithWeights, permissionedCandidatesWithWeights,
    Function.comp_def]

variable [LinearOrder A] (rng : RandomGenerator) (maxValidators : Nat) (sidechainEpoch : UInt64)

/-- The selection does not panic, finds no committee exactly without valid
candidates, and otherwise `P + T` valid candidates, as many of them as
validators are allowed. -/
def PromisedCommittee (input : AuthoritySelectionInputs) : Prop :=
  ∃ result, selectAuthorities verification conversions rng maxValidators genesisUtxo input
      sidechainEpoch = .ok result ∧
    (result = none ↔ validMembers verification conversions genesisUtxo input = []) ∧
    ∀ committee, result = some committee →
      committee ≠ [] ∧ committee.length = min (seats input.dParameter) maxValidators ∧
      ∀ member ∈ committee, member ∈ validMembers verification conversions genesisUtxo input

/-- The candidates that are drawn from are the valid members. -/
theorem sortedCandidates_fst_perm (input : AuthoritySelectionInputs) :
    ((sortedCandidates verification conversions genesisUtxo input).map fun p =>
        (p.1.accountId, p.1.accountKeys)).Perm
      (validMembers verification conversions genesisUtxo input) := by
  have hperm := (sortByKey_perm (fun p : Candidate A K × Nat => p.1.accountId)
    (weightedCandidates (validTrustless verification conversions genesisUtxo input)
      (validPermissioned conversions input) input.dParameter)).map
    fun p => (p.1.accountId, p.1.accountKeys)
  rw [validMembers, ← weightedCandidates_fst _ _ input.dParameter, List.map_map]
  exact hperm

theorem sortedCandidates_eq_nil_iff (input : AuthoritySelectionInputs) :
    sortedCandidates verification conversions genesisUtxo input = [] ↔
      validMembers verification conversions genesisUtxo input = [] := by
  have hlength := (sortedCandidates_fst_perm verification conversions genesisUtxo
    input).length_eq
  rw [List.length_map] at hlength
  rw [← List.length_eq_zero_iff, ← List.length_eq_zero_iff, hlength]

/-- Without valid candidates there is no committee, unless it has no
seats. -/
theorem selectAuthorities_of_nil {input : AuthoritySelectionInputs}
    (hnil : validMembers verification conversions genesisUtxo input = [])
    (hsize : committeeSize input.dParameter ≠ 0) :
    selectAuthorities verification conversions rng maxValidators genesisUtxo input
      sidechainEpoch = .ok none := by
  rw [selectAuthorities_eq,
    (sortedCandidates_eq_nil_iff verification conversions genesisUtxo input).mpr hnil,
    weightedSelection_nil rng hsize]
  rfl

/-- A size of zero selects an empty committee, not none. -/
theorem selectAuthorities_of_zero {input : AuthoritySelectionInputs}
    (hsize : committeeSize input.dParameter = 0) :
    selectAuthorities verification conversions rng maxValidators genesisUtxo input
      sidechainEpoch = .ok (some []) := by
  rw [selectAuthorities_eq, hsize, weightedSelection_zero]
  simp [Except.bind]

/-- With valid candidates the `u16` number of seats is filled with them, up to
the maximum. -/
theorem selectAuthorities_of_ne_nil {input : AuthoritySelectionInputs}
    (hne : validMembers verification conversions genesisUtxo input ≠ [])
    (hfit : FitsMemory verification conversions genesisUtxo input) :
    ∃ committee : List (A × K),
      selectAuthorities verification conversions rng maxValidators genesisUtxo input
        sidechainEpoch = .ok (some committee) ∧
      committee.length = min (seats input.dParameter % 2 ^ 16) maxValidators ∧
      ∀ member ∈ committee, member ∈ validMembers verification conversions genesisUtxo input := by
  have hpos := totalWeight_sortedCandidates_pos verification conversions genesisUtxo hfit
    (mt (sortedCandidates_eq_nil_iff verification conversions genesisUtxo input).mp hne)
  have hlt := totalWeight_sortedCandidates_lt verification conversions genesisUtxo hfit
  obtain ⟨drawn, hlength, hmem, hdrawn⟩ := weightedSelection_ok rng
    (committeeSize input.dParameter)
    (seedFromNonceAndScEpoch input.epochNonce sidechainEpoch) hpos hlt
  refine ⟨(drawn.map fun c => (c.accountId, c.accountKeys)).take maxValidators, ?_, ?_, ?_⟩
  · rw [selectAuthorities_eq, hdrawn]
    rfl
  · rw [List.length_take, List.length_map, hlength, toNat_committeeSize, Nat.min_comm]
  · intro member hmember
    obtain ⟨c, hc, rfl⟩ := List.mem_map.mp (List.mem_of_mem_take hmember)
    obtain ⟨w, -, hw⟩ := mem_urn.mp (hmem c hc)
    exact (sortedCandidates_fst_perm verification conversions genesisUtxo input).mem_iff.mp
      (List.mem_map.mpr ⟨(c, w), hw, rfl⟩)

/-- The wrapped size gives the promised length unless the wrap-around shows. -/
theorem min_mod_eq_min_iff (seats maxValidators : Nat) :
    min (seats % 2 ^ 16) maxValidators = min seats maxValidators ↔
      seats < 2 ^ 16 ∨ maxValidators ≤ seats % 2 ^ 16 := by
  have hmod : seats % 2 ^ 16 ≤ seats := Nat.mod_le _ _
  constructor
  · intro hmin
    by_contra hnot
    have hge : 2 ^ 16 ≤ seats := by omega
    have hsmaller : seats % 2 ^ 16 < seats :=
      (Nat.mod_lt _ (Nat.two_pow_pos 16)).trans_le hge
    omega
  · rintro (hlt | hle)
    · rw [Nat.mod_eq_of_lt hlt]
    · omega

/-- The promise is kept exactly if the `u16` size is not zero and, where there
are candidates, either is `P + T` or exceeds the maximum anyway. -/
theorem promisedCommittee_iff (input : AuthoritySelectionInputs)
    (hmax : 1 ≤ maxValidators)
    (hfit : FitsMemory verification conversions genesisUtxo input) :
    PromisedCommittee verification conversions genesisUtxo rng maxValidators sidechainEpoch
        input ↔
      seats input.dParameter % 2 ^ 16 ≠ 0 ∧
      (validMembers verification conversions genesisUtxo input = [] ∨
        seats input.dParameter < 2 ^ 16 ∨ maxValidators ≤ seats input.dParameter % 2 ^ 16) := by
  by_cases hsize : committeeSize input.dParameter = 0
  · -- the empty committee is selected
    have hzero : seats input.dParameter % 2 ^ 16 = 0 := by
      by_contra hne
      exact (committeeSize_ne_zero_iff _).mpr hne hsize
    have hselect := selectAuthorities_of_zero verification conversions genesisUtxo rng
      maxValidators sidechainEpoch hsize
    refine iff_of_false ?_ fun h => h.1 hzero
    rintro ⟨result, hresult, -, hsome⟩
    rw [hselect] at hresult
    exact (hsome [] (Except.ok.inj hresult).symm).1 rfl
  · have hne := (committeeSize_ne_zero_iff _).mp hsize
    simp only [hne, ne_eq, not_false_eq_true, true_and]
    by_cases hnil : validMembers verification conversions genesisUtxo input = []
    · refine iff_of_true ⟨none, ?_, by simp [hnil], by simp⟩ (.inl hnil)
      exact selectAuthorities_of_nil verification conversions genesisUtxo rng maxValidators
        sidechainEpoch hnil hsize
    · obtain ⟨committee, hselect, hlength, hmem⟩ := selectAuthorities_of_ne_nil verification
        conversions genesisUtxo rng maxValidators sidechainEpoch hnil hfit
      simp only [hnil, false_or]
      rw [← min_mod_eq_min_iff]
      constructor
      · rintro ⟨result, hresult, -, hsome⟩
        rw [hselect] at hresult
        have hpromised := (hsome committee (Except.ok.inj hresult).symm).2.1
        exact hlength.symm.trans hpromised
      · intro hmin
        refine ⟨some committee, hselect, by simp [hnil], ?_⟩
        intro c hc
        obtain rfl : committee = c := Option.some.inj hc
        refine ⟨?_, hlength.trans hmin, hmem⟩
        rw [← List.length_pos_iff, hlength]
        omega

end Selection

/-- One permissioned candidate, and as many seats for each group as fit
`2 ^ 15`. -/
def halvesInput : AuthoritySelectionInputs where
  dParameter := ⟨32768, 32768⟩
  permissionedCandidates := [⟨List.replicate 33 2, List.replicate 32 1, List.replicate 32 0⟩]
  registeredCandidates := []
  epochNonce := []

/-- The two numbers of seats add up to zero: the selected committee is
empty. -/
theorem halvesInput_not_promisedCommittee :
    selectAuthorities signedByOwner exampleConversions (constantGenerator 0) 32 exampleUtxo
      halvesInput 1 = .ok (some []) ∧
    validMembers signedByOwner exampleConversions exampleUtxo halvesInput ≠ [] ∧
    seats halvesInput.dParameter = 65536 ∧
    ¬ PromisedCommittee signedByOwner exampleConversions exampleUtxo (constantGenerator 0) 32 1
      halvesInput := by
  have hselect : selectAuthorities signedByOwner exampleConversions (constantGenerator 0) 32
      exampleUtxo halvesInput 1 = .ok (some []) :=
    selectAuthorities_of_zero _ _ _ _ _ _ rfl
  refine ⟨hselect, by decide, rfl, ?_⟩
  rintro ⟨result, hresult, -, hsome⟩
  rw [hselect] at hresult
  exact (hsome [] (Except.ok.inj hresult).symm).1 rfl

theorem promisedCommittee_iff_poolsInput :
    FitsMemory signedByOwner exampleConversions exampleUtxo (poolsInput [pool 1, pool 2]) ∧
    PromisedCommittee signedByOwner exampleConversions exampleUtxo (constantGenerator 0) 32 1
      (poolsInput [pool 1, pool 2]) := by
  have hfit : FitsMemory signedByOwner exampleConversions exampleUtxo
      (poolsInput [pool 1, pool 2]) := by decide
  refine ⟨hfit, (promisedCommittee_iff signedByOwner exampleConversions exampleUtxo
    (constantGenerator 0) 32 1 _ (by decide) hfit).mpr ?_⟩
  exact ⟨by decide, .inr (.inl (by decide))⟩

end PartnerChains.Ports.CommitteeSize
