import PartnerChains.Ports.SelectAuthorities

/-!
# Committee selection and the order of its inputs

The candidates reach `select_authorities` in an order that nothing fixes.
The stable sort on the account id erases that order, except among candidates
that share their account id: those keep the order of the input and are drawn
in it.  Registered candidates always precede permissioned ones, so a shared
account id matters only inside one of the two groups, and only if the group
has positive weights.

`orderIndependent_iff` is the exact condition.  Its two halves are
`selectAuthorities_sameUpToOrder`, from equal urns, and
`candidate_eq_of_orderIndependent`, which draws the two candidates that share
an account id with one generator from two orders of the same input.
-/

namespace PartnerChains.Ports.SelectionOrder

open PartnerChains.Ports.Domain
open PartnerChains.Ports.CandidateFilter
open PartnerChains.Ports.SelectAuthorities
open PartnerChains.Verified.StableSort
open PartnerChains.Verified.WeightedDraw

/-- What a reordering of the inputs may change: the order of the registered
candidates, of the registrations of each of them, and of the permissioned
candidates. -/
structure SameUpToOrder (input input' : AuthoritySelectionInputs) : Prop where
  dParameter : input'.dParameter = input.dParameter
  epochNonce : input'.epochNonce = input.epochNonce
  permissionedCandidates :
    input'.permissionedCandidates.Perm input.permissionedCandidates
  registeredCandidates : ∃ reordered : List CandidateRegistrations,
    reordered.Perm input.registeredCandidates ∧
      List.Forall₂ SameCandidate reordered input'.registeredCandidates

/-- Inside one candidate the registrations have distinct ordering keys. -/
def DistinctOrderingKeys (input : AuthoritySelectionInputs) : Prop :=
  ∀ c ∈ input.registeredCandidates,
    (c.registrations.map fun r => r.utxoInfo.orderingKey).Nodup

section Weights

variable {A K : Type}

/-- The list `select_authorities` sorts: registered candidates first. -/
def weightedCandidates (trustless : List (CandidateWithStake A K))
    (permissioned : List (Candidate A K)) (dParameter : DParameter) :
    List (Candidate A K × Nat) :=
  trustlessCandidatesWithWeights trustless dParameter permissioned.length ++
    permissionedCandidatesWithWeights permissioned dParameter trustless

private theorem totalWeight_le {T : Type} {l : List (T × Nat)} {bound : Nat}
    (h : ∀ p ∈ l, p.2 ≤ bound) : totalWeight l ≤ l.length * bound := by
  have hsum := List.sum_le_card_nsmul (l.map Prod.snd) bound (by
    intro w hw
    obtain ⟨p, hp, rfl⟩ := List.mem_map.mp hw
    exact h p hp)
  simpa [totalWeight] using hsum

private theorem trustlessWeight_le (trustless : List (CandidateWithStake A K))
    (dParameter : DParameter) (count : Nat) :
    ∀ p ∈ trustlessCandidatesWithWeights trustless dParameter count,
      p.2 ≤ 2 ^ 80 * (count + 1) := by
  intro p hp
  simp only [trustlessCandidatesWithWeights, List.mem_map] at hp
  obtain ⟨c, -, rfl⟩ := hp
  have hstake : c.stakeDelegation.toNat ≤ 2 ^ 64 := c.stakeDelegation.toNat_lt.le
  have hreg : dParameter.numRegisteredCandidates.toNat ≤ 2 ^ 16 :=
    dParameter.numRegisteredCandidates.toNat_lt.le
  have hfactor : (if count > 0 then
      dParameter.numRegisteredCandidates.toNat * count % 2 ^ 128 else 1) ≤
        2 ^ 16 * (count + 1) := by
    split
    · calc dParameter.numRegisteredCandidates.toNat * count % 2 ^ 128
          ≤ dParameter.numRegisteredCandidates.toNat * count := Nat.mod_le _ _
        _ ≤ 2 ^ 16 * (count + 1) := Nat.mul_le_mul hreg (Nat.le_succ _)
    · omega
  calc _ ≤ c.stakeDelegation.toNat * _ := Nat.mod_le _ _
    _ ≤ 2 ^ 64 * (2 ^ 16 * (count + 1)) := Nat.mul_le_mul hstake hfactor
    _ = 2 ^ 80 * (count + 1) := by ring

private theorem permissionedWeight_le (permissioned : List (Candidate A K))
    (dParameter : DParameter) (trustless : List (CandidateWithStake A K)) :
    ∀ p ∈ permissionedCandidatesWithWeights permissioned dParameter trustless,
      p.2 ≤ 2 ^ 80 := by
  intro p hp
  simp only [permissionedCandidatesWithWeights, List.mem_map] at hp
  obtain ⟨c, -, rfl⟩ := hp
  have htotal : totalStake trustless ≤ 2 ^ 64 :=
    (Nat.mod_lt _ (Nat.two_pow_pos 64)).le
  have hperm : dParameter.numPermissionedCandidates.toNat ≤ 2 ^ 16 :=
    dParameter.numPermissionedCandidates.toNat_lt.le
  split
  · calc _ ≤ dParameter.numPermissionedCandidates.toNat * totalStake trustless :=
          Nat.mod_le _ _
      _ ≤ 2 ^ 16 * 2 ^ 64 := Nat.mul_le_mul hperm htotal
      _ = 2 ^ 80 := by norm_num
  · norm_num

/-- The cumulative weights never wrap around. -/
theorem totalWeight_weightedCandidates_lt {trustless : List (CandidateWithStake A K)}
    {permissioned : List (Candidate A K)} (dParameter : DParameter)
    (hfit : (trustless.length + 1) * (permissioned.length + 1) ≤ 2 ^ 48) :
    totalWeight (weightedCandidates trustless permissioned dParameter) < 2 ^ 128 := by
  have htrustless := totalWeight_le (trustlessWeight_le trustless dParameter
    permissioned.length)
  have hpermissioned := totalWeight_le (permissionedWeight_le permissioned dParameter
    trustless)
  simp only [trustlessCandidatesWithWeights, permissionedCandidatesWithWeights,
    List.length_map] at htrustless hpermissioned
  calc totalWeight (weightedCandidates trustless permissioned dParameter)
      ≤ trustless.length * (2 ^ 80 * (permissioned.length + 1)) +
          permissioned.length * 2 ^ 80 := by
        rw [weightedCandidates, totalWeight_append]
        exact Nat.add_le_add htrustless hpermissioned
    _ = 2 ^ 80 * (trustless.length * (permissioned.length + 1) +
          permissioned.length) := by ring
    _ < 2 ^ 80 * ((trustless.length + 1) * (permissioned.length + 1)) :=
        Nat.mul_lt_mul_of_pos_left (by ring_nf; omega) (Nat.two_pow_pos 80)
    _ ≤ 2 ^ 80 * 2 ^ 48 := Nat.mul_le_mul_left _ hfit
    _ = 2 ^ 128 := by norm_num

/-- A registered candidate has weight zero exactly when there are permissioned
candidates and the D-parameter leaves registered ones no seats. -/
theorem trustlessWeight_pos {trustless : List (CandidateWithStake A K)}
    (dParameter : DParameter) {count : Nat} (hcount : count < 2 ^ 48)
    (hstake : ∀ c ∈ trustless, 0 < c.stakeDelegation.toNat) :
    ∀ p ∈ trustlessCandidatesWithWeights trustless dParameter count,
      0 < p.2 ↔ count = 0 ∨ 0 < dParameter.numRegisteredCandidates := by
  intro p hp
  simp only [trustlessCandidatesWithWeights, List.mem_map] at hp
  obtain ⟨c, hc, rfl⟩ := hp
  have hpos := hstake c hc
  have hlt : c.stakeDelegation.toNat < 2 ^ 64 := c.stakeDelegation.toNat_lt
  rw [UInt16.lt_iff_toNat_lt]
  have hreg : dParameter.numRegisteredCandidates.toNat < 2 ^ 16 :=
    dParameter.numRegisteredCandidates.toNat_lt
  generalize dParameter.numRegisteredCandidates.toNat = t at hreg ⊢
  rcases Nat.eq_zero_or_pos count with rfl | hn
  · simp only [gt_iff_lt, lt_irrefl, if_false, Nat.mul_one, true_or, iff_true]
    rw [Nat.mod_eq_of_lt (by omega)]
    exact hpos
  · have hprod : t * count < 2 ^ 64 := by
      calc t * count < 2 ^ 16 * 2 ^ 48 := by
            exact Nat.mul_lt_mul'' hreg hcount
        _ = 2 ^ 64 := by norm_num
    have hweight : c.stakeDelegation.toNat * (t * count) < 2 ^ 128 := by
      calc c.stakeDelegation.toNat * (t * count) < 2 ^ 64 * 2 ^ 64 :=
            Nat.mul_lt_mul'' hlt hprod
        _ = 2 ^ 128 := by norm_num
    have hne : count ≠ 0 := hn.ne'
    have hmod : t * count % 2 ^ 128 = t * count := Nat.mod_eq_of_lt (by omega)
    simp only [gt_iff_lt, hn, if_true, hne, false_or]
    rw [hmod, Nat.mod_eq_of_lt hweight, Nat.mul_pos_iff_of_pos_left hpos,
      Nat.mul_pos_iff_of_pos_right hn]
    rfl

/-- A permissioned candidate has weight zero exactly when there is stake to
compare with, registered candidates have seats and permissioned ones none. -/
theorem permissionedWeight_pos (permissioned : List (Candidate A K))
    (dParameter : DParameter) (trustless : List (CandidateWithStake A K)) :
    ∀ p ∈ permissionedCandidatesWithWeights permissioned dParameter trustless,
      0 < p.2 ↔ totalStake trustless = 0 ∨ dParameter.numRegisteredCandidates = 0 ∨
        0 < dParameter.numPermissionedCandidates := by
  intro p hp
  simp only [permissionedCandidatesWithWeights, List.mem_map] at hp
  obtain ⟨c, -, rfl⟩ := hp
  have htotal : totalStake trustless < 2 ^ 64 := Nat.mod_lt _ (Nat.two_pow_pos 64)
  have hperm : dParameter.numPermissionedCandidates.toNat < 2 ^ 16 :=
    dParameter.numPermissionedCandidates.toNat_lt
  have hzero : dParameter.numRegisteredCandidates = 0 ↔
      ¬ 0 < dParameter.numRegisteredCandidates := by
    simp [UInt16.pos_iff_ne_zero]
  by_cases hboth : totalStake trustless > 0 ∧ dParameter.numRegisteredCandidates > 0
  · have hprod : dParameter.numPermissionedCandidates.toNat * totalStake trustless <
        2 ^ 128 := by
      calc _ < 2 ^ 16 * 2 ^ 64 := Nat.mul_lt_mul'' hperm htotal
        _ < 2 ^ 128 := by norm_num
    have hne : totalStake trustless ≠ 0 := hboth.1.ne'
    have hreg : ¬ dParameter.numRegisteredCandidates = 0 := by
      rw [hzero]
      exact not_not_intro hboth.2
    simp only [hboth, and_self, if_true, hne, hreg, false_or]
    rw [Nat.mod_eq_of_lt hprod, Nat.mul_pos_iff_of_pos_right hboth.1, UInt16.lt_iff_toNat_lt]
    rfl
  · simp only [hboth, if_false, Nat.one_pos, true_iff]
    rcases not_and_or.mp hboth with h | h
    · exact Or.inl (by omega)
    · exact Or.inr (Or.inl (hzero.mpr h))

/-- Some candidate can always be drawn. -/
theorem totalWeight_weightedCandidates_pos {trustless : List (CandidateWithStake A K)}
    {permissioned : List (Candidate A K)} (dParameter : DParameter)
    (hcount : permissioned.length < 2 ^ 48)
    (hstake : ∀ c ∈ trustless, 0 < c.stakeDelegation.toNat)
    (hne : weightedCandidates trustless permissioned dParameter ≠ []) :
    0 < totalWeight (weightedCandidates trustless permissioned dParameter) := by
  have hmem : ∃ p ∈ weightedCandidates trustless permissioned dParameter, 0 < p.2 := by
    have htp := trustlessWeight_pos dParameter hcount hstake
    have hpp := permissionedWeight_pos permissioned dParameter trustless
    unfold weightedCandidates at hne ⊢
    cases permissioned with
    | nil =>
        obtain ⟨p, hp⟩ := List.exists_mem_of_ne_nil _ hne
        refine ⟨p, hp, ?_⟩
        simp only [permissionedCandidatesWithWeights, List.map_nil, List.append_nil] at hp
        exact (htp p hp).mpr (Or.inl rfl)
    | cons c rest =>
        by_cases hseats : dParameter.numRegisteredCandidates = 0
        · refine ⟨_, List.mem_append_right _ List.mem_cons_self, ?_⟩
          exact (hpp _ List.mem_cons_self).mpr (Or.inr (Or.inl hseats))
        · cases trustless with
          | nil =>
              refine ⟨_, List.mem_append_right _ List.mem_cons_self, ?_⟩
              exact (hpp _ List.mem_cons_self).mpr (Or.inl rfl)
          | cons t ts =>
              refine ⟨_, List.mem_append_left _ List.mem_cons_self, ?_⟩
              exact (htp _ List.mem_cons_self).mpr
                (Or.inr (UInt16.pos_iff_ne_zero.mpr hseats))
  obtain ⟨p, hp, hpos⟩ := hmem
  have hle : p.2 ≤ totalWeight (weightedCandidates trustless permissioned dParameter) :=
    List.le_sum_of_mem (List.mem_map_of_mem hp)
  omega

/-- The total stake does not depend on the order. -/
theorem totalStake_perm {l l' : List (CandidateWithStake A K)} (h : l.Perm l') :
    totalStake l = totalStake l' := by
  unfold totalStake
  rw [(h.map _).sum_eq]

/-- Both groups of weighted candidates are permuted with their candidates. -/
theorem trustlessCandidatesWithWeights_perm {l l' : List (CandidateWithStake A K)}
    (h : l.Perm l') (dParameter : DParameter) (count : Nat) :
    (trustlessCandidatesWithWeights l dParameter count).Perm
      (trustlessCandidatesWithWeights l' dParameter count) := h.map _

theorem permissionedCandidatesWithWeights_perm {m m' : List (Candidate A K)}
    {l l' : List (CandidateWithStake A K)} (hm : m.Perm m') (hl : l.Perm l')
    (dParameter : DParameter) :
    (permissionedCandidatesWithWeights m dParameter l).Perm
      (permissionedCandidatesWithWeights m' dParameter l') := by
  unfold permissionedCandidatesWithWeights
  rw [totalStake_perm hl]
  exact hm.map _

private theorem weightedCandidates_perm {l l' : List (CandidateWithStake A K)}
    {m m' : List (Candidate A K)} (hl : l.Perm l') (hm : m.Perm m')
    (dParameter : DParameter) :
    (weightedCandidates l m dParameter).Perm (weightedCandidates l' m' dParameter) := by
  unfold weightedCandidates
  rw [hm.length_eq]
  exact (trustlessCandidatesWithWeights_perm hl dParameter _).append
    (permissionedCandidatesWithWeights_perm hm hl dParameter)

end Weights

/-! ## Reordered inputs -/

section Selection

variable {A K : Type} (verification : SignatureVerification)
  (conversions : AccountConversions A K) (genesisUtxo : UtxoId)

/-- The registered candidates that are left after filtering. -/
def validTrustless (input : AuthoritySelectionInputs) : List (CandidateWithStake A K) :=
  filterTrustlessCandidatesRegistrations verification conversions
    input.registeredCandidates genesisUtxo

/-- The permissioned candidates that are left after filtering. -/
def validPermissioned (input : AuthoritySelectionInputs) : List (Candidate A K) :=
  filterInvalidPermissionedCandidates conversions input.permissionedCandidates

/-- Candidates without stake are filtered out. -/
theorem validTrustless_stake_pos (input : AuthoritySelectionInputs) :
    ∀ c ∈ validTrustless verification conversions genesisUtxo input,
      0 < c.stakeDelegation.toNat := by
  intro c hc
  obtain ⟨r, -, hr⟩ := List.mem_filterMap.mp hc
  exact stake_pos_of_select verification conversions hr

/-- The input fits the 32-bit address space of the runtime.  A valid
registered candidate takes over 400 bytes and a valid permissioned one over
100, so no input of 4 GiB comes near the bound. -/
def FitsMemory (input : AuthoritySelectionInputs) : Prop :=
  ((validTrustless verification conversions genesisUtxo input).length + 1) *
    ((validPermissioned conversions input).length + 1) ≤ 2 ^ 48

instance (input : AuthoritySelectionInputs) :
    Decidable (FitsMemory verification conversions genesisUtxo input) :=
  inferInstanceAs (Decidable (_ ≤ _))

/-- A list that fits in memory is far below the bounds of the weights. -/
theorem FitsMemory.permissioned_lt {input : AuthoritySelectionInputs}
    (hfit : FitsMemory verification conversions genesisUtxo input) :
    (validPermissioned conversions input).length < 2 ^ 48 := by
  have hprod : (validPermissioned conversions input).length + 1 ≤ 2 ^ 48 :=
    (Nat.le_mul_of_pos_left _ (Nat.succ_pos _)).trans hfit
  omega

private theorem filterMap_select_of_forall₂ {l l' : List CandidateRegistrations}
    (h : List.Forall₂ SameCandidate l l')
    (hkeys : ∀ c ∈ l, (c.registrations.map fun r => r.utxoInfo.orderingKey).Nodup) :
    filterTrustlessCandidatesRegistrations verification conversions l' genesisUtxo =
      filterTrustlessCandidatesRegistrations verification conversions l genesisUtxo := by
  unfold filterTrustlessCandidatesRegistrations
  induction h with
  | nil => rfl
  | @cons c c' l l' hc _ ih =>
      have hselect := selectLatestValidCandidate_perm verification conversions hc
        (hkeys c List.mem_cons_self) genesisUtxo
      have htail := ih fun d hd => hkeys d (List.mem_cons_of_mem _ hd)
      simp only [List.filterMap_cons, hselect, htail]

/-- Reordering the inputs reorders the valid candidates. -/
theorem validTrustless_perm {input input' : AuthoritySelectionInputs}
    (h : SameUpToOrder input input') (hkeys : DistinctOrderingKeys input) :
    (validTrustless verification conversions genesisUtxo input').Perm
      (validTrustless verification conversions genesisUtxo input) := by
  obtain ⟨reordered, hperm, hsame⟩ := h.registeredCandidates
  have heq := filterMap_select_of_forall₂ verification conversions genesisUtxo hsame
    fun c hc => hkeys c (hperm.mem_iff.mp hc)
  unfold validTrustless
  rw [heq]
  exact hperm.filterMap _

theorem validPermissioned_perm {input input' : AuthoritySelectionInputs}
    (h : SameUpToOrder input input') :
    (validPermissioned conversions input').Perm (validPermissioned conversions input) :=
  h.permissionedCandidates.filterMap _

/-- Any registered candidate can be moved to the front. -/
theorem sameUpToOrder_cons_registered {input : AuthoritySelectionInputs}
    {c : CandidateRegistrations} (hc : c ∈ input.registeredCandidates) :
    ∃ rest, SameUpToOrder input { input with registeredCandidates := c :: rest } := by
  obtain ⟨s, t, hst⟩ := List.append_of_mem hc
  refine ⟨s ++ t, rfl, rfl, List.Perm.refl _, c :: (s ++ t), ?_, ?_⟩
  · rw [hst]
    exact List.perm_middle.symm
  · exact List.forall₂_same.mpr fun _ _ => ⟨rfl, rfl, List.Perm.refl _⟩

private theorem sameUpToOrder_cons_permissioned {input : AuthoritySelectionInputs}
    {c : PermissionedCandidateData} (hc : c ∈ input.permissionedCandidates) :
    ∃ rest, SameUpToOrder input { input with permissionedCandidates := c :: rest } := by
  obtain ⟨s, t, hst⟩ := List.append_of_mem hc
  refine ⟨s ++ t, rfl, rfl, ?_, input.registeredCandidates, List.Perm.refl _, ?_⟩
  · show (c :: (s ++ t)).Perm input.permissionedCandidates
    rw [hst]
    exact List.perm_middle.symm
  · exact List.forall₂_same.mpr fun _ _ => ⟨rfl, rfl, List.Perm.refl _⟩

/-- A valid registered candidate leads the weighted list of some order. -/
theorem exists_order_registered_first {input : AuthoritySelectionInputs}
    {c : CandidateWithStake A K}
    (hc : c ∈ validTrustless verification conversions genesisUtxo input) :
    ∃ input', SameUpToOrder input input' ∧ ∃ w after,
      weightedCandidates (validTrustless verification conversions genesisUtxo input')
        (validPermissioned conversions input') input'.dParameter =
          (c.candidate, w) :: after ∧
      (c.candidate, w) ∈ trustlessCandidatesWithWeights
        (validTrustless verification conversions genesisUtxo input') input'.dParameter
        (validPermissioned conversions input').length := by
  obtain ⟨r, hr, hselect⟩ := List.mem_filterMap.mp hc
  obtain ⟨rest, hsame⟩ := sameUpToOrder_cons_registered hr
  refine ⟨_, hsame, ?_⟩
  have hvalid : validTrustless verification conversions genesisUtxo
      { input with registeredCandidates := r :: rest } =
      c :: filterTrustlessCandidatesRegistrations verification conversions rest genesisUtxo := by
    simp [validTrustless, filterTrustlessCandidatesRegistrations, hselect]
  rw [hvalid]
  exact ⟨_, _, rfl, List.mem_cons_self⟩

/-- A valid permissioned candidate follows the registered ones in some
order. -/
theorem exists_order_permissioned_first {input : AuthoritySelectionInputs}
    {c : Candidate A K} (hc : c ∈ validPermissioned conversions input) :
    ∃ input', SameUpToOrder input input' ∧ ∃ w after,
      weightedCandidates (validTrustless verification conversions genesisUtxo input')
        (validPermissioned conversions input') input'.dParameter =
          trustlessCandidatesWithWeights
            (validTrustless verification conversions genesisUtxo input)
            input.dParameter (validPermissioned conversions input).length ++
          (c, w) :: after ∧
      (c, w) ∈ permissionedCandidatesWithWeights (validPermissioned conversions input')
        input'.dParameter (validTrustless verification conversions genesisUtxo input') := by
  obtain ⟨p, hp, hvalidp⟩ := List.mem_filterMap.mp hc
  obtain ⟨rest, hsame⟩ := sameUpToOrder_cons_permissioned hp
  refine ⟨_, hsame, ?_⟩
  have hvalid : validPermissioned conversions
      { input with permissionedCandidates := p :: rest } =
      c :: filterInvalidPermissionedCandidates conversions rest := by
    simp only [validPermissioned, filterInvalidPermissionedCandidates, List.filterMap_cons]
    rw [hvalidp]
  have hlength := (validPermissioned_perm conversions hsame).length_eq
  rw [weightedCandidates, hlength, hvalid]
  exact ⟨_, _, rfl, List.mem_cons_self⟩

/-- Candidates with one account id have one set of keys. -/
def KeysAgree (candidates : List (Candidate A K)) : Prop :=
  ∀ c ∈ candidates, ∀ d ∈ candidates, c.accountId = d.accountId →
    c.accountKeys = d.accountKeys

/-- Candidates with the same account are the same. -/
theorem KeysAgree.eq {candidates : List (Candidate A K)} (h : KeysAgree candidates)
    {c d : Candidate A K} (hc : c ∈ candidates) (hd : d ∈ candidates)
    (hid : c.accountId = d.accountId) : c = d := by
  have hkeys := h c hc d hd hid
  obtain ⟨cid, ckeys⟩ := c
  obtain ⟨did, dkeys⟩ := d
  simp only at hid hkeys
  rw [hid, hkeys]

/-- The account id separates the valid candidates that can be drawn: the
registered ones when they have weight, and the permissioned ones when they
have. -/
structure AccountIdsSeparate (input : AuthoritySelectionInputs) : Prop where
  registered :
    validPermissioned conversions input = [] ∨ 0 < input.dParameter.numRegisteredCandidates →
      KeysAgree ((validTrustless verification conversions genesisUtxo input).map
        fun c => c.candidate)
  permissioned :
    totalStake (validTrustless verification conversions genesisUtxo input) = 0 ∨
        input.dParameter.numRegisteredCandidates = 0 ∨
          0 < input.dParameter.numPermissionedCandidates →
      KeysAgree (validPermissioned conversions input)

variable [LinearOrder A]

/-- The list the committee is drawn from. -/
def sortedCandidates (input : AuthoritySelectionInputs) : List (Candidate A K × Nat) :=
  sortByKey (fun p => p.1.accountId)
    (weightedCandidates (validTrustless verification conversions genesisUtxo input)
      (validPermissioned conversions input) input.dParameter)

/-- The selection is a weighted draw from the sorted candidates. -/
theorem selectAuthorities_eq (rng : RandomGenerator) (maxValidators : Nat)
    (input : AuthoritySelectionInputs) (sidechainEpoch : UInt64) :
    selectAuthorities verification conversions rng maxValidators genesisUtxo input
        sidechainEpoch =
      (weightedSelection rng (sortedCandidates verification conversions genesisUtxo input)
        (committeeSize input.dParameter)
        (seedFromNonceAndScEpoch input.epochNonce sidechainEpoch)).bind
          fun validators => .ok (validators.map fun committee => committee.take maxValidators) :=
  rfl

/-- The weights do not overflow. -/
theorem totalWeight_sortedCandidates_lt {input : AuthoritySelectionInputs}
    (hfit : FitsMemory verification conversions genesisUtxo input) :
    totalWeight (sortedCandidates verification conversions genesisUtxo input) < 2 ^ 128 := by
  unfold sortedCandidates
  rw [totalWeight_perm (sortByKey_perm _ _)]
  exact totalWeight_weightedCandidates_lt _ hfit

/-- When there is a candidate there is weight to draw from. -/
theorem totalWeight_sortedCandidates_pos {input : AuthoritySelectionInputs}
    (hfit : FitsMemory verification conversions genesisUtxo input)
    (hne : sortedCandidates verification conversions genesisUtxo input ≠ []) :
    0 < totalWeight (sortedCandidates verification conversions genesisUtxo input) := by
  unfold sortedCandidates at hne ⊢
  rw [totalWeight_perm (sortByKey_perm _ _)]
  refine totalWeight_weightedCandidates_pos _ hfit.permissioned_lt
    (validTrustless_stake_pos verification conversions genesisUtxo input) ?_
  intro hnil
  rw [hnil] at hne
  exact hne List.mergeSort_nil

theorem sortedCandidates_perm {input input' : AuthoritySelectionInputs}
    (h : SameUpToOrder input input') (hkeys : DistinctOrderingKeys input) :
    (sortedCandidates verification conversions genesisUtxo input').Perm
      (sortedCandidates verification conversions genesisUtxo input) := by
  unfold sortedCandidates
  rw [h.dParameter]
  exact ((sortByKey_perm _ _).trans (weightedCandidates_perm
    (validTrustless_perm verification conversions genesisUtxo h hkeys)
    (validPermissioned_perm conversions h) _)).trans (sortByKey_perm _ _).symm

/-! ## The exact condition -/

variable (maxValidators : Nat) (sidechainEpoch : UInt64)

/-- With every generator, all reorderings of the input give one result. -/
def OrderIndependent (input : AuthoritySelectionInputs) : Prop :=
  ∀ (rng : RandomGenerator) (input' : AuthoritySelectionInputs), SameUpToOrder input input' →
    selectAuthorities verification conversions rng maxValidators genesisUtxo input'
        sidechainEpoch =
      selectAuthorities verification conversions rng maxValidators genesisUtxo input
        sidechainEpoch

/-- Separated account ids leave the urn of every reordering the same. -/
theorem urn_sortedCandidates_eq {input input' : AuthoritySelectionInputs}
    (h : SameUpToOrder input input') (hkeys : DistinctOrderingKeys input)
    (hfit : FitsMemory verification conversions genesisUtxo input)
    (hsep : AccountIdsSeparate verification conversions genesisUtxo input) :
    urn (sortedCandidates verification conversions genesisUtxo input') =
      urn (sortedCandidates verification conversions genesisUtxo input) := by
  have htrustless := validTrustless_perm verification conversions genesisUtxo h hkeys
  have hpermissioned := validPermissioned_perm conversions h
  unfold sortedCandidates weightedCandidates
  rw [h.dParameter, hpermissioned.length_eq]
  symm
  refine urn_sortByKey_append (fun c : Candidate A K => c.accountId)
    (trustlessCandidatesWithWeights_perm htrustless.symm _ _)
    (permissionedCandidatesWithWeights_perm hpermissioned.symm htrustless.symm _) ?_ ?_
  · intro p hp q hq hpos _ hid
    have hweight := (trustlessWeight_pos input.dParameter
      (hfit.permissioned_lt)
      (validTrustless_stake_pos verification conversions genesisUtxo input) p hp).mp hpos
    simp only [trustlessCandidatesWithWeights, List.mem_map] at hp hq
    obtain ⟨c, hc, rfl⟩ := hp
    obtain ⟨d, hd, rfl⟩ := hq
    exact (hsep.registered (hweight.imp_left List.length_eq_zero_iff.mp)).eq
      (List.mem_map_of_mem hc) (List.mem_map_of_mem hd) hid
  · intro p hp q hq hpos _ hid
    have hweight := (permissionedWeight_pos _ _ _ p hp).mp hpos
    simp only [permissionedCandidatesWithWeights, List.mem_map] at hp hq
    obtain ⟨c, hc, rfl⟩ := hp
    obtain ⟨d, hd, rfl⟩ := hq
    exact (hsep.permissioned hweight).eq hc hd hid

/-- The order of the inputs does not matter if accounts tell the candidates apart. -/
theorem selectAuthorities_sameUpToOrder {input input' : AuthoritySelectionInputs}
    (h : SameUpToOrder input input') (hkeys : DistinctOrderingKeys input)
    (hfit : FitsMemory verification conversions genesisUtxo input)
    (hsep : committeeSize input.dParameter = 0 ∨ maxValidators = 0 ∨
      AccountIdsSeparate verification conversions genesisUtxo input)
    (rng : RandomGenerator) :
    selectAuthorities verification conversions rng maxValidators genesisUtxo input'
        sidechainEpoch =
      selectAuthorities verification conversions rng maxValidators genesisUtxo input
        sidechainEpoch := by
  have hperm := sortedCandidates_perm verification conversions genesisUtxo h hkeys
  have hlt := totalWeight_sortedCandidates_lt verification conversions genesisUtxo hfit
  rw [selectAuthorities_eq, selectAuthorities_eq, h.dParameter, h.epochNonce]
  rcases hsep with hsize | hmax | hsep
  · rw [hsize, weightedSelection_zero, weightedSelection_zero]
  · by_cases hne : sortedCandidates verification conversions genesisUtxo input = []
    · have hne' : sortedCandidates verification conversions genesisUtxo input' = [] := by
        simpa [hne] using hperm
      rw [hne, hne']
    · have hpos := totalWeight_sortedCandidates_pos verification conversions genesisUtxo hfit hne
      have htotal := totalWeight_perm hperm
      obtain ⟨committee, -, -, hc⟩ := weightedSelection_ok rng (committeeSize input.dParameter)
        (seedFromNonceAndScEpoch input.epochNonce sidechainEpoch) hpos hlt
      obtain ⟨committee', -, -, hc'⟩ := weightedSelection_ok rng (committeeSize input.dParameter)
        (seedFromNonceAndScEpoch input.epochNonce sidechainEpoch)
        (htotal.symm ▸ hpos) (htotal.symm ▸ hlt)
      simp only [hc, hc', Except.bind, Option.map_some, hmax, List.take_zero]
  · rw [weightedSelection_congr rng _ _ hlt hperm
      (urn_sortedCandidates_eq verification conversions genesisUtxo h hkeys hfit hsep)]

/-- Two orders of one input in which `a` and `b`, of one account id, have the
same candidates before them: order independence makes them equal. -/
theorem candidate_eq_of_orderIndependent {input input₁ input₂ : AuthoritySelectionInputs}
    (hindep : OrderIndependent verification conversions genesisUtxo maxValidators
      sidechainEpoch input)
    (h₁ : SameUpToOrder input input₁) (h₂ : SameUpToOrder input input₂)
    (hkeys : DistinctOrderingKeys input)
    (hfit : FitsMemory verification conversions genesisUtxo input)
    (hsize : committeeSize input.dParameter ≠ 0) (hmax : maxValidators ≠ 0)
    (before₁ before₂ : List (Candidate A K × Nat))
    {after₁ after₂ : List (Candidate A K × Nat)} {a b : Candidate A K}
    {w v : Nat} (hw : 0 < w) (hv : 0 < v) (hid : a.accountId = b.accountId)
    (hsplit₁ : weightedCandidates (validTrustless verification conversions genesisUtxo input₁)
      (validPermissioned conversions input₁) input₁.dParameter = before₁ ++ (a, w) :: after₁)
    (hsplit₂ : weightedCandidates (validTrustless verification conversions genesisUtxo input₂)
      (validPermissioned conversions input₂) input₂.dParameter = before₂ ++ (b, v) :: after₂)
    (hbefore : before₁.Perm before₂) : a.accountKeys = b.accountKeys := by
  have hperm₁ := sortedCandidates_perm verification conversions genesisUtxo h₁ hkeys
  have hperm₂ := sortedCandidates_perm verification conversions genesisUtxo h₂ hkeys
  have hlt := totalWeight_sortedCandidates_lt verification conversions genesisUtxo hfit
  have hall : (before₁ ++ (a, w) :: after₁).Perm (before₂ ++ (b, v) :: after₂) := by
    rw [← hsplit₁, ← hsplit₂]
    exact ((sortByKey_perm _ _).symm.trans (hperm₁.trans hperm₂.symm)).trans
      (sortByKey_perm _ _)
  obtain ⟨r, hr₁, hr₂⟩ := exists_draw_of_perm (fun c : Candidate A K => c.accountId)
    hw hv hid hall hbefore
  rw [← hsplit₁] at hr₁
  rw [← hsplit₂] at hr₂
  have hsame := (hindep (constantGenerator r) input₁ h₁).trans
    (hindep (constantGenerator r) input₂ h₂).symm
  have hlt₁ : totalWeight (sortedCandidates verification conversions genesisUtxo input₁) <
      2 ^ 128 := (totalWeight_perm hperm₁).symm ▸ hlt
  have hlt₂ : totalWeight (sortedCandidates verification conversions genesisUtxo input₂) <
      2 ^ 128 := (totalWeight_perm hperm₂).symm ▸ hlt
  rw [selectAuthorities_eq, selectAuthorities_eq,
    weightedSelection_const _ _ hlt₁ hr₁, weightedSelection_const _ _ hlt₂ hr₂,
    h₁.dParameter, h₂.dParameter] at hsame
  simp only [Except.bind, Option.map_some, List.take_replicate, Except.ok.injEq,
    Option.some.injEq] at hsame
  have hseats : min maxValidators (committeeSize input.dParameter).toNat ≠ 0 := by
    have hne : (committeeSize input.dParameter).toNat ≠ 0 := by
      intro hzero
      exact hsize (UInt16.toNat_inj.mp hzero)
    omega
  have hpair := List.replicate_right_injective hseats hsame
  exact (Prod.mk.inj hpair).2

private theorem accountIdsSeparate_of_orderIndependent {input : AuthoritySelectionInputs}
    (hindep : OrderIndependent verification conversions genesisUtxo maxValidators
      sidechainEpoch input)
    (hkeys : DistinctOrderingKeys input)
    (hfit : FitsMemory verification conversions genesisUtxo input)
    (hsize : committeeSize input.dParameter ≠ 0) (hmax : maxValidators ≠ 0) :
    AccountIdsSeparate verification conversions genesisUtxo input := by
  refine { registered := ?_, permissioned := ?_ }
  · intro hweight a ha b hb hid
    obtain ⟨c, hc, rfl⟩ := List.mem_map.mp ha
    obtain ⟨d, hd, rfl⟩ := List.mem_map.mp hb
    obtain ⟨input₁, h₁, w, after₁, hsplit₁, hw⟩ :=
      exists_order_registered_first verification conversions genesisUtxo hc
    obtain ⟨input₂, h₂, v, after₂, hsplit₂, hv⟩ :=
      exists_order_registered_first verification conversions genesisUtxo hd
    have hpos : ∀ {input' : AuthoritySelectionInputs}, SameUpToOrder input input' →
        ∀ {p}, p ∈ trustlessCandidatesWithWeights
          (validTrustless verification conversions genesisUtxo input') input'.dParameter
          (validPermissioned conversions input').length → 0 < p.2 := by
      intro input' h' p hp
      rw [(validPermissioned_perm conversions h').length_eq, h'.dParameter] at hp
      exact (trustlessWeight_pos input.dParameter
        (hfit.permissioned_lt)
        (validTrustless_stake_pos verification conversions genesisUtxo input') p hp).mpr
          (hweight.imp_left List.length_eq_zero_iff.mpr)
    exact candidate_eq_of_orderIndependent verification conversions genesisUtxo maxValidators
      sidechainEpoch hindep h₁ h₂ hkeys hfit hsize hmax [] [] (hpos h₁ hw) (hpos h₂ hv) hid
      hsplit₁ hsplit₂ (List.Perm.refl _)
  · intro hweight a ha b hb hid
    obtain ⟨input₁, h₁, w, after₁, hsplit₁, hw⟩ :=
      exists_order_permissioned_first verification conversions genesisUtxo ha
    obtain ⟨input₂, h₂, v, after₂, hsplit₂, hv⟩ :=
      exists_order_permissioned_first verification conversions genesisUtxo hb
    have hpos : ∀ {input' : AuthoritySelectionInputs}, SameUpToOrder input input' →
        ∀ {p}, p ∈ permissionedCandidatesWithWeights (validPermissioned conversions input')
          input'.dParameter
          (validTrustless verification conversions genesisUtxo input') → 0 < p.2 := by
      intro input' h' p hp
      apply (permissionedWeight_pos _ _ _ p hp).mpr
      rw [totalStake_perm (validTrustless_perm verification conversions genesisUtxo h' hkeys),
        h'.dParameter]
      exact hweight
    exact candidate_eq_of_orderIndependent verification conversions genesisUtxo maxValidators
      sidechainEpoch hindep h₁ h₂ hkeys hfit hsize hmax _ _ (hpos h₁ hw) (hpos h₂ hv) hid
      hsplit₁ hsplit₂ (List.Perm.refl _)

/-- Committee selection ignores the order of its inputs exactly when there is
no seat to fill, or the account id separates the candidates that can be
drawn. -/
theorem orderIndependent_iff {input : AuthoritySelectionInputs}
    (hkeys : DistinctOrderingKeys input)
    (hfit : FitsMemory verification conversions genesisUtxo input) :
    OrderIndependent verification conversions genesisUtxo maxValidators sidechainEpoch input ↔
      committeeSize input.dParameter = 0 ∨ maxValidators = 0 ∨
        AccountIdsSeparate verification conversions genesisUtxo input := by
  constructor
  · intro hindep
    by_cases hsize : committeeSize input.dParameter = 0
    · exact Or.inl hsize
    · by_cases hmax : maxValidators = 0
      · exact Or.inr (Or.inl hmax)
      · exact Or.inr (Or.inr (accountIdsSeparate_of_orderIndependent verification conversions
          genesisUtxo maxValidators sidechainEpoch hindep hkeys hfit hsize hmax))
  · intro hsep rng input' h
    exact selectAuthorities_sameUpToOrder verification conversions genesisUtxo maxValidators
      sidechainEpoch h hkeys hfit hsep rng

end Selection

/-! ## One sidechain key registered by two pools

One party signs registrations for two stake pools with the same sidechain
key and different Aura keys.  Both registrations are valid, both become
candidates with the same account id, and the two orders of the list of
registered candidates give different committees with every generator. -/

/-- Every signature of the example verifies. -/
def signedByOwner : SignatureVerification where
  ed25519 _ _ _ := true
  ecdsa _ _ _ := true

/-- Keys are read as numbers. -/
def exampleConversions : AccountConversions Nat Bytes where
  ofEcdsa key := beNat key.bytes
  tryFromSidechainPublicKey key := some (beNat key)
  ofKeys keys := keys.1.bytes ++ keys.2.bytes

/-- The UTXO every example registration consumes. -/
def exampleUtxo : UtxoId := ⟨FixedBytes.replicate 32 7, 0⟩

/-- A registration told apart by its Aura key. -/
def poolRegistration (auraByte : UInt8) : RegistrationData where
  consumedInput := exampleUtxo
  sidechainSignature := List.replicate 64 0
  mainchainSignature := List.replicate 64 0
  crossChainSignature := List.replicate 64 0
  sidechainPubKey := List.replicate 33 2
  crossChainPubKey := List.replicate 33 2
  utxoInfo := ⟨exampleUtxo, 1, 1, 1, 0⟩
  txInputs := [exampleUtxo]
  auraPubKey := List.replicate 32 auraByte
  grandpaPubKey := List.replicate 32 0

/-- A stake pool with one registration. -/
def pool (byte : UInt8) : CandidateRegistrations where
  mainchainPubKey := FixedBytes.replicate 32 byte
  registrations := [poolRegistration byte]
  stakeDelegation := some 1

/-- Inputs with the given pools and one seat for them. -/
def poolsInput (pools : List CandidateRegistrations) : AuthoritySelectionInputs where
  dParameter := ⟨0, 1⟩
  permissionedCandidates := []
  registeredCandidates := pools
  epochNonce := []

/-- With two candidates of weight one, the generator's only draw decides. -/
theorem weightedSelection_pair {A K : Type} (rng : RandomGenerator) (a b : Candidate A K)
    (seed : FixedBytes 32) :
    weightedSelection rng [(a, 1), (b, 1)] 1 seed =
      .ok (some [if (rng.genRange (rng.fromSeed seed) 2).1 = 0 then
        (a.accountId, a.accountKeys) else (b.accountId, b.accountKeys)]) := by
  have hlt := rng.genRange_lt (rng.fromSeed seed) 2 (by decide)
  have hcases : (rng.genRange (rng.fromSeed seed) 2).1 = 0 ∨
      (rng.genRange (rng.fromSeed seed) 2).1 = 1 := by omega
  rcases hcases with h | h <;>
    simp [weightedSelection, weightedRandomSelectAuthorities, drawCommittee, selectWithWeight,
      selectIndex, h, bind, Except.bind]

private theorem ite_swap_ne {α : Type} {c : Prop} [Decidable c] {p q : α} (h : p ≠ q) :
    (if c then p else q) ≠ if c then q else p := by
  by_cases hc : c
  · simpa [hc] using h
  · simpa [hc] using h.symm

private theorem sortedCandidates_pools (p q : UInt8) :
    sortedCandidates signedByOwner exampleConversions exampleUtxo
        (poolsInput [pool p, pool q]) =
      [p, q].map fun b => (⟨beNat (List.replicate 33 2),
        List.replicate 32 b ++ List.replicate 32 0⟩, 1) := by
  have hweighted : weightedCandidates (validTrustless signedByOwner exampleConversions
      exampleUtxo (poolsInput [pool p, pool q]))
      (validPermissioned exampleConversions (poolsInput [pool p, pool q]))
      (poolsInput [pool p, pool q]).dParameter =
      [p, q].map fun b => (⟨beNat (List.replicate 33 2),
        List.replicate 32 b ++ List.replicate 32 0⟩, 1) := rfl
  rw [sortedCandidates, hweighted]
  apply List.mergeSort_of_pairwise
  simp

/-- The registrations of the example are told apart by their keys. -/
theorem distinctOrderingKeys_pools (p q : UInt8) :
    DistinctOrderingKeys (poolsInput [pool p, pool q]) := by
  intro c hc
  simp only [poolsInput, List.mem_cons, List.not_mem_nil, or_false] at hc
  rcases hc with rfl | rfl <;> simp [pool]

/-- Two pools that share an account are drawn in the order they are listed in. -/
theorem selectAuthorities_depends_on_order :
    SameUpToOrder (poolsInput [pool 1, pool 2]) (poolsInput [pool 2, pool 1]) ∧
      DistinctOrderingKeys (poolsInput [pool 1, pool 2]) ∧
      FitsMemory signedByOwner exampleConversions exampleUtxo
        (poolsInput [pool 1, pool 2]) ∧
      ¬ ∃ rng : RandomGenerator,
        selectAuthorities signedByOwner exampleConversions rng 32 exampleUtxo
            (poolsInput [pool 2, pool 1]) 0 =
          selectAuthorities signedByOwner exampleConversions rng 32 exampleUtxo
            (poolsInput [pool 1, pool 2]) 0 := by
  refine ⟨?_, ?_, by decide, ?_⟩
  · exact ⟨rfl, rfl, List.Perm.refl _, [pool 2, pool 1], List.Perm.swap _ _ _,
      List.forall₂_same.mpr fun _ _ => ⟨rfl, rfl, List.Perm.refl _⟩⟩
  · exact distinctOrderingKeys_pools 1 2
  · rintro ⟨rng, h⟩
    rw [selectAuthorities_eq, selectAuthorities_eq, sortedCandidates_pools,
      sortedCandidates_pools] at h
    simp only [List.map_cons, List.map_nil] at h
    rw [show committeeSize (poolsInput [pool 2, pool 1]).dParameter = 1 from rfl,
      show committeeSize (poolsInput [pool 1, pool 2]).dParameter = 1 from rfl,
      weightedSelection_pair, weightedSelection_pair] at h
    simp only [poolsInput, Except.bind, Option.map_some, Except.ok.injEq,
      Option.some.injEq, List.take_succ_cons, List.take_nil, List.cons.injEq] at h
    exact ite_swap_ne (by decide) h.1

/-- The condition on the two pools. -/
theorem orderIndependent_iff_pools :
    DistinctOrderingKeys (poolsInput [pool 1, pool 2]) ∧
      FitsMemory signedByOwner exampleConversions exampleUtxo
        (poolsInput [pool 1, pool 2]) ∧
      (OrderIndependent signedByOwner exampleConversions exampleUtxo 32 0
          (poolsInput [pool 1, pool 2]) ↔
        committeeSize (poolsInput [pool 1, pool 2]).dParameter = 0 ∨ 32 = 0 ∨
          AccountIdsSeparate signedByOwner exampleConversions exampleUtxo
            (poolsInput [pool 1, pool 2])) :=
  ⟨distinctOrderingKeys_pools 1 2, by decide,
    orderIndependent_iff signedByOwner exampleConversions exampleUtxo 32 0
      (distinctOrderingKeys_pools 1 2) (by decide)⟩

end PartnerChains.Ports.SelectionOrder
