import PartnerChains.Ports.CandidateFilter
import PartnerChains.Verified.StableSort
import PartnerChains.Verified.WeightedDraw

/-!
# Committee selection

The port of `select_authorities.rs` and of the weighted random selection it
calls.  Weights are `u128`, the total stake is `u64` and the committee size
`u16`; all three wrap around as in a release build.  The random generator is
outside the repository: a state computed from the seed, and a function that
draws a number below a bound from a state.  The places where the source
panics are errors.

`drawCommittee_congr` and `drawCommittee_const` say what the drawing loop
depends on: the emptiness, the total weight and the urn of the weighted
candidates.
-/

namespace PartnerChains.Ports.SelectAuthorities

open PartnerChains.Ports.Domain
open PartnerChains.Ports.PlutusDatum
open PartnerChains.Ports.CandidateFilter
open PartnerChains.Verified.StableSort
open PartnerChains.Verified.WeightedDraw

/-- `ChaCha20Rng`: `from_seed` and `gen_range(0..bound)`. -/
structure RandomGenerator where
  State : Type
  fromSeed : FixedBytes 32 → State
  genRange : State → Nat → Nat × State
  genRange_lt : ∀ s bound, 0 < bound → (genRange s bound).1 < bound

/-- The panics of the selection. -/
inductive Panic where
  | emptyRange
  | didNotSelectAnyCandidate
  | indexOutOfBounds
deriving DecidableEq

/-! ## `weighted_random.rs` -/

/-- The scan of `select_with_weight` over cumulative `u128` weights. -/
def selectIndex {T : Type} : List (T × Nat) → Nat → Nat → Nat → Option Nat
  | [], _, _, _ => none
  | (_, weight) :: rest, cumulativeWeight, randomNumber, index =>
      let cumulativeWeight := (cumulativeWeight + weight) % 2 ^ 128
      if randomNumber < cumulativeWeight then some index
      else selectIndex rest cumulativeWeight randomNumber (index + 1)

/-- `select_with_weight`: an empty range panics before anything is drawn. -/
def selectWithWeight {T : Type} (rng : RandomGenerator) (candidates : List (T × Nat))
    (totalWeight : Nat) (rand : rng.State) : Except Panic (Nat × rng.State) :=
  if totalWeight = 0 then .error .emptyRange
  else
    let (randomNumber, rand) := rng.genRange rand totalWeight
    match selectIndex candidates 0 randomNumber 0 with
    | some index => .ok (index, rand)
    | none => .error .didNotSelectAnyCandidate

/-- The `while` loop of `select_authorities`; every round adds one seat, so
the number of missing seats bounds it. -/
def drawCommittee {T : Type} (rng : RandomGenerator) (weightedCandidates : List (T × Nat))
    (totalWeight : Nat) : Nat → rng.State → List T → Except Panic (List T)
  | 0, _, committee => .ok committee
  | seats + 1, rand, committee =>
      if weightedCandidates.isEmpty then .ok committee
      else do
        let (selectedIndex, rand) ←
          selectWithWeight rng weightedCandidates totalWeight rand
        match weightedCandidates[selectedIndex]? with
        | none => .error .indexOutOfBounds
        | some selected =>
            drawCommittee rng weightedCandidates totalWeight seats rand
              (committee ++ [selected.1])

/-- `select_authorities` of `WeightedRandomSelectionConfig`; the weights are added
up in `u128`. -/
def weightedRandomSelectAuthorities {T : Type} (rng : RandomGenerator)
    (weightedCandidates : List (T × Nat)) (seed : FixedBytes 32) (size : Nat) :
    Except Panic (Option (List T)) := do
  let total := totalWeight weightedCandidates % 2 ^ 128
  let committee ← drawCommittee rng weightedCandidates total size (rng.fromSeed seed) []
  .ok (if size ≤ committee.length then some committee else none)

/-! ## `select_authorities.rs` -/

/-- Big-endian value of a byte string (`U256::from`). -/
def beNat (bytes : Bytes) : Nat := bytes.foldl (fun acc b => 256 * acc + b.toNat) 0

/-- `seed_from_nonce_and_sc_epoch`: the nonce plus the epoch, as numbers of 32
bytes. -/
def seedFromNonceAndScEpoch (epochNonce : Bytes) (sidechainEpochNumber : UInt64) :
    FixedBytes 32 :=
  let resized := epochNonce.take 32 ++ List.replicate (32 - epochNonce.length) 0
  ⟨beBytes ((beNat resized + sidechainEpochNumber.toNat) % 2 ^ 256) 32, length_beBytes _ _⟩

section Model

variable {A K : Type}

/-- `trustless_candidates_with_weights`: the stake, scaled by the seats and by the
number of permissioned candidates. -/
def trustlessCandidatesWithWeights (trustlessCandidates : List (CandidateWithStake A K))
    (dParameter : DParameter) (permissionedCandidatesCount : Nat) :
    List (Candidate A K × Nat) :=
  let weightFactor :=
    if permissionedCandidatesCount > 0 then
      dParameter.numRegisteredCandidates.toNat * permissionedCandidatesCount % 2 ^ 128
    else 1
  trustlessCandidates.map fun c =>
    (c.candidate, c.stakeDelegation.toNat * weightFactor % 2 ^ 128)

/-- The `u64` sum of the stakes. -/
def totalStake (trustlessCandidates : List (CandidateWithStake A K)) : Nat :=
  (trustlessCandidates.map fun c => c.stakeDelegation.toNat).sum % 2 ^ 64

/-- `permissioned_candidates_with_weights`: all have the same weight. -/
def permissionedCandidatesWithWeights (permissionedCandidates : List (Candidate A K))
    (dParameter : DParameter) (validTrustlessCandidates : List (CandidateWithStake A K)) :
    List (Candidate A K × Nat) :=
  let totalStake := totalStake validTrustlessCandidates
  let weight :=
    if totalStake > 0 ∧ dParameter.numRegisteredCandidates > 0 then
      dParameter.numPermissionedCandidates.toNat * totalStake % 2 ^ 128
    else 1
  permissionedCandidates.map fun c => (c, weight)

/-- `weighted_selection`: the account and the keys of whoever is drawn. -/
def weightedSelection (rng : RandomGenerator) (candidates : List (Candidate A K × Nat))
    (size : UInt16) (randomSeed : FixedBytes 32) :
    Except Panic (Option (List (A × K))) := do
  let selected ← weightedRandomSelectAuthorities rng candidates randomSeed size.toNat
  .ok (selected.map fun committee => committee.map fun c => (c.accountId, c.accountKeys))

/-- The `u16` committee size. -/
def committeeSize (dParameter : DParameter) : UInt16 :=
  dParameter.numRegisteredCandidates + dParameter.numPermissionedCandidates

variable [LinearOrder A] (verification : SignatureVerification)
  (conversions : AccountConversions A K) (rng : RandomGenerator)

/-- Pseudo-random selection of the authorities for the given sidechain
epoch, truncated to `maxValidators` seats. -/
def selectAuthorities (maxValidators : Nat) (genesisUtxo : UtxoId)
    (input : AuthoritySelectionInputs) (sidechainEpoch : UInt64) :
    Except Panic (Option (List (A × K))) := do
  let validTrustlessCandidates := filterTrustlessCandidatesRegistrations verification
    conversions input.registeredCandidates genesisUtxo
  let validPermissionedCandidates :=
    filterInvalidPermissionedCandidates conversions input.permissionedCandidates
  let candidatesWithWeight :=
    trustlessCandidatesWithWeights validTrustlessCandidates input.dParameter
        validPermissionedCandidates.length ++
      permissionedCandidatesWithWeights validPermissionedCandidates input.dParameter
        validTrustlessCandidates
  let candidatesWithWeight := sortByKey (fun p => p.1.accountId) candidatesWithWeight
  let randomSeed := seedFromNonceAndScEpoch input.epochNonce sidechainEpoch
  let validators ← weightedSelection rng candidatesWithWeight
    (committeeSize input.dParameter) randomSeed
  .ok (validators.map fun committee => committee.take maxValidators)

end Model

/-! ## What one draw depends on -/

section Draw

variable {T : Type}

/-- Without overflow the scan stops where the walk over the urn does. -/
theorem selectIndex_spec (l : List (T × Nat)) :
    ∀ acc r i : Nat, acc + totalWeight l < 2 ^ 128 →
      match walk l acc r with
      | some a => ∃ j w, selectIndex l acc r i = some (i + j) ∧ l[j]? = some (a, w)
      | none => selectIndex l acc r i = none := by
  induction l with
  | nil => intro acc r i _; rfl
  | cons p l ih =>
      obtain ⟨a, w⟩ := p
      intro acc r i hfit
      rw [totalWeight_cons] at hfit
      have hmod : (acc + w) % 2 ^ 128 = acc + w := Nat.mod_eq_of_lt (by simp at hfit; omega)
      simp only [walk, selectIndex, hmod]
      by_cases hr : r < acc + w
      · simp only [hr, if_true]
        exact ⟨0, w, rfl, rfl⟩
      · simp only [hr, if_false]
        have hih := ih (acc + w) r (i + 1) (by simp at hfit; omega)
        cases hw : walk l (acc + w) r with
        | none =>
            rw [hw] at hih
            exact hih
        | some b =>
            rw [hw] at hih
            obtain ⟨j, v, hj, hget⟩ := hih
            exact ⟨j + 1, v, by rw [hj]; congr 1; omega, by simpa using hget⟩

/-- Which index is drawn depends on the weights only. -/
theorem selectIndex_map {S : Type} (f : T → S) (l : List (T × Nat)) :
    ∀ acc r i : Nat,
      selectIndex (l.map fun p => (f p.1, p.2)) acc r i = selectIndex l acc r i := by
  induction l with
  | nil => intro acc r i; rfl
  | cons p l ih =>
      intro acc r i
      simp only [List.map_cons, selectIndex, ih]

/-- The value at the selected index is that of the urn. -/
theorem selectIndex_bind {l : List (T × Nat)} (hfit : totalWeight l < 2 ^ 128) (r : Nat) :
    (selectIndex l 0 r 0).bind (fun j => l[j]?.map Prod.fst) = (urn l)[r]? := by
  have hspec := selectIndex_spec l 0 r 0 (by omega)
  rw [walk_zero_eq_urn] at hspec
  cases hu : (urn l)[r]? with
  | none =>
      rw [hu] at hspec
      simp [hspec]
  | some a =>
      rw [hu] at hspec
      obtain ⟨j, w, hj, hget⟩ := hspec
      simp [hj, hget]

/-- One round of the loop, as a function of the urn. -/
def drawOne (rng : RandomGenerator) (content : List T) (total : Nat) (rand : rng.State) :
    Except Panic (T × rng.State) :=
  if total = 0 then .error .emptyRange
  else
    match content[(rng.genRange rand total).1]? with
    | some a => .ok (a, (rng.genRange rand total).2)
    | none => .error .didNotSelectAnyCandidate

/-- One more seat is one more draw from the urn. -/
theorem drawCommittee_succ (rng : RandomGenerator) (l : List (T × Nat)) (total seats : Nat)
    (rand : rng.State) (committee : List T) (hne : l ≠ [])
    (hfit : totalWeight l < 2 ^ 128) :
    drawCommittee rng l total (seats + 1) rand committee =
      (drawOne rng (urn l) total rand).bind fun p =>
        drawCommittee rng l total seats p.2 (committee ++ [p.1]) := by
  have hempty : l.isEmpty = false := by simpa using hne
  simp only [drawCommittee, hempty, Bool.false_eq_true, if_false, selectWithWeight, drawOne]
  by_cases htotal : total = 0
  · simp [htotal, bind, Except.bind]
  · simp only [htotal, if_false]
    have hspec := selectIndex_spec l 0 (rng.genRange rand total).1 0 (by omega)
    rw [walk_zero_eq_urn] at hspec
    cases hu : (urn l)[(rng.genRange rand total).1]? with
    | none =>
        rw [hu] at hspec
        simp only [hspec, bind, Except.bind]
    | some a =>
        rw [hu] at hspec
        obtain ⟨j, w, hj, hget⟩ := hspec
        simp only [hj, Nat.zero_add, bind, Except.bind, hget]

/-- The loop depends on the candidates only through emptiness and urn. -/
theorem drawCommittee_congr (rng : RandomGenerator) {l l' : List (T × Nat)} (total : Nat)
    (hne : l ≠ []) (hne' : l' ≠ []) (hfit : totalWeight l < 2 ^ 128)
    (hfit' : totalWeight l' < 2 ^ 128) (hurn : urn l = urn l') :
    ∀ (seats : Nat) (rand : rng.State) (committee : List T),
      drawCommittee rng l total seats rand committee =
        drawCommittee rng l' total seats rand committee := by
  intro seats
  induction seats with
  | zero => intro rand committee; rfl
  | succ seats ih =>
      intro rand committee
      rw [drawCommittee_succ rng l total seats rand committee hne hfit,
        drawCommittee_succ rng l' total seats rand committee hne' hfit', hurn]
      congr 1
      funext p
      exact ih p.2 (committee ++ [p.1])

/-- Drawing from a positive total always fills the seats, from the urn. -/
theorem drawCommittee_ok (rng : RandomGenerator) (l : List (T × Nat))
    (hpos : 0 < totalWeight l) (hfit : totalWeight l < 2 ^ 128) :
    ∀ (seats : Nat) (rand : rng.State) (committee : List T),
      ∃ drawn, drawn.length = seats ∧ (∀ a ∈ drawn, a ∈ urn l) ∧
        drawCommittee rng l (totalWeight l) seats rand committee =
          .ok (committee ++ drawn) := by
  have hne : l ≠ [] := by
    rintro rfl
    simp at hpos
  intro seats
  induction seats with
  | zero => intro rand committee; exact ⟨[], rfl, by simp, by simp [drawCommittee]⟩
  | succ seats ih =>
      intro rand committee
      have hlt := rng.genRange_lt rand (totalWeight l) hpos
      obtain ⟨a, ha⟩ : ∃ a, (urn l)[(rng.genRange rand (totalWeight l)).1]? = some a :=
        ⟨_, List.getElem?_eq_getElem (by rw [length_urn]; exact hlt)⟩
      have hone : drawOne rng (urn l) (totalWeight l) rand =
          .ok (a, (rng.genRange rand (totalWeight l)).2) := by
        simp only [drawOne, hpos.ne', if_false, ha]
      obtain ⟨drawn, hlen, hmem, hdrawn⟩ :=
        ih (rng.genRange rand (totalWeight l)).2 (committee ++ [a])
      refine ⟨a :: drawn, by simp [hlen],
        List.forall_mem_cons.mpr ⟨List.mem_of_getElem? ha, hmem⟩, ?_⟩
      rw [drawCommittee_succ rng l _ seats rand committee hne hfit, hone]
      simp only [Except.bind, hdrawn, List.append_assoc, List.singleton_append]

/-- The generator that draws `r`, or the last number below a smaller
bound. -/
def constantGenerator (r : Nat) : RandomGenerator where
  State := Unit
  fromSeed _ := ()
  genRange _ bound := (min r (bound - 1), ())
  genRange_lt := by
    intro s bound hbound
    have : min r (bound - 1) ≤ bound - 1 := Nat.min_le_right _ _
    show min r (bound - 1) < bound
    omega

/-- With a constant generator every seat goes to the same value. -/
theorem drawCommittee_const (l : List (T × Nat)) (hne : l ≠ [])
    (hfit : totalWeight l < 2 ^ 128) {r : Nat} {a : T} (hr : (urn l)[r]? = some a) :
    ∀ (seats : Nat) (committee : List T),
      drawCommittee (constantGenerator r) l (totalWeight l) seats () committee =
        .ok (committee ++ List.replicate seats a) := by
  have hlt : r < totalWeight l := by
    rw [← length_urn]
    exact (List.getElem?_eq_some_iff.mp hr).1
  have hmin : min r (totalWeight l - 1) = r := Nat.min_eq_left (by omega)
  intro seats
  induction seats with
  | zero => intro committee; simp [drawCommittee]
  | succ seats ih =>
      intro committee
      have hone : drawOne (constantGenerator r) (urn l) (totalWeight l) () = .ok (a, ()) := by
        have hpos : ¬ totalWeight l = 0 := by omega
        simp only [drawOne, hpos, if_false, constantGenerator, hmin, hr]
      rw [drawCommittee_succ (constantGenerator r) l (totalWeight l) seats () committee hne hfit,
        hone]
      simp only [Except.bind]
      rw [ih (committee ++ [a]), List.append_assoc, List.replicate_succ, List.singleton_append]

end Draw

/-! ## Equal urns, equal committees -/

section Outcome

variable {A K : Type}

/-- No seats: the empty committee, whatever the candidates. -/
theorem weightedSelection_zero (rng : RandomGenerator) (l : List (Candidate A K × Nat))
    (seed : FixedBytes 32) : weightedSelection rng l 0 seed = .ok (some []) := rfl

/-- The same urn gives the same committee. -/
theorem weightedSelection_congr (rng : RandomGenerator) {l l' : List (Candidate A K × Nat)}
    (size : UInt16) (seed : FixedBytes 32) (hfit : totalWeight l < 2 ^ 128)
    (hperm : l'.Perm l) (hurn : urn l' = urn l) :
    weightedSelection rng l' size seed = weightedSelection rng l size seed := by
  have htotal := totalWeight_perm hperm
  unfold weightedSelection weightedRandomSelectAuthorities
  by_cases hne : l = []
  · have hne' : l' = [] := by simpa [hne] using hperm
    rw [hne, hne']
  · have hne' : l' ≠ [] := by
      intro hnil
      rw [hnil] at hperm
      exact hne hperm.nil_eq.symm
    simp only [htotal, drawCommittee_congr rng _ hne' hne (by omega) hfit hurn]

/-- With some weight every seat is filled with a candidate that has weight. -/
theorem weightedSelection_ok (rng : RandomGenerator) {l : List (Candidate A K × Nat)}
    (size : UInt16) (seed : FixedBytes 32) (hpos : 0 < totalWeight l)
    (hfit : totalWeight l < 2 ^ 128) :
    ∃ drawn : List (Candidate A K), drawn.length = size.toNat ∧ (∀ c ∈ drawn, c ∈ urn l) ∧
      weightedSelection rng l size seed =
        .ok (some (drawn.map fun c => (c.accountId, c.accountKeys))) := by
  obtain ⟨drawn, hlen, hmem, hdrawn⟩ :=
    drawCommittee_ok rng l hpos hfit size.toNat (rng.fromSeed seed) []
  refine ⟨drawn, hlen, hmem, ?_⟩
  simp only [weightedSelection, weightedRandomSelectAuthorities, Nat.mod_eq_of_lt hfit,
    hdrawn, bind, Except.bind, List.nil_append, hlen, le_refl, if_true, Option.map_some]

/-- A constant generator fills all seats with one candidate. -/
theorem weightedSelection_const {l : List (Candidate A K × Nat)} (size : UInt16)
    (seed : FixedBytes 32) (hfit : totalWeight l < 2 ^ 128) {r : Nat} {a : Candidate A K}
    (hr : (urn l)[r]? = some a) :
    weightedSelection (constantGenerator r) l size seed =
      .ok (some (List.replicate size.toNat (a.accountId, a.accountKeys))) := by
  have hne : l ≠ [] := by
    rintro rfl
    simp at hr
  have hdraw := drawCommittee_const l hne hfit hr size.toNat []
  simp only [weightedSelection, weightedRandomSelectAuthorities, Nat.mod_eq_of_lt hfit]
  rw [show (constantGenerator r).fromSeed seed = () from rfl, hdraw]
  simp [bind, Except.bind]

end Outcome

end PartnerChains.Ports.SelectAuthorities
