import PartnerChains.Ports.PlutusDatum
import PartnerChains.Verified.Fallible

/-!
# Filtering invalid candidates

The port of `filter_invalid_candidates.rs`.  A registration counts when its
keys have the right size, both of its signatures verify over the CBOR bytes
of the registration message, and its transaction consumed the announced
input; of the registrations of one candidate the latest valid one is used,
provided the candidate has stake.

Signature verification is done by host functions outside the repository; it
enters as the functions of `SignatureVerification`.  The account types of the
runtime enter through the conversions the source asks of them.
-/

namespace PartnerChains.Ports.CandidateFilter

open PartnerChains.Ports.Domain
open PartnerChains.Ports.PlutusDatum
open PartnerChains.Verified.Fallible

/-- A compressed secp256k1 key. -/
abbrev EcdsaPublic := FixedBytes 33

/-- The key for Aura. -/
abbrev Sr25519Public := FixedBytes 32

/-- The key for Grandpa. -/
abbrev Ed25519Public := FixedBytes 32

/-- `ed25519::Signature::verify` and `ecdsa::Signature::verify`. -/
structure SignatureVerification where
  ed25519 : FixedBytes 64 → Bytes → Ed25519Public → Bool
  ecdsa : FixedBytes 65 → Bytes → EcdsaPublic → Bool

/-- `TAccountId: From<ecdsa::Public> + TryFrom<SidechainPublicKey>` and
`TAccountKeys: From<(sr25519::Public, ed25519::Public)>`. -/
structure AccountConversions (A K : Type) where
  ofEcdsa : EcdsaPublic → A
  tryFromSidechainPublicKey : Bytes → Option A
  ofKeys : Sr25519Public × Ed25519Public → K

/-- A candidate whose keys are valid. -/
structure Candidate (A K : Type) where
  accountId : A
  accountKeys : K
deriving DecidableEq

/-- A candidate with its weight in the selection. -/
structure CandidateWithStake (A K : Type) where
  candidate : Candidate A K
  stakeDelegation : UInt64
deriving DecidableEq

/-- Why a stake is not valid. -/
inductive StakeError where
  | invalidStake
  | unknownStake
deriving DecidableEq

/-- Why a registration is not valid. -/
inductive RegistrationDataError where
  | invalidMainchainSignature
  | invalidSidechainSignature
  | invalidTxInput
  | invalidMainchainPubKey
  | invalidSidechainPubKey
  | invalidAuraKey
  | invalidGrandpaKey
deriving DecidableEq

/-- Why a permissioned candidate is not valid. -/
inductive PermissionedCandidateDataError where
  | invalidSidechainPubKey
  | invalidAuraKey
  | invalidGrandpaKey
deriving DecidableEq

variable {A K : Type} (verification : SignatureVerification)
  (conversions : AccountConversions A K)

/-- `validate_stake`: a stake pool without stake is no candidate. -/
def validateStake : Option UInt64 → Except StakeError UInt64
  | none => .error .unknownStake
  | some stake => if stake = 0 then .error .invalidStake else .ok stake

/-- `verify_mainchain_signature`: an Ed25519 signature of the stake pool. -/
def verifyMainchainSignature (mainchainPubKey : MainchainPublicKey)
    (registrationData : RegistrationData) (signedMessageEncoded : Bytes) :
    Except RegistrationDataError Unit := do
  let mainchainSignature ← okOr
    (FixedBytes.tryFrom 64 registrationData.mainchainSignature) .invalidMainchainSignature
  if verification.ed25519 mainchainSignature signedMessageEncoded mainchainPubKey then
    .ok ()
  else
    .error .invalidMainchainSignature

/-- The pre EIP155 `v` byte, tried with both signs of the point. -/
def negativePointSign : UInt8 := 27

/-- The `v` byte for the other sign. -/
def positivePointSign : UInt8 := 28

/-- A signature with its recovery byte. -/
def signatureWithV (signature : FixedBytes 64) (v : UInt8) : FixedBytes 65 :=
  ⟨signature.bytes ++ [v], by simp [signature.size_eq]⟩

/-- `verify_sidechain_signature`: a signature without recovery byte, so both are
tried. -/
def verifySidechainSignature (pubKey : EcdsaPublic) (signature : Bytes)
    (signedMessageEncoded : Bytes) : Except RegistrationDataError Unit := do
  let sidechainSignature ← okOr
    (FixedBytes.tryFrom 64 signature) .invalidSidechainSignature
  if [negativePointSign, positivePointSign].any fun v =>
      verification.ecdsa (signatureWithV sidechainSignature v) signedMessageEncoded pubKey then
    .ok ()
  else
    .error .invalidSidechainSignature

/-- `verify_tx_inputs`: the registration was signed for a UTXO that its
transaction spends. -/
def verifyTxInputs (registrationData : RegistrationData) :
    Except RegistrationDataError Unit :=
  if registrationData.consumedInput ∈ registrationData.txInputs then .ok ()
  else .error .invalidTxInput

/-- Is the registration data provided by the authority candidate valid? -/
def validateRegistrationData (mainchainPubKey : MainchainPublicKey)
    (registrationData : RegistrationData) (genesisUtxo : UtxoId) :
    Except RegistrationDataError
      (Candidate EcdsaPublic (Sr25519Public × Ed25519Public)) := do
  let auraPubKey ← okOr
    (FixedBytes.tryFrom 32 registrationData.auraPubKey) .invalidAuraKey
  let grandpaPubKey ← okOr
    (FixedBytes.tryFrom 32 registrationData.grandpaPubKey) .invalidGrandpaKey
  let sidechainPubKey ← okOr
    (FixedBytes.tryFrom 33 registrationData.sidechainPubKey) .invalidSidechainPubKey
  let signedMessage : RegisterValidatorSignedMessage :=
    { genesisUtxo := genesisUtxo
      sidechainPubKey := registrationData.sidechainPubKey
      inputUtxo := registrationData.consumedInput }
  let signedMessageEncoded := encodeDatum signedMessage.toDatum
  verifyMainchainSignature verification mainchainPubKey registrationData signedMessageEncoded
  verifySidechainSignature verification sidechainPubKey
    registrationData.sidechainSignature signedMessageEncoded
  verifyTxInputs registrationData
  .ok { accountId := sidechainPubKey, accountKeys := (auraPubKey, grandpaPubKey) }

/-- `Iterator::max_by_key`: of equal maxima the last one. -/
def maxByKey {α κ : Type} [LinearOrder κ] (key : α → κ) (l : List α) : Option α :=
  l.foldl (fun best x =>
    match best with
    | none => some x
    | some m => if key m ≤ key x then some x else some m) none

/-- The candidate of a registration if it is valid. -/
def validRegistration (mainchainPubKey : MainchainPublicKey) (genesisUtxo : UtxoId)
    (registrationData : RegistrationData) :
    Option (Candidate EcdsaPublic (Sr25519Public × Ed25519Public) × UtxoInfo) :=
  match validateRegistrationData verification mainchainPubKey registrationData genesisUtxo with
  | .ok candidate => some (candidate, registrationData.utxoInfo)
  | .error _ => none

/-- The latest valid registration of the authority candidate. -/
def selectLatestValidCandidate (candidateRegistrations : CandidateRegistrations)
    (genesisUtxo : UtxoId) : Option (CandidateWithStake A K) := do
  let stakeDelegation ← (validateStake candidateRegistrations.stakeDelegation).toOption
  let (candidateData, _) ← maxByKey (fun p => p.2.orderingKey)
    (candidateRegistrations.registrations.filterMap
      (validRegistration verification candidateRegistrations.mainchainPubKey genesisUtxo))
  some
    { candidate :=
        { accountId := conversions.ofEcdsa candidateData.accountId
          accountKeys := conversions.ofKeys candidateData.accountKeys }
      stakeDelegation := stakeDelegation }

/-- The valid trustless candidates of the registrations from inherent data. -/
def filterTrustlessCandidatesRegistrations
    (candidateRegistrations : List CandidateRegistrations) (genesisUtxo : UtxoId) :
    List (CandidateWithStake A K) :=
  candidateRegistrations.filterMap fun c =>
    selectLatestValidCandidate verification conversions c genesisUtxo

/-- `validate_permissioned_candidate_data`: the keys have to have their lengths. -/
def validatePermissionedCandidateData (candidate : PermissionedCandidateData) :
    Except PermissionedCandidateDataError (A × Sr25519Public × Ed25519Public) := do
  let accountId ← okOr
    (conversions.tryFromSidechainPublicKey candidate.sidechainPublicKey) .invalidSidechainPubKey
  let auraKey ← okOr (FixedBytes.tryFrom 32 candidate.auraPublicKey) .invalidAuraKey
  let grandpaKey ← okOr (FixedBytes.tryFrom 32 candidate.grandpaPublicKey) .invalidGrandpaKey
  .ok (accountId, auraKey, grandpaKey)

/-- `filter_invalid_permissioned_candidates`: those that are not valid are left
out. -/
def filterInvalidPermissionedCandidates
    (permissionedCandidates : List PermissionedCandidateData) : List (Candidate A K) :=
  permissionedCandidates.filterMap fun candidate =>
    match validatePermissionedCandidateData conversions candidate with
    | .ok (accountId, auraKey, grandpaKey) =>
        some { accountId := accountId, accountKeys := conversions.ofKeys (auraKey, grandpaKey) }
    | .error _ => none

/-! ## The latest registration does not depend on the order -/

section MaxByKey

variable {α κ : Type} [LinearOrder κ] {key : α → κ}

private theorem maxByKey_fold_spec (key : α → κ) (l : List α) :
    ∀ m : α, ∃ x, l.foldl (fun best x =>
        match best with
        | none => some x
        | some m => if key m ≤ key x then some x else some m) (some m) = some x ∧
      (x = m ∨ x ∈ l) ∧ key m ≤ key x ∧ ∀ y ∈ l, key y ≤ key x := by
  induction l with
  | nil => intro m; exact ⟨m, rfl, Or.inl rfl, le_refl _, by simp⟩
  | cons a l ih =>
      intro m
      simp only [List.foldl_cons]
      by_cases hle : key m ≤ key a
      · obtain ⟨x, hx, hmem, hax, hall⟩ := ih a
        refine ⟨x, by simpa [hle] using hx, ?_, hle.trans hax, ?_⟩
        · rcases hmem with rfl | hmem
          · exact Or.inr (by simp)
          · exact Or.inr (by simp [hmem])
        · intro y hy
          rcases List.mem_cons.mp hy with rfl | hy
          · exact hax
          · exact hall y hy
      · obtain ⟨x, hx, hmem, hmx, hall⟩ := ih m
        refine ⟨x, by simpa [hle] using hx, ?_, hmx, ?_⟩
        · rcases hmem with rfl | hmem
          · exact Or.inl rfl
          · exact Or.inr (by simp [hmem])
        · intro y hy
          rcases List.mem_cons.mp hy with rfl | hy
          · exact (not_le.mp hle).le.trans hmx
          · exact hall y hy

theorem maxByKey_eq_none {l : List α} : maxByKey key l = none ↔ l = [] := by
  cases l with
  | nil => simp [maxByKey]
  | cons a l =>
      obtain ⟨x, hx, -⟩ := maxByKey_fold_spec key l a
      simp [maxByKey, List.foldl_cons, hx]

/-- `max_by_key` returns an element with the greatest key. -/
theorem maxByKey_spec {l : List α} {m : α} (h : maxByKey key l = some m) :
    m ∈ l ∧ ∀ y ∈ l, key y ≤ key m := by
  cases l with
  | nil => simp [maxByKey] at h
  | cons a l =>
      obtain ⟨x, hx, hmem, hax, hall⟩ := maxByKey_fold_spec key l a
      have hm : x = m := by
        simpa [maxByKey, List.foldl_cons, hx] using h
      subst hm
      refine ⟨?_, ?_⟩
      · rcases hmem with rfl | hmem <;> simp [*]
      · intro y hy
        rcases List.mem_cons.mp hy with rfl | hy
        · exact hax
        · exact hall y hy

/-- With pairwise distinct keys the maximum is a function of the content. -/
theorem maxByKey_perm {l l' : List α} (hperm : l.Perm l')
    (hkeys : (l.map key).Nodup) : maxByKey key l = maxByKey key l' := by
  cases hl : maxByKey key l with
  | none =>
      have hnil : l = [] := maxByKey_eq_none.mp hl
      have hnil' : l' = [] := by simpa [hnil] using hperm
      simp [hnil', maxByKey]
  | some m =>
      cases hl' : maxByKey key l' with
      | none =>
          have hnil' : l' = [] := maxByKey_eq_none.mp hl'
          have hnil : l = [] := by simpa [hnil'] using hperm
          simp [hnil, maxByKey] at hl
      | some m' =>
          obtain ⟨hm, hmax⟩ := maxByKey_spec hl
          obtain ⟨hm', hmax'⟩ := maxByKey_spec hl'
          have hkey : key m = key m' :=
            le_antisymm (hmax' m (hperm.mem_iff.mp hm)) (hmax m' (hperm.mem_iff.mpr hm'))
          rw [List.inj_on_of_nodup_map hkeys hm (hperm.mem_iff.mpr hm') hkey]

end MaxByKey

/-- The ordering keys of the valid registrations are among the ordering keys
of all registrations. -/
theorem map_orderingKey_filterMap_sublist (mainchainPubKey : MainchainPublicKey)
    (genesisUtxo : UtxoId) (registrations : List RegistrationData) :
    ((registrations.filterMap
        (validRegistration verification mainchainPubKey genesisUtxo)).map
          fun p => p.2.orderingKey).Sublist
      (registrations.map fun r => r.utxoInfo.orderingKey) := by
  induction registrations with
  | nil => exact List.Sublist.refl _
  | cons r rs ih =>
      cases hv : validateRegistrationData verification mainchainPubKey r genesisUtxo with
      | error e =>
          simp only [List.filterMap_cons, validRegistration, hv, List.map_cons]
          exact ih.cons _
      | ok candidate =>
          simp only [List.filterMap_cons, validRegistration, hv, List.map_cons]
          exact ih.cons_cons _

/-- Two records of one candidate that differ in the order of their
registrations. -/
structure SameCandidate (c c' : CandidateRegistrations) : Prop where
  mainchainPubKey : c'.mainchainPubKey = c.mainchainPubKey
  stakeDelegation : c'.stakeDelegation = c.stakeDelegation
  registrations : c'.registrations.Perm c.registrations

/-- Selecting the latest valid registration ignores the order of the
registrations when their ordering keys are pairwise distinct. -/
theorem selectLatestValidCandidate_perm {c c' : CandidateRegistrations}
    (h : SameCandidate c c')
    (hkeys : (c.registrations.map fun r => r.utxoInfo.orderingKey).Nodup)
    (genesisUtxo : UtxoId) :
    selectLatestValidCandidate verification conversions c' genesisUtxo =
      selectLatestValidCandidate verification conversions c genesisUtxo := by
  have hmax : maxByKey (fun p => p.2.orderingKey)
      (c.registrations.filterMap
        (validRegistration verification c.mainchainPubKey genesisUtxo)) =
      maxByKey (fun p => p.2.orderingKey)
        (c'.registrations.filterMap
          (validRegistration verification c.mainchainPubKey genesisUtxo)) := by
    apply maxByKey_perm (h.registrations.symm.filterMap _)
    exact (map_orderingKey_filterMap_sublist verification c.mainchainPubKey genesisUtxo
      c.registrations).nodup hkeys
  simp only [selectLatestValidCandidate, h.mainchainPubKey, h.stakeDelegation, hmax]

/-- A selected candidate has a positive stake. -/
theorem stake_pos_of_select {c : CandidateRegistrations} {genesisUtxo : UtxoId}
    {v : CandidateWithStake A K}
    (h : selectLatestValidCandidate verification conversions c genesisUtxo = some v) :
    0 < v.stakeDelegation.toNat := by
  unfold selectLatestValidCandidate at h
  cases hs : c.stakeDelegation with
  | none => simp [hs, validateStake, Except.toOption] at h
  | some stake =>
      by_cases hz : stake = 0
      · simp [hs, validateStake, hz, Except.toOption] at h
      · simp only [hs, validateStake, hz, if_false, Except.toOption,
          Option.bind_eq_bind, Option.bind_some, Option.bind_eq_some_iff,
          Option.some.injEq, Prod.exists] at h
        obtain ⟨d, u, -, rfl⟩ := h
        have hne : stake.toNat ≠ 0 := by
          intro h0
          exact hz (UInt64.toNat_inj.mp (by simpa using h0))
        exact Nat.pos_of_ne_zero hne

end PartnerChains.Ports.CandidateFilter
