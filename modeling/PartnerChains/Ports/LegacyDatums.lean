import PartnerChains.Ports.MainchainDatums

/-!
# Legacy and versioned datums

Before datums had versions, the generic part stood alone.  The decoders tell
the two kinds apart by their shape only: a list of three items with a `u32`
at its end is versioned.  No legacy datum has that shape, so each one is
decoded as legacy, and the decoders of both kinds agree on the value
(`decode_versioned_and_legacy`).  A version other than 0 is rejected by every
decoder, whether it is a `u32` or not.
-/

namespace PartnerChains.Ports.LegacyDatums

open PartnerChains.Ports.Domain
open PartnerChains.Ports.MainchainDatums
open PartnerChains.Verified.Fallible

/-! ## The two kinds of datums -/

section Kinds

variable {α : Type} (schema : VersionedDatum α)

/-- A datum without a version is decoded with the legacy schema. -/
theorem decode_of_not_versioned {data : PlutusData}
    (h : plutusDataVersionAndPayload data = none) :
    schema.decode data = (schema.decodeLegacy data).mapError
      fun msg => ⟨data, schema.name, msg⟩ := by
  simp only [VersionedDatum.decode, h]

/-- A datum without a version goes to the legacy decoder. -/
theorem decode_legacy_ok {data : PlutusData} {value : α}
    (h : plutusDataVersionAndPayload data = none) (hlegacy : schema.decodeLegacy data = .ok value) :
    schema.decode data = .ok value := by
  rw [decode_of_not_versioned schema h, hlegacy]
  rfl

/-- A list of three items whose last one is a version. -/
def withVersion (constData mutData : PlutusData) (version : Int) : PlutusData :=
  .list [constData, mutData, .integer version]

/-- If the schema knows version 0 only, and a version is not part of a legacy
datum, then other versions are rejected: a `u32` as unknown, everything else
as a malformed legacy datum. -/
theorem decode_withVersion {constData mutData : PlutusData} {version : Int}
    (hversion : version ≠ 0)
    (hunknown : ∀ number, number ≠ 0 →
      schema.decodeVersioned number constData mutData = .error (unknownVersion number))
    (hlegacy : ∃ msg, schema.decodeLegacy (withVersion constData mutData version) = .error msg) :
    ∃ error, schema.decode (withVersion constData mutData version) = .error error := by
  cases hpayload : plutusDataVersionAndPayload (withVersion constData mutData version) with
  | none =>
      obtain ⟨msg, hmsg⟩ := hlegacy
      exact ⟨_, by rw [decode_of_not_versioned schema hpayload, hmsg]; rfl⟩
  | some payload =>
      obtain ⟨number, hnumber, hsome⟩ := Option.bind_eq_some_iff.mp hpayload
      obtain rfl := Option.some.inj hsome
      have hne : number ≠ 0 := by
        rintro rfl
        cases version with
        | ofNat value =>
            simp only [PlutusData.asU32] at hnumber
            split at hnumber
            next => exact hversion (congrArg Int.ofNat (Option.some.inj hnumber))
            next => cases hnumber
        | negSucc value => cases hnumber
      refine ⟨⟨withVersion constData mutData version, schema.name, unknownVersion number⟩, ?_⟩
      simp only [VersionedDatum.decode, hpayload, hunknown number hne]
      rfl

end Kinds

/-! ## Legacy encodings -/

/-- A D-parameter as it was stored before datums had versions. -/
def legacyDParameter (dParam : DParameter) : PlutusData :=
  .list [.integer dParam.numPermissionedCandidates.toNat,
    .integer dParam.numRegisteredCandidates.toNat]

/-- Permissioned candidates as they were stored before datums had versions. -/
def legacyPermissionedCandidates (candidates : List PermissionedCandidateData) : PlutusData :=
  .list (candidates.map permissionedCandidateToPlutusData)

/-- Fields that later contracts may have appended to the constructors of a
registration. -/
structure TrailingFields where
  registration : List PlutusData
  stakeOwnership : List PlutusData
  consumedInput : List PlutusData
  txHash : List PlutusData

/-- A registration before datums had versions, with fields the decoder does not
look at. -/
def legacyRegistration (v : RegisterValidatorDatum) (extra : TrailingFields) : PlutusData :=
  .constr 0 ([
    .constr 0 ([.bytes v.stakeOwnership.pubKey.bytes, .bytes v.stakeOwnership.signature] ++
      extra.stakeOwnership),
    .bytes v.sidechainPubKey,
    .bytes v.sidechainSignature,
    .constr 0 ([.constr 0 ([.bytes v.consumedInput.txHash.bytes] ++ extra.txHash),
      .integer v.consumedInput.index] ++ extra.consumedInput),
    .bytes v.ownPkh.bytes,
    .bytes v.auraPubKey,
    .bytes v.grandpaPubKey] ++ extra.registration)

/-! ## Decoding legacy datums -/

private theorem decode_legacyDParameter (dParam : DParameter) :
    plutusDataVersionAndPayload (legacyDParameter dParam) = none ∧
    (DParamDatum.schema.decode (legacyDParameter dParam)).map DParamDatum.toDParameter =
      .ok dParam := by
  have hlegacy : DParamDatum.schema.decodeLegacy (legacyDParameter dParam) =
      .ok (.v0 dParam.numPermissionedCandidates dParam.numRegisteredCandidates) :=
    DParamDatum.decodeLegacy_list _ _
  refine ⟨rfl, ?_⟩
  rw [decode_legacy_ok DParamDatum.schema rfl hlegacy]
  rfl

/-- A candidate is a list, so three of them are not taken for a versioned
datum. -/
theorem legacyPermissionedCandidates_not_versioned
    (candidates : List PermissionedCandidateData) :
    plutusDataVersionAndPayload (legacyPermissionedCandidates candidates) = none := by
  rcases candidates with _ | ⟨first, _ | ⟨second, _ | ⟨third, _ | ⟨fourth, rest⟩⟩⟩⟩
  · rfl
  · rfl
  · rfl
  · rfl
  · rfl

/-- A version is not a candidate. -/
theorem decodeLegacy_withVersion (constData mutData : PlutusData) (version : Int) :
    ∃ msg, PermissionedCandidateDatums.decodeLegacy (withVersion constData mutData version) =
      .error msg := by
  have hnone : [constData, mutData, .integer version].mapM decodeLegacyCandidateDatum =
      none := by
    rw [List.mapM_cons, List.mapM_cons, List.mapM_cons]
    cases decodeLegacyCandidateDatum constData with
    | none => rfl
    | some first =>
        cases decodeLegacyCandidateDatum mutData with
        | none => rfl
        | some second => rfl
  refine ⟨"Expected [[ByteString, ByteString, ByteString]]", ?_⟩
  simp only [PermissionedCandidateDatums.decodeLegacy, withVersion, PlutusData.asList, bind,
    Option.bind, hnone, okOr]

private theorem decode_legacyPermissionedCandidates (candidates : List PermissionedCandidateData) :
    (PermissionedCandidateDatums.schema.decode (legacyPermissionedCandidates candidates)).map
      rawPermissionedCandidateDataVecFrom = .ok candidates := by
  have hlegacy : PermissionedCandidateDatums.schema.decodeLegacy
      (legacyPermissionedCandidates candidates) =
      .ok (.v0 (candidates.map fun c =>
        ⟨c.sidechainPublicKey, c.auraPublicKey, c.grandpaPublicKey⟩)) := by
    simp only [PermissionedCandidateDatums.schema, PermissionedCandidateDatums.decodeLegacy,
      legacyPermissionedCandidates, PlutusData.asList, bind, Option.bind,
      mapM_decodeLegacyCandidateDatum, okOr]
  rw [decode_legacy_ok _ (legacyPermissionedCandidates_not_versioned candidates) hlegacy]
  simp only [Except.map, rawPermissionedCandidateDataVecFrom, List.map_map]
  exact congrArg _ (List.map_id _)

private theorem decodeAdaBasedStakingDatum_trailing (v : AdaBasedStaking)
    (extra : List PlutusData) :
    decodeAdaBasedStakingDatum
        (.constr 0 ([.bytes v.pubKey.bytes, .bytes v.signature] ++ extra)) = some v := by
  rw [decodeAdaBasedStakingDatum, PlutusData.asConstrZero_constr (by simp)]
  simp [PlutusData.asBytes]

private theorem decodeUtxoIdDatum_trailing {v : UtxoId} (h : v.index < 2 ^ 16)
    (extra extraHash : List PlutusData) :
    decodeUtxoIdDatum (.constr 0 ([.constr 0 ([.bytes v.txHash.bytes] ++ extraHash),
      .integer v.index] ++ extra)) = some v := by
  have hindex := asU16_integer (UInt16.ofNat v.index)
  have hnat : (UInt16.ofNat v.index).toNat = v.index := UInt16.toNat_ofNat_of_lt h
  rw [hnat] at hindex
  have hhash : decodeTxHashDatum (.constr 0 ([.bytes v.txHash.bytes] ++ extraHash)) =
      some v.txHash := by
    rw [decodeTxHashDatum, PlutusData.asConstrZero_constr (by simp)]
    simp [PlutusData.asBytes]
  rw [decodeUtxoIdDatum, PlutusData.asConstrZero_constr (by simp)]
  simp only [List.cons_append, bind, Option.bind, List.getElem?_cons_zero,
    List.getElem?_cons_succ, List.nil_append] at hhash ⊢
  simp only [hhash, hindex, hnat]

private theorem decode_legacyRegistration {v : RegisterValidatorDatum}
    (h : v.consumedInput.index < 2 ^ 16) (extra : TrailingFields) :
    RegisterValidatorDatum.schema.decode (legacyRegistration v extra) = .ok v := by
  have hlegacy : decodeLegacyRegisterValidatorDatum (legacyRegistration v extra) = some v := by
    rw [decodeLegacyRegisterValidatorDatum, legacyRegistration,
      PlutusData.asConstrZero_constr (by simp)]
    simp only [List.cons_append, bind, Option.bind, List.getElem?_cons_zero,
      List.getElem?_cons_succ, List.nil_append, PlutusData.asBytes, FixedBytes.tryFrom_bytes]
    have hstake := decodeAdaBasedStakingDatum_trailing v.stakeOwnership extra.stakeOwnership
    have hutxo := decodeUtxoIdDatum_trailing h extra.consumedInput extra.txHash
    simp only [List.cons_append, List.nil_append] at hstake hutxo
    simp only [hstake, hutxo]
  refine decode_legacy_ok RegisterValidatorDatum.schema rfl ?_
  simp only [RegisterValidatorDatum.schema, hlegacy]
  rfl

/-! ## Versioned and legacy datums agree -/

/-- Decoding undoes both encodings of every value, no legacy encoding is
taken for a versioned one, and versions other than 0 are rejected. -/
theorem decode_versioned_and_legacy :
    (∀ dParam : DParameter,
      (DParamDatum.schema.decode (dParameterToPlutusData dParam)).map
        DParamDatum.toDParameter = .ok dParam ∧
      plutusDataVersionAndPayload (legacyDParameter dParam) = none ∧
      (DParamDatum.schema.decode (legacyDParameter dParam)).map
        DParamDatum.toDParameter = .ok dParam) ∧
    (∀ candidates : List PermissionedCandidateData,
      (PermissionedCandidateDatums.schema.decode
        (permissionedCandidatesToPlutusData candidates)).map
          rawPermissionedCandidateDataVecFrom = .ok candidates ∧
      plutusDataVersionAndPayload (legacyPermissionedCandidates candidates) = none ∧
      (PermissionedCandidateDatums.schema.decode
        (legacyPermissionedCandidates candidates)).map
          rawPermissionedCandidateDataVecFrom = .ok candidates) ∧
    (∀ v : RegisterValidatorDatum, v.consumedInput.index < 2 ^ 16 →
      RegisterValidatorDatum.schema.decode v.toPlutusData = .ok v ∧
      ∀ extra : TrailingFields,
        plutusDataVersionAndPayload (legacyRegistration v extra) = none ∧
        RegisterValidatorDatum.schema.decode (legacyRegistration v extra) = .ok v) ∧
    (∀ (version : Int) (constData mutData : PlutusData), version ≠ 0 →
      (∃ error, DParamDatum.schema.decode (withVersion constData mutData version) =
        .error error) ∧
      (∃ error, PermissionedCandidateDatums.schema.decode
        (withVersion constData mutData version) = .error error) ∧
      ∃ error, RegisterValidatorDatum.schema.decode
        (withVersion constData mutData version) = .error error) := by
  refine ⟨?_, ?_, ?_, ?_⟩
  · intro dParam
    exact ⟨decode_dParameterToPlutusData dParam, decode_legacyDParameter dParam⟩
  · intro candidates
    exact ⟨decode_permissionedCandidatesToPlutusData candidates,
      legacyPermissionedCandidates_not_versioned candidates,
      decode_legacyPermissionedCandidates candidates⟩
  · intro v hindex
    exact ⟨decode_registerValidatorDatum hindex, fun extra =>
      ⟨rfl, decode_legacyRegistration hindex extra⟩⟩
  · intro version constData mutData hversion
    refine ⟨?_, ?_, ?_⟩
    · refine decode_withVersion DParamDatum.schema hversion ?_ ⟨_, rfl⟩
      intro number hnumber
      obtain ⟨n, rfl⟩ := Nat.exists_eq_succ_of_ne_zero hnumber
      rfl
    · refine decode_withVersion PermissionedCandidateDatums.schema hversion ?_ ?_
      · intro number hnumber
        obtain ⟨n, rfl⟩ := Nat.exists_eq_succ_of_ne_zero hnumber
        rfl
      · exact decodeLegacy_withVersion constData mutData version
    · refine decode_withVersion RegisterValidatorDatum.schema hversion ?_ ⟨_, rfl⟩
      intro number hnumber
      obtain ⟨n, rfl⟩ := Nat.exists_eq_succ_of_ne_zero hnumber
      rfl

/-- A registration with output 1 of its transaction consumed. -/
def exampleRegistration : RegisterValidatorDatum where
  stakeOwnership := ⟨FixedBytes.replicate 32 1, List.replicate 64 2⟩
  sidechainPubKey := List.replicate 33 3
  sidechainSignature := List.replicate 64 4
  consumedInput := ⟨FixedBytes.replicate 32 5, 1⟩
  ownPkh := FixedBytes.replicate 28 6
  auraPubKey := List.replicate 32 7
  grandpaPubKey := List.replicate 32 8

/-- A registration in both encodings, and a D-parameter of an unknown version. -/
theorem decode_versioned_and_legacy_example :
    RegisterValidatorDatum.schema.decode exampleRegistration.toPlutusData =
      .ok exampleRegistration ∧
    RegisterValidatorDatum.schema.decode
      (legacyRegistration exampleRegistration ⟨[.integer 1], [], [.list []], []⟩) =
      .ok exampleRegistration ∧
    ∃ error, DParamDatum.schema.decode
      (withVersion .newEmptyConstr (legacyDParameter ⟨1, 2⟩) 1) = .error error := by
  obtain ⟨-, -, hregistration, hversion⟩ := decode_versioned_and_legacy
  obtain ⟨hversioned, hlegacy⟩ := hregistration exampleRegistration (by decide)
  exact ⟨hversioned, (hlegacy _).2, (hversion 1 _ _ (by decide)).1⟩

end PartnerChains.Ports.LegacyDatums
