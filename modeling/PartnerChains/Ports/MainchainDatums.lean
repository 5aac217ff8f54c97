import PartnerChains.Ports.Domain
import PartnerChains.Verified.Fallible

/-!
# Datums of the main chain contracts

`PlutusData` stands for the type of the serialization library, with the
accessors that the decoders use.  A versioned datum is a list of three items,
the constant part, the generic part and the version; everything else is
decoded with the legacy schema.

The three datum types of the committee selection are decoded here: the
D-parameter, the permissioned candidates and the registration of a validator.
For each of them decoding undoes encoding.
-/

namespace PartnerChains.Ports.MainchainDatums

open PartnerChains.Ports.Domain
open PartnerChains.Verified.Fallible

/-- Plutus data as the Cardano serialization library presents it. -/
inductive PlutusData where
  | constr (alternative : Nat) (data : List PlutusData)
  | map (entries : List (PlutusData × PlutusData))
  | list (items : List PlutusData)
  | integer (value : Int)
  | bytes (value : Bytes)

namespace PlutusData

def asList : PlutusData → Option (List PlutusData)
  | .list items => some items
  | _ => none

def asBytes : PlutusData → Option Bytes
  | .bytes value => some value
  | _ => none

/-- The fields of constructor 0, if there are at least `arity` of them. -/
def asConstrZero (arity : Nat) : PlutusData → Option (List PlutusData)
  | .constr alternative data =>
      if alternative = 0 ∧ arity ≤ data.length then some data else none
  | _ => none

/-- `as_integer` and `as_u64`, narrowed to `u32`. -/
def asU32 : PlutusData → Option Nat
  | .integer (.ofNat value) => if value < 2 ^ 32 then some value else none
  | _ => none

/-- An integer in the range of `u16`. -/
def asU16 (data : PlutusData) : Option UInt16 :=
  data.asU32.bind fun value => if value < 2 ^ 16 then some (UInt16.ofNat value) else none

/-- `new_empty_constr_plutus_data` of alternative zero. -/
def newEmptyConstr : PlutusData := .constr 0 []

theorem asConstrZero_constr {arity : Nat} {data : List PlutusData} (h : arity ≤ data.length) :
    (constr 0 data).asConstrZero arity = some data := if_pos ⟨rfl, h⟩

end PlutusData

/-- `DataDecodingError`, with the datum that did not decode. -/
structure DataDecodingError where
  datum : PlutusData
  decodedTo : String
  msg : String

/-! ## Versioned datums -/

/-- The implementation of `VersionedDatum` for a type `α`. -/
structure VersionedDatum (α : Type) where
  name : String
  decodeLegacy : PlutusData → Except String α
  decodeVersioned : Nat → PlutusData → PlutusData → Except String α

/-- `plutus_data_version_and_payload`: a list of three items whose last one is a
`u32` is a versioned datum. -/
def plutusDataVersionAndPayload (data : PlutusData) :
    Option (Nat × PlutusData × PlutusData) :=
  match data.asList with
  | some [constData, mutData, version] => do
      let version ← version.asU32
      some (version, constData, mutData)
  | _ => none

/-- `decode`: a datum without a version is decoded as a legacy one. -/
def VersionedDatum.decode {α : Type} (schema : VersionedDatum α) (data : PlutusData) :
    Except DataDecodingError α :=
  let result := match plutusDataVersionAndPayload data with
    | none => schema.decodeLegacy data
    | some (version, constPayload, mutPayload) =>
        schema.decodeVersioned version constPayload mutPayload
  result.mapError fun msg => ⟨data, schema.name, msg⟩

/-- `VersionedGenericDatumShape`. -/
def versionedGenericDatum (datum genericData : PlutusData) (version : Nat) : PlutusData :=
  .list [datum, genericData, .integer version]

/-- The error for a version other than zero. -/
def unknownVersion (version : Nat) : String := "Unknown version: " ++ toString version

/-- A datum that is written with a version is read with it. -/
theorem plutusDataVersionAndPayload_versionedGenericDatum (datum genericData : PlutusData) :
    plutusDataVersionAndPayload (versionedGenericDatum datum genericData 0) =
      some (0, datum, genericData) := rfl

/-! ## The D-parameter -/

inductive DParamDatum where
  | v0 (numPermissionedCandidates numRegisteredCandidates : UInt16)
deriving DecidableEq

/-- `From<DParamDatum> for DParameter`. -/
def DParamDatum.toDParameter : DParamDatum → DParameter
  | .v0 permissioned registered => ⟨permissioned, registered⟩

/-- `decode_legacy` of `DParamDatum`, which version zero also uses for its mutable
part. -/
def DParamDatum.decodeLegacy (data : PlutusData) : Except String DParamDatum :=
  okOr (match data.asList with
    | some [permissioned, registered] => do
        let permissioned ← permissioned.asU16
        let registered ← registered.asU16
        some (.v0 permissioned registered)
    | _ => none) "Expected [u16, u16]"

/-- `VersionedDatum` of `DParamDatum`. -/
def DParamDatum.schema : VersionedDatum DParamDatum where
  name := "DParamDatum"
  decodeLegacy := DParamDatum.decodeLegacy
  decodeVersioned := fun version _ mutData =>
    match version with
    | 0 => (DParamDatum.decodeLegacy mutData).mapError
        fun msg => "Can not parse mutable part of data: " ++ msg
    | _ => .error (unknownVersion version)

/-- `d_parameter_to_plutus_data`: the current encoding, of version zero. -/
def dParameterToPlutusData (dParam : DParameter) : PlutusData :=
  versionedGenericDatum .newEmptyConstr
    (.list [.integer dParam.numPermissionedCandidates.toNat,
      .integer dParam.numRegisteredCandidates.toNat]) 0

theorem asU16_integer (value : UInt16) :
    PlutusData.asU16 (.integer value.toNat) = some value := by
  have hlt : value.toNat < 2 ^ 16 := value.toNat_lt
  have hlt' : value.toNat < 2 ^ 32 := by omega
  show (if value.toNat < 2 ^ 32 then some value.toNat else none).bind _ = _
  rw [if_pos hlt', Option.bind_some, if_pos hlt, UInt16.ofNat_toNat]

theorem DParamDatum.decodeLegacy_list (permissioned registered : UInt16) :
    DParamDatum.decodeLegacy
        (.list [.integer permissioned.toNat, .integer registered.toNat]) =
      .ok (.v0 permissioned registered) := by
  simp only [DParamDatum.decodeLegacy, PlutusData.asList, asU16_integer]
  rfl

/-- A D-parameter that is written is read back. -/
theorem decode_dParameterToPlutusData (dParam : DParameter) :
    (DParamDatum.schema.decode (dParameterToPlutusData dParam)).map DParamDatum.toDParameter =
      .ok dParam := by
  rw [VersionedDatum.decode, dParameterToPlutusData,
    plutusDataVersionAndPayload_versionedGenericDatum]
  simp only [DParamDatum.schema, DParamDatum.decodeLegacy_list]
  rfl

/-! ## Permissioned candidates -/

/-- The keys of one candidate, not checked yet. -/
structure PermissionedCandidateDatumV0 where
  sidechainPublicKey : Bytes
  auraPublicKey : Bytes
  grandpaPublicKey : Bytes
deriving DecidableEq

inductive PermissionedCandidateDatums where
  | v0 (candidates : List PermissionedCandidateDatumV0)
deriving DecidableEq

/-- `decode_legacy_candidate_datum`: exactly three byte strings. -/
def decodeLegacyCandidateDatum (datum : PlutusData) : Option PermissionedCandidateDatumV0 :=
  match datum.asList with
  | some [sc, aura, grandpa] => do
      let sc ← sc.asBytes
      let aura ← aura.asBytes
      let grandpa ← grandpa.asBytes
      some ⟨sc, aura, grandpa⟩
  | _ => none

/-- One candidate that does not decode fails the whole list. -/
def PermissionedCandidateDatums.decodeLegacy (data : PlutusData) :
    Except String PermissionedCandidateDatums :=
  okOr (do
    let items ← data.asList
    let candidates ← items.mapM decodeLegacyCandidateDatum
    some (.v0 candidates)) "Expected [[ByteString, ByteString, ByteString]]"

/-- `VersionedDatum` of `PermissionedCandidateDatums`. -/
def PermissionedCandidateDatums.schema : VersionedDatum PermissionedCandidateDatums where
  name := "PermissionedCandidateDatums"
  decodeLegacy := PermissionedCandidateDatums.decodeLegacy
  decodeVersioned := fun version _ mutData =>
    match version with
    | 0 => (PermissionedCandidateDatums.decodeLegacy mutData).mapError
        fun msg => "Can not parse mutable part of data: " ++ msg
    | _ => .error (unknownVersion version)

/-- `From<PermissionedCandidateDatumV0> for RawPermissionedCandidateData`. -/
def rawPermissionedCandidateDataFrom (datum : PermissionedCandidateDatumV0) :
    PermissionedCandidateData :=
  ⟨datum.sidechainPublicKey, datum.auraPublicKey, datum.grandpaPublicKey⟩

/-- `From<PermissionedCandidateDatums> for Vec<RawPermissionedCandidateData>`. -/
def rawPermissionedCandidateDataVecFrom :
    PermissionedCandidateDatums → List PermissionedCandidateData
  | .v0 datums => datums.map rawPermissionedCandidateDataFrom

/-- The list of the three keys. -/
def permissionedCandidateToPlutusData (candidate : PermissionedCandidateData) : PlutusData :=
  .list [.bytes candidate.sidechainPublicKey, .bytes candidate.auraPublicKey,
    .bytes candidate.grandpaPublicKey]

/-- `permissioned_candidates_to_plutus_data`: the current encoding, of version
zero. -/
def permissionedCandidatesToPlutusData (candidates : List PermissionedCandidateData) :
    PlutusData :=
  versionedGenericDatum .newEmptyConstr
    (.list (candidates.map permissionedCandidateToPlutusData)) 0

/-- Every candidate of a list is read back. -/
theorem mapM_decodeLegacyCandidateDatum (candidates : List PermissionedCandidateData) :
    (candidates.map permissionedCandidateToPlutusData).mapM decodeLegacyCandidateDatum =
      some (candidates.map fun c =>
        ⟨c.sidechainPublicKey, c.auraPublicKey, c.grandpaPublicKey⟩) := by
  induction candidates with
  | nil => rfl
  | cons candidate candidates ih =>
      rw [List.map_cons, List.mapM_cons, ih]
      rfl

/-- Permissioned candidates that are written are read back. -/
theorem decode_permissionedCandidatesToPlutusData
    (candidates : List PermissionedCandidateData) :
    (PermissionedCandidateDatums.schema.decode
        (permissionedCandidatesToPlutusData candidates)).map
      rawPermissionedCandidateDataVecFrom = .ok candidates := by
  rw [VersionedDatum.decode, permissionedCandidatesToPlutusData,
    plutusDataVersionAndPayload_versionedGenericDatum]
  simp only [PermissionedCandidateDatums.schema, PermissionedCandidateDatums.decodeLegacy,
    PlutusData.asList, bind, Option.bind, mapM_decodeLegacyCandidateDatum, okOr,
    Except.mapError, Except.map, rawPermissionedCandidateDataVecFrom, List.map_map]
  exact congrArg _ (List.map_id _)

/-! ## Registrations -/

/-- `AdaBasedStaking`: the stake pool's key and its signature. -/
structure AdaBasedStaking where
  pubKey : MainchainPublicKey
  signature : Bytes
deriving DecidableEq

/-- The fields of the only version, `V0`. -/
structure RegisterValidatorDatum where
  stakeOwnership : AdaBasedStaking
  sidechainPubKey : Bytes
  sidechainSignature : Bytes
  consumedInput : UtxoId
  ownPkh : MainchainAddressHash
  auraPubKey : Bytes
  grandpaPubKey : Bytes
deriving DecidableEq

/-- `decode_ada_based_staking_datum`: the pool's key has to have 32 bytes. -/
def decodeAdaBasedStakingDatum (datum : PlutusData) : Option AdaBasedStaking := do
  let fields ← datum.asConstrZero 2
  let pubKey ← FixedBytes.tryFrom 32 (← (← fields[0]?).asBytes)
  let signature ← (← fields[1]?).asBytes
  some { pubKey := pubKey, signature := signature }

/-- Only the variant with constructor 0 of the sum type is parsed. -/
def decodeTxHashDatum (datum : PlutusData) : Option McTxHash := do
  let fields ← datum.asConstrZero 1
  FixedBytes.tryFrom 32 (← (← fields[0]?).asBytes)

/-- `decode_utxo_id_datum`: the index has to be a `u16`. -/
def decodeUtxoIdDatum (datum : PlutusData) : Option UtxoId := do
  let fields ← datum.asConstrZero 2
  let txHash ← decodeTxHashDatum (← fields[0]?)
  let index ← (← fields[1]?).asU16
  some { txHash := txHash, index := index.toNat }

/-- `decode_v0_register_validator_datum`: the owner comes from the constant part. -/
def decodeV0RegisterValidatorDatum (constData mutData : PlutusData) :
    Option RegisterValidatorDatum := do
  let fields ← mutData.asConstrZero 6
  let stakeOwnership ← decodeAdaBasedStakingDatum (← fields[0]?)
  let sidechainPubKey ← (← fields[1]?).asBytes
  let sidechainSignature ← (← fields[2]?).asBytes
  let consumedInput ← decodeUtxoIdDatum (← fields[3]?)
  let auraPubKey ← (← fields[4]?).asBytes
  let grandpaPubKey ← (← fields[5]?).asBytes
  let ownPkh ← FixedBytes.tryFrom 28 (← constData.asBytes)
  some { stakeOwnership := stakeOwnership, sidechainPubKey := sidechainPubKey,
         sidechainSignature := sidechainSignature, consumedInput := consumedInput,
         ownPkh := ownPkh, auraPubKey := auraPubKey, grandpaPubKey := grandpaPubKey }

/-- `decode_legacy_register_validator_datum`: the owner is the fifth of seven
fields. -/
def decodeLegacyRegisterValidatorDatum (datum : PlutusData) :
    Option RegisterValidatorDatum := do
  let fields ← datum.asConstrZero 7
  let stakeOwnership ← decodeAdaBasedStakingDatum (← fields[0]?)
  let sidechainPubKey ← (← fields[1]?).asBytes
  let sidechainSignature ← (← fields[2]?).asBytes
  let consumedInput ← decodeUtxoIdDatum (← fields[3]?)
  let ownPkh ← FixedBytes.tryFrom 28 (← (← fields[4]?).asBytes)
  let auraPubKey ← (← fields[5]?).asBytes
  let grandpaPubKey ← (← fields[6]?).asBytes
  some { stakeOwnership := stakeOwnership, sidechainPubKey := sidechainPubKey,
         sidechainSignature := sidechainSignature, consumedInput := consumedInput,
         ownPkh := ownPkh, auraPubKey := auraPubKey, grandpaPubKey := grandpaPubKey }

/-- `VersionedDatum` of `RegisterValidatorDatum`. -/
def RegisterValidatorDatum.schema : VersionedDatum RegisterValidatorDatum where
  name := "RegisterValidatorDatum"
  decodeLegacy := fun data => okOr (decodeLegacyRegisterValidatorDatum data) "Invalid data"
  decodeVersioned := fun version constData mutData =>
    match version with
    | 0 => okOr (decodeV0RegisterValidatorDatum constData mutData)
        "Can not parse mutable part of data"
    | _ => .error (unknownVersion version)

/-- The encoding that `decodeAdaBasedStakingDatum` reads. -/
def stakeOwnershipToPlutusData (v : AdaBasedStaking) : PlutusData :=
  .constr 0 [.bytes v.pubKey.bytes, .bytes v.signature]

/-- A transaction hash is wrapped in a constructor of its own. -/
def txHashToPlutusData (v : McTxHash) : PlutusData := .constr 0 [.bytes v.bytes]

/-- The encoding that `decodeUtxoIdDatum` reads. -/
def utxoIdToPlutusData (v : UtxoId) : PlutusData :=
  .constr 0 [txHashToPlutusData v.txHash, .integer v.index]

/-- `From<RegisterValidatorDatum> for PlutusData`. -/
def RegisterValidatorDatum.toPlutusData (v : RegisterValidatorDatum) : PlutusData :=
  versionedGenericDatum (.bytes v.ownPkh.bytes)
    (.constr 0 [stakeOwnershipToPlutusData v.stakeOwnership, .bytes v.sidechainPubKey,
      .bytes v.sidechainSignature, utxoIdToPlutusData v.consumedInput, .bytes v.auraPubKey,
      .bytes v.grandpaPubKey]) 0

private theorem decodeAdaBasedStakingDatum_toPlutusData (v : AdaBasedStaking) :
    decodeAdaBasedStakingDatum (stakeOwnershipToPlutusData v) = some v := by
  simp [decodeAdaBasedStakingDatum, stakeOwnershipToPlutusData, PlutusData.asConstrZero,
    PlutusData.asBytes]

/-- Output indices are `u16`. -/
theorem decodeUtxoIdDatum_toPlutusData {v : UtxoId} (h : v.index < 2 ^ 16) :
    decodeUtxoIdDatum (utxoIdToPlutusData v) = some v := by
  have hindex := asU16_integer (UInt16.ofNat v.index)
  have hnat : (UInt16.ofNat v.index).toNat = v.index := UInt16.toNat_ofNat_of_lt h
  rw [hnat] at hindex
  have hhash : decodeTxHashDatum (txHashToPlutusData v.txHash) = some v.txHash := by
    simp [txHashToPlutusData, decodeTxHashDatum, PlutusData.asConstrZero, PlutusData.asBytes]
  have hfields : (utxoIdToPlutusData v).asConstrZero 2 =
      some [txHashToPlutusData v.txHash, .integer v.index] := rfl
  simp only [decodeUtxoIdDatum, hfields, bind, Option.bind, List.getElem?_cons_zero,
    List.getElem?_cons_succ, hhash, hindex, hnat]

/-- A registration that is written is read back, as long as its index fits in 16
bits. -/
theorem decode_registerValidatorDatum {v : RegisterValidatorDatum}
    (h : v.consumedInput.index < 2 ^ 16) :
    RegisterValidatorDatum.schema.decode v.toPlutusData = .ok v := by
  have hV0 : decodeV0RegisterValidatorDatum (.bytes v.ownPkh.bytes)
      (.constr 0 [stakeOwnershipToPlutusData v.stakeOwnership, .bytes v.sidechainPubKey,
        .bytes v.sidechainSignature, utxoIdToPlutusData v.consumedInput, .bytes v.auraPubKey,
        .bytes v.grandpaPubKey]) = some v := by
    rw [decodeV0RegisterValidatorDatum, PlutusData.asConstrZero_constr (by simp)]
    simp only [PlutusData.asBytes, bind, Option.bind, List.getElem?_cons_zero,
      List.getElem?_cons_succ, FixedBytes.tryFrom_bytes,
      decodeAdaBasedStakingDatum_toPlutusData, decodeUtxoIdDatum_toPlutusData h]
  rw [VersionedDatum.decode, RegisterValidatorDatum.toPlutusData,
    plutusDataVersionAndPayload_versionedGenericDatum]
  simp only [RegisterValidatorDatum.schema, hV0]
  rfl

end PartnerChains.Ports.MainchainDatums
