import PartnerChains.Ports.PlutusDatum
import PartnerChains.Ports.TransactionBuilding

/-!
# Scripts of a partner chain

The port of `scripts_data.rs` and of the functions of `plutus_script.rs` that it
calls.  The scripts in the repository take parameters: the genesis UTXO, the
policy of the version oracle, and addresses of other scripts.  Applying them
gives the scripts of one partner chain on one network, of which addresses,
hashes and policy ids are reported.

`Uplc` stands for the library for untyped Plutus, and `RawScripts` for the
scripts.  `Derived` collects what a report was derived from.
-/

namespace PartnerChains.Ports.ScriptDerivation

open PartnerChains.Ports.Domain
open PartnerChains.Ports.PlutusDatum
open PartnerChains.Ports.MainchainDatums
open PartnerChains.Ports.TransactionBuilding
open PartnerChains.Verified.Fallible

/-! ## Scripts with parameters -/

/-- The functions of the libraries for untyped Plutus, CBOR and addresses. -/
structure Uplc where
  Program : Type
  /-- `minicbor::decode`. -/
  decode : Bytes → Except String PlutusData
  /-- `uplc::plutus_data`. -/
  plutusData : Bytes → Option PlutusData
  fromCbor : Bytes → Except String Program
  applyData : Program → PlutusData → Program
  toCbor : Program → Option Bytes
  /-- `PlutusData::from_address`, converted by way of its CBOR bytes. -/
  addressData : Address → Except String PlutusData
  toBech32 : Address → Except String String

/-- The crate `raw_scripts`. -/
structure RawScripts where
  committeeCandidateValidator : Bytes
  dParameterValidator : Bytes
  dParameterPolicy : Bytes
  illiquidCirculationSupplyValidator : Bytes
  multiSigPolicy : Bytes
  permissionedCandidatesValidator : Bytes
  permissionedCandidatesPolicy : Bytes
  reserveValidator : Bytes
  reserveAuthPolicy : Bytes
  versionOracleValidator : Bytes
  versionOraclePolicy : Bytes

section Apply

variable (uplc : Uplc)

/-- The compiled scripts are wrapped in a CBOR byte string. -/
def unwrapOneLayerOfCbor (plutusScriptRaw : Bytes) : Except String Bytes := do
  let plutusScriptBytes ← uplc.decode plutusScriptRaw
  match plutusScriptBytes with
  | .bytes bytes => .ok bytes
  | _ => .error "expected validator raw to be BoundedBytes"

/-- `from_wrapped_cbor`: the script inside one layer of CBOR. -/
def fromWrappedCbor (cbor : Bytes) (language : LanguageKind) : Except String PlutusScript := do
  let bytes ← unwrapOneLayerOfCbor uplc cbor
  .ok ⟨bytes, language⟩

/-- `apply_uplc_data`: the script with its next parameter filled in. -/
def applyUplcData (script : PlutusScript) (data : PlutusData) : Except String PlutusScript := do
  let program ← uplc.fromCbor script.bytes
  let bytes ← okOr (uplc.toCbor (uplc.applyData program data))
    "Couldn't encode resulting script as CBOR."
  .ok { script with bytes := bytes }

/-- The error is a panic in the source. -/
def datumToUplcPlutusData (datum : Datum) : Except String PlutusData :=
  okOr (uplc.plutusData (encodeDatum datum))
    "trasformation from PC Datum to pallas PlutusData can't fail"

/-- `apply_data`: `apply_uplc_data` for a datum. -/
def applyData (script : PlutusScript) (datum : Datum) : Except String PlutusScript := do
  let data ← datumToUplcPlutusData uplc datum
  applyUplcData uplc script data

variable (blake2b : Bytes → ScriptHash)

/-- `address_data`: the script's address as a script parameter. -/
def addressData (script : PlutusScript) (network : NetworkIdKind) : Except String PlutusData :=
  uplc.addressData (script.address blake2b network)

/-- The error gets a context. -/
def addressBech32 (script : PlutusScript) (network : NetworkIdKind) : Except String String :=
  (uplc.toBech32 (script.address blake2b network)).mapError
    fun _ => "Converting script address to bech32"

end Apply

/-! ## The scripts of a partner chain -/

/-- `MainchainAddressHash::from_vkey`. -/
def fromVkey (blake2b : Bytes → ScriptHash) (vkey : FixedBytes 32) : FixedBytes 28 :=
  blake2b vkey.bytes

/-- There is one required authority. -/
def multisigGovernancePolicyConfiguration (governanceAuthority : FixedBytes 28) : PlutusData :=
  .list [.list [.bytes governanceAuthority.bytes], .integer 1]

/-- A policy as a script parameter. -/
def policyIdToDatum (policyId : ScriptHash) : Datum := .byteStringDatum policyId.bytes

section Scripts

variable (uplc : Uplc) (rawScripts : RawScripts) (blake2b : Bytes → ScriptHash)
  (genesisUtxo : UtxoId) (network : NetworkIdKind)

/-- The validator, the policy id, and the policy id as data. -/
def versionOracle : Except String (PlutusScript × ScriptHash × PlutusData) := do
  let validator ← fromWrappedCbor uplc rawScripts.versionOracleValidator .plutusV2
  let validator ← applyData uplc validator (utxoIdToDatum genesisUtxo)
  let policyScript ← fromWrappedCbor uplc rawScripts.versionOraclePolicy .plutusV2
  let policyScript ← applyData uplc policyScript (utxoIdToDatum genesisUtxo)
  let address ← addressData uplc blake2b validator network
  let policyScript ← applyUplcData uplc policyScript address
  let policy := policyScript.scriptHash blake2b
  .ok (validator, policy, .bytes policy.bytes)

/-- A validator and a policy that get the genesis UTXO and the version oracle;
the policy gets the address of the validator as well. -/
def validatorAndPolicy (rawValidator rawPolicy : Bytes) :
    Except String (PlutusScript × PlutusScript) := do
  let (_, versionOraclePolicy, _) ← versionOracle uplc rawScripts blake2b genesisUtxo network
  let validator ← fromWrappedCbor uplc rawValidator .plutusV2
  let validator ← applyData uplc validator (utxoIdToDatum genesisUtxo)
  let validator ← applyData uplc validator (policyIdToDatum versionOraclePolicy)
  let policy ← fromWrappedCbor uplc rawPolicy .plutusV2
  let policy ← applyData uplc policy (utxoIdToDatum genesisUtxo)
  let policy ← applyData uplc policy (policyIdToDatum versionOraclePolicy)
  let address ← addressData uplc blake2b validator network
  let policy ← applyUplcData uplc policy address
  .ok (validator, policy)

def dParameterScripts : Except String (PlutusScript × PlutusScript) :=
  validatorAndPolicy uplc rawScripts blake2b genesisUtxo network rawScripts.dParameterValidator
    rawScripts.dParameterPolicy

def permissionedCandidatesScripts : Except String (PlutusScript × PlutusScript) :=
  validatorAndPolicy uplc rawScripts blake2b genesisUtxo network
    rawScripts.permissionedCandidatesValidator rawScripts.permissionedCandidatesPolicy

end Scripts

/-! ## The report -/

/-- Bech32 addresses. -/
structure Addresses where
  committeeCandidateValidator : String
  dParameterValidator : String
  illiquidCirculationSupplyValidator : String
  permissionedCandidatesValidator : String
  reserveValidator : String
  versionOracleValidator : String

structure ValidatorHashes where
  committeeCandidateValidator : ScriptHash
  dParameterValidator : ScriptHash
  illiquidCirculationSupplyValidator : ScriptHash
  permissionedCandidatesValidator : ScriptHash
  reserveValidator : ScriptHash
  versionOracleValidator : ScriptHash

structure PolicyIds where
  dParameter : ScriptHash
  permissionedCandidates : ScriptHash
  reserveAuth : ScriptHash
  versionOracle : ScriptHash
  governance : ScriptHash

structure ScriptsData where
  addresses : Addresses
  validatorHashes : ValidatorHashes
  policyIds : PolicyIds

section Report

variable (uplc : Uplc) (rawScripts : RawScripts) (blake2b : Bytes → ScriptHash)

/-- The policy of the governance for an authority. -/
def multiSigPolicy (governanceAuthority : FixedBytes 28) : Except String PlutusScript := do
  let policy ← fromWrappedCbor uplc rawScripts.multiSigPolicy .plutusV2
  applyUplcData uplc policy (multisigGovernancePolicyConfiguration governanceAuthority)

/-- The governance policy is the one for the verification key of zeros. -/
def getScriptsData (genesisUtxo : UtxoId) (network : NetworkIdKind) :
    Except String ScriptsData := do
  let (versionOracleValidator, versionOraclePolicy, versionOraclePolicyData) ←
    versionOracle uplc rawScripts blake2b genesisUtxo network
  let committeeCandidateValidator ←
    fromWrappedCbor uplc rawScripts.committeeCandidateValidator .plutusV2
  let committeeCandidateValidator ←
    applyData uplc committeeCandidateValidator (utxoIdToDatum genesisUtxo)
  let (dParameterValidator, dParameterPolicy) ←
    dParameterScripts uplc rawScripts blake2b genesisUtxo network
  let illiquidCirculationSupplyValidator ←
    fromWrappedCbor uplc rawScripts.illiquidCirculationSupplyValidator .plutusV2
  let illiquidCirculationSupplyValidator ←
    applyUplcData uplc illiquidCirculationSupplyValidator versionOraclePolicyData
  let (permissionedCandidatesValidator, permissionedCandidatesPolicy) ←
    permissionedCandidatesScripts uplc rawScripts blake2b genesisUtxo network
  let reserveValidator ← fromWrappedCbor uplc rawScripts.reserveValidator .plutusV2
  let reserveValidator ← applyUplcData uplc reserveValidator versionOraclePolicyData
  let governancePolicy ← multiSigPolicy uplc rawScripts
    (fromVkey blake2b (FixedBytes.replicate 32 0))
  let reserveAuthPolicy ← fromWrappedCbor uplc rawScripts.reserveAuthPolicy .plutusV2
  let reserveAuthPolicy ← applyUplcData uplc reserveAuthPolicy versionOraclePolicyData
  let committeeCandidateAddress ←
    addressBech32 uplc blake2b committeeCandidateValidator network
  let dParameterAddress ← addressBech32 uplc blake2b dParameterValidator network
  let illiquidCirculationSupplyAddress ←
    addressBech32 uplc blake2b illiquidCirculationSupplyValidator network
  let permissionedCandidatesAddress ←
    addressBech32 uplc blake2b permissionedCandidatesValidator network
  let reserveAddress ← addressBech32 uplc blake2b reserveValidator network
  let versionOracleAddress ← addressBech32 uplc blake2b versionOracleValidator network
  .ok
    { addresses :=
        { committeeCandidateValidator := committeeCandidateAddress
          dParameterValidator := dParameterAddress
          illiquidCirculationSupplyValidator := illiquidCirculationSupplyAddress
          permissionedCandidatesValidator := permissionedCandidatesAddress
          reserveValidator := reserveAddress
          versionOracleValidator := versionOracleAddress }
      validatorHashes :=
        { committeeCandidateValidator := committeeCandidateValidator.scriptHash blake2b
          dParameterValidator := dParameterValidator.scriptHash blake2b
          illiquidCirculationSupplyValidator :=
            illiquidCirculationSupplyValidator.scriptHash blake2b
          permissionedCandidatesValidator := permissionedCandidatesValidator.scriptHash blake2b
          reserveValidator := reserveValidator.scriptHash blake2b
          versionOracleValidator := versionOracleValidator.scriptHash blake2b }
      policyIds :=
        { dParameter := dParameterPolicy.scriptHash blake2b
          permissionedCandidates := permissionedCandidatesPolicy.scriptHash blake2b
          reserveAuth := reserveAuthPolicy.scriptHash blake2b
          versionOracle := versionOraclePolicy
          governance := governancePolicy.scriptHash blake2b } }

end Report

/-! ## What a report says -/

/-- The report is about the scripts that the rest of the repository uses. -/
structure Derived (uplc : Uplc) (rawScripts : RawScripts) (blake2b : Bytes → ScriptHash)
    (genesisUtxo : UtxoId) (network : NetworkIdKind) (data : ScriptsData) : Prop where
  versionOracle : ∃ validator, versionOracle uplc rawScripts blake2b genesisUtxo network =
      .ok (validator, data.policyIds.versionOracle, .bytes data.policyIds.versionOracle.bytes) ∧
    validator.scriptHash blake2b = data.validatorHashes.versionOracleValidator
  dParameter : ∃ validator policy,
    dParameterScripts uplc rawScripts blake2b genesisUtxo network = .ok (validator, policy) ∧
      validator.scriptHash blake2b = data.validatorHashes.dParameterValidator ∧
      policy.scriptHash blake2b = data.policyIds.dParameter
  permissionedCandidates : ∃ validator policy,
    permissionedCandidatesScripts uplc rawScripts blake2b genesisUtxo network =
        .ok (validator, policy) ∧
      validator.scriptHash blake2b = data.validatorHashes.permissionedCandidatesValidator ∧
      policy.scriptHash blake2b = data.policyIds.permissionedCandidates
  governance : ∃ policy,
    multiSigPolicy uplc rawScripts (fromVkey blake2b (FixedBytes.replicate 32 0)) = .ok policy ∧
      policy.scriptHash blake2b = data.policyIds.governance

private theorem versionOracle_eq_ok {uplc : Uplc} {rawScripts : RawScripts}
    {blake2b : Bytes → ScriptHash} {genesisUtxo : UtxoId} {network : NetworkIdKind}
    {validator : PlutusScript} {policy : ScriptHash} {data : PlutusData}
    (h : versionOracle uplc rawScripts blake2b genesisUtxo network =
      .ok (validator, policy, data)) : data = .bytes policy.bytes := by
  unfold versionOracle at h
  obtain ⟨_, -, h⟩ := bind_eq_ok.mp h
  obtain ⟨_, -, h⟩ := bind_eq_ok.mp h
  obtain ⟨_, -, h⟩ := bind_eq_ok.mp h
  obtain ⟨_, -, h⟩ := bind_eq_ok.mp h
  obtain ⟨_, -, h⟩ := bind_eq_ok.mp h
  obtain ⟨_, -, h⟩ := bind_eq_ok.mp h
  cases h
  rfl

/-- Every script is derived from the genesis UTXO. -/
theorem derived_of_getScriptsData {uplc : Uplc} {rawScripts : RawScripts}
    {blake2b : Bytes → ScriptHash} {genesisUtxo : UtxoId} {network : NetworkIdKind}
    {data : ScriptsData}
    (h : getScriptsData uplc rawScripts blake2b genesisUtxo network = .ok data) :
    Derived uplc rawScripts blake2b genesisUtxo network data := by
  unfold getScriptsData at h
  obtain ⟨⟨versionOracleValidator, versionOraclePolicy, versionOracleData⟩, hversion, h⟩ :=
    bind_eq_ok.mp h
  obtain ⟨_, -, h⟩ := bind_eq_ok.mp h
  obtain ⟨_, -, h⟩ := bind_eq_ok.mp h
  obtain ⟨⟨dParameterValidator, dParameterPolicy⟩, hdParameter, h⟩ := bind_eq_ok.mp h
  obtain ⟨_, -, h⟩ := bind_eq_ok.mp h
  obtain ⟨_, -, h⟩ := bind_eq_ok.mp h
  obtain ⟨⟨permissionedValidator, permissionedPolicy⟩, hpermissioned, h⟩ := bind_eq_ok.mp h
  obtain ⟨_, -, h⟩ := bind_eq_ok.mp h
  obtain ⟨_, -, h⟩ := bind_eq_ok.mp h
  obtain ⟨governancePolicy, hgovernance, h⟩ := bind_eq_ok.mp h
  obtain ⟨_, -, h⟩ := bind_eq_ok.mp h
  obtain ⟨_, -, h⟩ := bind_eq_ok.mp h
  obtain ⟨_, -, h⟩ := bind_eq_ok.mp h
  obtain ⟨_, -, h⟩ := bind_eq_ok.mp h
  obtain ⟨_, -, h⟩ := bind_eq_ok.mp h
  obtain ⟨_, -, h⟩ := bind_eq_ok.mp h
  obtain ⟨_, -, h⟩ := bind_eq_ok.mp h
  obtain ⟨_, -, h⟩ := bind_eq_ok.mp h
  obtain rfl := Except.ok.inj h
  obtain rfl := versionOracle_eq_ok hversion
  exact ⟨⟨_, hversion, rfl⟩, ⟨_, _, hdParameter, rfl, rfl⟩, ⟨_, _, hpermissioned, rfl, rfl⟩,
    ⟨_, hgovernance, rfl⟩⟩

end PartnerChains.Ports.ScriptDerivation
