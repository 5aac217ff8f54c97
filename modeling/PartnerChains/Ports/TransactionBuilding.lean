import Mathlib.Data.List.AList
import PartnerChains.Ports.MainchainDatums
import PartnerChains.Verified.Fallible
import PartnerChains.Verified.StableSort

/-!
# Building transactions

The port of `csl.rs`: values, outputs, mints and script inputs are put into the
transaction builder of the serialization library, which then selects inputs of
the payment key, adds change and builds the transaction.  The collateral starts
with the largest output of the payment key and grows until the library
succeeds.

`Csl` stands for the library.  `Csl.Exact` says that a transaction has what the
builder was given, and besides that inputs of the payment key and change only.
`balanceUpdateAndBuild_eq_ok` carries this over to what is built here.
-/

namespace PartnerChains.Ports.TransactionBuilding

open PartnerChains.Ports.Domain
open PartnerChains.Ports.MainchainDatums
open PartnerChains.Verified.Fallible
open PartnerChains.Verified.StableSort

/-! ## Scripts and addresses -/

/-- The hash of a script, which is also the policy of its tokens. -/
abbrev ScriptHash := FixedBytes 28

/-- The hash of a payment key. -/
abbrev Ed25519KeyHash := FixedBytes 28

/-- The error type of the Cardano serialization library. -/
abbrev JsError := String

/-- The version of Plutus a script is written in. -/
inductive LanguageKind where
  | plutusV1
  | plutusV2
  | plutusV3
deriving DecidableEq

/-- `NetworkIdKind` of the library. -/
inductive NetworkIdKind where
  | mainnet
  | testnet
deriving DecidableEq

/-- The bytes of a script and the language they are in. -/
structure PlutusScript where
  bytes : Bytes
  language : LanguageKind
deriving DecidableEq

/-- Who controls an address. -/
inductive Credential where
  | keyhash (hash : Ed25519KeyHash)
  | scripthash (hash : ScriptHash)
deriving DecidableEq

/-- An address; an `EnterpriseAddress` has no delegation part. -/
structure Address where
  network : UInt8
  payment : Credential
  delegation : Option Bytes
deriving DecidableEq

def networkIdKindToU8 : NetworkIdKind → UInt8
  | .mainnet => 1
  | .testnet => 0

/-- The byte that is hashed in front of a script. -/
def languageKindToU8 : LanguageKind → UInt8
  | .plutusV1 => 1
  | .plutusV2 => 2
  | .plutusV3 => 3

/-- `key_hash_address`: an address without a stake part. -/
def keyHashAddress (pubKeyHash : Ed25519KeyHash) (network : NetworkIdKind) : Address :=
  ⟨networkIdKindToU8 network, .keyhash pubKeyHash, none⟩

section Script

variable (blake2b : Bytes → ScriptHash)

/-- `plutus_script_hash`: the bytes are preceded by one for the language. -/
def PlutusScript.scriptHash (script : PlutusScript) : ScriptHash :=
  blake2b (languageKindToU8 script.language :: script.bytes)

/-- `address` of `PlutusScript`. -/
def PlutusScript.address (script : PlutusScript) (network : NetworkIdKind) : Address :=
  ⟨networkIdKindToU8 network, .scripthash (script.scriptHash blake2b), none⟩

end Script

/-! ## Values -/

/-- An amount of one token, as Ogmios reports it. -/
structure Asset where
  name : Bytes
  amount : Int
deriving DecidableEq

/-- Ada and tokens by policy, as Ogmios reports them. -/
structure OgmiosValue where
  lovelace : Nat
  nativeTokens : List (ScriptHash × List Asset)
deriving DecidableEq

/-- `AssetName` of the library. -/
abbrev AssetName := Bytes

/-- The amounts of the tokens of one policy. -/
abbrev Assets := AList fun _ : AssetName => Nat

/-- The tokens of a value by policy. -/
abbrev MultiAsset := AList fun _ : ScriptHash => Assets

/-- `Value` of the library. -/
structure Value where
  coin : Nat
  multiasset : Option MultiAsset

def emptyAssetName : AssetName := []

/-- The inner loop of `convert_value`. -/
def convertAssets (newAssetName : Bytes → Except JsError AssetName) (assets : List Asset) :
    Except JsError Assets :=
  assets.foldlM (fun cslAssets asset => do
    let amount ←
      if 0 ≤ asset.amount ∧ asset.amount < 2 ^ 64 then .ok asset.amount.toNat
      else .error ("Could not convert Ogmios UTOX value, asset amount " ++
        toString asset.amount ++ " too large")
    let assetName ← (newAssetName asset.name).mapError fun e =>
      "Could not convert Ogmios UTXO value, asset name is invalid: '" ++ e ++ "'"
    .ok (cslAssets.insert assetName amount)) ∅

/-- `convert_value`: without tokens there is no multi-asset part at all. -/
def convertValue (newAssetName : Bytes → Except JsError AssetName) (value : OgmiosValue) :
    Except JsError Value :=
  if value.nativeTokens ≠ [] then do
    let multiasset ← value.nativeTokens.foldlM (fun multiasset (policyId, assets) => do
      let cslAssets ← convertAssets newAssetName assets
      .ok (multiasset.insert policyId cslAssets)) (∅ : MultiAsset)
    .ok ⟨value.lovelace, some multiasset⟩
  else .ok ⟨value.lovelace, none⟩

/-! ## Transactions -/

/-- The memory and steps a script may use. -/
structure ExUnits where
  mem : Nat
  steps : Nat
deriving DecidableEq

/-- `Redeemer` of the library, without its purpose and index. -/
structure Redeemer where
  data : PlutusData
  exUnits : ExUnits

/-- A script with its redeemer. -/
structure PlutusWitness where
  script : PlutusScript
  redeemer : Redeemer

/-- What a script of the transaction is run for; a redeemer points to it. -/
inductive ScriptPurpose where
  | spend (input : UtxoId)
  | mint (policy : ScriptHash)
deriving DecidableEq

/-- `TransactionOutput` of the library. -/
structure TransactionOutput where
  address : Address
  amount : Value
  plutusData : Option PlutusData

/-- `TransactionUnspentOutput` of the library. -/
structure TransactionUnspentOutput where
  input : UtxoId
  output : TransactionOutput

/-- The parts of a body that the transactions here set. -/
structure TransactionBody where
  inputs : List UtxoId
  outputs : List TransactionOutput
  mint : List (ScriptHash × AssetName × Int)
  requiredSigners : List Ed25519KeyHash
  collateral : List UtxoId

/-- A transaction, with the witnesses the ledger looks for. -/
structure Transaction where
  body : TransactionBody
  scriptWitnesses : List (ScriptPurpose × PlutusWitness)
  vkeys : List Ed25519KeyHash

/-! ## The builder -/

/-- An input of the builder; inputs of keys have no Plutus witness. -/
structure TxInput where
  input : UtxoId
  amount : Value
  witness : Option PlutusWitness

/-- A token to be minted. -/
structure Mint where
  witness : PlutusWitness
  assetName : AssetName
  amount : Int

/-- The parameters of the protocol that are read here; the library gets the
others for the fees as well. -/
structure ProtocolParameters where
  stakePoolDeposit : OgmiosValue
  stakeCredentialDeposit : OgmiosValue
  minUtxoDepositCoefficient : Nat
  plutusCostModels : List (LanguageKind × List Int)
  maxCollateralInputs : Nat
  collateralPercentage : Nat

/-- `TransactionBuilderConfig` of the library. -/
structure TransactionBuilderConfig where
  poolDeposit : Nat
  keyDeposit : Nat
  protocolParameters : ProtocolParameters

/-- The state of the library's `TransactionBuilder`. -/
structure TransactionBuilder where
  config : TransactionBuilderConfig
  inputs : List TxInput
  mint : List Mint
  outputs : List TransactionOutput
  requiredSigners : List Ed25519KeyHash
  collateral : List TxInput
  scriptDataHash : Option (FixedBytes 32)

/-- A builder to which nothing was added. -/
def TransactionBuilder.new (config : TransactionBuilderConfig) : TransactionBuilder :=
  ⟨config, [], [], [], [], [], none⟩

/-- The functions of the serialization library.  Serialized datums are passed
on only. -/
structure Csl (CborBytes : Type) where
  blake2b : Bytes → ScriptHash
  newAssetName : Bytes → Except JsError AssetName
  plutusDataFromBytes : CborBytes → Except JsError PlutusData
  plutusDataToBytes : PlutusData → CborBytes
  /-- The `Debug` form. -/
  plutusDataDebug : PlutusData → String
  /-- The key hash of `PrivateKey::from_normal_bytes`. -/
  privateKeyHash : FixedBytes 32 → Except JsError Ed25519KeyHash
  buildConfig : TransactionBuilderConfig → Except JsError TransactionBuilderConfig
  calculateAda : TransactionOutput → Nat → Except JsError Nat
  addAsset : List Mint → Mint → Except JsError (List Mint)
  addOutput : TransactionBuilder → TransactionOutput → Except JsError TransactionBuilder
  addInputsFromAndChange : TransactionBuilder → List TransactionUnspentOutput → Address →
    Except JsError TransactionBuilder
  addInputsFromAndChangeWithCollateralReturn : TransactionBuilder →
    List TransactionUnspentOutput → Address → Nat → Except JsError TransactionBuilder
  calcScriptDataHash : TransactionBuilder → List (LanguageKind × List Int) →
    Except JsError TransactionBuilder
  buildTx : TransactionBuilder → Except JsError Transaction
  /-- The transaction id. -/
  hash : TransactionBody → McTxHash
  /-- The bytes of a transaction in hex. -/
  toHex : Transaction → String

/-- An unspent output as Ogmios reports it. -/
structure OgmiosUtxo (CborBytes : Type) where
  utxoId : UtxoId
  address : Address
  value : OgmiosValue
  datum : Option CborBytes

/-- What a transaction needs to know of the one who pays and of the network. -/
structure TransactionContext (CborBytes : Type) where
  paymentKeyHash : Ed25519KeyHash
  paymentKeyUtxos : List (OgmiosUtxo CborBytes)
  network : NetworkIdKind
  protocolParameters : ProtocolParameters

variable {CborBytes : Type}

/-- The change goes to this address. -/
def TransactionContext.paymentAddress (ctx : TransactionContext CborBytes) : Address :=
  keyHashAddress ctx.paymentKeyHash ctx.network

/-- Adds the signature of the payment key. -/
def TransactionContext.sign (ctx : TransactionContext CborBytes) (tx : Transaction) : Transaction :=
  { tx with vkeys := tx.vkeys ++ [ctx.paymentKeyHash] }

section Build

variable (csl : Csl CborBytes)

/-- `to_csl` of an output; its datum is not carried over. -/
def OgmiosUtxo.toCsl (utxo : OgmiosUtxo CborBytes) : Except JsError TransactionUnspentOutput := do
  let amount ← convertValue csl.newAssetName utxo.value
  .ok ⟨utxo.utxoId, ⟨utxo.address, amount, none⟩⟩

/-- `to_csl` of all outputs. -/
def toCslUtxos (utxos : List (OgmiosUtxo CborBytes)) :
    Except JsError (List TransactionUnspentOutput) :=
  utxos.mapM fun utxo => utxo.toCsl csl

/-- `get_builder_config`: the deposits are converted as values. -/
def getBuilderConfig (ctx : TransactionContext CborBytes) :
    Except JsError TransactionBuilderConfig := do
  let protocolParameters := ctx.protocolParameters
  let poolDeposit ← convertValue csl.newAssetName protocolParameters.stakePoolDeposit
  let keyDeposit ← convertValue csl.newAssetName protocolParameters.stakeCredentialDeposit
  csl.buildConfig ⟨poolDeposit.coin, keyDeposit.coin, protocolParameters⟩

/-- The redeemer has an empty constructor as its data. -/
def emptyRedeemer (exUnits : ExUnits) : Redeemer := ⟨.newEmptyConstr, exUnits⟩

/-- One token of the policy, with the empty name. -/
def oneToken (policy : PlutusScript) : MultiAsset :=
  (∅ : MultiAsset).insert (policy.scriptHash csl.blake2b) ((∅ : Assets).insert emptyAssetName 1)

/-- `add_output_with_one_script_token`: an output with one token and the least
ada. -/
def addOutputWithOneScriptToken (builder : TransactionBuilder) (validator policy : PlutusScript)
    (datum : PlutusData) (ctx : TransactionContext CborBytes) :
    Except JsError TransactionBuilder := do
  let withCoin (coin : Nat) : TransactionOutput :=
    ⟨validator.address csl.blake2b ctx.network, ⟨coin, some (oneToken csl policy)⟩, some datum⟩
  let minAda ← csl.calculateAda (withCoin 0) ctx.protocolParameters.minUtxoDepositCoefficient
  csl.addOutput builder (withCoin minAda)

/-- `add_collateral_inputs`: the collateral is replaced, not added to. -/
def addCollateralInputs (builder : TransactionBuilder) (inputs : List (OgmiosUtxo CborBytes)) :
    Except JsError TransactionBuilder := do
  let collateral ← inputs.mapM fun utxo => do
    let amount ← convertValue csl.newAssetName utxo.value
    .ok (⟨utxo.utxoId, amount, none⟩ : TxInput)
  .ok { builder with collateral := collateral }

/-- `add_mint_one_script_token`: one token of the policy, with an empty redeemer. -/
def addMintOneScriptToken (builder : TransactionBuilder) (script : PlutusScript)
    (exUnits : ExUnits) : Except JsError TransactionBuilder := do
  let mint ← csl.addAsset [] ⟨⟨script, emptyRedeemer exUnits⟩, emptyAssetName, 1⟩
  .ok { builder with mint := mint }

/-- `add_script_utxo_input`: an output of the script, with an empty redeemer. -/
def addScriptUtxoInput (inputs : List TxInput) (utxo : OgmiosUtxo CborBytes) (script : PlutusScript)
    (exUnits : ExUnits) : Except JsError (List TxInput) := do
  let amount ← convertValue csl.newAssetName utxo.value
  .ok (inputs ++ [⟨utxo.utxoId, amount, some ⟨script, emptyRedeemer exUnits⟩⟩])

/-- The largest outputs of the payment key, as many as the protocol allows. -/
def maxPossibleCollaterals (ctx : TransactionContext CborBytes) : List (OgmiosUtxo CborBytes) :=
  (sortByKey (fun utxo => OrderDual.toDual utxo.value.lovelace) ctx.paymentKeyUtxos).take
    ctx.protocolParameters.maxCollateralInputs

/-- `try_balance`: with collateral the fee is computed with a fake script data
hash, which is then replaced. -/
def tryBalance (builder : TransactionBuilder) (collateralInputs : List (OgmiosUtxo CborBytes))
    (ctx : TransactionContext CborBytes) : Except JsError Transaction := do
  let builder := { builder with requiredSigners := builder.requiredSigners ++ [ctx.paymentKeyHash] }
  if collateralInputs = [] then do
    let utxos ← toCslUtxos csl ctx.paymentKeyUtxos
    let builder ← csl.addInputsFromAndChange builder utxos ctx.paymentAddress
    csl.buildTx builder
  else do
    let builder ← addCollateralInputs csl builder collateralInputs
    -- a fake hash, for the computation of the fee
    let builder := { builder with scriptDataHash := some (FixedBytes.replicate 32 0) }
    let utxos ← toCslUtxos csl ctx.paymentKeyUtxos
    let builder ← csl.addInputsFromAndChangeWithCollateralReturn builder utxos ctx.paymentAddress
      ctx.protocolParameters.collateralPercentage
    let builder ← csl.calcScriptDataHash builder ctx.protocolParameters.plutusCostModels
    csl.buildTx builder

/-- The loop of `balance_update_and_build` over the collateral to add. -/
def balanceWith (builder : TransactionBuilder) (ctx : TransactionContext CborBytes) :
    List (OgmiosUtxo CborBytes) → List (OgmiosUtxo CborBytes) → Except JsError Transaction
  | [], selected => (tryBalance csl builder selected ctx).mapError fun e =>
      "Could not balance transaction. Usually it means that the payment key does not own UTXO " ++
        "set required to cover transaction outputs and fees or to provide collateral. Cause: " ++ e
  | input :: rest, selected =>
      match tryBalance csl builder selected ctx with
      | .ok tx => .ok tx
      | .error _ => balanceWith builder ctx rest (selected ++ [input])

/-- `balance_update_and_build`: starts with every possible collateral. -/
def balanceUpdateAndBuild (builder : TransactionBuilder) (ctx : TransactionContext CborBytes) :
    Except JsError Transaction :=
  balanceWith csl builder ctx (maxPossibleCollaterals ctx) []

/-! ## What is built -/

/-- The builder after the selection of inputs and change. -/
structure Balanced (utxos : List (OgmiosUtxo CborBytes)) (change : Address)
    (builder builder' : TransactionBuilder) : Prop where
  inputs : ∃ added, builder'.inputs = builder.inputs ++ added ∧
    ∀ i ∈ added, i.witness = none ∧ ∃ u ∈ utxos, u.utxoId = i.input
  mint : builder'.mint = builder.mint
  outputs : ∃ added, builder'.outputs = builder.outputs ++ added ∧
    ∀ o ∈ added, o.address = change

/-- The witnesses of the spent and minted scripts. -/
def TransactionBuilder.scriptWitnesses (builder : TransactionBuilder) :
    List (ScriptPurpose × PlutusWitness) :=
  (builder.inputs.filterMap fun i => i.witness.map fun w => (.spend i.input, w)) ++
    builder.mint.map fun m => (.mint (m.witness.script.scriptHash csl.blake2b), m.witness)

/-- The transaction has what is in the builder. -/
structure Contains (builder : TransactionBuilder) (tx : Transaction) : Prop where
  inputs : ∀ i, i ∈ tx.body.inputs ↔ i ∈ builder.inputs.map TxInput.input
  mint : tx.body.mint = builder.mint.map fun m =>
    (m.witness.script.scriptHash csl.blake2b, m.assetName, m.amount)
  outputs : tx.body.outputs = builder.outputs
  scriptWitnesses : ∀ w, w ∈ tx.scriptWitnesses ↔ w ∈ builder.scriptWitnesses csl

/-- The library puts into the transaction what it is given, and besides that
inputs of the payment key and change only; its data can be read back. -/
structure Csl.Exact : Prop where
  addAsset : ∀ {mints mints' mint}, csl.addAsset mints mint = .ok mints' → mints' = mints ++ [mint]
  addOutput : ∀ {builder builder' output}, csl.addOutput builder output = .ok builder' →
    builder' = { builder with outputs := builder.outputs ++ [output] }
  addInputsFromAndChange : ∀ {builder builder' utxos unspent change},
    toCslUtxos csl utxos = .ok unspent →
    csl.addInputsFromAndChange builder unspent change = .ok builder' →
    Balanced utxos change builder builder'
  addInputsFromAndChangeWithCollateralReturn :
    ∀ {builder builder' utxos unspent change percentage},
    toCslUtxos csl utxos = .ok unspent →
    csl.addInputsFromAndChangeWithCollateralReturn builder unspent change percentage =
      .ok builder' →
    Balanced utxos change builder builder'
  calcScriptDataHash : ∀ {builder builder' costModels},
    csl.calcScriptDataHash builder costModels = .ok builder' →
    ∃ hash, builder' = { builder with scriptDataHash := hash }
  buildTx : ∀ {builder tx}, csl.buildTx builder = .ok tx → Contains csl builder tx
  plutusDataFromBytes : ∀ data, csl.plutusDataFromBytes (csl.plutusDataToBytes data) = .ok data

variable {csl}

/-- The conversion keeps the outputs and their order. -/
theorem toCslUtxos_eq_ok {utxos : List (OgmiosUtxo CborBytes)}
    {unspent : List TransactionUnspentOutput} (h : toCslUtxos csl utxos = .ok unspent) :
    unspent.map TransactionUnspentOutput.input = utxos.map OgmiosUtxo.utxoId := by
  induction utxos generalizing unspent with
  | nil =>
      obtain rfl := Except.ok.inj h
      rfl
  | cons utxo rest ih =>
      rw [toCslUtxos, List.mapM_cons] at h
      obtain ⟨first, hfirst, h⟩ := bind_eq_ok.mp h
      obtain ⟨others, hothers, h⟩ := bind_eq_ok.mp h
      obtain rfl := Except.ok.inj h
      obtain ⟨amount, -, hfirst⟩ := bind_eq_ok.mp hfirst
      obtain rfl := Except.ok.inj hfirst
      rw [List.map_cons, List.map_cons, ih hothers]

/-- Inputs of keys and change need no scripts. -/
theorem Balanced.scriptWitnesses {utxos : List (OgmiosUtxo CborBytes)} {change : Address}
    {builder builder' : TransactionBuilder} (h : Balanced utxos change builder builder') :
    builder'.scriptWitnesses csl = builder.scriptWitnesses csl := by
  obtain ⟨added, hinputs, hadded⟩ := h.inputs
  have hnone : added.filterMap (fun i => i.witness.map fun w => (ScriptPurpose.spend i.input, w)) =
      [] := by
    refine List.filterMap_eq_nil_iff.mpr fun i hi => ?_
    rw [(hadded i hi).1]
    rfl
  rw [TransactionBuilder.scriptWitnesses, TransactionBuilder.scriptWitnesses, hinputs, h.mint,
    List.filterMap_append, hnone, List.append_nil]

private theorem tryBalance_eq_ok (hexact : csl.Exact) {builder : TransactionBuilder}
    {collateralInputs : List (OgmiosUtxo CborBytes)} {ctx : TransactionContext CborBytes}
    {tx : Transaction}
    (h : tryBalance csl builder collateralInputs ctx = .ok tx) :
    ∃ builder', Balanced ctx.paymentKeyUtxos ctx.paymentAddress builder builder' ∧
      Contains csl builder' tx := by
  unfold tryBalance at h
  split at h
  · obtain ⟨unspent, hunspent, h⟩ := bind_eq_ok.mp h
    obtain ⟨balanced, hbalanced, h⟩ := bind_eq_ok.mp h
    obtain ⟨hinputs, hmint, houtputs⟩ := hexact.addInputsFromAndChange hunspent hbalanced
    exact ⟨balanced, ⟨hinputs, hmint, houtputs⟩, hexact.buildTx h⟩
  · obtain ⟨collateralized, hcollateral, h⟩ := bind_eq_ok.mp h
    obtain ⟨unspent, hunspent, h⟩ := bind_eq_ok.mp h
    obtain ⟨balanced, hbalanced, h⟩ := bind_eq_ok.mp h
    obtain ⟨hashed, hhashed, h⟩ := bind_eq_ok.mp h
    obtain ⟨collateral, -, hcollateral⟩ := bind_eq_ok.mp hcollateral
    obtain rfl := Except.ok.inj hcollateral
    obtain ⟨hinputs, hmint, houtputs⟩ :=
      hexact.addInputsFromAndChangeWithCollateralReturn hunspent hbalanced
    obtain ⟨hash, rfl⟩ := hexact.calcScriptDataHash hhashed
    exact ⟨{ balanced with scriptDataHash := hash }, ⟨hinputs, hmint, houtputs⟩,
      hexact.buildTx h⟩

/-- Whatever the collateral is, the transaction has what was put into the
builder, inputs of the payment key and change. -/
theorem balanceWith_eq_ok (hexact : csl.Exact) {builder : TransactionBuilder}
    {ctx : TransactionContext CborBytes} {remaining selected : List (OgmiosUtxo CborBytes)}
    {tx : Transaction}
    (h : balanceWith csl builder ctx remaining selected = .ok tx) :
    ∃ builder', Balanced ctx.paymentKeyUtxos ctx.paymentAddress builder builder' ∧
      Contains csl builder' tx := by
  induction remaining generalizing selected with
  | nil => exact tryBalance_eq_ok hexact (mapError_eq_ok.mp h)
  | cons input rest ih =>
      rw [balanceWith] at h
      split at h
      next htry =>
        obtain rfl := Except.ok.inj h
        exact tryBalance_eq_ok hexact htry
      next => exact ih h

/-- Balancing only adds inputs, collateral and change. -/
theorem balanceUpdateAndBuild_eq_ok (hexact : csl.Exact) {builder : TransactionBuilder}
    {ctx : TransactionContext CborBytes} {tx : Transaction}
    (h : balanceUpdateAndBuild csl builder ctx = .ok tx) :
    ∃ builder', Balanced ctx.paymentKeyUtxos ctx.paymentAddress builder builder' ∧
      Contains csl builder' tx :=
  balanceWith_eq_ok hexact h

end Build

end PartnerChains.Ports.TransactionBuilding
