import PartnerChains.Ports.ScriptDerivation
import PartnerChains.Ports.UpsertConvergence
import PartnerChains.Ports.UtxoText

/-!
# Initializing the governance

The port of `init_governance`.  A transaction spends the genesis UTXO, mints the
token of the version oracle and pays it to the validator of the version oracle,
with a datum that names the policy and with the multisig policy of the
governance as reference script.

The scripts are derived here a second time, apart from `scripts_data.rs`.
`runInitGovernance_initializes` says that both derivations meet: the token and
the address of the transaction are those that are reported for the genesis UTXO.
Since the genesis UTXO is spent, the governance of a partner chain is initialized
at most once, whatever happens on the ledger later and whoever tries it again
(`initialized_once`).
-/

namespace PartnerChains.Ports.InitGovernance

open PartnerChains.Ports.Domain
open PartnerChains.Ports.PlutusDatum
open PartnerChains.Ports.MainchainDatums
open PartnerChains.Ports.TransactionBuilding
open PartnerChains.Ports.ScriptDerivation
open PartnerChains.Ports.Upsert
open PartnerChains.Ports.UpsertConvergence
open PartnerChains.Verified.Fallible

/-! ## The datum -/

/-- `version_oracle` is a `u32`. -/
structure VersionOracleDatum where
  versionOracle : UInt32
  currencySymbol : FixedBytes 28
deriving DecidableEq

/-- `From<VersionOracleDatum> for PlutusData`. -/
def VersionOracleDatum.toPlutusData (datum : VersionOracleDatum) : PlutusData :=
  .list [.integer datum.versionOracle.toNat, .bytes datum.currencySymbol.bytes]

/-- `TryFrom<PlutusData> for VersionOracleDatum`. -/
def VersionOracleDatum.tryFrom (datum : PlutusData) :
    Except DataDecodingError VersionOracleDatum :=
  let decoded : Option VersionOracleDatum :=
    match datum.asList with
    | some [versionOracle, currencySymbol] => do
        let versionOracle ← versionOracle.asU32
        let bytes ← currencySymbol.asBytes
        let currencySymbol ← FixedBytes.tryFrom 28 bytes
        some ⟨UInt32.ofNat versionOracle, currencySymbol⟩
    | _ => none
  match decoded with
  | some decoded => .ok decoded
  | none => .error ⟨datum, "VersionOracleDatum", "Expected [u32, [u8;32]]"⟩

private theorem VersionOracleDatum.tryFrom_toPlutusData (datum : VersionOracleDatum) :
    VersionOracleDatum.tryFrom datum.toPlutusData = .ok datum := by
  have hversion : (PlutusData.integer datum.versionOracle.toNat).asU32 =
      some datum.versionOracle.toNat := if_pos datum.versionOracle.toNat_lt
  simp only [tryFrom, toPlutusData, PlutusData.asList, hversion, PlutusData.asBytes,
    FixedBytes.tryFrom_bytes, UInt32.ofNat_toNat, Option.bind_eq_bind, Option.bind_some]

/-! ## The transaction -/

variable {CborBytes : Type}

/-- The library with outputs that have a reference script. -/
structure GovernanceCsl (CborBytes : Type) extends Csl CborBytes where
  calculateAdaWithScriptRef : TransactionOutput → PlutusScript → Nat → Except JsError Nat
  addOutputWithScriptRef : TransactionBuilder → TransactionOutput → PlutusScript →
    Except JsError TransactionBuilder

/-- The id of the governance script in the script cache. -/
def scriptId : UInt32 := 32

/-- The bytes of `Version oracle`. -/
def versionOracleAssetName : TransactionBuilding.AssetName :=
  [86, 101, 114, 115, 105, 111, 110, 32, 111, 114, 97, 99, 108, 101]

section Transaction

variable (uplc : Uplc) (rawScripts : RawScripts) (csl : GovernanceCsl CborBytes)

/-- `genesis_utxo.to_uplc_plutus_data()`. -/
def toUplcPlutusData (utxo : OgmiosUtxo CborBytes) : Except String PlutusData :=
  datumToUplcPlutusData uplc (utxoIdToDatum utxo.utxoId)

/-- `mint_witness`: the redeemer names the script identifier and the hash of the
policy. -/
def mintWitness (versionOraclePolicy multiSigPolicy : PlutusScript) (exUnits : ExUnits) :
    PlutusWitness where
  script := versionOraclePolicy
  redeemer :=
    { data := .constr 0
        [.integer scriptId.toNat, .bytes (multiSigPolicy.scriptHash csl.blake2b).bytes]
      exUnits := exUnits }

/-- One token of the version oracle. -/
def versionOracleToken (policyId : ScriptHash) : MultiAsset :=
  (∅ : MultiAsset).insert policyId ((∅ : Assets).insert versionOracleAssetName 1)

/-- `version_oracle_datum_output`: the least ada is computed with the script
reference. -/
def versionOracleDatumOutput (versionOracleValidator versionOraclePolicy multiSigPolicy :
    PlutusScript) (ctx : TransactionContext CborBytes) : Except JsError TransactionOutput := do
  let policyId := versionOraclePolicy.scriptHash csl.blake2b
  let datum := (VersionOracleDatum.mk scriptId policyId).toPlutusData
  let withCoin (coin : Nat) : TransactionOutput :=
    ⟨versionOracleValidator.address csl.blake2b ctx.network,
      ⟨coin, some (versionOracleToken policyId)⟩, some datum⟩
  let minAda ← csl.calculateAdaWithScriptRef (withCoin 0) multiSigPolicy
    ctx.protocolParameters.minUtxoDepositCoefficient
  .ok (withCoin minAda)

/-- `TxInputsBuilder::with_key_inputs`. -/
def withKeyInputs (utxos : List (OgmiosUtxo CborBytes)) : Except JsError (List TxInput) :=
  utxos.mapM fun utxo => do
    let amount ← convertValue csl.newAssetName utxo.value
    .ok ⟨utxo.utxoId, amount, none⟩

/-- `init_governance_transaction`: it spends the genesis UTXO, mints the version
oracle token and stores the governance script. -/
def initGovernanceTransaction (governanceAuthority : FixedBytes 28)
    (ctx : TransactionContext CborBytes) (genesisUtxo : OgmiosUtxo CborBytes)
    (exUnits : ExUnits) : Except String Transaction := do
  let multiSigPolicy ← multiSigPolicy uplc rawScripts governanceAuthority
  let versionOracleValidator ← fromWrappedCbor uplc rawScripts.versionOracleValidator .plutusV2
  let genesisData ← toUplcPlutusData uplc genesisUtxo
  let versionOracleValidator ← applyUplcData uplc versionOracleValidator genesisData
  let versionOraclePolicy ← fromWrappedCbor uplc rawScripts.versionOraclePolicy .plutusV2
  let genesisData ← toUplcPlutusData uplc genesisUtxo
  let versionOraclePolicy ← applyUplcData uplc versionOraclePolicy genesisData
  let address ← addressData uplc csl.blake2b versionOracleValidator ctx.network
  let versionOraclePolicy ← applyUplcData uplc versionOraclePolicy address
  let config ← getBuilderConfig csl.toCsl ctx
  let mint ← csl.addAsset []
    ⟨mintWitness csl versionOraclePolicy multiSigPolicy exUnits, versionOracleAssetName, 1⟩
  let output ← versionOracleDatumOutput csl versionOracleValidator versionOraclePolicy
    multiSigPolicy ctx
  let builder ← csl.addOutputWithScriptRef { TransactionBuilder.new config with mint := mint }
    output multiSigPolicy
  let inputs ← withKeyInputs csl [genesisUtxo]
  balanceUpdateAndBuild csl.toCsl { builder with inputs := inputs } ctx

/-! ## The command -/

variable (client : OgmiosClient CborBytes)

/-- The genesis UTXO is the one that is asked for, or the first one. -/
def selectGenesisUtxo (ownUtxos : List (OgmiosUtxo CborBytes)) :
    Option UtxoId → Except String (OgmiosUtxo CborBytes)
  | none => okOr ownUtxos.head? "No UTXOs to choose from"
  | some utxoId => okOr (ownUtxos.find? fun utxo => utxo.utxoId = utxoId)
      ("Could not find genesis UTXO: " ++ UtxoText.utxoIdToString utxoId)

/-- The part of `run_init_governance` that reads the chain before the transaction
is built. -/
def initGovernanceContext (paymentKey : FixedBytes 32) (genesisUtxoId : Option UtxoId) :
    Except String (TransactionContext CborBytes × OgmiosUtxo CborBytes) := do
  let paymentKeyHash ← csl.privateKeyHash paymentKey
  let network ← client.network
  let ownUtxos ← client.queryUtxos (keyHashAddress paymentKeyHash network)
  let protocolParameters ← client.protocolParameters
  let genesisUtxo ← selectGenesisUtxo ownUtxos genesisUtxoId
  .ok (⟨paymentKeyHash, ownUtxos, network, protocolParameters⟩, genesisUtxo)

/-- The requests with transactions, and the result. -/
def runInitGovernance (governanceAuthority : FixedBytes 28) (paymentKey : FixedBytes 32)
    (genesisUtxoId : Option UtxoId) : List Request × Except String McTxHash :=
  match initGovernanceContext csl client paymentKey genesisUtxoId with
  | .error e => ([], .error e)
  | .ok (ctx, genesisUtxo) =>
      let build := initGovernanceTransaction uplc rawScripts csl governanceAuthority ctx genesisUtxo
      match build ⟨0, 0⟩ with
      | .error e => ([], .error e)
      | .ok tx =>
          match client.evaluateTransaction tx with
          | .error e => ([.evaluate tx], .error e)
          | .ok allCosts =>
              match (getFirstValidatorBudget allCosts).bind build with
              | .error e => ([.evaluate tx], .error e)
              | .ok budgeted =>
                  ([.evaluate tx, .submit (ctx.sign budgeted)],
                    client.submitTransaction (ctx.sign budgeted))

end Transaction

/-! ## What the transaction does -/

/-- The library keeps what it is given, also next to a reference script. -/
structure GovernanceCsl.Exact (csl : GovernanceCsl CborBytes) : Prop where
  exact_base : csl.toCsl.Exact
  addOutputWithScriptRef : ∀ {builder builder' output script},
    csl.addOutputWithScriptRef builder output script = .ok builder' →
    builder' = { builder with outputs := builder.outputs ++ [output] }

/-- The transaction spends the genesis UTXO for the token of the version oracle,
which is minted and paid to the validator.  The redeemer names the policy of
the authority; the governance policy of the report is always that of the
all-zero key. -/
structure Initializes (uplc : Uplc) (rawScripts : RawScripts) (csl : GovernanceCsl CborBytes)
    (network : NetworkIdKind) (governanceAuthority : FixedBytes 28)
    (ledger : List (OgmiosUtxo CborBytes)) (genesisUtxo : UtxoId) (data : ScriptsData)
    (tx : Transaction) : Prop where
  genesis : genesisUtxo ∈ tx.body.inputs
  mint : tx.body.mint = [(data.policyIds.versionOracle, versionOracleAssetName, 1)]
  output : ∃ output datum,
    (tx.body.outputs.filter fun o => o.address = ⟨networkIdKindToU8 network,
        .scripthash data.validatorHashes.versionOracleValidator, none⟩) = [output] ∧
      output.amount.multiasset = some (versionOracleToken data.policyIds.versionOracle) ∧
      output.plutusData = some datum ∧
      VersionOracleDatum.tryFrom datum = .ok ⟨scriptId, data.policyIds.versionOracle⟩
  witnessed : Witnessed csl.toCsl ledger tx
  governance : ∃ multiSig policy exUnits,
    multiSigPolicy uplc rawScripts governanceAuthority = .ok multiSig ∧
      (.mint data.policyIds.versionOracle, mintWitness csl policy multiSig exUnits) ∈
        tx.scriptWitnesses
  reported : ∃ multiSig,
    multiSigPolicy uplc rawScripts (fromVkey csl.blake2b (FixedBytes.replicate 32 0)) =
        .ok multiSig ∧
      data.policyIds.governance = multiSig.scriptHash csl.blake2b

section Sent

variable {uplc : Uplc} {rawScripts : RawScripts} {csl : GovernanceCsl CborBytes}
  {client : OgmiosClient CborBytes} {governanceAuthority : FixedBytes 28}
  {paymentKey : FixedBytes 32} {genesisUtxoId : Option UtxoId}
  {ledger : List (OgmiosUtxo CborBytes)}

private theorem withKeyInputs_eq_ok {utxo : OgmiosUtxo CborBytes} {inputs : List TxInput}
    (h : withKeyInputs csl [utxo] = .ok inputs) :
    ∃ amount, inputs = [⟨utxo.utxoId, amount, none⟩] := by
  rw [withKeyInputs, List.mapM_cons] at h
  obtain ⟨input, hinput, h⟩ := bind_eq_ok.mp h
  obtain ⟨rest, hrest, h⟩ := bind_eq_ok.mp h
  obtain ⟨amount, -, hinput⟩ := bind_eq_ok.mp hinput
  cases hinput
  cases hrest
  cases h
  exact ⟨amount, rfl⟩

/-- The builder of the transaction.  The scripts of the version oracle are those
of `scripts_data.rs`. -/
theorem initGovernanceTransaction_eq_ok (hexact : csl.Exact)
    {ctx : TransactionContext CborBytes} {genesisUtxo : OgmiosUtxo CborBytes} {exUnits : ExUnits}
    {tx : Transaction}
    (h : initGovernanceTransaction uplc rawScripts csl governanceAuthority ctx genesisUtxo
      exUnits = .ok tx) :
    ∃ multiSig validator policy builder builder' coin amount,
      multiSigPolicy uplc rawScripts governanceAuthority = .ok multiSig ∧
      versionOracle uplc rawScripts csl.blake2b genesisUtxo.utxoId ctx.network =
        .ok (validator, policy.scriptHash csl.blake2b,
          .bytes (policy.scriptHash csl.blake2b).bytes) ∧
      builder.inputs = [⟨genesisUtxo.utxoId, amount, none⟩] ∧
      builder.mint =
        [⟨mintWitness csl policy multiSig exUnits, versionOracleAssetName, 1⟩] ∧
      builder.outputs = [⟨validator.address csl.blake2b ctx.network,
        ⟨coin, some (versionOracleToken (policy.scriptHash csl.blake2b))⟩,
        some (VersionOracleDatum.mk scriptId (policy.scriptHash csl.blake2b)).toPlutusData⟩] ∧
      Balanced ctx.paymentKeyUtxos ctx.paymentAddress builder builder' ∧
      Contains csl.toCsl builder' tx := by
  unfold initGovernanceTransaction at h
  obtain ⟨multiSig, hmultiSig, h⟩ := bind_eq_ok.mp h
  obtain ⟨rawValidator, hrawValidator, h⟩ := bind_eq_ok.mp h
  obtain ⟨genesisData, hgenesis, h⟩ := bind_eq_ok.mp h
  obtain ⟨validator, hvalidator, h⟩ := bind_eq_ok.mp h
  obtain ⟨rawPolicy, hrawPolicy, h⟩ := bind_eq_ok.mp h
  obtain ⟨genesisData', hgenesis', h⟩ := bind_eq_ok.mp h
  obtain ⟨applied, happlied, h⟩ := bind_eq_ok.mp h
  obtain ⟨address, haddress, h⟩ := bind_eq_ok.mp h
  obtain ⟨policy, hpolicy, h⟩ := bind_eq_ok.mp h
  obtain ⟨config, -, h⟩ := bind_eq_ok.mp h
  obtain ⟨mint, hmint, h⟩ := bind_eq_ok.mp h
  obtain ⟨output, houtput, h⟩ := bind_eq_ok.mp h
  obtain ⟨builder, hbuilder, h⟩ := bind_eq_ok.mp h
  obtain ⟨inputs, hinputs, h⟩ := bind_eq_ok.mp h
  obtain ⟨coin, -, houtput⟩ := bind_eq_ok.mp houtput
  obtain rfl := Except.ok.inj houtput
  obtain rfl := hexact.exact_base.addAsset hmint
  obtain rfl := hexact.addOutputWithScriptRef hbuilder
  obtain ⟨amount, rfl⟩ := withKeyInputs_eq_ok hinputs
  obtain ⟨builder', hbalanced, hcontains⟩ := balanceUpdateAndBuild_eq_ok hexact.exact_base h
  refine ⟨multiSig, validator, policy, _, builder', coin, amount, hmultiSig, ?_, rfl, rfl, rfl,
    hbalanced, hcontains⟩
  have hvalidator' : applyData uplc rawValidator (utxoIdToDatum genesisUtxo.utxoId) =
      .ok validator := bind_eq_ok.mpr ⟨genesisData, hgenesis, hvalidator⟩
  have happlied' : applyData uplc rawPolicy (utxoIdToDatum genesisUtxo.utxoId) = .ok applied :=
    bind_eq_ok.mpr ⟨genesisData', hgenesis', happlied⟩
  exact bind_eq_ok.mpr ⟨rawValidator, hrawValidator, bind_eq_ok.mpr ⟨validator, hvalidator',
    bind_eq_ok.mpr ⟨rawPolicy, hrawPolicy, bind_eq_ok.mpr ⟨applied, happlied',
      bind_eq_ok.mpr ⟨address, haddress, bind_eq_ok.mpr ⟨policy, hpolicy, rfl⟩⟩⟩⟩⟩⟩

/-- What is known about the context when the client answers from a ledger. -/
theorem initGovernanceContext_eq_ok (hserves : Serves client ledger)
    {ctx : TransactionContext CborBytes} {genesisUtxo : OgmiosUtxo CborBytes}
    (h : initGovernanceContext csl client paymentKey genesisUtxoId = .ok (ctx, genesisUtxo)) :
    client.network = .ok ctx.network ∧ csl.privateKeyHash paymentKey = .ok ctx.paymentKeyHash ∧
      ctx.paymentKeyUtxos = utxosAt ledger ctx.paymentAddress ∧
      genesisUtxo ∈ utxosAt ledger ctx.paymentAddress ∧
      ∀ utxoId, genesisUtxoId = some utxoId → genesisUtxo.utxoId = utxoId := by
  unfold initGovernanceContext at h
  obtain ⟨paymentKeyHash, hkey, h⟩ := bind_eq_ok.mp h
  obtain ⟨network, hnetwork, h⟩ := bind_eq_ok.mp h
  obtain ⟨ownUtxos, hown, h⟩ := bind_eq_ok.mp h
  obtain ⟨parameters, -, h⟩ := bind_eq_ok.mp h
  obtain ⟨selected, hselected, h⟩ := bind_eq_ok.mp h
  cases h
  rw [hserves] at hown
  obtain rfl := Except.ok.inj hown
  cases genesisUtxoId with
  | none =>
      exact ⟨hnetwork, hkey, rfl, List.mem_of_head? (okOr_eq_ok.mp hselected), nofun⟩
  | some utxoId =>
      have hfind := okOr_eq_ok.mp hselected
      refine ⟨hnetwork, hkey, rfl, List.mem_of_find?_eq_some hfind, fun asked hasked => ?_⟩
      obtain rfl := Option.some.inj hasked
      exact of_decide_eq_true (by simpa using List.find?_some hfind)

/-- The requests are about a transaction that was built, signed or not. -/
theorem mem_runInitGovernance {request : Request}
    (h : request ∈ (runInitGovernance uplc rawScripts csl client governanceAuthority paymentKey
      genesisUtxoId).1) :
    ∃ ctx genesisUtxo exUnits tx,
      initGovernanceContext csl client paymentKey genesisUtxoId = .ok (ctx, genesisUtxo) ∧
      initGovernanceTransaction uplc rawScripts csl governanceAuthority ctx genesisUtxo exUnits =
        .ok tx ∧
      (request.tx = tx ∨ request.tx = ctx.sign tx) := by
  unfold runInitGovernance at h
  split at h
  next => cases h
  next ctx genesisUtxo hctx =>
    dsimp only at h
    split at h
    next => cases h
    next tx htx =>
      split at h
      next =>
        obtain rfl := List.mem_singleton.mp h
        exact ⟨ctx, genesisUtxo, _, tx, hctx, htx, .inl rfl⟩
      next allCosts hcosts =>
        split at h
        next =>
          obtain rfl := List.mem_singleton.mp h
          exact ⟨ctx, genesisUtxo, _, tx, hctx, htx, .inl rfl⟩
        next budgeted hbudgeted =>
          obtain ⟨exUnits, -, hbuild⟩ := bind_eq_ok.mp hbudgeted
          rcases List.mem_cons.mp h with rfl | h
          · exact ⟨ctx, genesisUtxo, _, tx, hctx, htx, .inl rfl⟩
          · obtain rfl := List.mem_singleton.mp h
            exact ⟨ctx, genesisUtxo, exUnits, budgeted, hctx, hbuild, .inr rfl⟩

/-- Inputs are the genesis UTXO and others of the payment key, which are not at
the address of a script; so only the policy has to be witnessed. -/
theorem witnessed_init (hids : (ledger.map OgmiosUtxo.utxoId).Nodup)
    {ctx : TransactionContext CborBytes} {builder builder' : TransactionBuilder}
    {tx : Transaction}
    (hbalanced : Balanced (utxosAt ledger ctx.paymentAddress) ctx.paymentAddress builder builder')
    (hcontains : Contains csl.toCsl builder' tx) {genesisUtxo : OgmiosUtxo CborBytes}
    (hgenesis : genesisUtxo ∈ utxosAt ledger ctx.paymentAddress) {amount : Value}
    (hinputs : builder.inputs = [⟨genesisUtxo.utxoId, amount, none⟩]) {witness : PlutusWitness}
    {assetName : TransactionBuilding.AssetName} (hmint : builder.mint = [⟨witness, assetName, 1⟩]) :
    (.mint (witness.script.scriptHash csl.blake2b), witness) ∈ tx.scriptWitnesses ∧
      Witnessed csl.toCsl ledger tx := by
  have hwitness : (.mint (witness.script.scriptHash csl.blake2b), witness) ∈
      tx.scriptWitnesses := by
    rw [hcontains.scriptWitnesses, hbalanced.scriptWitnesses, TransactionBuilder.scriptWitnesses,
      hinputs, hmint]
    exact List.mem_singleton_self _
  obtain ⟨hledger, haddress⟩ := List.mem_filter.mp hgenesis
  refine ⟨hwitness, ?_, ?_⟩
  · intro token htoken
    rw [hcontains.mint, hbalanced.mint, hmint] at htoken
    obtain rfl := List.mem_singleton.mp htoken
    exact ⟨witness, hwitness, rfl⟩
  · intro utxo hutxo hinput hash hscript
    have hpayment : utxo.address = ctx.paymentAddress := by
      rcases input_cases hids hbalanced hcontains hutxo hinput with hbuilder | hpayment
      · rw [hinputs] at hbuilder
        have hid : utxo.utxoId = genesisUtxo.utxoId := List.mem_singleton.mp hbuilder
        obtain rfl := List.inj_on_of_nodup_map hids hutxo hledger hid
        exact of_decide_eq_true haddress
      · exact hpayment
    rw [hpayment] at hscript
    cases hscript

private theorem initializes_sign {network : NetworkIdKind} {genesisUtxo : UtxoId}
    {data : ScriptsData} {tx : Transaction} (ctx : TransactionContext CborBytes)
    (h : Initializes uplc rawScripts csl network governanceAuthority ledger genesisUtxo data tx) :
    Initializes uplc rawScripts csl network governanceAuthority ledger genesisUtxo data
      (ctx.sign tx) := by
  obtain ⟨hgenesis, hmint, houtput, ⟨hmints, hspends⟩, hgovernance, hreported⟩ := h
  exact ⟨hgenesis, hmint, houtput, ⟨hmints, hspends⟩, hgovernance, hreported⟩

private theorem initGovernanceTransaction_initializes (hexact : csl.Exact)
    (hids : (ledger.map OgmiosUtxo.utxoId).Nodup) {ctx : TransactionContext CborBytes}
    (hpayment : ctx.paymentKeyUtxos = utxosAt ledger ctx.paymentAddress)
    {genesisUtxo : OgmiosUtxo CborBytes}
    (hgenesis : genesisUtxo ∈ utxosAt ledger ctx.paymentAddress) {exUnits : ExUnits}
    {tx : Transaction}
    (h : initGovernanceTransaction uplc rawScripts csl governanceAuthority ctx genesisUtxo
      exUnits = .ok tx)
    {data : ScriptsData}
    (hdata : getScriptsData uplc rawScripts csl.blake2b genesisUtxo.utxoId ctx.network =
      .ok data) :
    Initializes uplc rawScripts csl ctx.network governanceAuthority ledger genesisUtxo.utxoId
      data tx := by
  obtain ⟨multiSig, validator, policy, builder, builder', coin, amount, hmultiSig, horacle,
    hinputs, hmint, houtputs, hbalanced, hcontains⟩ := initGovernanceTransaction_eq_ok hexact h
  obtain ⟨⟨validator', horacle', hvalidatorHash⟩, -, -, governance, hgovernance,
    hgovernanceHash⟩ := derived_of_getScriptsData hdata
  -- both derivations of the version oracle give the same scripts
  obtain ⟨rfl, hpolicyHash, -⟩ : validator = validator' ∧
      policy.scriptHash csl.blake2b = data.policyIds.versionOracle ∧ _ := by
    simpa using Except.ok.inj (horacle.symm.trans horacle')
  rw [hpayment] at hbalanced
  have haddress : validator.address csl.blake2b ctx.network = ⟨networkIdKindToU8 ctx.network,
      .scripthash data.validatorHashes.versionOracleValidator, none⟩ := by
    rw [PlutusScript.address, hvalidatorHash]
  obtain ⟨hwitness, hwitnessed⟩ :=
    witnessed_init hids hbalanced hcontains hgenesis hinputs hmint
  rw [show (mintWitness csl policy multiSig exUnits).script = policy from rfl, hpolicyHash]
    at hwitness
  refine ⟨?_, ?_, ?_, hwitnessed, ⟨multiSig, policy, exUnits, hmultiSig, hwitness⟩,
    governance, hgovernance, hgovernanceHash.symm⟩
  · obtain ⟨added, hadded, -⟩ := hbalanced.inputs
    rw [hcontains.inputs, hadded, hinputs]
    exact List.mem_cons_self
  · rw [hcontains.mint, hbalanced.mint, hmint, ← hpolicyHash]
    rfl
  · rw [← haddress]
    refine ⟨_, _, outputs_at hbalanced hcontains houtputs rfl (paymentAddress_ne _ _ _), ?_, rfl,
      ?_⟩
    · rw [hpolicyHash]
    · rw [VersionOracleDatum.tryFrom_toPlutusData, hpolicyHash]

end Sent

/-! ## Later attempts -/

/-- The unspent outputs, and the ids of all outputs that ever were. -/
structure Chain (CborBytes : Type) where
  ledger : List (OgmiosUtxo CborBytes)
  known : Set UtxoId
  ledger_known : ∀ utxo ∈ ledger, utxo.utxoId ∈ known

/-- The chain with one transaction more. -/
def Chain.accept (csl : Csl CborBytes) (chain : Chain CborBytes) (tx : Transaction) :
    Chain CborBytes where
  ledger := applyTx csl chain.ledger tx
  known := chain.known ∪ {utxoId | utxoId.txHash = csl.hash tx.body}
  ledger_known := by
    intro utxo hutxo
    rcases List.mem_append.mp hutxo with hold | hnew
    · exact .inl (chain.ledger_known utxo (List.mem_filter.mp hold).1)
    · obtain ⟨output, -, rfl⟩ := List.mem_map.mp hnew
      exact .inr rfl

/-- The hash of the transaction is that of no transaction before. -/
def Chain.Fresh (csl : Csl CborBytes) (chain : Chain CborBytes) (tx : Transaction) : Prop :=
  ∀ utxoId ∈ chain.known, utxoId.txHash ≠ csl.hash tx.body

/-- Any transactions are accepted, one after the other. -/
inductive Later (csl : Csl CborBytes) (chain : Chain CborBytes) : Chain CborBytes → Prop
  | now : Later csl chain chain
  | accept {chain' : Chain CborBytes} {tx : Transaction} (hlater : Later csl chain chain')
      (hfresh : chain'.Fresh csl tx) : Later csl chain (chain'.accept csl tx)

/-- The output was, and is not any more. -/
def Chain.Spent (chain : Chain CborBytes) (utxoId : UtxoId) : Prop :=
  utxoId ∈ chain.known ∧ ∀ utxo ∈ chain.ledger, utxo.utxoId ≠ utxoId

section Later

variable {csl : Csl CborBytes} {chain chain' : Chain CborBytes} {tx : Transaction}
  {utxoId : UtxoId}

/-- A transaction spends its inputs and nothing that is spent comes back. -/
theorem Chain.spent_accept (hfresh : chain.Fresh csl tx) (hknown : utxoId ∈ chain.known)
    (h : utxoId ∈ tx.body.inputs ∨ chain.Spent utxoId) : (chain.accept csl tx).Spent utxoId := by
  refine ⟨.inl hknown, fun utxo hutxo heq => ?_⟩
  rcases List.mem_append.mp hutxo with hold | hnew
  · obtain ⟨hmem, hinput⟩ := List.mem_filter.mp hold
    rcases h with hspent | hspent
    · exact absurd (heq ▸ hspent) (of_decide_eq_true hinput)
    · exact hspent.2 utxo hmem heq
  · obtain ⟨output, -, rfl⟩ := List.mem_map.mp hnew
    exact hfresh utxoId hknown (heq ▸ rfl)

/-- What is spent stays spent. -/
theorem Later.spent (hlater : Later csl chain chain') (h : chain.Spent utxoId) :
    chain'.Spent utxoId := by
  induction hlater with
  | now => exact h
  | accept _ hfresh ih => exact Chain.spent_accept hfresh ih.1 (.inr ih)

end Later

section Once

variable {uplc : Uplc} {rawScripts : RawScripts} {csl : GovernanceCsl CborBytes}
  {client : OgmiosClient CborBytes} {governanceAuthority : FixedBytes 28}
  {paymentKey : FixedBytes 32} {genesisUtxoId : Option UtxoId}
  {ledger : List (OgmiosUtxo CborBytes)}

/-- A request spends outputs of the ledger only, among them the genesis UTXO that
was selected. -/
theorem inputs_of_mem_runInitGovernance (hexact : csl.Exact) (hserves : Serves client ledger)
    {request : Request}
    (hmem : request ∈ (runInitGovernance uplc rawScripts csl client governanceAuthority paymentKey
      genesisUtxoId).1) :
    (∀ utxoId ∈ request.tx.body.inputs, ∃ utxo ∈ ledger, utxo.utxoId = utxoId) ∧
      ∃ ctx genesisUtxo,
        initGovernanceContext csl client paymentKey genesisUtxoId = .ok (ctx, genesisUtxo) ∧
        genesisUtxo.utxoId ∈ request.tx.body.inputs ∧ genesisUtxo ∈ ledger ∧
        ∀ utxoId, genesisUtxoId = some utxoId → genesisUtxo.utxoId = utxoId := by
  obtain ⟨ctx, genesisUtxo, exUnits, tx, hctx, htx, hrequest⟩ := mem_runInitGovernance hmem
  obtain ⟨-, -, hpayment, hgenesis, hid⟩ := initGovernanceContext_eq_ok hserves hctx
  obtain ⟨multiSig, validator, policy, builder, builder', coin, amount, -, -, hinputs, -, -,
    hbalanced, hcontains⟩ := initGovernanceTransaction_eq_ok hexact htx
  obtain ⟨added, hadded, hkeys⟩ := hbalanced.inputs
  have hledger := (List.mem_filter.mp hgenesis).1
  have hbody : request.tx.body = tx.body := by
    rcases hrequest with heq | heq
    · rw [heq]
    · rw [heq]
      rfl
  rw [hbody]
  constructor
  · intro utxoId hinput
    rw [hcontains.inputs, hadded, hinputs, List.map_append, List.mem_append] at hinput
    rcases hinput with hbuilder | hkey
    · exact ⟨genesisUtxo, hledger, (List.mem_singleton.mp hbuilder).symm⟩
    · obtain ⟨input, hadd, rfl⟩ := List.mem_map.mp hkey
      obtain ⟨-, utxo, hutxo, heq⟩ := hkeys input hadd
      rw [hpayment] at hutxo
      exact ⟨utxo, (List.mem_filter.mp hutxo).1, heq⟩
  · refine ⟨ctx, genesisUtxo, hctx, ?_, hledger, hid⟩
    rw [hcontains.inputs, hadded, hinputs]
    exact List.mem_cons_self

/-- After a transaction of the command was accepted, none of its inputs, and so not
the genesis UTXO that was selected for it, is spent by a later run of the
command, and a run that asks for one of them sends nothing. -/
theorem initialized_once (hexact : csl.Exact) {chain chain' : Chain CborBytes}
    (hserves : Serves client chain.ledger) {request : Request}
    (hmem : request ∈ (runInitGovernance uplc rawScripts csl client governanceAuthority paymentKey
      genesisUtxoId).1)
    (hfresh : chain.Fresh csl.toCsl request.tx)
    (hlater : Later csl.toCsl (chain.accept csl.toCsl request.tx) chain')
    {client' : OgmiosClient CborBytes} (hserves' : Serves client' chain'.ledger) :
    (∃ ctx genesisUtxo,
      initGovernanceContext csl client paymentKey genesisUtxoId = .ok (ctx, genesisUtxo) ∧
        genesisUtxo.utxoId ∈ request.tx.body.inputs) ∧
      ∀ utxoId ∈ request.tx.body.inputs, ∀ governanceAuthority' paymentKey',
        (∀ genesisUtxoId', ∀ request' ∈ (runInitGovernance uplc rawScripts csl client'
            governanceAuthority' paymentKey' genesisUtxoId').1,
          utxoId ∉ request'.tx.body.inputs) ∧
        (runInitGovernance uplc rawScripts csl client' governanceAuthority' paymentKey'
          (some utxoId)).1 = [] := by
  obtain ⟨hinputs, ctx, genesisUtxo, hctx, hgenesis, -⟩ :=
    inputs_of_mem_runInitGovernance hexact hserves hmem
  refine ⟨⟨ctx, genesisUtxo, hctx, hgenesis⟩, ?_⟩
  intro utxoId hinput governanceAuthority' paymentKey'
  obtain ⟨utxo, hutxo, rfl⟩ := hinputs utxoId hinput
  have hspent : chain'.Spent utxo.utxoId :=
    hlater.spent (Chain.spent_accept hfresh (chain.ledger_known _ hutxo) (.inl hinput))
  constructor
  · intro genesisUtxoId' request' hmem' hinput'
    obtain ⟨hinputs', -⟩ := inputs_of_mem_runInitGovernance hexact hserves' hmem'
    obtain ⟨utxo', hutxo', heq⟩ := hinputs' _ hinput'
    exact hspent.2 utxo' hutxo' heq
  · refine List.eq_nil_iff_forall_not_mem.mpr fun request' hmem' => ?_
    obtain ⟨-, -, utxo', -, -, hutxo', hid'⟩ :=
      inputs_of_mem_runInitGovernance hexact hserves' hmem'
    exact hspent.2 utxo' hutxo' (hid' _ rfl)

end Once

/-! ## A partner chain

Applying data to a script of this example puts the key hash of the authority in
front of the script, and leaves the script as it is for other data. -/

/-- Programs are their bytes, and applying one to a key hash puts the hash in
front. -/
def exampleUplc : Uplc where
  Program := Bytes
  decode := fun bytes => .ok (.bytes bytes)
  plutusData := fun _ => some (.integer 0)
  fromCbor := .ok
  applyData := fun program data =>
    match data with
    | .list [.list [.bytes keyHash], _] => keyHash ++ program
    | _ => program
  toCbor := some
  addressData := fun _ => .ok (.bytes [])
  toBech32 := fun _ => .ok "addr"

/-- Eleven scripts of one byte. -/
def exampleRawScripts : RawScripts :=
  ⟨[1], [2], [3], [4], [5], [6], [7], [8], [9], [10], [11]⟩

/-- The example library with a fixed least ada. -/
def exampleGovernanceCsl : GovernanceCsl PlutusData where
  toCsl := exampleCsl
  calculateAdaWithScriptRef := fun _ _ _ => .ok 1000000
  addOutputWithScriptRef := fun builder output _ =>
    .ok { builder with outputs := builder.outputs ++ [output] }

theorem exampleGovernanceCsl_exact : exampleGovernanceCsl.Exact where
  exact_base := exampleCsl_exact
  addOutputWithScriptRef h := (Except.ok.inj h).symm

/-- The hash of the key that governs. -/
def exampleAuthority : FixedBytes 28 := FixedBytes.replicate 28 5

/-- The example sends a transaction to be evaluated. -/
theorem exists_request_example :
    ∃ tx, .evaluate tx ∈ (runInitGovernance exampleUplc exampleRawScripts exampleGovernanceCsl
      (exampleClient [paymentUtxo]) exampleAuthority (FixedBytes.replicate 32 3)
      (some paymentUtxo.utxoId)).1 := by
  obtain ⟨tx, htx⟩ : ∃ tx, initGovernanceTransaction exampleUplc exampleRawScripts
      exampleGovernanceCsl exampleAuthority exampleCtx paymentUtxo ⟨0, 0⟩ = .ok tx := by
    simp only [initGovernanceTransaction, balanceUpdateAndBuild,
      maxPossibleCollaterals_exampleCtx]
    exact ⟨_, rfl⟩
  have hctx : initGovernanceContext exampleGovernanceCsl (exampleClient [paymentUtxo])
      (FixedBytes.replicate 32 3) (some paymentUtxo.utxoId) = .ok (exampleCtx, paymentUtxo) := rfl
  refine ⟨tx, ?_⟩
  simp only [runInitGovernance, hctx, htx]
  split
  · exact List.mem_singleton_self _
  · split
    · exact List.mem_singleton_self _
    · exact List.mem_cons_self

/-- Nothing but the payment output is on the chain. -/
def exampleChain : Chain PlutusData where
  ledger := [paymentUtxo]
  known := {paymentUtxo.utxoId}
  ledger_known utxo hutxo := by rw [List.mem_singleton.mp hutxo]; rfl

/-- After the transaction was accepted no other one is sent. -/
theorem initialized_once_example :
    ∃ request ∈ (runInitGovernance exampleUplc exampleRawScripts exampleGovernanceCsl
        (exampleClient [paymentUtxo]) exampleAuthority (FixedBytes.replicate 32 3)
        (some paymentUtxo.utxoId)).1,
      (runInitGovernance exampleUplc exampleRawScripts exampleGovernanceCsl
        (exampleClient (exampleChain.accept exampleCsl request.tx).ledger) exampleAuthority
        (FixedBytes.replicate 32 3) (some paymentUtxo.utxoId)).1 = [] := by
  obtain ⟨tx, hmem⟩ := exists_request_example
  have hfresh : exampleChain.Fresh exampleCsl tx := by
    intro utxoId hknown
    obtain rfl : utxoId = paymentUtxo.utxoId := hknown
    exact (by decide : FixedBytes.replicate 32 1 ≠ FixedBytes.replicate 32 7)
  have hserves : Serves (exampleClient (exampleChain.accept exampleCsl tx).ledger)
      (exampleChain.accept exampleCsl tx).ledger := fun _ => rfl
  obtain ⟨⟨ctx, genesisUtxo, hctx, hinput⟩, hlater⟩ :=
    initialized_once exampleGovernanceCsl_exact (fun _ => rfl) hmem hfresh .now hserves
  cases hctx
  exact ⟨_, hmem, (hlater _ hinput exampleAuthority (FixedBytes.replicate 32 3)).2⟩

end PartnerChains.Ports.InitGovernance
