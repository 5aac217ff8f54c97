import PartnerChains.Ports.TransactionBuilding

/-!
# Upserting the D-parameter and the permissioned candidates

The port of `upsert_d_param` and `upsert_permissioned_candidates`.  The datum of
the output at the validator address is compared with the requested value; if
there is no such output, a transaction mints the policy token, and if its datum
is another value, a transaction spends it.  The first transaction is evaluated,
and built again with the budget and submitted.

The two upserts differ in the witness for the spent output: it is the validator
for the D-parameter, and the policy for the permissioned candidates.

The model returns the requests with transactions along with the result.
-/

namespace PartnerChains.Ports.Upsert

open PartnerChains.Ports.Domain
open PartnerChains.Ports.MainchainDatums
open PartnerChains.Ports.TransactionBuilding
open PartnerChains.Verified.Fallible
open PartnerChains.Verified.StableSort

variable {CborBytes : Type}

/-! ## The client -/

/-- The requests to Ogmios. -/
structure OgmiosClient (CborBytes : Type) where
  network : Except String NetworkIdKind
  protocolParameters : Except String ProtocolParameters
  queryUtxos : Address → Except String (List (OgmiosUtxo CborBytes))
  /-- The budgets of the validators. -/
  evaluateTransaction : Transaction → Except String (List ExUnits)
  submitTransaction : Transaction → Except String McTxHash

/-- A request with a transaction. -/
inductive Request where
  | evaluate (tx : Transaction)
  | submit (tx : Transaction)

/-- The transaction that is sent. -/
def Request.tx : Request → Transaction
  | .evaluate tx => tx
  | .submit tx => tx

/-- `get_first_validator_budget`: the costs of the first script in the response. -/
def getFirstValidatorBudget : List ExUnits → Except JsError ExUnits
  | [] => .error "Internal error: cannot use evaluateTransaction response"
  | budget :: _ => .ok budget

section Requests

variable (csl : Csl CborBytes) (client : OgmiosClient CborBytes)

/-- `TransactionContext::for_payment_key`. -/
def forPaymentKey (paymentSigningKey : FixedBytes 32) :
    Except String (TransactionContext CborBytes) := do
  let paymentKeyHash ← csl.privateKeyHash paymentSigningKey
  let network ← client.network
  let protocolParameters ← client.protocolParameters
  let paymentKeyUtxos ← client.queryUtxos (keyHashAddress paymentKeyHash network)
  .ok ⟨paymentKeyHash, paymentKeyUtxos, network, protocolParameters⟩

/-- How the errors of the two requests begin. -/
structure RequestTexts where
  evaluate : String
  submit : String

/-- The common part of inserting and updating: the requests and the result. -/
def evaluateAndSubmit (ctx : TransactionContext CborBytes) (texts : RequestTexts)
    (build : ExUnits → Except JsError Transaction) : List Request × Except String McTxHash :=
  match build ⟨0, 0⟩ with
  | .error e => ([], .error e)
  | .ok tx =>
      match client.evaluateTransaction tx with
      | .error e => ([.evaluate tx], .error (texts.evaluate ++ e ++ ", bytes: " ++ csl.toHex tx))
      | .ok response =>
          match (getFirstValidatorBudget response).bind build with
          | .error e => ([.evaluate tx], .error e)
          | .ok budgeted =>
              ([.evaluate tx, .submit (ctx.sign budgeted)],
                (client.submitTransaction (ctx.sign budgeted)).mapError fun e =>
                  texts.submit ++ e ++ ", bytes: " ++ csl.toHex budgeted)

end Requests

/-! ## The transactions -/

section Transactions

variable (csl : Csl CborBytes)

/-- Mints the token for an output with the datum. -/
def mintTokenTx (validator policy : PlutusScript) (datum : PlutusData)
    (ctx : TransactionContext CborBytes) (mintWitnessExUnits : ExUnits) :
    Except JsError Transaction := do
  let config ← getBuilderConfig csl ctx
  let builder ← addMintOneScriptToken csl (.new config) policy mintWitnessExUnits
  let builder ← addOutputWithOneScriptToken csl builder validator policy datum ctx
  balanceUpdateAndBuild csl builder ctx

/-- Spends the output with the given witness for one with the datum. -/
def updateTokenTx (validator policy witness : PlutusScript) (datum : PlutusData)
    (scriptUtxo : OgmiosUtxo CborBytes) (ctx : TransactionContext CborBytes)
    (validatorRedeemerExUnits : ExUnits) : Except JsError Transaction := do
  let config ← getBuilderConfig csl ctx
  let inputs ← addScriptUtxoInput csl [] scriptUtxo witness validatorRedeemerExUnits
  let builder ← addOutputWithOneScriptToken csl { TransactionBuilder.new config with
    inputs := inputs } validator policy datum ctx
  balanceUpdateAndBuild csl builder ctx

def mintDParamTokenTx (validator policy : PlutusScript) (dParameter : DParameter) :=
  mintTokenTx csl validator policy (dParameterToPlutusData dParameter)

def updateDParamTx (validator policy : PlutusScript) (dParameter : DParameter) :=
  updateTokenTx csl validator policy validator (dParameterToPlutusData dParameter)

def mintPermissionedCandidatesTokenTx (validator policy : PlutusScript)
    (permissionedCandidates : List PermissionedCandidateData) :=
  mintTokenTx csl validator policy (permissionedCandidatesToPlutusData permissionedCandidates)

/-- Here the witness is the policy. -/
def updatePermissionedCandidatesTx (validator policy : PlutusScript)
    (permissionedCandidates : List PermissionedCandidateData) :=
  updateTokenTx csl validator policy policy
    (permissionedCandidatesToPlutusData permissionedCandidates)

/-! ## The current value -/

/-- `Display` of the error. -/
def decodingErrorText (e : DataDecodingError) : String :=
  "Could not decode " ++ csl.plutusDataDebug e.datum ++ " to " ++ e.decodedTo ++ ": " ++ e.msg

/-- The part that `get_current_d_parameter` and
`get_current_permissioned_candidates` share: the first output of the validator
counts. -/
def getCurrent {α : Type} (decode : PlutusData → Except DataDecodingError α)
    (undecodable : String) : List (OgmiosUtxo CborBytes) →
      Except String (Option (OgmiosUtxo CborBytes × α))
  | [] => .ok none
  | utxo :: _ => do
      let datum ← okOr utxo.datum
        "Invalid state: an UTXO at the validator script address does not have a datum"
      let datumPlutusData ← (csl.plutusDataFromBytes datum).mapError fun e => undecodable ++ e
      let current ← (decode datumPlutusData).mapError fun e =>
        undecodable ++ decodingErrorText csl e
      .ok (some (utxo, current))

/-- The D-parameter of a datum. -/
def decodeDParameter (data : PlutusData) : Except DataDecodingError DParameter :=
  (DParamDatum.schema.decode data).map DParamDatum.toDParameter

/-- Candidates are ordered by their keys, one after the other. -/
def candidateKey (candidate : PermissionedCandidateData) : List (List Nat) :=
  [candidate.sidechainPublicKey, candidate.auraPublicKey, candidate.grandpaPublicKey].map
    fun key => key.map UInt8.toNat

/-- Sorting by the keys. -/
def sortCandidates (candidates : List PermissionedCandidateData) :
    List PermissionedCandidateData :=
  sortByKey candidateKey candidates

/-- The permissioned candidates of a datum. -/
def decodePermissionedCandidates (data : PlutusData) :
    Except DataDecodingError (List PermissionedCandidateData) :=
  (PermissionedCandidateDatums.schema.decode data).map rawPermissionedCandidateDataVecFrom

def getCurrentDParameter :=
  getCurrent csl decodeDParameter
    "Internal error: could not decode datum of D-parameter validator script: "

/-- `get_current_permissioned_candidates`, which sorts what it found. -/
def getCurrentPermissionedCandidates :=
  getCurrent csl (fun data => (decodePermissionedCandidates data).map sortCandidates)
    "Internal error: could not decode datum of permissioned candidates validator script: "

end Transactions

/-! ## The upserts -/

section Upsert

variable (csl : Csl CborBytes) (client : OgmiosClient CborBytes)

/-- The state of the ledger as the upserts see it. -/
structure Found (CborBytes α : Type) where
  ctx : TransactionContext CborBytes
  validator : PlutusScript
  policy : PlutusScript
  current : Option (OgmiosUtxo CborBytes × α)

/-- What both commands read before they decide. -/
def findCurrent {α : Type}
    (scripts : NetworkIdKind → Except String (PlutusScript × PlutusScript))
    (getCurrent : List (OgmiosUtxo CborBytes) → Except String (Option (OgmiosUtxo CborBytes × α)))
    (paymentSigningKey : FixedBytes 32) : Except String (Found CborBytes α) := do
  let ctx ← forPaymentKey csl client paymentSigningKey
  let (validator, policy) ← scripts ctx.network
  let validatorUtxos ← client.queryUtxos (validator.address csl.blake2b ctx.network)
  let current ← getCurrent validatorUtxos
  .ok ⟨ctx, validator, policy, current⟩

/-- The transactions of an upsert: with one budget for the script to mint the
token, and for the output to spend. -/
structure Builds (CborBytes : Type) where
  mint : PlutusScript → PlutusScript → TransactionContext CborBytes → ExUnits →
    Except JsError Transaction
  update : PlutusScript → PlutusScript → OgmiosUtxo CborBytes → TransactionContext CborBytes →
    ExUnits → Except JsError Transaction

/-- Inserts when nothing is stored, updates when it differs, and sends nothing
otherwise. -/
def upsert {α : Type} [DecidableEq α] (builds : Builds CborBytes)
    (insertTexts updateTexts : RequestTexts) (value : α)
    (found : Except String (Found CborBytes α)) :
    List Request × Except String (Option McTxHash) :=
  match found with
  | .error e => ([], .error e)
  | .ok ⟨ctx, validator, policy, current⟩ =>
      match current with
      | some (currentUtxo, currentValue) =>
          if currentValue = value then ([], .ok none)
          else
            let (requests, result) := evaluateAndSubmit csl client ctx updateTexts
              (builds.update validator policy currentUtxo ctx)
            (requests, result.map some)
      | none =>
          let (requests, result) := evaluateAndSubmit csl client ctx insertTexts
            (builds.mint validator policy ctx)
          (requests, result.map some)

variable (scripts : UtxoId → NetworkIdKind → Except String (PlutusScript × PlutusScript))
  (genesisUtxo : UtxoId)

/-- `scripts` is `d_parameter_scripts`. -/
def upsertDParam (dParameter : DParameter) (paymentSigningKey : FixedBytes 32) :
    List Request × Except String (Option McTxHash) :=
  upsert csl client
    ⟨fun validator policy => mintDParamTokenTx csl validator policy dParameter,
      fun validator policy => updateDParamTx csl validator policy dParameter⟩
    ⟨"Evaluate insert D-parameter transaction request failed: ",
      "Submit insert D-parameter transaction request failed: "⟩
    ⟨"Evaluate update D-parameter transaction request failed: ",
      "Submit D-parameter update transaction request failed: "⟩
    dParameter
    (findCurrent csl client (scripts genesisUtxo) (getCurrentDParameter csl) paymentSigningKey)

/-- `scripts` is `permissioned_candidates_scripts`. -/
def upsertPermissionedCandidates (candidates : List PermissionedCandidateData)
    (paymentSigningKey : FixedBytes 32) : List Request × Except String (Option McTxHash) :=
  let candidates := sortCandidates candidates
  upsert csl client
    ⟨fun validator policy => mintPermissionedCandidatesTokenTx csl validator policy candidates,
      fun validator policy => updatePermissionedCandidatesTx csl validator policy candidates⟩
    ⟨"Evaluate insert permissioned candidates transaction request failed: ",
      "Submit insert permissioned candidates transaction request failed: "⟩
    ⟨"Evaluate update permissioned candidates transaction request failed: ",
      "Submit update permissioned candidates transaction request failed: "⟩
    candidates
    (findCurrent csl client (scripts genesisUtxo) (getCurrentPermissionedCandidates csl)
      paymentSigningKey)

end Upsert

/-! ## What is sent -/

section Sent

variable {csl : Csl CborBytes} {client : OgmiosClient CborBytes}

/-- Every request carries a transaction that was built, signed or not. -/
theorem mem_evaluateAndSubmit {ctx : TransactionContext CborBytes} {texts : RequestTexts}
    {build : ExUnits → Except JsError Transaction} {request : Request}
    (h : request ∈ (evaluateAndSubmit csl client ctx texts build).1) :
    ∃ exUnits tx, build exUnits = .ok tx ∧ (request.tx = tx ∨ request.tx = ctx.sign tx) := by
  unfold evaluateAndSubmit at h
  split at h
  next => cases h
  next tx htx =>
    split at h
    next =>
      obtain rfl := List.mem_singleton.mp h
      exact ⟨_, tx, htx, .inl rfl⟩
    next response hresponse =>
      split at h
      next =>
        obtain rfl := List.mem_singleton.mp h
        exact ⟨_, tx, htx, .inl rfl⟩
      next budgeted hbudgeted =>
        obtain ⟨exUnits, -, hbuild⟩ := bind_eq_ok.mp hbudgeted
        rcases List.mem_cons.mp h with rfl | h
        · exact ⟨_, tx, htx, .inl rfl⟩
        · obtain rfl := List.mem_singleton.mp h
          exact ⟨exUnits, budgeted, hbuild, .inr rfl⟩

/-- The first request evaluates the transaction without costs. -/
theorem evaluate_mem_evaluateAndSubmit {ctx : TransactionContext CborBytes}
    {texts : RequestTexts} {build : ExUnits → Except JsError Transaction} {tx : Transaction}
    (h : build ⟨0, 0⟩ = .ok tx) :
    .evaluate tx ∈ (evaluateAndSubmit csl client ctx texts build).1 := by
  simp only [evaluateAndSubmit, h]
  split
  · exact List.mem_singleton_self _
  · split
    · exact List.mem_singleton_self _
    · exact List.mem_cons_self

/-- Requests are only sent when nothing is stored or when it differs. -/
theorem mem_upsert {α : Type} [DecidableEq α] {builds : Builds CborBytes}
    {insertTexts updateTexts : RequestTexts} {value : α}
    {result : Except String (Found CborBytes α)} {request : Request}
    (h : request ∈ (upsert csl client builds insertTexts updateTexts value result).1) :
    ∃ found, result = .ok found ∧
      ((found.current = none ∧ request ∈ (evaluateAndSubmit csl client found.ctx insertTexts
          (builds.mint found.validator found.policy found.ctx)).1) ∨
        ∃ utxo current, found.current = some (utxo, current) ∧
          request ∈ (evaluateAndSubmit csl client found.ctx updateTexts
            (builds.update found.validator found.policy utxo found.ctx)).1) := by
  unfold upsert at h
  split at h
  next => cases h
  next ctx validator policy current =>
    refine ⟨⟨ctx, validator, policy, current⟩, rfl, ?_⟩
    split at h
    next utxo currentValue =>
      split at h
      next => cases h
      next => exact .inr ⟨utxo, currentValue, rfl, h⟩
    next => exact .inl ⟨rfl, h⟩

/-- The builder of a transaction that mints the token. -/
theorem mintTokenTx_eq_ok (hexact : csl.Exact) {validator policy : PlutusScript}
    {datum : PlutusData} {ctx : TransactionContext CborBytes} {exUnits : ExUnits}
    {tx : Transaction} (h : mintTokenTx csl validator policy datum ctx exUnits = .ok tx) :
    ∃ builder builder' coin,
      builder.inputs = [] ∧
      builder.mint = [⟨⟨policy, emptyRedeemer exUnits⟩, emptyAssetName, 1⟩] ∧
      builder.outputs = [⟨validator.address csl.blake2b ctx.network,
        ⟨coin, some (oneToken csl policy)⟩, some datum⟩] ∧
      Balanced ctx.paymentKeyUtxos ctx.paymentAddress builder builder' ∧
      Contains csl builder' tx := by
  obtain ⟨config, -, h⟩ := bind_eq_ok.mp h
  obtain ⟨minting, hmint, h⟩ := bind_eq_ok.mp h
  obtain ⟨mints, hmints, hmint⟩ := bind_eq_ok.mp hmint
  obtain rfl := Except.ok.inj hmint
  obtain rfl := hexact.addAsset hmints
  obtain ⟨builder, hbuilder, h⟩ := bind_eq_ok.mp h
  obtain ⟨coin, -, houtput⟩ := bind_eq_ok.mp hbuilder
  obtain rfl := hexact.addOutput houtput
  obtain ⟨builder', hbalanced, hcontains⟩ := balanceUpdateAndBuild_eq_ok hexact h
  exact ⟨_, builder', coin, rfl, rfl, rfl, hbalanced, hcontains⟩

/-- The builder of a transaction that spends the output. -/
theorem updateTokenTx_eq_ok (hexact : csl.Exact) {validator policy witness : PlutusScript}
    {datum : PlutusData} {utxo : OgmiosUtxo CborBytes} {ctx : TransactionContext CborBytes}
    {exUnits : ExUnits} {tx : Transaction}
    (h : updateTokenTx csl validator policy witness datum utxo ctx exUnits = .ok tx) :
    ∃ builder builder' coin amount,
      builder.inputs = [⟨utxo.utxoId, amount, some ⟨witness, emptyRedeemer exUnits⟩⟩] ∧
      builder.mint = [] ∧
      builder.outputs = [⟨validator.address csl.blake2b ctx.network,
        ⟨coin, some (oneToken csl policy)⟩, some datum⟩] ∧
      Balanced ctx.paymentKeyUtxos ctx.paymentAddress builder builder' ∧
      Contains csl builder' tx := by
  obtain ⟨config, -, h⟩ := bind_eq_ok.mp h
  obtain ⟨inputs, hinputs, h⟩ := bind_eq_ok.mp h
  obtain ⟨amount, -, hinputs⟩ := bind_eq_ok.mp hinputs
  obtain rfl := Except.ok.inj hinputs
  obtain ⟨builder, hbuilder, h⟩ := bind_eq_ok.mp h
  obtain ⟨coin, -, houtput⟩ := bind_eq_ok.mp hbuilder
  obtain rfl := hexact.addOutput houtput
  obtain ⟨builder', hbalanced, hcontains⟩ := balanceUpdateAndBuild_eq_ok hexact h
  exact ⟨_, builder', coin, amount, rfl, rfl, rfl, hbalanced, hcontains⟩

/-- What is stored in the only output is found. -/
theorem getCurrent_singleton (hexact : csl.Exact) {α : Type}
    {decode : PlutusData → Except DataDecodingError α} {data : PlutusData} {value : α}
    (hdecode : decode data = .ok value) {utxo : OgmiosUtxo CborBytes}
    (hdatum : utxo.datum = some (csl.plutusDataToBytes data)) (undecodable : String) :
    getCurrent csl decode undecodable [utxo] = .ok (some (utxo, value)) := by
  simp only [getCurrent, hdatum, okOr, hexact.plutusDataFromBytes, hdecode, Except.mapError,
    bind, Except.bind]

/-- The first output is the one that counts. -/
theorem getCurrent_eq_ok {α : Type} {decode : PlutusData → Except DataDecodingError α}
    {undecodable : String} {utxos : List (OgmiosUtxo CborBytes)}
    {current : Option (OgmiosUtxo CborBytes × α)}
    (h : getCurrent csl decode undecodable utxos = .ok current) :
    current.map Prod.fst = utxos.head? := by
  cases utxos with
  | nil =>
      obtain rfl := Except.ok.inj h
      rfl
  | cons utxo rest =>
      obtain ⟨datum, -, h⟩ := bind_eq_ok.mp h
      obtain ⟨data, -, h⟩ := bind_eq_ok.mp h
      obtain ⟨value, -, h⟩ := bind_eq_ok.mp h
      obtain rfl := Except.ok.inj h
      rfl

end Sent

end PartnerChains.Ports.Upsert
