import PartnerChains.Ports.Upsert

/-!
# Upserts converge

What the transactions of the upserts do to the ledger.  A transaction is right
if it mints the policy token or spends the output at the validator address, has
the scripts that the ledger asks for as witnesses, and leaves one output with the
token and the requested value at the validator address, so that a second upsert
submits nothing.

`upserts_converge` says that every transaction for the D-parameter is right, and
of those for the permissioned candidates the ones that mint the token: an update
has the policy as its witness, not the validator.
-/

namespace PartnerChains.Ports.UpsertConvergence

open PartnerChains.Ports.Domain
open PartnerChains.Ports.MainchainDatums
open PartnerChains.Ports.TransactionBuilding
open PartnerChains.Ports.Upsert
open PartnerChains.Verified.Fallible
open PartnerChains.Verified.StableSort

variable {CborBytes : Type}

/-! ## The ledger -/

/-- The unspent outputs of an address. -/
def utxosAt (ledger : List (OgmiosUtxo CborBytes)) (address : Address) :
    List (OgmiosUtxo CborBytes) :=
  ledger.filter fun utxo => utxo.address = address

/-- The client answers queries from the ledger. -/
def Serves (client : OgmiosClient CborBytes) (ledger : List (OgmiosUtxo CborBytes)) : Prop :=
  ∀ address, client.queryUtxos address = .ok (utxosAt ledger address)

section Ledger

variable (csl : Csl CborBytes)

/-- A value as Ogmios reports it. -/
def toOgmiosValue (value : Value) : OgmiosValue :=
  ⟨value.coin, (value.multiasset.getD ∅).entries.map fun policy =>
    (policy.1, policy.2.entries.map fun asset => ⟨asset.1, asset.2⟩)⟩

/-- An output of a transaction with its position, as Ogmios reports it. -/
def newUtxo (body : TransactionBody) (output : TransactionOutput × Nat) : OgmiosUtxo CborBytes :=
  ⟨⟨csl.hash body, output.2⟩, output.1.address, toOgmiosValue output.1.amount,
    output.1.plutusData.map csl.plutusDataToBytes⟩

/-- The unspent outputs after a transaction. -/
def applyTx (ledger : List (OgmiosUtxo CborBytes)) (tx : Transaction) :
    List (OgmiosUtxo CborBytes) :=
  (ledger.filter fun utxo => utxo.utxoId ∉ tx.body.inputs) ++
    tx.body.outputs.zipIdx.map (newUtxo csl tx.body)

/-- Every minted policy and every input at the address of a script has the
script with that hash as its witness. -/
structure Witnessed (ledger : List (OgmiosUtxo CborBytes)) (tx : Transaction) : Prop where
  mint : ∀ token ∈ tx.body.mint, ∃ witness, (.mint token.1, witness) ∈ tx.scriptWitnesses ∧
    witness.script.scriptHash csl.blake2b = token.1
  spend : ∀ utxo ∈ ledger, utxo.utxoId ∈ tx.body.inputs → ∀ hash,
    utxo.address.payment = .scripthash hash →
    ∃ witness, (.spend utxo.utxoId, witness) ∈ tx.scriptWitnesses ∧
      witness.script.scriptHash csl.blake2b = hash

/-- What is right about a transaction of an upsert.  The parameter
`submitsNothing` is about a second upsert with another client. -/
structure Converges (ledger : List (OgmiosUtxo CborBytes)) (network : NetworkIdKind)
    (validator policy : PlutusScript) {α : Type}
    (decode : PlutusData → Except DataDecodingError α) (requested : α)
    (submitsNothing : OgmiosClient CborBytes → Prop) (tx : Transaction) : Prop where
  mints_or_spends :
    (utxosAt ledger (validator.address csl.blake2b network) = [] ∧
        tx.body.mint = [(policy.scriptHash csl.blake2b, emptyAssetName, 1)]) ∨
      ∃ utxo, utxosAt ledger (validator.address csl.blake2b network) = [utxo] ∧
        tx.body.mint = [] ∧ utxo.utxoId ∈ tx.body.inputs
  witnessed : Witnessed csl ledger tx
  output : ∃ output data,
    (tx.body.outputs.filter fun o => o.address = validator.address csl.blake2b network) =
        [output] ∧
      output.amount.multiasset = some (oneToken csl policy) ∧
      output.plutusData = some data ∧ decode data = .ok requested
  second : ∀ client, Serves client (applyTx csl ledger tx) → client.network = .ok network →
    (∃ parameters, client.protocolParameters = .ok parameters) → submitsNothing client

end Ledger

/-! ## The outputs at an address -/

section Outputs

variable {csl : Csl CborBytes} {client : OgmiosClient CborBytes}

/-- Of the outputs, only the one that was put into the builder is at its
address. -/
theorem outputs_at {utxos : List (OgmiosUtxo CborBytes)} {change address : Address}
    {builder builder' : TransactionBuilder} {tx : Transaction} {output : TransactionOutput}
    (hbalanced : Balanced utxos change builder builder') (hcontains : Contains csl builder' tx)
    (houtputs : builder.outputs = [output]) (haddress : output.address = address)
    (hchange : change ≠ address) :
    (tx.body.outputs.filter fun o => o.address = address) = [output] := by
  obtain ⟨added, hadded, hall⟩ := hbalanced.outputs
  have hnone : (added.filter fun o => o.address = address) = [] := by
    refine List.filter_eq_nil_iff.mpr fun o ho => ?_
    rw [hall o ho, decide_eq_true_eq]
    exact hchange
  rw [hcontains.outputs, hadded, houtputs, List.filter_append, hnone, List.append_nil]
  simp [haddress]

/-- The output that is left at an address, if all that was there is spent. -/
theorem utxosAt_applyTx (csl : Csl CborBytes) {ledger : List (OgmiosUtxo CborBytes)}
    {tx : Transaction}
    {address : Address} {output : TransactionOutput}
    (hspent : ∀ utxo ∈ utxosAt ledger address, utxo.utxoId ∈ tx.body.inputs)
    (houtput : (tx.body.outputs.filter fun o => o.address = address) = [output]) :
    ∃ utxo, utxosAt (applyTx csl ledger tx) address = [utxo] ∧
      utxo.datum = output.plutusData.map csl.plutusDataToBytes := by
  have hold : (ledger.filter fun utxo => utxo.utxoId ∉ tx.body.inputs).filter
      (fun utxo => utxo.address = address) = [] := by
    rw [List.filter_filter, List.filter_eq_nil_iff]
    intro utxo hutxo h
    simp only [Bool.and_eq_true, decide_eq_true_eq] at h
    exact h.2 (hspent utxo (List.mem_filter.mpr ⟨hutxo, by simpa using h.1⟩))
  -- the positions do not matter for which outputs are at the address
  have hnew : ((tx.body.outputs.zipIdx.filter fun o => o.1.address = address).map Prod.fst) =
      [output] := by
    rw [← houtput]
    conv_rhs => rw [← List.zipIdx_map_fst 0 tx.body.outputs, List.filter_map]
    rfl
  obtain ⟨⟨o, index⟩, hpair, rfl⟩ := List.map_eq_singleton_iff.mp hnew
  refine ⟨newUtxo csl tx.body (o, index), ?_, rfl⟩
  rw [utxosAt, applyTx, List.filter_append, hold, List.nil_append, List.filter_map]
  exact congrArg (List.map _) hpair

private theorem findCurrent_eq_ok {α : Type} {ledger : List (OgmiosUtxo CborBytes)}
    (hserves : Serves client ledger)
    {scripts : NetworkIdKind → Except String (PlutusScript × PlutusScript)}
    {getCurrent : List (OgmiosUtxo CborBytes) → Except String (Option (OgmiosUtxo CborBytes × α))}
    {paymentSigningKey : FixedBytes 32} {found : Found CborBytes α}
    (h : findCurrent csl client scripts getCurrent paymentSigningKey = .ok found) :
    client.network = .ok found.ctx.network ∧
      csl.privateKeyHash paymentSigningKey = .ok found.ctx.paymentKeyHash ∧
      found.ctx.paymentKeyUtxos = utxosAt ledger found.ctx.paymentAddress ∧
      scripts found.ctx.network = .ok (found.validator, found.policy) ∧
      getCurrent (utxosAt ledger (found.validator.address csl.blake2b found.ctx.network)) =
        .ok found.current := by
  obtain ⟨ctx, hctx, h⟩ := bind_eq_ok.mp h
  obtain ⟨⟨validator, policy⟩, hscripts, h⟩ := bind_eq_ok.mp h
  obtain ⟨utxos, hutxos, h⟩ := bind_eq_ok.mp h
  obtain ⟨current, hcurrent, h⟩ := bind_eq_ok.mp h
  obtain rfl := Except.ok.inj h
  obtain ⟨paymentKeyHash, hkey, hctx⟩ := bind_eq_ok.mp hctx
  obtain ⟨network, hnetwork, hctx⟩ := bind_eq_ok.mp hctx
  obtain ⟨parameters, -, hctx⟩ := bind_eq_ok.mp hctx
  obtain ⟨paymentKeyUtxos, hpayment, hctx⟩ := bind_eq_ok.mp hctx
  obtain rfl := Except.ok.inj hctx
  rw [hserves] at hutxos hpayment
  obtain rfl := Except.ok.inj hutxos
  obtain rfl := Except.ok.inj hpayment
  exact ⟨hnetwork, hkey, rfl, hscripts, hcurrent⟩

/-- An upsert of the value that is there makes no requests. -/
theorem upsert_current (hexact : csl.Exact) {α : Type} [DecidableEq α]
    {decode : PlutusData → Except DataDecodingError α} {data : PlutusData} {value : α}
    (hdecode : decode data = .ok value) {ledger : List (OgmiosUtxo CborBytes)}
    (hserves : Serves client ledger) {network : NetworkIdKind}
    (hnetwork : client.network = .ok network) {parameters : ProtocolParameters}
    (hparameters : client.protocolParameters = .ok parameters)
    {paymentSigningKey : FixedBytes 32} {paymentKeyHash : Ed25519KeyHash}
    (hkey : csl.privateKeyHash paymentSigningKey = .ok paymentKeyHash)
    {scripts : NetworkIdKind → Except String (PlutusScript × PlutusScript)}
    {validator policy : PlutusScript} (hscripts : scripts network = .ok (validator, policy))
    {utxo : OgmiosUtxo CborBytes}
    (hutxo : utxosAt ledger (validator.address csl.blake2b network) = [utxo])
    (hdatum : utxo.datum = some (csl.plutusDataToBytes data)) (builds : Builds CborBytes)
    (insertTexts updateTexts : RequestTexts) (undecodable : String) :
    upsert csl client builds insertTexts updateTexts value
      (findCurrent csl client scripts (getCurrent csl decode undecodable) paymentSigningKey) =
        ([], .ok none) := by
  have hfound : findCurrent csl client scripts (getCurrent csl decode undecodable)
      paymentSigningKey = .ok ⟨⟨paymentKeyHash,
        utxosAt ledger (keyHashAddress paymentKeyHash network), network, parameters⟩,
          validator, policy, some (utxo, value)⟩ := by
    simp only [findCurrent, forPaymentKey, hkey, hnetwork, hparameters, hserves _, hscripts,
      hutxo, getCurrent_singleton hexact hdecode hdatum, bind, Except.bind]
  rw [hfound]
  exact if_pos rfl

end Outputs

/-! ## The result -/

section Result

variable {csl : Csl CborBytes} {ledger : List (OgmiosUtxo CborBytes)}
  {ctx : TransactionContext CborBytes} {validator policy : PlutusScript} {tx : Transaction}
  {builder builder' : TransactionBuilder}

/-- The one who pays is not a script. -/
theorem paymentAddress_ne (ctx : TransactionContext CborBytes) (script : PlutusScript)
    (network : NetworkIdKind) : ctx.paymentAddress ≠ script.address csl.blake2b network := by
  intro h
  cases congrArg Address.payment h

/-- An input was put into the builder, or it is at the payment address. -/
theorem input_cases (hids : (ledger.map OgmiosUtxo.utxoId).Nodup)
    (hbalanced : Balanced (utxosAt ledger ctx.paymentAddress) ctx.paymentAddress builder builder')
    (hcontains : Contains csl builder' tx) {utxo : OgmiosUtxo CborBytes} (hutxo : utxo ∈ ledger)
    (hinput : utxo.utxoId ∈ tx.body.inputs) :
    utxo.utxoId ∈ builder.inputs.map TxInput.input ∨ utxo.address = ctx.paymentAddress := by
  obtain ⟨added, hadded, hkeys⟩ := hbalanced.inputs
  rw [hcontains.inputs, hadded, List.map_append, List.mem_append] at hinput
  refine hinput.imp id fun hkey => ?_
  obtain ⟨i, hi, heq⟩ := List.mem_map.mp hkey
  obtain ⟨-, payment, hpayment, hid⟩ := hkeys i hi
  obtain ⟨hledger, haddress⟩ := List.mem_filter.mp hpayment
  obtain rfl : payment = utxo :=
    List.inj_on_of_nodup_map hids hledger hutxo (hid.trans heq)
  exact of_decide_eq_true haddress

/-- Minting is witnessed by the policy. -/
theorem witnessed_mint (hids : (ledger.map OgmiosUtxo.utxoId).Nodup)
    (hbalanced : Balanced (utxosAt ledger ctx.paymentAddress) ctx.paymentAddress builder builder')
    (hcontains : Contains csl builder' tx) (hinputs : builder.inputs = []) {redeemer : Redeemer}
    (hmint : builder.mint = [⟨⟨policy, redeemer⟩, emptyAssetName, 1⟩]) :
    Witnessed csl ledger tx where
  mint token htoken := by
    rw [hcontains.mint, hbalanced.mint, hmint] at htoken
    obtain rfl := List.mem_singleton.mp htoken
    refine ⟨⟨policy, redeemer⟩, ?_, rfl⟩
    rw [hcontains.scriptWitnesses, hbalanced.scriptWitnesses, TransactionBuilder.scriptWitnesses,
      hinputs, hmint]
    exact List.mem_singleton_self _
  spend utxo hutxo hinput hash hscript := by
    rcases input_cases hids hbalanced hcontains hutxo hinput with hbuilder | hpayment
    · rw [hinputs] at hbuilder
      cases hbuilder
    · rw [hpayment] at hscript
      cases hscript

/-- Spending the output is witnessed if the witness has the hash of the
validator. -/
theorem witnessed_update_iff (hids : (ledger.map OgmiosUtxo.utxoId).Nodup)
    (hbalanced : Balanced (utxosAt ledger ctx.paymentAddress) ctx.paymentAddress builder builder')
    (hcontains : Contains csl builder' tx) {utxo : OgmiosUtxo CborBytes} (hutxo : utxo ∈ ledger)
    {hash : ScriptHash} (haddress : utxo.address.payment = .scripthash hash)
    {witness : PlutusScript} {amount : Value} {redeemer : Redeemer}
    (hinputs : builder.inputs = [⟨utxo.utxoId, amount, some ⟨witness, redeemer⟩⟩])
    (hmint : builder.mint = []) :
    Witnessed csl ledger tx ↔ witness.scriptHash csl.blake2b = hash := by
  have hwitnesses : ∀ w, w ∈ tx.scriptWitnesses ↔
      w = (.spend utxo.utxoId, ⟨witness, redeemer⟩) := by
    intro w
    rw [hcontains.scriptWitnesses, hbalanced.scriptWitnesses, TransactionBuilder.scriptWitnesses,
      hinputs, hmint]
    exact List.mem_singleton
  constructor
  · intro h
    obtain ⟨added, hadded, -⟩ := hbalanced.inputs
    have hspent : utxo.utxoId ∈ tx.body.inputs := by
      rw [hcontains.inputs, hadded, hinputs]
      exact List.mem_cons_self
    obtain ⟨w, hw, hhash⟩ := h.spend utxo hutxo hspent hash haddress
    obtain ⟨-, rfl⟩ := Prod.mk.inj ((hwitnesses _).mp hw)
    exact hhash
  · intro h
    constructor
    · intro token htoken
      rw [hcontains.mint, hbalanced.mint, hmint] at htoken
      cases htoken
    · intro other hother hinput hash' hscript
      rcases input_cases hids hbalanced hcontains hother hinput with hbuilder | hpayment
      · rw [hinputs] at hbuilder
        have hid : other.utxoId = utxo.utxoId := List.mem_singleton.mp hbuilder
        obtain rfl := List.inj_on_of_nodup_map hids hother hutxo hid
        obtain rfl := Credential.scripthash.inj (haddress.symm.trans hscript)
        exact ⟨_, (hwitnesses _).mpr rfl, h⟩
      · rw [hpayment] at hscript
        cases hscript

variable {network : NetworkIdKind} {α : Type}
  {decode : PlutusData → Except DataDecodingError α} {requested : α}
  {submitsNothing : OgmiosClient CborBytes → Prop}

private theorem converges_sign (ctx : TransactionContext CborBytes) :
    Converges csl ledger network validator policy decode requested submitsNothing (ctx.sign tx) ↔
      Converges csl ledger network validator policy decode requested submitsNothing tx := by
  constructor
  · rintro ⟨hmints, ⟨hmint, hspend⟩, houtput, hsecond⟩
    exact ⟨hmints, ⟨hmint, hspend⟩, houtput, hsecond⟩
  · rintro ⟨hmints, ⟨hmint, hspend⟩, houtput, hsecond⟩
    exact ⟨hmints, ⟨hmint, hspend⟩, houtput, hsecond⟩

/-- The requests are about a transaction that was built, signed or not. -/
theorem converges_of_mem_evaluateAndSubmit {client : OgmiosClient CborBytes}
    {texts : RequestTexts} {build : ExUnits → Except JsError Transaction} {request : Request}
    (h : request ∈ (evaluateAndSubmit csl client ctx texts build).1) :
    ∃ exUnits tx, build exUnits = .ok tx ∧
      (Converges csl ledger network validator policy decode requested submitsNothing request.tx ↔
        Converges csl ledger network validator policy decode requested submitsNothing tx) := by
  obtain ⟨exUnits, tx, hbuild, hsent⟩ := mem_evaluateAndSubmit h
  refine ⟨exUnits, tx, hbuild, ?_⟩
  rcases hsent with hsent | hsent
  · rw [hsent]
  · rw [hsent, converges_sign]

/-- A second upsert submits nothing if it finds the encoded value. -/
def SecondSubmitsNothing (csl : Csl CborBytes) (network : NetworkIdKind)
    (validator : PlutusScript) (encoded : PlutusData)
    (submitsNothing : OgmiosClient CborBytes → Prop) : Prop :=
  ∀ client ledger utxo parameters, Serves client ledger → client.network = .ok network →
    client.protocolParameters = .ok parameters →
    utxosAt ledger (validator.address csl.blake2b network) = [utxo] →
    utxo.datum = some (csl.plutusDataToBytes encoded) → submitsNothing client

variable {encoded : PlutusData}

/-- A transaction that has the output for the encoded value, and spends what
was at the address, converges if it is witnessed. -/
theorem converges_iff_witnessed (hdecode : decode encoded = .ok requested)
    (hbalanced : Balanced (utxosAt ledger ctx.paymentAddress) ctx.paymentAddress builder builder')
    (hcontains : Contains csl builder' tx) {coin : Nat}
    (houtputs : builder.outputs = [⟨validator.address csl.blake2b network,
      ⟨coin, some (oneToken csl policy)⟩, some encoded⟩])
    (hmints : (utxosAt ledger (validator.address csl.blake2b network) = [] ∧
        tx.body.mint = [(policy.scriptHash csl.blake2b, emptyAssetName, 1)]) ∨
      ∃ utxo, utxosAt ledger (validator.address csl.blake2b network) = [utxo] ∧
        tx.body.mint = [] ∧ utxo.utxoId ∈ tx.body.inputs)
    (hsecond : SecondSubmitsNothing csl network validator encoded submitsNothing) :
    Converges csl ledger network validator policy decode requested submitsNothing tx ↔
      Witnessed csl ledger tx := by
  refine ⟨Converges.witnessed, fun hwitnessed => ?_⟩
  have houtput := outputs_at hbalanced hcontains houtputs rfl
    (paymentAddress_ne ctx validator network)
  refine ⟨hmints, hwitnessed, ⟨_, encoded, houtput, rfl, rfl, hdecode⟩, ?_⟩
  rintro client hserves hnetwork ⟨parameters, hparameters⟩
  have hspent : ∀ utxo ∈ utxosAt ledger (validator.address csl.blake2b network),
      utxo.utxoId ∈ tx.body.inputs := by
    intro utxo hutxo
    rcases hmints with ⟨hnone, -⟩ | ⟨spent, hspent, -, hinput⟩
    · rw [hnone] at hutxo
      cases hutxo
    · rw [hspent] at hutxo
      obtain rfl := List.mem_singleton.mp hutxo
      exact hinput
  obtain ⟨utxo, hutxo, hdatum⟩ := utxosAt_applyTx csl hspent houtput
  exact hsecond client _ utxo parameters hserves hnetwork hparameters hutxo hdatum

/-- If nothing is at the address, minting converges. -/
theorem mintTokenTx_converges (hexact : csl.Exact) (hids : (ledger.map OgmiosUtxo.utxoId).Nodup)
    (hpayment : ctx.paymentKeyUtxos = utxosAt ledger ctx.paymentAddress)
    (hnone : utxosAt ledger (validator.address csl.blake2b ctx.network) = [])
    (hdecode : decode encoded = .ok requested)
    (hsecond : SecondSubmitsNothing csl ctx.network validator encoded submitsNothing)
    {exUnits : ExUnits} (h : mintTokenTx csl validator policy encoded ctx exUnits = .ok tx) :
    Converges csl ledger ctx.network validator policy decode requested submitsNothing tx := by
  obtain ⟨builder, builder', coin, hinputs, hmint, houtputs, hbalanced, hcontains⟩ :=
    mintTokenTx_eq_ok hexact h
  rw [hpayment] at hbalanced
  refine (converges_iff_witnessed hdecode hbalanced hcontains houtputs ?_ hsecond).mpr
    (witnessed_mint hids hbalanced hcontains hinputs hmint)
  refine .inl ⟨hnone, ?_⟩
  rw [hcontains.mint, hbalanced.mint, hmint]
  rfl

/-- If an output is at the address, updating it converges with a witness that
has the hash of the validator. -/
theorem updateTokenTx_converges_iff (hexact : csl.Exact)
    (hids : (ledger.map OgmiosUtxo.utxoId).Nodup)
    (hpayment : ctx.paymentKeyUtxos = utxosAt ledger ctx.paymentAddress)
    {utxo : OgmiosUtxo CborBytes}
    (hutxos : utxosAt ledger (validator.address csl.blake2b ctx.network) = [utxo])
    (hdecode : decode encoded = .ok requested)
    (hsecond : SecondSubmitsNothing csl ctx.network validator encoded submitsNothing)
    {witness : PlutusScript} {exUnits : ExUnits}
    (h : updateTokenTx csl validator policy witness encoded utxo ctx exUnits = .ok tx) :
    Converges csl ledger ctx.network validator policy decode requested submitsNothing tx ↔
      witness.scriptHash csl.blake2b = validator.scriptHash csl.blake2b := by
  obtain ⟨builder, builder', coin, amount, hinputs, hmint, houtputs, hbalanced, hcontains⟩ :=
    updateTokenTx_eq_ok hexact h
  rw [hpayment] at hbalanced
  obtain ⟨hutxo, haddress⟩ := List.mem_filter.mp
    (show utxo ∈ utxosAt ledger (validator.address csl.blake2b ctx.network) by simp [hutxos])
  have hcredential : utxo.address.payment = .scripthash (validator.scriptHash csl.blake2b) := by
    rw [of_decide_eq_true haddress]
    rfl
  rw [converges_iff_witnessed hdecode hbalanced hcontains houtputs ?_ hsecond]
  · exact witnessed_update_iff hids hbalanced hcontains hutxo hcredential hinputs hmint
  · refine .inr ⟨utxo, hutxos, ?_, ?_⟩
    · rw [hcontains.mint, hbalanced.mint, hmint]
      rfl
    · obtain ⟨added, hadded, -⟩ := hbalanced.inputs
      rw [hcontains.inputs, hadded, hinputs]
      exact List.mem_cons_self

variable {client : OgmiosClient CborBytes} [DecidableEq α]

/-- What the two upserts have in common: every transaction converges if it
mints the token, or if the witness for the update has the hash of the
validator. -/
theorem upsert_converges_iff (hexact : csl.Exact) (hserves : Serves client ledger)
    (hids : (ledger.map OgmiosUtxo.utxoId).Nodup) (hnetwork : client.network = .ok network)
    {scripts : NetworkIdKind → Except String (PlutusScript × PlutusScript)}
    (hscripts : scripts network = .ok (validator, policy))
    (hone : (utxosAt ledger (validator.address csl.blake2b network)).length ≤ 1)
    (hdecode : decode encoded = .ok requested)
    {decodeCurrent : PlutusData → Except DataDecodingError α} {value : α}
    {paymentSigningKey : FixedBytes 32}
    (hsecond : ∀ paymentKeyHash, csl.privateKeyHash paymentSigningKey = .ok paymentKeyHash →
      SecondSubmitsNothing csl network validator encoded submitsNothing)
    {witness : PlutusScript → PlutusScript → PlutusScript}
    {insertTexts updateTexts : RequestTexts} {undecodable : String} {request : Request}
    (hmem : request ∈ (upsert csl client
      ⟨fun validator policy => mintTokenTx csl validator policy encoded,
        fun validator policy =>
          updateTokenTx csl validator policy (witness validator policy) encoded⟩
      insertTexts updateTexts value (findCurrent csl client scripts
        (getCurrent csl decodeCurrent undecodable) paymentSigningKey)).1) :
    Converges csl ledger network validator policy decode requested submitsNothing request.tx ↔
      utxosAt ledger (validator.address csl.blake2b network) = [] ∨
        (witness validator policy).scriptHash csl.blake2b = validator.scriptHash csl.blake2b := by
  obtain ⟨⟨ctx, validator', policy', current⟩, hfound, hcase⟩ := mem_upsert hmem
  obtain ⟨hnetwork', hkey, hpayment, hscripts', hcurrent⟩ := findCurrent_eq_ok hserves hfound
  simp only at hnetwork' hkey hpayment hscripts' hcurrent hcase
  obtain rfl : network = ctx.network := Except.ok.inj (hnetwork.symm.trans hnetwork')
  obtain ⟨rfl, rfl⟩ := Prod.mk.inj (Except.ok.inj (hscripts.symm.trans hscripts'))
  have hhead := getCurrent_eq_ok hcurrent
  have hsecond' := hsecond ctx.paymentKeyHash hkey
  rcases hcase with ⟨rfl, hrequest⟩ | ⟨utxo, currentValue, rfl, hrequest⟩
  · have hnone : utxosAt ledger (validator.address csl.blake2b ctx.network) = [] :=
      List.head?_eq_none_iff.mp hhead.symm
    obtain ⟨exUnits, tx, hbuild, hsent⟩ := converges_of_mem_evaluateAndSubmit hrequest
    have hconverges := mintTokenTx_converges hexact hids hpayment hnone hdecode hsecond' hbuild
    exact iff_of_true (hsent.mpr hconverges) (.inl hnone)
  · have hutxos : utxosAt ledger (validator.address csl.blake2b ctx.network) = [utxo] := by
      obtain ⟨rest, hrest⟩ := List.head?_eq_some_iff.mp hhead.symm
      have hempty : rest = [] := by
        rw [hrest, List.length_cons] at hone
        exact List.length_eq_zero_iff.mp (by omega)
      rw [hrest, hempty]
    obtain ⟨exUnits, tx, hbuild, hsent⟩ := converges_of_mem_evaluateAndSubmit hrequest
    have hiff := updateTokenTx_converges_iff hexact hids hpayment hutxos hdecode hsecond' hbuild
    have hne : utxosAt ledger (validator.address csl.blake2b ctx.network) ≠ [] := by
      rw [hutxos]
      exact List.cons_ne_nil _ _
    rw [or_iff_right hne, ← hiff]
    exact hsent

end Result

private theorem candidateKey_injective : Function.Injective candidateKey := by
  have hbytes : Function.Injective fun key : Bytes => key.map UInt8.toNat :=
    List.map_injective_iff.mpr fun _ _ => UInt8.toNat_inj.mp
  rintro ⟨sidechain, aura, grandpa⟩ ⟨sidechain', aura', grandpa'⟩ h
  simp only [candidateKey, List.map_cons, List.map_nil, List.cons.injEq, and_true] at h
  obtain ⟨hsidechain, haura, hgrandpa⟩ := h
  rw [PermissionedCandidateData.mk.injEq]
  exact ⟨hbytes hsidechain, hbytes haura, hbytes hgrandpa⟩

/-- The order of the candidates does not matter. -/
theorem sortCandidates_eq_of_perm {candidates candidates' : List PermissionedCandidateData}
    (h : candidates.Perm candidates') : sortCandidates candidates = sortCandidates candidates' :=
  sortByKey_eq_of_perm candidateKey candidateKey_injective h

private theorem sortCandidates_sortCandidates (candidates : List PermissionedCandidateData) :
    sortCandidates (sortCandidates candidates) = sortCandidates candidates :=
  sortCandidates_eq_of_perm (sortByKey_perm candidateKey candidates)

section Upserts

variable {csl : Csl CborBytes} {client : OgmiosClient CborBytes}
  {ledger : List (OgmiosUtxo CborBytes)} {network : NetworkIdKind}
  {scripts : UtxoId → NetworkIdKind → Except String (PlutusScript × PlutusScript)}
  {genesisUtxo : UtxoId} {validator policy : PlutusScript} {paymentSigningKey : FixedBytes 32}

/-- Every transaction of `upsert_d_param` converges. -/
theorem upsertDParam_converges (hexact : csl.Exact) (hserves : Serves client ledger)
    (hids : (ledger.map OgmiosUtxo.utxoId).Nodup) (hnetwork : client.network = .ok network)
    (hscripts : scripts genesisUtxo network = .ok (validator, policy))
    (hone : (utxosAt ledger (validator.address csl.blake2b network)).length ≤ 1)
    {dParameter : DParameter} {request : Request}
    (hmem : request ∈ (upsertDParam csl client scripts genesisUtxo dParameter
      paymentSigningKey).1) :
    Converges csl ledger network validator policy decodeDParameter dParameter
      (fun client => upsertDParam csl client scripts genesisUtxo dParameter paymentSigningKey =
        ([], .ok none)) request.tx := by
  have hdecode := decode_dParameterToPlutusData dParameter
  refine (upsert_converges_iff hexact hserves hids hnetwork hscripts hone hdecode ?_ hmem).mpr
    (.inr rfl)
  intro paymentKeyHash hkey client ledger utxo parameters hserves hnetwork hparameters hutxo hdatum
  exact upsert_current hexact hdecode hserves hnetwork hparameters hkey hscripts hutxo hdatum
    _ _ _ _

/-- A transaction of `upsert_permissioned_candidates` converges if it mints the
token, or if the two scripts have the same hash. -/
theorem upsertPermissionedCandidates_converges_iff (hexact : csl.Exact)
    (hserves : Serves client ledger) (hids : (ledger.map OgmiosUtxo.utxoId).Nodup)
    (hnetwork : client.network = .ok network)
    (hscripts : scripts genesisUtxo network = .ok (validator, policy))
    (hone : (utxosAt ledger (validator.address csl.blake2b network)).length ≤ 1)
    {candidates : List PermissionedCandidateData} {request : Request}
    (hmem : request ∈ (upsertPermissionedCandidates csl client scripts genesisUtxo candidates
      paymentSigningKey).1) :
    Converges csl ledger network validator policy decodePermissionedCandidates
        (sortCandidates candidates)
        (fun client => ∀ permuted : List PermissionedCandidateData, permuted.Perm candidates →
          upsertPermissionedCandidates csl client scripts genesisUtxo permuted
            paymentSigningKey = ([], .ok none)) request.tx ↔
      utxosAt ledger (validator.address csl.blake2b network) = [] ∨
        policy.scriptHash csl.blake2b = validator.scriptHash csl.blake2b := by
  have hdecode := decode_permissionedCandidatesToPlutusData (sortCandidates candidates)
  refine upsert_converges_iff hexact hserves hids hnetwork hscripts hone hdecode ?_ hmem
  intro paymentKeyHash hkey client ledger utxo parameters hserves hnetwork hparameters hutxo hdatum
    permuted hperm
  have hcurrent : (decodePermissionedCandidates (permissionedCandidatesToPlutusData
      (sortCandidates candidates))).map sortCandidates = .ok (sortCandidates permuted) := by
    rw [decodePermissionedCandidates, hdecode, sortCandidates_eq_of_perm hperm]
    exact congrArg Except.ok (sortCandidates_sortCandidates candidates)
  exact upsert_current hexact hcurrent hserves hnetwork hparameters hkey hscripts hutxo hdatum
    _ _ _ _

/-- With at most one output at the validator address, every transaction of
`upsert_d_param` converges; those of `upsert_permissioned_candidates` do if they
mint the token, or if the two scripts have the same hash. -/
theorem upserts_converge (hexact : csl.Exact) (hserves : Serves client ledger)
    (hids : (ledger.map OgmiosUtxo.utxoId).Nodup) (hnetwork : client.network = .ok network)
    (genesisUtxo : UtxoId) (paymentSigningKey : FixedBytes 32) :
    (∀ dParameterScripts validator policy,
      dParameterScripts genesisUtxo network = .ok (validator, policy) →
      (utxosAt ledger (validator.address csl.blake2b network)).length ≤ 1 →
      ∀ dParameter, ∀ request ∈ (upsertDParam csl client dParameterScripts genesisUtxo dParameter
          paymentSigningKey).1,
        Converges csl ledger network validator policy decodeDParameter dParameter
          (fun client => upsertDParam csl client dParameterScripts genesisUtxo dParameter
            paymentSigningKey = ([], .ok none)) request.tx) ∧
      ∀ permissionedCandidatesScripts validator policy,
        permissionedCandidatesScripts genesisUtxo network = .ok (validator, policy) →
        (utxosAt ledger (validator.address csl.blake2b network)).length ≤ 1 →
        ∀ candidates, ∀ request ∈ (upsertPermissionedCandidates csl client
            permissionedCandidatesScripts genesisUtxo candidates paymentSigningKey).1,
          Converges csl ledger network validator policy decodePermissionedCandidates
              (sortCandidates candidates)
              (fun client => ∀ permuted : List PermissionedCandidateData,
                permuted.Perm candidates → upsertPermissionedCandidates csl client
                  permissionedCandidatesScripts genesisUtxo permuted paymentSigningKey =
                    ([], .ok none)) request.tx ↔
            utxosAt ledger (validator.address csl.blake2b network) = [] ∨
              policy.scriptHash csl.blake2b = validator.scriptHash csl.blake2b := by
  constructor
  · intro scripts validator policy hscripts hone dParameter request hmem
    exact upsertDParam_converges hexact hserves hids hnetwork hscripts hone hmem
  · intro scripts validator policy hscripts hone candidates request hmem
    exact upsertPermissionedCandidates_converges_iff hexact hserves hids hnetwork hscripts hone
      hmem

end Upserts

/-! ## An update

The library of this example takes all outputs of the payment key as inputs, and
asks for collateral.  Another candidate is to be stored than the one that is. -/

/-- A hash that tells one-byte scripts apart. -/
def exampleBlake2b (bytes : Bytes) : ScriptHash := FixedBytes.replicate 28 (bytes.getD 1 0)

/-- All outputs are spent, for a fixed change. -/
def addAll (builder : TransactionBuilder) (utxos : List TransactionUnspentOutput)
    (change : Address) : TransactionBuilder :=
  { builder with
    inputs := builder.inputs ++ utxos.map fun u => ⟨u.input, u.output.amount, none⟩
    outputs := builder.outputs ++ [⟨change, ⟨9000000, none⟩, none⟩] }

/-- A library that accepts every transaction. -/
def exampleCsl : Csl PlutusData where
  blake2b := exampleBlake2b
  newAssetName := .ok
  plutusDataFromBytes := .ok
  plutusDataToBytes := id
  plutusDataDebug := fun _ => "data"
  privateKeyHash := fun _ => .ok (FixedBytes.replicate 28 9)
  buildConfig := .ok
  calculateAda := fun _ _ => .ok 1000000
  addAsset := fun mints mint => .ok (mints ++ [mint])
  addOutput := fun builder output => .ok { builder with outputs := builder.outputs ++ [output] }
  addInputsFromAndChange := fun _ _ _ => .error "Missing collateral"
  addInputsFromAndChangeWithCollateralReturn := fun builder utxos change _ =>
    .ok (addAll builder utxos change)
  calcScriptDataHash := fun builder _ =>
    .ok { builder with scriptDataHash := some (FixedBytes.replicate 32 5) }
  buildTx := fun builder => .ok
    { body :=
        { inputs := builder.inputs.map TxInput.input
          outputs := builder.outputs
          mint := builder.mint.map fun m =>
            (m.witness.script.scriptHash exampleBlake2b, m.assetName, m.amount)
          requiredSigners := builder.requiredSigners
          collateral := builder.collateral.map TxInput.input }
      scriptWitnesses :=
        (builder.inputs.filterMap fun i => i.witness.map fun w => (.spend i.input, w)) ++
          builder.mint.map fun m => (.mint (m.witness.script.scriptHash exampleBlake2b), m.witness)
      vkeys := [] }
  hash := fun _ => FixedBytes.replicate 32 7
  toHex := fun _ => "transaction"

/-- The example library builds what it is told to. -/
theorem exampleCsl_exact : exampleCsl.Exact where
  addAsset h := (Except.ok.inj h).symm
  addOutput h := (Except.ok.inj h).symm
  addInputsFromAndChange _ h := by cases h
  addInputsFromAndChangeWithCollateralReturn := by
    intro builder builder' utxos unspent change percentage hunspent h
    obtain rfl := Except.ok.inj h
    refine ⟨⟨_, rfl, ?_⟩, rfl, ⟨_, rfl, ?_⟩⟩
    · intro i hi
      obtain ⟨u, hu, rfl⟩ := List.mem_map.mp hi
      have hid : u.input ∈ utxos.map OgmiosUtxo.utxoId := by
        rw [← toCslUtxos_eq_ok hunspent]
        exact List.mem_map_of_mem hu
      exact ⟨rfl, List.mem_map.mp hid⟩
    · intro o ho
      rw [List.mem_singleton.mp ho]
  calcScriptDataHash h := ⟨_, (Except.ok.inj h).symm⟩
  buildTx h := by
    obtain rfl := Except.ok.inj h
    exact ⟨fun _ => Iff.rfl, rfl, rfl, fun _ => Iff.rfl⟩
  plutusDataFromBytes _ := rfl

/-- The validator, a script of one byte. -/
def exampleValidator : PlutusScript := ⟨[1], .plutusV2⟩

/-- The policy, a script of one byte. -/
def examplePolicy : PlutusScript := ⟨[2], .plutusV2⟩

/-- The two scripts, whatever the genesis. -/
def exampleScripts (_ : UtxoId) (_ : NetworkIdKind) :
    Except String (PlutusScript × PlutusScript) :=
  .ok (exampleValidator, examplePolicy)

/-- The candidate that is stored. -/
def storedCandidate : PermissionedCandidateData := ⟨[1], [1], [1]⟩

/-- The candidate to be stored. -/
def requestedCandidate : PermissionedCandidateData := ⟨[2], [2], [2]⟩

/-- The output that pays. -/
def paymentUtxo : OgmiosUtxo PlutusData :=
  ⟨⟨FixedBytes.replicate 32 1, 0⟩, keyHashAddress (FixedBytes.replicate 28 9) .testnet,
    ⟨10000000, []⟩, none⟩

/-- The output that stores a candidate. -/
def candidatesUtxo : OgmiosUtxo PlutusData :=
  ⟨⟨FixedBytes.replicate 32 2, 0⟩, exampleValidator.address exampleBlake2b .testnet,
    ⟨1000000, [(examplePolicy.scriptHash exampleBlake2b, [⟨[], 1⟩])]⟩,
    some (permissionedCandidatesToPlutusData [storedCandidate])⟩

/-- The protocol parameters of the example. -/
def exampleParameters : ProtocolParameters :=
  ⟨⟨500000000, []⟩, ⟨2000000, []⟩, 4310, [], 3, 150⟩

/-- Ogmios over a ledger. -/
def exampleClient (ledger : List (OgmiosUtxo PlutusData)) : OgmiosClient PlutusData where
  network := .ok .testnet
  protocolParameters := .ok exampleParameters
  queryUtxos := fun address => .ok (utxosAt ledger address)
  evaluateTransaction := fun _ => .ok [⟨1000, 2000⟩]
  submitTransaction := fun tx => .ok (exampleCsl.hash tx.body)

/-- The genesis UTXO. -/
def exampleUtxo : UtxoId := ⟨FixedBytes.replicate 32 0, 0⟩

/-- The context of the paying key. -/
def exampleCtx : TransactionContext PlutusData :=
  ⟨FixedBytes.replicate 28 9, [paymentUtxo], .testnet, exampleParameters⟩

/-- The transaction for the update, with the policy as the witness. -/
def exampleTx (exUnits : ExUnits) : Transaction where
  body :=
    { inputs := [candidatesUtxo.utxoId, paymentUtxo.utxoId]
      outputs :=
        [⟨exampleValidator.address exampleBlake2b .testnet,
            ⟨1000000, some (oneToken exampleCsl examplePolicy)⟩,
            some (permissionedCandidatesToPlutusData [requestedCandidate])⟩,
          ⟨keyHashAddress (FixedBytes.replicate 28 9) .testnet, ⟨9000000, none⟩, none⟩]
      mint := []
      requiredSigners := [FixedBytes.replicate 28 9]
      collateral := [paymentUtxo.utxoId] }
  scriptWitnesses := [(.spend candidatesUtxo.utxoId, ⟨examplePolicy, emptyRedeemer exUnits⟩)]
  vkeys := []

theorem maxPossibleCollaterals_exampleCtx : maxPossibleCollaterals exampleCtx = [paymentUtxo] := by
  simp [maxPossibleCollaterals, exampleCtx, exampleParameters, sortByKey]

private theorem exampleTx_eq (exUnits : ExUnits) :
    updatePermissionedCandidatesTx exampleCsl exampleValidator examplePolicy [requestedCandidate]
      candidatesUtxo exampleCtx exUnits = .ok (exampleTx exUnits) := by
  simp only [updatePermissionedCandidatesTx, updateTokenTx, balanceUpdateAndBuild,
    maxPossibleCollaterals_exampleCtx]
  rfl

private theorem exampleTx_requests :
    (upsertPermissionedCandidates exampleCsl (exampleClient [paymentUtxo, candidatesUtxo])
      exampleScripts exampleUtxo [requestedCandidate] (FixedBytes.replicate 32 3)).1 =
        [.evaluate (exampleTx ⟨0, 0⟩), .submit (exampleCtx.sign (exampleTx ⟨1000, 2000⟩))] := by
  have hsort : ∀ candidate, sortCandidates [candidate] = [candidate] := by
    simp [sortCandidates, sortByKey]
  have hfound : findCurrent exampleCsl (exampleClient [paymentUtxo, candidatesUtxo])
      (exampleScripts exampleUtxo) (getCurrentPermissionedCandidates exampleCsl)
      (FixedBytes.replicate 32 3) =
        .ok ⟨exampleCtx, exampleValidator, examplePolicy,
          some (candidatesUtxo, [storedCandidate])⟩ := by
    rw [← hsort storedCandidate]
    rfl
  have hne : [storedCandidate] ≠ [requestedCandidate] := by decide
  simp only [upsertPermissionedCandidates, hfound, hsort, upsert, if_neg hne, evaluateAndSubmit,
    exampleTx_eq]
  simp only [exampleClient, getFirstValidatorBudget, Except.bind, exampleTx_eq]

/-- The update of the candidates is not witnessed: the script of the policy
does not have the hash of the validator address. -/
theorem upsertPermissionedCandidates_update :
    ∃ request ∈ (upsertPermissionedCandidates exampleCsl
        (exampleClient [paymentUtxo, candidatesUtxo]) exampleScripts exampleUtxo
        [requestedCandidate] (FixedBytes.replicate 32 3)).1,
      request.tx.scriptWitnesses =
          [(.spend candidatesUtxo.utxoId, ⟨examplePolicy, emptyRedeemer ⟨0, 0⟩⟩)] ∧
        ¬ Witnessed exampleCsl [paymentUtxo, candidatesUtxo] request.tx := by
  refine ⟨.evaluate (exampleTx ⟨0, 0⟩), ?_, rfl, ?_⟩
  · rw [exampleTx_requests]
    exact List.mem_cons_self
  · intro h
    obtain ⟨witness, hmem, hhash⟩ := h.spend candidatesUtxo
      (List.mem_cons_of_mem _ (List.mem_singleton_self _)) List.mem_cons_self
      (exampleValidator.scriptHash exampleBlake2b) rfl
    obtain ⟨-, rfl⟩ := Prod.mk.inj (List.mem_singleton.mp hmem)
    exact absurd hhash (by decide)

/-- Without an output at the validator address, the D-parameter is inserted. -/
theorem upserts_converge_insert :
    ∃ request ∈ (upsertDParam exampleCsl (exampleClient [paymentUtxo]) exampleScripts exampleUtxo
        ⟨1, 2⟩ (FixedBytes.replicate 32 3)).1,
      Converges exampleCsl [paymentUtxo] .testnet exampleValidator examplePolicy decodeDParameter
        ⟨1, 2⟩ (fun client => upsertDParam exampleCsl client exampleScripts exampleUtxo ⟨1, 2⟩
          (FixedBytes.replicate 32 3) = ([], .ok none)) request.tx := by
  obtain ⟨tx, htx⟩ : ∃ tx, mintDParamTokenTx exampleCsl exampleValidator examplePolicy ⟨1, 2⟩
      exampleCtx ⟨0, 0⟩ = .ok tx := by
    simp only [mintDParamTokenTx, mintTokenTx, balanceUpdateAndBuild,
      maxPossibleCollaterals_exampleCtx]
    exact ⟨_, rfl⟩
  have hfound : findCurrent exampleCsl (exampleClient [paymentUtxo])
      (exampleScripts exampleUtxo) (getCurrentDParameter exampleCsl)
      (FixedBytes.replicate 32 3) =
        .ok ⟨exampleCtx, exampleValidator, examplePolicy, none⟩ := rfl
  have hmem : .evaluate tx ∈ (upsertDParam exampleCsl (exampleClient [paymentUtxo])
      exampleScripts exampleUtxo ⟨1, 2⟩ (FixedBytes.replicate 32 3)).1 := by
    simp only [upsertDParam, hfound, upsert]
    exact evaluate_mem_evaluateAndSubmit htx
  refine ⟨_, hmem, ?_⟩
  exact (upserts_converge exampleCsl_exact (fun _ => rfl) (by decide) rfl exampleUtxo
    (FixedBytes.replicate 32 3)).1 exampleScripts exampleValidator examplePolicy rfl (by decide)
      ⟨1, 2⟩ _ hmem

end PartnerChains.Ports.UpsertConvergence
