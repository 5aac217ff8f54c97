import PartnerChains.Ports.TokenHolders

/-!
# Databases with a common prefix

Two databases that follow the same chain up to a block hold the same
transactions up to there, under row identifiers of their own.  `outputsUpTo`,
`inputsUpTo` and `tokensUpTo` are what a database says about the chain up to a
block, without identifiers, and `SamePrefix` states that two databases agree
on it.  What comes after the block, and the `datum` table, may differ.

The outputs in force in an epoch before that of the block correspond to each
other (`SamePrefix.outputInForce`), and so do the outputs that their
transactions consumed (`SamePrefix.consumedOutputs_perm`), the stake and the
last holders of a token.
-/

namespace PartnerChains.Ports.MainchainPrefix

open PartnerChains.Ports.Domain
open PartnerChains.Ports.DbSync
open PartnerChains.Ports.NativeTokenQuery
open PartnerChains.Ports.CandidatesQuery
open PartnerChains.Ports.CandidatesDataSource
open PartnerChains.Ports.LedgerOutputs
open PartnerChains.Ports.RegistrationsInForce
open PartnerChains.Ports.TokenHolders
open PartnerChains.Verified.Relational

variable {J : Type}

/-! ## The chain up to a block -/

/-- What can be seen of a block row without the identifiers of the database. -/
structure BlockView where
  hash : McBlockHash
  epochNo : Option Nat
  slotNo : Option Nat
  blockNo : Option Nat
deriving DecidableEq

/-- What can be seen of a transaction row. -/
structure TxView where
  hash : McTxHash
  block : BlockView
  blockIndex : Nat
deriving DecidableEq

/-- What can be seen of an output row; its datum is only a hash. -/
structure OutputView where
  tx : TxView
  index : Nat
  address : MainchainAddress
  dataHash : Option DatumHash
deriving DecidableEq

/-- The view of a row of `block`. -/
def blockView (b : BlockRow) : BlockView := ⟨b.hash, b.epochNo, b.slotNo, b.blockNo⟩

/-- The view of a row of `tx` with its block. -/
def txView (t : TxRow) (b : BlockRow) : TxView := ⟨t.hash, blockView b, t.blockIndex⟩

/-- The view of an output with its origin. -/
def outputView (r : OriginRow) : OutputView :=
  ⟨txView r.tx r.block, r.txOut.index, r.txOut.address, r.txOut.dataHash⟩

/-- The block has a number that is at most the one of `R`. -/
def BlockView.upTo (v : BlockView) (R : Block) : Bool :=
  v.blockNo.any fun n => decide (n ≤ R.blockNo)

section UpTo

variable (db : Db J) (R : Block)

/-- The outputs made up to `R`. -/
def outputsUpTo : List OutputView :=
  ((db.txOut.filterMap (origin db)).map outputView).filter fun v => v.tx.block.upTo R

/-- The transactions with the outputs that they consumed. -/
def inputsUpTo : List (TxView × UtxoId) :=
  (db.tx.flatMap fun t => (db.block.filter fun b => decide (b.id = t.blockId)).flatMap fun b =>
    (consumedOutputs db t).map fun u => (txView t b, u)).filter fun v => v.1.block.upTo R

/-- The outputs with the assets that they hold. -/
def tokensUpTo : List (OutputView × Asset) :=
  ((db.txOut.filterMap (origin db)).flatMap fun r =>
    ((db.multiAsset.map fun a => Asset.mk a.policy a.name).filter fun asset =>
      holdsToken db asset r.txOut).map fun asset => (outputView r, asset)).filter
        fun v => v.1.tx.block.upTo R

/-- The stake distribution of an epoch. -/
def stakeOf (epoch : Nat) : List (MainchainAddressHash × UInt64) :=
  (stakeRows db epoch).map fun row => (row.2.hashRaw, row.1.amount)

/-- The nonces stored for an epoch. -/
def noncesOf (epoch : Nat) : List (Option (FixedBytes 32)) :=
  (db.epochParam.filter fun row => decide (row.epochNo = epoch)).map EpochParamRow.nonce

end UpTo

/-- Both databases hold the chain up to the block `R`, with the same stake and
at most one nonce for each epoch before that of `R`. -/
structure SamePrefix (db db' : Db J) (R : Block) : Prop where
  block : ∃ b ∈ db.block, b.decode = .ok R
  block' : ∃ b ∈ db'.block, b.decode = .ok R
  outputs : (outputsUpTo db R).Perm (outputsUpTo db' R)
  inputs : (inputsUpTo db R).Perm (inputsUpTo db' R)
  tokens : (tokensUpTo db R).Perm (tokensUpTo db' R)
  stake : ∀ epoch < R.epochNo, (stakeOf db epoch).Perm (stakeOf db' epoch)
  nonce : ∀ epoch < R.epochNo, (noncesOf db epoch).Perm (noncesOf db' epoch)
  one_nonce : ∀ epoch < R.epochNo, (noncesOf db epoch).length ≤ 1

variable {db db' : Db J} {R : Block}

theorem SamePrefix.symm (h : SamePrefix db db' R) : SamePrefix db' db R where
  block := h.block'
  block' := h.block
  outputs := h.outputs.symm
  inputs := h.inputs.symm
  tokens := h.tokens.symm
  stake epoch hlt := (h.stake epoch hlt).symm
  nonce epoch hlt := (h.nonce epoch hlt).symm
  one_nonce epoch hlt := (h.nonce epoch hlt).length_eq ▸ h.one_nonce epoch hlt

/-! ## Blocks before the epoch of the block -/

/-- An epoch before that of the block is bound to a query as it is. -/
theorem SamePrefix.epoch_lt (h : SamePrefix db db' R) {epoch : Nat} (hlt : epoch < R.epochNo) :
    epoch < 2 ^ 31 := by
  obtain ⟨b, hb, hdecode⟩ := h.block
  exact hlt.trans (Db.epochNo_lt hb (BlockRow.decode_eq_ok hdecode).2.2.1)

/-- Blocks of earlier epochs come before the block. -/
theorem SamePrefix.upTo (h : SamePrefix db db' R) {b : BlockRow} (hb : b ∈ db.block)
    (hn : b.blockNo.isSome) {epoch : Nat}
    (hepoch : (b.epochNo.any fun e => decide (e ≤ epoch)) = true) (hlt : epoch < R.epochNo) :
    (blockView b).upTo R = true := by
  obtain ⟨c, hc, hdecode⟩ := h.block
  obtain ⟨hcn, -, hce, -⟩ := BlockRow.decode_eq_ok hdecode
  obtain ⟨n, hn⟩ := Option.isSome_iff_exists.mp hn
  obtain ⟨e, -, he, -, -⟩ := Db.decode_ok hb hn
  simp only [he, Option.any_some, decide_eq_true_eq] at hepoch
  have hne : b ≠ c := by
    rintro rfl
    rw [he] at hce
    have heq := Option.some.inj hce
    omega
  simp only [BlockView.upTo, blockView, hn, Option.any_some, decide_eq_true_eq]
  rcases db.chain b hb c hc hne (by simp [hn]) (by simp [hcn]) with hbefore | hbefore
  · have hnumber := hbefore.blockNo
    simp only [hn, hcn, Option.getD_some] at hnumber
    omega
  · have hepochs := hbefore.epochNo
    simp only [he, hce, Option.getD_some] at hepochs
    omega

/-! ## Rows behind the views -/

private theorem mem_outputsUpTo {v : OutputView} :
    v ∈ outputsUpTo db R ↔ (∃ r, Created db r ∧ outputView r = v) ∧ v.tx.block.upTo R = true := by
  rw [outputsUpTo, List.mem_filter, List.mem_map]
  constructor
  · rintro ⟨⟨r, hr, rfl⟩, hupTo⟩
    obtain ⟨o, ho, horigin⟩ := List.mem_filterMap.mp hr
    have heq := (origin_eq_some horigin).1
    exact ⟨⟨r, ⟨heq ▸ ho, heq ▸ horigin⟩, rfl⟩, hupTo⟩
  · rintro ⟨⟨r, hr, rfl⟩, hupTo⟩
    exact ⟨⟨r, hr.mem, rfl⟩, hupTo⟩

private theorem mem_tokensUpTo {v : OutputView} {asset : Asset} :
    (v, asset) ∈ tokensUpTo db R ↔
      (∃ r, Created db r ∧ outputView r = v ∧ holdsToken db asset r.txOut = true) ∧
        v.tx.block.upTo R = true := by
  rw [tokensUpTo, List.mem_filter, List.mem_flatMap]
  constructor
  · rintro ⟨⟨r, hr, hv⟩, hupTo⟩
    obtain ⟨o, ho, horigin⟩ := List.mem_filterMap.mp hr
    have heq := (origin_eq_some horigin).1
    obtain ⟨asset', hasset, hpair⟩ := List.mem_map.mp hv
    obtain ⟨hview, rfl⟩ := Prod.mk.inj hpair
    exact ⟨⟨r, ⟨heq ▸ ho, heq ▸ horigin⟩, hview, (List.mem_filter.mp hasset).2⟩, hupTo⟩
  · rintro ⟨⟨r, hr, rfl, hholds⟩, hupTo⟩
    refine ⟨⟨r, hr.mem, List.mem_map.mpr ⟨asset, List.mem_filter.mpr ⟨?_, hholds⟩, rfl⟩⟩, hupTo⟩
    obtain ⟨m, -, hcond⟩ := List.any_eq_true.mp hholds
    obtain ⟨a, ha, hcond'⟩ := List.any_eq_true.mp (Bool.and_eq_true_iff.mp hcond).2
    simp only [Bool.and_eq_true, decide_eq_true_eq] at hcond'
    exact List.mem_map.mpr ⟨a, ha, by rw [hcond'.1.2, hcond'.2]⟩

/-- What the transactions up to `R` consume. -/
theorem mem_inputsUpTo {v : TxView} {u : UtxoId} :
    (v, u) ∈ inputsUpTo db R ↔
      (∃ t ∈ db.tx, ∃ b ∈ db.block, b.id = t.blockId ∧ txView t b = v ∧
        u ∈ consumedOutputs db t) ∧ v.block.upTo R = true := by
  simp only [inputsUpTo, List.mem_filter, List.mem_flatMap, List.mem_map, Prod.mk.injEq,
    decide_eq_true_eq]
  constructor
  · rintro ⟨⟨t, ht, b, ⟨hb, hid⟩, u', hu, hview, rfl⟩, hupTo⟩
    exact ⟨⟨t, ht, b, hb, hid, hview, hu⟩, hupTo⟩
  · rintro ⟨⟨t, ht, b, hb, hid, hview, hu⟩, hupTo⟩
    exact ⟨⟨t, ht, b, ⟨hb, hid⟩, u, hu, hview, rfl⟩, hupTo⟩

/-- An output is determined by its transaction and its index. -/
theorem created_eq_of_utxoId (h : Ledger db) {r r' : OriginRow} (hr : Created db r)
    (hr' : Created db r') (hhash : r.tx.hash = r'.tx.hash)
    (hindex : r.txOut.index = r'.txOut.index) : r = r' :=
  origin_eq_of_utxoId h hr.origin_eq hr'.origin_eq hr.txOut_mem hr'.txOut_mem hhash hindex

/-! ## Consumed outputs -/

private theorem mem_consumedOutputs {t : TxRow} {u : UtxoId} :
    u ∈ consumedOutputs db t ↔ ∃ i ∈ db.txIn, i.txInId = t.id ∧
      ∃ c ∈ db.tx, c.id = i.txOutId ∧ u = ⟨c.hash, i.txOutIndex⟩ := by
  simp only [consumedOutputs, List.mem_filterMap, List.mem_filter, decide_eq_true_eq,
    Option.map_eq_some_iff]
  constructor
  · rintro ⟨i, ⟨hi, hid⟩, c, hc, rfl⟩
    have hcid := List.find?_some hc
    exact ⟨i, hi, hid, c, List.mem_of_find?_eq_some hc, of_decide_eq_true hcid, rfl⟩
  · rintro ⟨i, hi, hid, c, hc, hcid, rfl⟩
    exact ⟨i, ⟨hi, hid⟩, c, find?_eq_some_of_key db.tx_pkey hc (by simp [hcid]) fun x _ hx =>
      (of_decide_eq_true hx).trans hcid.symm, rfl⟩

/-- A transaction consumes each output once. -/
theorem consumedOutputs_nodup (h : Ledger db) (t : TxRow) : (consumedOutputs db t).Nodup := by
  have hspent := List.pairwise_map.mp h.spent_once
  rw [consumedOutputs, List.Nodup, List.pairwise_filterMap]
  apply (hspent.sublist List.filter_sublist).imp
  intro i i' hne u hu u' hu' heq
  obtain ⟨c, hc, rfl⟩ := Option.map_eq_some_iff.mp hu
  obtain ⟨c', hc', rfl⟩ := Option.map_eq_some_iff.mp hu'
  have hcc : c = c' := List.inj_on_of_nodup_map db.unique_tx (List.mem_of_find?_eq_some hc)
    (List.mem_of_find?_eq_some hc') (congrArg UtxoId.txHash heq)
  have hid := List.find?_some hc
  have hid' := List.find?_some hc'
  apply hne
  rw [← of_decide_eq_true hid, ← of_decide_eq_true hid', hcc]
  exact Prod.ext rfl (congrArg UtxoId.index heq)

/-- The inputs of a transaction, from its view. -/
theorem mem_inputsUpTo_txView {t : TxRow} {b : BlockRow} (ht : t ∈ db.tx) (hb : b ∈ db.block)
    (hid : b.id = t.blockId) (hupTo : (blockView b).upTo R = true) {u : UtxoId} :
    (txView t b, u) ∈ inputsUpTo db R ↔ u ∈ consumedOutputs db t := by
  rw [mem_inputsUpTo]
  constructor
  · rintro ⟨⟨t', ht', b', -, -, hview, hu⟩, -⟩
    have heq : t' = t :=
      List.inj_on_of_nodup_map db.unique_tx ht' ht (congrArg TxView.hash hview)
    exact heq ▸ hu
  · intro hu
    exact ⟨⟨t, ht, b, hb, hid, rfl, hu⟩, hupTo⟩

/-- Databases with the same prefix agree on what a transaction consumes. -/
theorem SamePrefix.consumedOutputs_perm (hsame : SamePrefix db db' R) (h : Ledger db)
    (h' : Ledger db') {r r' : OriginRow} (hr : Created db r) (hr' : Created db' r')
    (hview : outputView r' = outputView r) (hupTo : (blockView r.block).upTo R = true) :
    (consumedOutputs db r.tx).Perm (consumedOutputs db' r'.tx) := by
  obtain ⟨-, ht, hb, -, hid⟩ := origin_eq_some hr.origin_eq
  obtain ⟨-, ht', hb', -, hid'⟩ := origin_eq_some hr'.origin_eq
  have htx : txView r'.tx r'.block = txView r.tx r.block := congrArg OutputView.tx hview
  have hblock : blockView r'.block = blockView r.block := congrArg TxView.block htx
  rw [List.perm_ext_iff_of_nodup (consumedOutputs_nodup h _) (consumedOutputs_nodup h' _)]
  intro u
  rw [← mem_inputsUpTo_txView ht hb hid.symm hupTo,
    ← mem_inputsUpTo_txView ht' hb' hid'.symm (hblock ▸ hupTo), htx]
  exact hsame.inputs.mem_iff

/-! ## Outputs in force -/

/-- Spending, from the views. -/
theorem spentUpTo_iff (hsame : SamePrefix db db' R) (h : Ledger db) {r : OriginRow}
    (hr : Created db r) {epoch : Nat} (hlt : epoch < R.epochNo) :
    SpentUpTo db r.txOut epoch ↔ ∃ v, (v, ⟨r.tx.hash, r.txOut.index⟩) ∈ inputsUpTo db R ∧
      (v.block.epochNo.any fun e => decide (e ≤ epoch)) = true := by
  obtain ⟨-, htx, -, htxId, -⟩ := origin_eq_some hr.origin_eq
  constructor
  · rintro ⟨i, hi, hout, hindex, t, ht, htid, b, hb, hbid, he⟩
    have hupTo := hsame.upTo hb (h.numbered i hi t ht htid b hb hbid) he hlt
    refine ⟨txView t b, (mem_inputsUpTo_txView ht hb hbid hupTo).mpr ?_, he⟩
    refine mem_consumedOutputs.mpr ⟨i, hi, htid.symm, r.tx, htx, ?_, by rw [hindex]⟩
    rw [← htxId, hout]
  · rintro ⟨v, hv, he⟩
    obtain ⟨⟨t, ht, b, hb, hbid, rfl, hu⟩, -⟩ := mem_inputsUpTo.mp hv
    obtain ⟨i, hi, hid, c, hc, hcid, heq⟩ := mem_consumedOutputs.mp hu
    have hcr : r.tx = c :=
      List.inj_on_of_nodup_map db.unique_tx htx hc (congrArg UtxoId.txHash heq)
    refine ⟨i, hi, ?_, congrArg UtxoId.index heq, t, ht, hid.symm, b, hb, hbid, he⟩
    rw [htxId, hcr, hcid]

theorem created_of_inForce {address : MainchainAddress} {epoch : Nat} {r : OriginRow}
    (hr : OutputInForce db address epoch r) : Created db r :=
  ⟨hr.txOut_mem, hr.origin_eq⟩

/-- An output in force in an earlier epoch is in force in both databases. -/
theorem SamePrefix.outputInForce (hsame : SamePrefix db db' R) (h : Ledger db) (h' : Ledger db')
    {address : MainchainAddress} {epoch : Nat} (hlt : epoch < R.epochNo) {r : OriginRow}
    (hr : OutputInForce db address epoch r) :
    ∃ r', OutputInForce db' address epoch r' ∧ outputView r' = outputView r := by
  have hcreated := created_of_inForce hr
  have hupTo := hsame.upTo hr.block_mem hr.numbered hr.created hlt
  obtain ⟨⟨r', hcreated', hview⟩, -⟩ := mem_outputsUpTo.mp
    (hsame.outputs.mem_iff.mp (mem_outputsUpTo.mpr ⟨⟨r, hcreated, rfl⟩, hupTo⟩))
  obtain ⟨-, htx', hblock', htxId', hblockId'⟩ := origin_eq_some hcreated'.origin_eq
  have hhash : r'.tx.hash = r.tx.hash := congrArg (fun v => v.tx.hash) hview
  have hindex : r'.txOut.index = r.txOut.index := congrArg OutputView.index hview
  have hblockNo : r'.block.blockNo = r.block.blockNo :=
    congrArg (fun v => v.tx.block.blockNo) hview
  have hepochNo : r'.block.epochNo = r.block.epochNo :=
    congrArg (fun v => v.tx.block.epochNo) hview
  have hunspent : ¬ SpentUpTo db' r'.txOut epoch := by
    rw [spentUpTo_iff hsame.symm h' hcreated' hlt]
    rintro ⟨v, hv, he⟩
    apply hr.unspent
    rw [spentUpTo_iff hsame h hcreated hlt]
    refine ⟨v, hsame.inputs.mem_iff.mpr ?_, he⟩
    rw [← hhash, ← hindex]
    exact hv
  refine ⟨r', ⟨hcreated'.txOut_mem, htx', hblock', htxId', hblockId', ?_, ?_, ?_, hunspent⟩, hview⟩
  · exact (congrArg OutputView.address hview).trans hr.address_eq
  · exact hblockNo ▸ hr.numbered
  · exact hepochNo ▸ hr.created

/-! ## Stake and nonce -/

private theorem sum_poolStakeRows_eq (db : Db J) (epoch : Nat) (hash : MainchainAddressHash) :
    ((poolStakeRows db epoch hash).map fun s => s.amount.toNat).sum =
      (((stakeOf db epoch).filter fun entry => decide (entry.1 = hash)).map
        fun entry => entry.2.toNat).sum := by
  rw [← map_fst_filter_stakeRows, stakeOf, List.filter_map, List.map_map, List.map_map]
  rfl

/-- Databases with the same prefix agree on the stake of past epochs. -/
theorem SamePrefix.stakeInForce_eq (hsame : SamePrefix db db' R) (lib : Libraries J)
    {epoch : Nat} (hlt : epoch < R.epochNo) (key : MainchainPublicKey) :
    stakeInForce lib db epoch key = stakeInForce lib db' epoch key := by
  have hperm := hsame.stake epoch hlt
  have hrows : (db.epochStake.any fun s => decide (s.epochNo = epoch)) =
      db'.epochStake.any fun s => decide (s.epochNo = epoch) := by
    rw [← Bool.not_inj_iff, Bool.eq_iff_iff, Bool.not_eq_true', Bool.not_eq_true',
      ← stakeRows_eq_nil_iff, ← stakeRows_eq_nil_iff]
    have hnil : ∀ db : Db J, stakeRows db epoch = [] ↔ stakeOf db epoch = [] := by
      intro db
      rw [stakeOf, List.map_eq_nil_iff]
    rw [hnil, hnil]
    exact ⟨fun hnil => (hnil ▸ hperm).symm.eq_nil, fun hnil => (hnil ▸ hperm).eq_nil⟩
  rw [stakeInForce, stakeInForce, hrows, sum_poolStakeRows_eq, sum_poolStakeRows_eq,
    ((hperm.filter _).map _).sum_eq]

/-- The nonce is the first one stored for the epoch. -/
theorem getEpochNonce_eq (db : Db J) {epoch : Nat} (hword : epoch < 2 ^ 31) :
    getEpochNonce db epoch =
      match (noncesOf db epoch).head? with
      | none => .ok none
      | some nonce => ((notNull "nonce" nonce).map FixedBytes.bytes).map some := by
  rw [getEpochNonce_of_lt hword, fetchOptional, noncesOf, List.head?_map]
  cases (db.epochParam.filter fun row => decide (row.epochNo = epoch)).head? <;> rfl

/-- Databases with the same prefix agree on the nonces of past epochs. -/
theorem SamePrefix.getEpochNonce_eq (hsame : SamePrefix db db' R) {epoch : Nat}
    (hlt : epoch < R.epochNo) : getEpochNonce db epoch = getEpochNonce db' epoch := by
  have hperm := hsame.nonce epoch hlt
  have hlength := hsame.one_nonce epoch hlt
  have heq : noncesOf db epoch = noncesOf db' epoch := by
    match hnonces : noncesOf db epoch, hlength with
    | [], _ => exact (hnonces ▸ hperm).nil_eq
    | [nonce], _ => exact (List.perm_singleton.mp (hnonces ▸ hperm).symm).symm
  have hword := hsame.epoch_lt hlt
  rw [MainchainPrefix.getEpochNonce_eq db hword, MainchainPrefix.getEpochNonce_eq db' hword, heq]

/-! ## Tokens -/

/-- Databases with the same prefix agree on the outputs with a token. -/
theorem SamePrefix.tokenOutput (hsame : SamePrefix db db' R) (h : Ledger db) {asset : Asset}
    {epoch : Nat} (hlt : epoch < R.epochNo) {r : OriginRow}
    (hr : r ∈ tokenOutputs db asset epoch) :
    ∃ r' ∈ tokenOutputs db' asset epoch, outputView r' = outputView r := by
  obtain ⟨hcreated, hholds, hepoch⟩ := mem_tokenOutputs.mp hr
  obtain ⟨n, hn⟩ := hcreated.numbered h hepoch
  have hupTo := hsame.upTo (origin_eq_some hcreated.origin_eq).2.2.1 (by simp [hn]) hepoch hlt
  obtain ⟨⟨r', hcreated', hview, hholds'⟩, -⟩ := mem_tokensUpTo.mp
    (hsame.tokens.mem_iff.mp (mem_tokensUpTo.mpr ⟨⟨r, hcreated, rfl, hholds⟩, hupTo⟩))
  have hepochNo : r'.block.epochNo = r.block.epochNo :=
    congrArg (fun v => v.tx.block.epochNo) hview
  exact ⟨r', mem_tokenOutputs.mpr ⟨hcreated', hholds', hepochNo ▸ hepoch⟩, hview⟩

theorem txPosition_eq_of_view {r r' : OriginRow} (hview : outputView r' = outputView r) :
    txPosition r'.tx r'.block = txPosition r.tx r.block := by
  rw [txPosition, txPosition, show r'.block.blockNo = r.block.blockNo from
    congrArg (fun v => v.tx.block.blockNo) hview, show r'.tx.blockIndex = r.tx.blockIndex from
    congrArg (fun v => v.tx.blockIndex) hview]

/-- Ties are the same in databases with the same prefix. -/
theorem SamePrefix.untied (hsame : SamePrefix db db' R) (h : Ledger db)
    {asset : Asset} {epoch : Nat} (hlt : epoch < R.epochNo) (huntied : Untied db' asset epoch) :
    Untied db asset epoch := by
  intro r hr s hs hposition
  obtain ⟨r', hr', hview⟩ := hsame.tokenOutput h hlt hr
  obtain ⟨s', hs', hview'⟩ := hsame.tokenOutput h hlt hs
  have heq : r' = s' := by
    apply huntied r' hr' s' hs'
    rw [txPosition_eq_of_view hview, txPosition_eq_of_view hview', hposition]
  have hsame : outputView r = outputView s := by rw [← hview, ← hview', heq]
  exact created_eq_of_utxoId h (mem_tokenOutputs.mp hr).1 (mem_tokenOutputs.mp hs).1
    (congrArg (fun v => v.tx.hash) hsame) (congrArg OutputView.index hsame)

/-- The last output that held a token is the same in both databases. -/
theorem SamePrefix.lastTokenOutput (hsame : SamePrefix db db' R) (h : Ledger db)
    (h' : Ledger db') {asset : Asset} {epoch : Nat} (huntied' : Untied db' asset epoch)
    (hlt : epoch < R.epochNo) {r : OriginRow}
    (hr : lastTokenOutput db asset epoch = some r) :
    ∃ r', lastTokenOutput db' asset epoch = some r' ∧ outputView r' = outputView r := by
  obtain ⟨hmem, hmax⟩ := head?_orderByDesc hr
  obtain ⟨r', hr', hview⟩ := hsame.tokenOutput h hlt hmem
  refine ⟨r', lastTokenOutput_eq_some huntied' hr' ?_, hview⟩
  intro s' hs'
  obtain ⟨s, hs, hview'⟩ := hsame.symm.tokenOutput h' hlt hs'
  rw [← txPosition_eq_of_view hview', txPosition_eq_of_view hview]
  exact hmax s hs

end PartnerChains.Ports.MainchainPrefix
