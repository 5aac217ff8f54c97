import PartnerChains.Ports.RegistrationsInForce

/-!
# Tokens held on chain

The D-parameter and the list of permissioned candidates are the datums of
outputs that hold a token each.  `TokenHistory` states that at most one token
of a policy exists at a time.  Then an unspent holder is the last output that
ever held the token (`lastTokenOutput_of_heldBy`), and that is the output the
query reads (`getTokenUtxoForEpoch_datum`).

The query does not look at spending.  A token that was burned is read like one
that is held; the parameters are those held on chain exactly if both tokens are
held, or the token that is not held is found missing for another reason
(`parametersHeld_iff`).
-/

namespace PartnerChains.Ports.TokenHolders

open PartnerChains.Ports.Domain
open PartnerChains.Ports.DbSync
open PartnerChains.Ports.MainchainDatums
open PartnerChains.Ports.NativeTokenQuery
open PartnerChains.Ports.CandidatesQuery
open PartnerChains.Ports.CandidatesDataSource
open PartnerChains.Ports.LedgerOutputs
open PartnerChains.Ports.RegistrationsInForce
open PartnerChains.Verified.Relational
open PartnerChains.Verified.StableSort

variable {J : Type}

/-! ## Histories of a token -/

/-- The place of a transaction in the chain. -/
def txPosition (t : TxRow) (b : BlockRow) : WithTop Nat ×ₗ Nat :=
  toLex (sortKey b.blockNo, t.blockIndex)

/-- A row of `ma_tx_out` says that the output holds the asset. -/
def holdsToken (db : Db J) (asset : Asset) (o : TxOutRow) : Bool :=
  db.maTxOut.any fun m => decide (m.txOutId = o.id) && isAsset db asset m

/-- An output of the database with its transaction and block. -/
structure Created (db : Db J) (r : OriginRow) : Prop where
  txOut_mem : r.txOut ∈ db.txOut
  origin_eq : origin db r.txOut = some r

/-- A transaction of a block consumes the output. -/
structure Spends (db : Db J) (t : TxRow) (b : BlockRow) (o : TxOutRow) : Prop where
  tx_mem : t ∈ db.tx
  block_mem : b ∈ db.block
  block_id : b.id = t.blockId
  input : ∃ i ∈ db.txIn, i.txInId = t.id ∧ o.txId = i.txOutId ∧ o.index = i.txOutIndex

/-- At most one token exists at a time: before the next output holds it, the
previous holder is consumed, possibly by the same transaction. -/
structure TokenHistory (db : Db J) (asset : Asset) : Prop where
  spends_later : ∀ r t b, Created db r → holdsToken db asset r.txOut = true →
    Spends db t b r.txOut → txPosition r.tx r.block < txPosition t b
  at_most_one : ∀ r r', Created db r → Created db r' → holdsToken db asset r.txOut = true →
    holdsToken db asset r'.txOut = true → r.txOut ≠ r'.txOut →
    txPosition r.tx r.block ≤ txPosition r'.tx r'.block →
    ∃ t b, Spends db t b r.txOut ∧ txPosition t b ≤ txPosition r'.tx r'.block

/-- The output holds the token, unspent, after the last block of the epoch. -/
structure HeldBy (db : Db J) (asset : Asset) (epoch : Nat) (r : OriginRow) : Prop where
  holds : holdsToken db asset r.txOut = true
  inForce : OutputInForce db r.txOut.address epoch r

/-- The outputs that ever held the token up to the epoch, in the order of the
rows of `ma_tx_out`. -/
def tokenOutputs (db : Db J) (asset : Asset) (epoch : Nat) : List OriginRow :=
  ((db.maTxOut.filter (isAsset db asset)).filterMap fun m =>
    (db.txOut.find? fun o => decide (m.txOutId = o.id)).bind (origin db)).filter fun r =>
      r.block.epochNo.any fun e => decide (e ≤ epoch)

/-- The last of them; of several in one transaction, the first row. -/
def lastTokenOutput (db : Db J) (asset : Asset) (epoch : Nat) : Option OriginRow :=
  (orderByDesc (fun r => txPosition r.tx r.block) (tokenOutputs db asset epoch)).head?

/-- No transaction has two outputs that hold the token. -/
def Untied (db : Db J) (asset : Asset) (epoch : Nat) : Prop :=
  ∀ r ∈ tokenOutputs db asset epoch, ∀ r' ∈ tokenOutputs db asset epoch,
    txPosition r.tx r.block = txPosition r'.tx r'.block → r = r'

instance (db : Db J) (asset : Asset) (epoch : Nat) : Decidable (Untied db asset epoch) :=
  inferInstanceAs (Decidable (∀ r ∈ _, ∀ r' ∈ _, _ → _))

/-! ## The last output that held the token -/

variable {lib : Libraries J} {db : Db J} {asset : Asset} {epoch : Nat}

/-- The outputs with the token up to the end of the epoch. -/
theorem mem_tokenOutputs {r : OriginRow} :
    r ∈ tokenOutputs db asset epoch ↔ Created db r ∧ holdsToken db asset r.txOut = true ∧
      (r.block.epochNo.any fun e => decide (e ≤ epoch)) = true := by
  rw [tokenOutputs, List.mem_filter, List.mem_filterMap, ← and_assoc, and_congr_left_iff]
  intro _
  constructor
  · rintro ⟨m, hm, hfind⟩
    obtain ⟨hm, hasset⟩ := List.mem_filter.mp hm
    obtain ⟨o, ho, horigin⟩ := Option.bind_eq_some_iff.mp hfind
    obtain rfl : r.txOut = o := (origin_eq_some horigin).1
    refine ⟨⟨List.mem_of_find?_eq_some ho, horigin⟩, List.any_eq_true.mpr ⟨m, hm, ?_⟩⟩
    have hid := List.find?_some ho
    simp only [decide_eq_true_eq] at hid
    simp [hid, hasset]
  · rintro ⟨hcreated, hholds⟩
    obtain ⟨m, hm, hcond⟩ := List.any_eq_true.mp hholds
    obtain ⟨hid, hasset⟩ := Bool.and_eq_true_iff.mp hcond
    refine ⟨m, List.mem_filter.mpr ⟨hm, hasset⟩, Option.bind_eq_some_iff.mpr
      ⟨r.txOut, find?_eq_some_of_key db.tx_out_pkey hcreated.txOut_mem hid ?_, hcreated.origin_eq⟩⟩
    intro o _ ho
    exact (of_decide_eq_true ho).symm.trans (of_decide_eq_true hid)

theorem Created.numbered {r : OriginRow} (hr : Created db r) (h : Ledger db)
    (hepoch : (r.block.epochNo.any fun e => decide (e ≤ epoch)) = true) :
    ∃ n, r.block.blockNo = some n := by
  obtain ⟨-, htx, hblock, -, hblockId⟩ := origin_eq_some hr.origin_eq
  have hsome : r.block.epochNo.isSome := by
    cases he : r.block.epochNo with
    | none => simp [he] at hepoch
    | some e => rfl
  exact Option.isSome_iff_exists.mp
    (h.epoch_numbered r.tx htx r.block hblock hblockId.symm hsome)

/-- With at most one token, two outputs never hold it from the same place on. -/
theorem TokenHistory.untied (hhistory : TokenHistory db asset) (epoch : Nat) :
    Untied db asset epoch := by
  intro r hr r' hr' hposition
  obtain ⟨hr, hholds, -⟩ := mem_tokenOutputs.mp hr
  obtain ⟨hr', hholds', -⟩ := mem_tokenOutputs.mp hr'
  by_cases heq : r.txOut = r'.txOut
  · have horigin := hr.origin_eq
    rw [heq, hr'.origin_eq] at horigin
    exact (Option.some.inj horigin).symm
  · obtain ⟨t, b, hspends, hle⟩ := hhistory.at_most_one r r' hr hr' hholds hholds' heq hposition.le
    exact absurd (hhistory.spends_later r t b hr hholds hspends) (not_lt_of_ge (hposition ▸ hle))

/-- Without ties the last output is the one at the highest position. -/
theorem lastTokenOutput_eq_some (huntied : Untied db asset epoch) {r : OriginRow}
    (hr : r ∈ tokenOutputs db asset epoch)
    (hlast : ∀ r' ∈ tokenOutputs db asset epoch,
      txPosition r'.tx r'.block ≤ txPosition r.tx r.block) :
    lastTokenOutput db asset epoch = some r := by
  cases hhead : lastTokenOutput db asset epoch with
  | none =>
      rw [lastTokenOutput, head?_orderByDesc_eq_none] at hhead
      rw [hhead] at hr
      simp at hr
  | some r' =>
      obtain ⟨hr', hmax⟩ := head?_orderByDesc hhead
      rw [huntied r' hr' r hr (le_antisymm (hlast r' hr') (hmax r hr))]

/-- Along the chain epochs do not decrease. -/
theorem epoch_le_of_blockNo {b c : BlockRow} (hb : b ∈ db.block) (hc : c ∈ db.block) {n m : Nat}
    (hn : b.blockNo = some n) (hm : c.blockNo = some m) (hle : n ≤ m)
    (hc' : (c.epochNo.any fun e => decide (e ≤ epoch)) = true) :
    (b.epochNo.any fun e => decide (e ≤ epoch)) = true := by
  obtain ⟨last, hlast, hle'⟩ := (le_lastBlockNo_iff hc hm epoch).mpr hc'
  exact (le_lastBlockNo_iff hb hn epoch).mp ⟨last, hlast, hle.trans hle'⟩

/-- An unspent holder is the last output that held the token. -/
theorem lastTokenOutput_of_heldBy (hhistory : TokenHistory db asset) (h : Ledger db)
    {r : OriginRow} (hheld : HeldBy db asset epoch r) :
    lastTokenOutput db asset epoch = some r := by
  have hforce := hheld.inForce
  have hcreated : Created db r := ⟨hforce.txOut_mem, hforce.origin_eq⟩
  refine lastTokenOutput_eq_some (hhistory.untied epoch)
    (mem_tokenOutputs.mpr ⟨hcreated, hheld.holds, hforce.created⟩) ?_
  intro r' hr'
  obtain ⟨hcreated', hholds', hepoch'⟩ := mem_tokenOutputs.mp hr'
  by_contra hlt
  have hle := (not_le.mp hlt).le
  have hne : r.txOut ≠ r'.txOut := by
    intro heq
    have horigin := hcreated.origin_eq
    rw [heq, hcreated'.origin_eq] at horigin
    exact hlt (Option.some.inj horigin ▸ le_refl _)
  obtain ⟨t, b, hspends, hbefore⟩ :=
    hhistory.at_most_one r r' hcreated hcreated' hheld.holds hholds' hne hle
  obtain ⟨i, hi, hid, htxId, hindex⟩ := hspends.input
  obtain ⟨n, hn⟩ := Option.isSome_iff_exists.mp
    (h.numbered i hi t hspends.tx_mem hid.symm b hspends.block_mem hspends.block_id)
  obtain ⟨m, hm⟩ := hcreated'.numbered h hepoch'
  have hnm : n ≤ m := by
    rw [txPosition, txPosition, Prod.Lex.toLex_le_toLex, hn, hm] at hbefore
    rcases hbefore with hlt | ⟨heq, -⟩
    · exact (WithTop.coe_lt_coe.mp hlt).le
    · exact (WithTop.coe_eq_coe.mp heq).le
  refine hforce.unspent ⟨i, hi, htxId, hindex, t, hspends.tx_mem, hid.symm, b, hspends.block_mem,
    hspends.block_id, ?_⟩
  exact epoch_le_of_blockNo hspends.block_mem (origin_eq_some hcreated'.origin_eq).2.2.1 hn hm hnm
    hepoch'

/-! ## The query -/

/-- The joins look the partners of an asset row up. -/
theorem tokenRows_eq (h : Ledger db) :
    tokenRows db = db.maTxOut.filterMap fun m =>
      (db.multiAsset.find? fun a => decide (m.ident = a.id)).bind fun a =>
        (db.txOut.find? fun o => decide (m.txOutId = o.id)).bind fun o =>
          (origin db o).map fun r => ⟨m, a, r.txOut, r.tx, r.block,
            db.datum.find? fun d => o.dataHash.any fun hash => decide (hash = d.hash)⟩ := by
  have hdatum : ∀ o : TxOutRow, (db.datum.filter fun d =>
      o.dataHash.any fun hash => decide (hash = d.hash)).length ≤ 1 := by
    intro o
    cases hhash : o.dataHash with
    | none => simp
    | some hash =>
        apply length_filter_le_one_of_key h.unique_datum (k := hash)
        intro d _ hd
        exact (of_decide_eq_true hd).symm
  rw [tokenRows, leftJoin_of_unique fun p _ => hdatum p.1.1.2,
    innerJoin_of_unique fun p _ => length_filter_le_one_of_key db.block_pkey (k := p.2.blockId)
      fun b _ hb => (of_decide_eq_true hb).symm,
    innerJoin_of_unique fun p _ => length_filter_le_one_of_key db.tx_pkey (k := p.2.txId)
      fun t _ ht => (of_decide_eq_true ht).symm,
    innerJoin_of_unique fun p _ => length_filter_le_one_of_key db.tx_out_pkey (k := p.1.txOutId)
      fun o _ ho => (of_decide_eq_true ho).symm,
    innerJoin_of_unique fun m _ => length_filter_le_one_of_key db.multi_asset_pkey (k := m.ident)
      fun a _ ha => (of_decide_eq_true ha).symm,
    List.map_map, List.map_filterMap, List.filterMap_filterMap, List.filterMap_filterMap,
    List.filterMap_filterMap]
  apply List.filterMap_congr
  intro m _
  cases db.multiAsset.find? fun a => decide (m.ident = a.id) with
  | none => rfl
  | some a =>
      cases hfind : db.txOut.find? fun o => decide (m.txOutId = o.id) with
      | none => simp [hfind]
      | some o =>
          cases htx : db.tx.find? fun t => decide (o.txId = t.id) with
          | none => simp [hfind, htx, origin]
          | some t =>
              cases hblock : db.block.find? fun b => decide (t.blockId = b.id) with
              | none => simp [hfind, htx, hblock, origin]
              | some b => simp [hfind, htx, hblock, origin]

/-- The rows of an asset up to an epoch. -/
def assetRows (db : Db J) (asset : Asset) (epoch : Nat) : List (TokenRow J) :=
  (tokenRows db).filter fun row =>
    decide (row.multiAsset.policy = asset.policyId) &&
      decide (row.multiAsset.name = asset.assetName) &&
      row.originBlock.epochNo.any fun e => decide (e ≤ epoch)

/-- The part of a row that locates its output. -/
def originOfRow (row : TokenRow J) : OriginRow := ⟨row.txOut, row.originTx, row.originBlock⟩

private theorem isAsset_eq {m : MaTxOutRow} {a : MultiAssetRow} (ha : a ∈ db.multiAsset)
    (hid : m.ident = a.id) :
    isAsset db asset m =
      (decide (a.policy = asset.policyId) && decide (a.name = asset.assetName)) := by
  rw [Bool.eq_iff_iff, isAsset, List.any_eq_true, Bool.and_eq_true, decide_eq_true_eq,
    decide_eq_true_eq]
  constructor
  · rintro ⟨c, hc, hcond⟩
    simp only [Bool.and_eq_true, decide_eq_true_eq] at hcond
    have heq : c = a := List.inj_on_of_nodup_map db.multi_asset_pkey hc ha
      (hcond.1.1.trans hid)
    exact heq ▸ ⟨hcond.1.2, hcond.2⟩
  · rintro ⟨hpolicy, hname⟩
    exact ⟨a, ha, by simp [hid, hpolicy, hname]⟩

/-- The rows of the asset are those of the outputs that held it, in the same
order. -/
theorem map_originOfRow_assetRows (h : Ledger db) (asset : Asset) (epoch : Nat) :
    (assetRows db asset epoch).map originOfRow = tokenOutputs db asset epoch := by
  rw [assetRows, tokenRows_eq h, tokenOutputs, List.filter_filterMap, List.filter_filterMap,
    List.map_filterMap, List.filterMap_filter]
  apply List.filterMap_congr
  intro m hm
  obtain ⟨a, ha, hid⟩ := db.ma_tx_out_ident_fkey m hm
  have hfind : db.multiAsset.find? (fun a => decide (m.ident = a.id)) = some a :=
    find?_eq_some_of_key db.multi_asset_pkey ha (by simp [hid]) fun b _ hb =>
      (of_decide_eq_true hb).symm.trans hid.symm
  simp only [hfind, isAsset_eq ha hid.symm, Option.bind_some]
  cases hout : db.txOut.find? fun o => decide (m.txOutId = o.id) with
  | none => simp
  | some o =>
      cases horigin : origin db o with
      | none => simp [horigin]
      | some r =>
          by_cases hasset : a.policy = asset.policyId ∧ a.name = asset.assetName
          · by_cases hepoch : (r.block.epochNo.any fun e => decide (e ≤ epoch)) = true
            · simp [horigin, hasset, hepoch, Option.filter, originOfRow]
            · simp [horigin, hasset, hepoch, Option.filter]
          · simp [horigin, hasset, Option.filter]

private theorem datum_of_mem_assetRows (h : Ledger db) {row : TokenRow J}
    (hrow : row ∈ assetRows db asset epoch) :
    row.datum.bind DatumRow.value = datumValue db row.txOut := by
  rw [assetRows, tokenRows_eq h] at hrow
  obtain ⟨m, -, hfind⟩ := List.mem_filterMap.mp (List.mem_filter.mp hrow).1
  obtain ⟨a, -, hfind⟩ := Option.bind_eq_some_iff.mp hfind
  obtain ⟨o, -, hfind⟩ := Option.bind_eq_some_iff.mp hfind
  obtain ⟨r, horigin, rfl⟩ := Option.map_eq_some_iff.mp hfind
  rw [datumValue, (origin_eq_some horigin).1]

/-- The datum of the last output that held the token, if there was one. -/
def lastTokenDatum (db : Db J) (asset : Asset) (epoch : Nat) : Option (Option J) :=
  (lastTokenOutput db asset epoch).map fun r => datumValue db r.txOut

/-- If all outputs at the highest position have one datum, it is the one read. -/
theorem lastTokenDatum_of_last {value : J} (hne : tokenOutputs db asset epoch ≠ [])
    (hlast : ∀ r ∈ tokenOutputs db asset epoch,
      (∀ r' ∈ tokenOutputs db asset epoch,
        txPosition r'.tx r'.block ≤ txPosition r.tx r.block) →
      datumValue db r.txOut = some value) :
    lastTokenDatum db asset epoch = some (some value) := by
  rw [lastTokenDatum]
  cases hhead : lastTokenOutput db asset epoch with
  | none => exact absurd (head?_orderByDesc_eq_none.mp hhead) hne
  | some r =>
      obtain ⟨hmem, hmax⟩ := head?_orderByDesc hhead
      rw [Option.map_some, hlast r hmem hmax]

/-- The query reads the last output that held the token, spent or not. -/
theorem map_head?_assetRows (h : Ledger db) (asset : Asset) (epoch : Nat) :
    (orderByDesc TokenRow.position (assetRows db asset epoch)).head?.map
        (fun row => row.datum.bind DatumRow.value) = lastTokenDatum db asset epoch := by
  have hsort : orderByDesc (fun r : OriginRow => txPosition r.tx r.block)
        ((assetRows db asset epoch).map originOfRow) =
      (orderByDesc TokenRow.position (assetRows db asset epoch)).map originOfRow :=
    sortByKey_map _ originOfRow _
  rw [lastTokenDatum, lastTokenOutput, ← map_originOfRow_assetRows h, hsort, List.head?_map,
    Option.map_map]
  cases hhead : (orderByDesc TokenRow.position (assetRows db asset epoch)).head? with
  | none => rfl
  | some row => exact congrArg some (datum_of_mem_assetRows h (head?_orderByDesc hhead).1)

/-- The datum column of the token query, decoded. -/
def decodeColumn (lib : Libraries J) (column : Option (Option J)) :
    Except CandidatesError (Option (Option PlutusData)) :=
  match column with
  | none => .ok none
  | some value => ((decodeDatum lib value).map some).mapError .sqlx

/-- The other columns of a row up to the epoch decode. -/
theorem getTokenUtxoForEpoch_datum (lib : Libraries J) (h : Ledger db) (asset : Asset)
    {epoch : Nat} (hword : epoch < 2 ^ 31) :
    ((getTokenUtxoForEpoch lib db asset epoch).map
        fun output => output.map TokenTxOutput.datum).mapError CandidatesError.sqlx =
      decodeColumn lib (lastTokenDatum db asset epoch) := by
  have hquery : getTokenUtxoForEpoch lib db asset epoch =
      fetchOptional (TokenTxOutput.decode lib)
        (orderByDesc TokenRow.position (assetRows db asset epoch)) :=
    getTokenUtxoForEpoch_of_lt lib db asset hword
  rw [hquery, fetchOptional, ← map_head?_assetRows h]
  cases hhead : (orderByDesc TokenRow.position (assetRows db asset epoch)).head? with
  | none => rfl
  | some row =>
      have hmem : originOfRow row ∈ tokenOutputs db asset epoch :=
        map_originOfRow_assetRows h asset epoch ▸
          List.mem_map_of_mem (head?_orderByDesc hhead).1
      obtain ⟨hcreated, -, hepoch⟩ := mem_tokenOutputs.mp hmem
      obtain ⟨n, hn⟩ := hcreated.numbered h hepoch
      obtain ⟨e, s, he, hs, -⟩ := Db.decode_ok (origin_eq_some hcreated.origin_eq).2.2.1 hn
      have hn' : row.originBlock.blockNo = some n := hn
      have he' : row.originBlock.epochNo = some e := he
      have hs' : row.originBlock.slotNo = some s := hs
      simp only [TokenTxOutput.decode, notNull, hn', he', hs', bind, Except.bind,
        Option.map_some, decodeColumn]
      cases decodeDatum lib (row.datum.bind DatumRow.value) <;> rfl

/-! ## The parameters -/

/-- What is decoded from the datums of the two outputs. -/
def parametersFrom (lib : Libraries J) (dColumn candidatesColumn : Option (Option J)) :
    Except CandidatesError AriadneParameters := do
  let candidatesOutput ← decodeColumn lib candidatesColumn
  let dOutput ← decodeColumn lib dColumn
  let dDatum ← expected "DParameter Datum" (← expected "DParameter" dOutput)
  let dParameter ← (DParamDatum.schema.decode dDatum).mapError .dataDecoding
  let candidatesDatum ← expected "Permissioned Candidates List Datum"
    (← expected "Permissioned Candidates List" candidatesOutput)
  let candidates ←
    (PermissionedCandidateDatums.schema.decode candidatesDatum).mapError .dataDecoding
  .ok ⟨dParameter.toDParameter, rawPermissionedCandidateDataVecFrom candidates⟩

/-- The tokens of governance have an empty name. -/
def tokenAsset (policy : PolicyId) : Asset := ⟨policy, AssetName.empty⟩

/-- The parameters are decoded from the last outputs that held the tokens. -/
theorem getAriadneParameters_eq (lib : Libraries J) (h : Ledger db) (dPolicy pPolicy : PolicyId)
    {epoch : Nat} (hepoch : 2 ≤ epoch) (hword : epoch - 2 < 2 ^ 31) :
    getAriadneParameters lib db epoch dPolicy pPolicy =
      parametersFrom lib (lastTokenDatum db (tokenAsset dPolicy) (epoch - 2))
        (lastTokenDatum db (tokenAsset pPolicy) (epoch - 2)) := by
  have hstorage : getEpochOfDataStorage epoch = .ok (epoch - 2) := if_neg (by omega)
  rw [parametersFrom, ← getTokenUtxoForEpoch_datum lib h _ hword,
    ← getTokenUtxoForEpoch_datum lib h _ hword, getAriadneParameters, hstorage]
  show (((getTokenUtxoForEpoch lib db (tokenAsset pPolicy) (epoch - 2)).mapError
      CandidatesError.sqlx).bind fun candidatesOutputOpt =>
    ((getTokenUtxoForEpoch lib db (tokenAsset dPolicy) (epoch - 2)).mapError
      CandidatesError.sqlx).bind fun dOutputOpt => _) = _
  cases getTokenUtxoForEpoch lib db (tokenAsset pPolicy) (epoch - 2) with
  | error e => rfl
  | ok candidatesOutput =>
      cases getTokenUtxoForEpoch lib db (tokenAsset dPolicy) (epoch - 2) with
      | error e => rfl
      | ok dOutput => cases candidatesOutput <;> cases dOutput <;> rfl

/-- The parameters in force: the datums of the outputs that hold the tokens,
and an error that data is missing if one of them is not held. -/
structure ParametersHeld (lib : Libraries J) (db : Db J) (epoch : Nat)
    (dPolicy pPolicy : PolicyId) : Prop where
  held : ∀ rd rp, HeldBy db (tokenAsset dPolicy) (epoch - 2) rd →
    HeldBy db (tokenAsset pPolicy) (epoch - 2) rp →
    getAriadneParameters lib db epoch dPolicy pPolicy =
      parametersFrom lib (some (datumValue db rd.txOut)) (some (datumValue db rp.txOut))
  missing : (∀ r, ¬ HeldBy db (tokenAsset dPolicy) (epoch - 2) r) ∨
      (∀ r, ¬ HeldBy db (tokenAsset pPolicy) (epoch - 2) r) →
    ∃ what, getAriadneParameters lib db epoch dPolicy pPolicy =
      .error (.dataSource (.expectedDataNotFound what))

/-- A datum column without conversion error. -/
def ColumnConverts (lib : Libraries J) (column : Option (Option J)) : Prop :=
  ∀ value, column = some (some value) → (lib.encodeJsonValueToPlutusDatum value).isSome

/-- The datums of the last outputs that held the tokens make the query report
missing data: both convert, and one of the tokens was never held or its last
output has no datum, the D-parameter being looked at first. -/
structure ReportsMissing (lib : Libraries J) (dColumn candidatesColumn : Option (Option J)) :
    Prop where
  candidates_converts : ColumnConverts lib candidatesColumn
  d_converts : ColumnConverts lib dColumn
  missing : dColumn.join = none ∨ candidatesColumn.join = none ∧
    ∃ value data dParameter, dColumn = some (some value) ∧
      lib.encodeJsonValueToPlutusDatum value = some data ∧
      DParamDatum.schema.decode data = .ok dParameter

/-- A column that converts is decoded. -/
theorem decodeColumn_of_converts {column : Option (Option J)} (h : ColumnConverts lib column) :
    decodeColumn lib column =
      .ok (column.map fun value => value.bind lib.encodeJsonValueToPlutusDatum) := by
  rcases column with _ | value
  · rfl
  · rw [decodeColumn, decodeDatum_eq fun v hv => h v (congrArg some hv)]
    rfl

/-- A column that does not convert is an error. -/
theorem decodeColumn_of_not_converts {column : Option (Option J)}
    (h : ¬ ColumnConverts lib column) :
    decodeColumn lib column = .error (.sqlx (.columnDecode "datum")) := by
  unfold ColumnConverts at h
  push Not at h
  obtain ⟨value, rfl, hnone⟩ := h
  rw [decodeColumn, decodeDatum, Option.not_isSome_iff_eq_none.mp hnone]
  rfl

private theorem reportsMissing_iff {dColumn candidatesColumn : Option (Option J)} :
    (∃ what, parametersFrom lib dColumn candidatesColumn =
      .error (.dataSource (.expectedDataNotFound what))) ↔
      ReportsMissing lib dColumn candidatesColumn := by
  by_cases hp : ColumnConverts lib candidatesColumn
  · by_cases hd : ColumnConverts lib dColumn
    · have hmissing : ReportsMissing lib dColumn candidatesColumn ↔
          dColumn.join = none ∨ candidatesColumn.join = none ∧
            ∃ value data dParameter, dColumn = some (some value) ∧
              lib.encodeJsonValueToPlutusDatum value = some data ∧
              DParamDatum.schema.decode data = .ok dParameter :=
        ⟨fun h => h.missing, fun h => ⟨hp, hd, h⟩⟩
      rw [hmissing, parametersFrom, decodeColumn_of_converts hp, decodeColumn_of_converts hd]
      rcases dColumn with _ | _ | value
      · simp [expected, bind, Except.bind]
      · simp [expected, bind, Except.bind]
      · obtain ⟨data, hdata⟩ := Option.isSome_iff_exists.mp (hd value rfl)
        cases hdecode : DParamDatum.schema.decode data with
        | error e => simp [expected, bind, Except.bind, hdata, hdecode, Except.mapError]
        | ok dParameter =>
            rcases candidatesColumn with _ | _ | value'
            · simp [expected, bind, Except.bind, hdata, hdecode, Except.mapError]
            · simp [expected, bind, Except.bind, hdata, hdecode, Except.mapError]
            · obtain ⟨data', hdata'⟩ := Option.isSome_iff_exists.mp (hp value' rfl)
              cases hdecode' : PermissionedCandidateDatums.schema.decode data' <;>
                simp [expected, bind, Except.bind, hdata, hdecode, hdata', hdecode',
                  Except.mapError]
    · rw [parametersFrom, decodeColumn_of_converts hp, decodeColumn_of_not_converts hd]
      exact ⟨fun ⟨_, h⟩ => by simp [bind, Except.bind] at h, fun h => absurd h.d_converts hd⟩
  · rw [parametersFrom, decodeColumn_of_not_converts hp]
    exact ⟨fun ⟨_, h⟩ => by simp [bind, Except.bind] at h,
      fun h => absurd h.candidates_converts hp⟩

/-- The parameters are those held on chain exactly if both tokens are held, or
the last outputs that ever held them make the query report missing data.  The
epoch is one whose data epoch is bound to the queries as it is. -/
theorem parametersHeld_iff (h : Ledger db) {dPolicy pPolicy : PolicyId}
    (hd : TokenHistory db (tokenAsset dPolicy)) (hp : TokenHistory db (tokenAsset pPolicy))
    {epoch : Nat} (hepoch : 2 ≤ epoch) (hrange : epoch < 2 ^ 31 + 2) :
    ParametersHeld lib db epoch dPolicy pPolicy ↔
      (∃ rd rp, HeldBy db (tokenAsset dPolicy) (epoch - 2) rd ∧
        HeldBy db (tokenAsset pPolicy) (epoch - 2) rp) ∨
      ReportsMissing lib (lastTokenDatum db (tokenAsset dPolicy) (epoch - 2))
        (lastTokenDatum db (tokenAsset pPolicy) (epoch - 2)) := by
  have heq := getAriadneParameters_eq lib h dPolicy pPolicy hepoch (by omega)
  have hheld : ∀ rd rp, HeldBy db (tokenAsset dPolicy) (epoch - 2) rd →
      HeldBy db (tokenAsset pPolicy) (epoch - 2) rp →
      getAriadneParameters lib db epoch dPolicy pPolicy =
        parametersFrom lib (some (datumValue db rd.txOut)) (some (datumValue db rp.txOut)) := by
    intro rd rp hrd hrp
    rw [heq, lastTokenDatum, lastTokenDatum, lastTokenOutput_of_heldBy hd h hrd,
      lastTokenOutput_of_heldBy hp h hrp]
    rfl
  rw [← reportsMissing_iff, ← heq]
  constructor
  · intro hparameters
    by_cases hboth : ∃ rd rp, HeldBy db (tokenAsset dPolicy) (epoch - 2) rd ∧
        HeldBy db (tokenAsset pPolicy) (epoch - 2) rp
    · exact Or.inl hboth
    · refine Or.inr (hparameters.missing ?_)
      by_contra hnone
      push Not at hnone
      obtain ⟨⟨rd, hrd⟩, rp, hrp⟩ := hnone
      exact hboth ⟨rd, rp, hrd, hrp⟩
  · rintro (⟨rd, rp, hrd, hrp⟩ | hmissing)
    · refine ⟨hheld, ?_⟩
      rintro (hnone | hnone)
      · exact absurd hrd (hnone rd)
      · exact absurd hrp (hnone rp)
    · exact ⟨hheld, fun _ => hmissing⟩

/-! ## A burned token

The transactions of block 2 spend genesis outputs and mint the two tokens, a
transaction of block 3 burns that of the D-parameter. -/

/-- The two datums of the example. -/
inductive TokenJson where
  | dParameter
  | candidates
deriving DecidableEq

/-- Each datum decodes to what its name says. -/
def tokenLibraries : Libraries TokenJson where
  hex := UtxoText.lowerHex
  encodeJsonValueToPlutusDatum
    | .dParameter => some (dParameterToPlutusData ⟨1, 1⟩)
    | .candidates => some (permissionedCandidatesToPlutusData [])
  fromVkey := fun _ => examplePool

/-- The policy of the D-parameter. -/
def dPolicyExample : PolicyId := FixedBytes.replicate 28 1

/-- The policy of the permissioned candidates. -/
def pPolicyExample : PolicyId := FixedBytes.replicate 28 2

/-- A chain where the D-parameter token is burned in the last block. -/
def burnedDb : Db TokenJson :=
  { Db.empty TokenJson with
    block := [genesisBlock, chainBlock 2, chainBlock 3]
    tx := [⟨0, FixedBytes.replicate 32 10, 0, 0⟩, ⟨1, FixedBytes.replicate 32 11, 2, 0⟩,
      ⟨2, FixedBytes.replicate 32 12, 2, 1⟩, ⟨3, FixedBytes.replicate 32 13, 3, 0⟩]
    txIn := [⟨0, 1, 0, 0⟩, ⟨1, 2, 0, 1⟩, ⟨2, 3, 1, 0⟩]
    txOut := [⟨0, 0, 0, "wallet", none⟩, ⟨1, 0, 1, "wallet", none⟩,
      ⟨2, 1, 0, "governance", some (FixedBytes.replicate 32 20)⟩,
      ⟨3, 2, 0, "governance", some (FixedBytes.replicate 32 21)⟩, ⟨4, 3, 0, "wallet", none⟩]
    datum := [⟨0, FixedBytes.replicate 32 20, 1, some .dParameter⟩,
      ⟨1, FixedBytes.replicate 32 21, 2, some .candidates⟩]
    multiAsset := [⟨0, dPolicyExample, AssetName.empty⟩, ⟨1, pPolicyExample, AssetName.empty⟩]
    maTxOut := [⟨0, 1, 2, 0⟩, ⟨1, 1, 3, 1⟩]
    block_pkey := by decide
    block_words := by decide
    tx_pkey := by decide
    unique_tx := by decide
    tx_block_id_fkey := by decide
    tx_in_pkey := by decide
    tx_out_pkey := by decide
    multi_asset_pkey := by decide
    unique_multi_asset := by decide
    ma_tx_out_pkey := by decide
    unique_ma_tx_out := by decide
    ma_tx_out_ident_fkey := by decide
    unique_block_hash := by decide
    numbered_complete := by decide
    chain := by decide }

theorem burnedDb_ledger : Ledger burnedDb where
  unique_txout := by decide
  tx_out_tx_id_fkey := by decide
  tx_in_tx_in_id_fkey := by decide
  unique_datum := by decide
  txindex := by decide
  consumes_output := by decide
  spent_once := by decide
  numbered := by decide
  epoch_numbered := by decide
  stake_lt := by
    intro epoch
    simp [burnedDb, Db.empty]

theorem Created.mem {db : Db J} {r : OriginRow} (h : Created db r) :
    r ∈ db.txOut.filterMap (origin db) :=
  List.mem_filterMap.mpr ⟨r.txOut, h.txOut_mem, h.origin_eq⟩

/-- The token of the example is spent by later transactions only. -/
theorem burnedDb_history (policy : PolicyId)
    (hpolicy : policy = dPolicyExample ∨ policy = pPolicyExample) :
    TokenHistory burnedDb (tokenAsset policy) where
  spends_later := by
    intro r t b hr hholds hspends
    have hall : ∀ r ∈ burnedDb.txOut.filterMap (origin burnedDb),
        holdsToken burnedDb (tokenAsset policy) r.txOut = true → ∀ t ∈ burnedDb.tx,
        ∀ b ∈ burnedDb.block, b.id = t.blockId →
        (∃ i ∈ burnedDb.txIn, i.txInId = t.id ∧ r.txOut.txId = i.txOutId ∧
          r.txOut.index = i.txOutIndex) →
        txPosition r.tx r.block < txPosition t b := by
      rcases hpolicy with rfl | rfl <;> decide
    exact hall r hr.mem hholds t hspends.tx_mem b hspends.block_mem hspends.block_id hspends.input
  at_most_one := by
    intro r r' hr hr' hholds hholds' hne
    have hall : ∀ r ∈ burnedDb.txOut.filterMap (origin burnedDb),
        ∀ r' ∈ burnedDb.txOut.filterMap (origin burnedDb),
        holdsToken burnedDb (tokenAsset policy) r.txOut = true →
        holdsToken burnedDb (tokenAsset policy) r'.txOut = true → r.txOut = r'.txOut := by
      rcases hpolicy with rfl | rfl <;> decide
    exact absurd (hall r hr.mem r' hr'.mem hholds hholds') hne

/-- The output that held the burned token. -/
def burnedOutput : OriginRow :=
  ⟨⟨2, 1, 0, "governance", some (FixedBytes.replicate 32 20)⟩,
    ⟨1, FixedBytes.replicate 32 11, 2, 0⟩, chainBlock 2⟩

/-- The output that holds the other token. -/
def candidatesOutput : OriginRow :=
  ⟨⟨3, 2, 0, "governance", some (FixedBytes.replicate 32 21)⟩,
    ⟨2, FixedBytes.replicate 32 12, 2, 1⟩, chainBlock 2⟩

/-- The output of a burned token is still the last one. -/
theorem lastTokenOutput_burned :
    lastTokenOutput burnedDb (tokenAsset dPolicyExample) 0 = some burnedOutput :=
  lastTokenOutput_eq_some ((burnedDb_history _ (Or.inl rfl)).untied 0) (by decide) (by decide)

private theorem lastTokenOutput_candidates :
    lastTokenOutput burnedDb (tokenAsset pPolicyExample) 0 = some candidatesOutput :=
  lastTokenOutput_eq_some ((burnedDb_history _ (Or.inr rfl)).untied 0) (by decide) (by decide)

private theorem burnedDb_not_held (r : OriginRow) :
    ¬ HeldBy burnedDb (tokenAsset dPolicyExample) 0 r := by
  intro hheld
  have hlast := lastTokenOutput_of_heldBy (burnedDb_history _ (Or.inl rfl)) burnedDb_ledger hheld
  rw [lastTokenOutput_burned] at hlast
  have hspent : SpentUpTo burnedDb burnedOutput.txOut 0 := by
    unfold SpentUpTo
    decide
  exact (Option.some.inj hlast ▸ hheld.inForce.unspent) hspent

/-- The parameters are read although no one holds the token. -/
theorem burnedDb_parameters :
    TokenHistory burnedDb (tokenAsset dPolicyExample) ∧
      TokenHistory burnedDb (tokenAsset pPolicyExample) ∧
      (∀ r, ¬ HeldBy burnedDb (tokenAsset dPolicyExample) 0 r) ∧
      getAriadneParameters tokenLibraries burnedDb 2 dPolicyExample pPolicyExample =
        .ok ⟨⟨1, 1⟩, []⟩ := by
  have hd := burnedDb_history dPolicyExample (Or.inl rfl)
  have hp := burnedDb_history pPolicyExample (Or.inr rfl)
  refine ⟨hd, hp, burnedDb_not_held, ?_⟩
  rw [getAriadneParameters_eq tokenLibraries burnedDb_ledger _ _ (by decide) (by decide),
    lastTokenDatum, lastTokenDatum, lastTokenOutput_burned, lastTokenOutput_candidates]
  rfl

/-- The condition on the chain where the token is burned. -/
theorem parametersHeld_iff_burned :
    ParametersHeld tokenLibraries burnedDb 2 dPolicyExample pPolicyExample ↔
      (∃ rd rp, HeldBy burnedDb (tokenAsset dPolicyExample) 0 rd ∧
        HeldBy burnedDb (tokenAsset pPolicyExample) 0 rp) ∨
      ReportsMissing tokenLibraries (lastTokenDatum burnedDb (tokenAsset dPolicyExample) 0)
        (lastTokenDatum burnedDb (tokenAsset pPolicyExample) 0) :=
  parametersHeld_iff burnedDb_ledger (burnedDb_history _ (Or.inl rfl))
    (burnedDb_history _ (Or.inr rfl)) (by decide) (by decide)

end PartnerChains.Ports.TokenHolders
