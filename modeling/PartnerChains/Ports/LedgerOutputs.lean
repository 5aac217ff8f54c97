import PartnerChains.Ports.CandidatesDataSource
import PartnerChains.Verified.Fallible

/-!
# The outputs in force after a block

`Ledger` states what holds of every database that follows a chain: an input
consumes an existing output, an output is consumed at most once, and only
transactions of the genesis have no block number.

`inForce` are the outputs of an address that are created and not consumed up
to a block.  The query for the outputs of an address, an eight-way outer join
with grouping, returns exactly these, each with the outputs that its
transaction consumed (`getUtxosForAddress_eq`).
-/

namespace PartnerChains.Ports.LedgerOutputs

open PartnerChains.Ports.Domain
open PartnerChains.Ports.DbSync
open PartnerChains.Ports.MainchainDatums
open PartnerChains.Ports.UtxoText
open PartnerChains.Ports.CandidatesQuery
open PartnerChains.Verified.Fallible
open PartnerChains.Verified.Relational

variable {J : Type}

/-- What the schema and the ledger rules guarantee about the tables the candidates
are read from. -/
structure Ledger (db : Db J) : Prop where
  unique_txout : (db.txOut.map fun o => (o.txId, o.index)).Nodup
  tx_out_tx_id_fkey : ∀ o ∈ db.txOut, ∃ t ∈ db.tx, t.id = o.txId
  tx_in_tx_in_id_fkey : ∀ i ∈ db.txIn, ∃ t ∈ db.tx, t.id = i.txInId
  unique_datum : (db.datum.map DatumRow.hash).Nodup
  /-- The domain `txindex` of the schema. -/
  txindex : ∀ o ∈ db.txOut, o.index < 2 ^ 15
  /-- Inputs consume existing outputs. -/
  consumes_output : ∀ i ∈ db.txIn, ∃ o ∈ db.txOut, o.txId = i.txOutId ∧ o.index = i.txOutIndex
  /-- Each output is spent by at most one input. -/
  spent_once : (db.txIn.map fun i => (i.txOutId, i.txOutIndex)).Nodup
  /-- Transactions with inputs are in numbered blocks. -/
  numbered : ∀ i ∈ db.txIn, ∀ t ∈ db.tx, t.id = i.txInId → ∀ b ∈ db.block, b.id = t.blockId →
    b.blockNo.isSome
  /-- Blocks without number have no transactions, apart from the genesis block,
  which has no epoch either. -/
  epoch_numbered : ∀ t ∈ db.tx, ∀ b ∈ db.block, b.id = t.blockId → b.epochNo.isSome →
    b.blockNo.isSome
  /-- The stake of an epoch fits `lovelace`. -/
  stake_lt : ∀ epoch, ((db.epochStake.filter fun s => decide (s.epochNo = epoch)).map
    fun s => s.amount.toNat).sum < 2 ^ 64

/-- Every transaction of a numbered block that pays the address has an
input. -/
def OrdinaryTransactions (db : Db J) (address : MainchainAddress) : Prop :=
  ∀ o ∈ db.txOut, o.address = address → ∀ t ∈ db.tx, t.id = o.txId →
    ∀ b ∈ db.block, b.id = t.blockId → b.blockNo.isSome → ∃ i ∈ db.txIn, i.txInId = o.txId

/-! ## What the ledger says -/

section View

variable (db : Db J)

/-- The transaction and the block that made an output. -/
def origin (o : TxOutRow) : Option OriginRow := do
  let t ← db.tx.find? fun t => decide (o.txId = t.id)
  let b ← db.block.find? fun b => decide (t.blockId = b.id)
  some ⟨o, t, b⟩

/-- The number of the block of a transaction. -/
def blockNoOfTx (txId : RowId) : Option Nat := do
  let t ← db.tx.find? fun t => decide (txId = t.id)
  let b ← db.block.find? fun b => decide (t.blockId = b.id)
  b.blockNo

/-- An input of a transaction up to the block consumes the output. -/
def spentBy (o : TxOutRow) (block : Nat) : Bool :=
  db.txIn.any fun i => decide (o.txId = i.txOutId) && decide (o.index = i.txOutIndex) &&
    (blockNoOfTx db i.txInId).any fun n => decide (n ≤ block)

/-- The outputs of the address that are created and not spent up to the
block. -/
def inForce (address : MainchainAddress) (block : Nat) : List OriginRow :=
  (db.txOut.filterMap (origin db)).filter fun r =>
    decide (r.txOut.address = address) && r.block.blockNo.any (fun n => decide (n ≤ block)) &&
      !spentBy db r.txOut block

/-- The outputs that a transaction consumed. -/
def consumedOutputs (t : TxRow) : List UtxoId :=
  (db.txIn.filter fun i => decide (i.txInId = t.id)).filterMap fun i =>
    (db.tx.find? fun c => decide (c.id = i.txOutId)).map fun c => ⟨c.hash, i.txOutIndex⟩

/-- The stored value of the datum an output refers to. -/
def datumValue (o : TxOutRow) : Option J :=
  (db.datum.find? fun d => o.dataHash.any fun hash => decide (hash = d.hash)).bind DatumRow.value

/-- An output in force with its datum. -/
def outputOf (r : OriginRow) (datum : Option PlutusData) : MainchainTxOutput where
  utxoId := ⟨r.tx.hash, r.txOut.index⟩
  txBlockNo := r.block.blockNo.getD 0
  txSlotNo := r.block.slotNo.getD 0
  txEpochNo := r.block.epochNo.getD 0
  txIndexInBlock := r.tx.blockIndex
  address := r.txOut.address
  datum := datum
  txInputs := consumedOutputs db r.tx

end View

/-! ## The joins, row by row -/

section Joins

variable {db : Db J}

/-- The rows that locate an output belong together. -/
theorem origin_eq_some {o : TxOutRow} {r : OriginRow} (h : origin db o = some r) :
    r.txOut = o ∧ r.tx ∈ db.tx ∧ r.block ∈ db.block ∧ o.txId = r.tx.id ∧
      r.tx.blockId = r.block.id := by
  simp only [origin, Option.bind_eq_bind, Option.bind_eq_some_iff, Option.some.injEq] at h
  obtain ⟨t, ht, b, hb, rfl⟩ := h
  have htx := List.find?_some ht
  have hblock := List.find?_some hb
  exact ⟨rfl, List.mem_of_find?_eq_some ht, List.mem_of_find?_eq_some hb,
    of_decide_eq_true htx, of_decide_eq_true hblock⟩

private theorem originRows_eq (db : Db J) : originRows db = db.txOut.filterMap (origin db) := by
  have htx : ∀ o ∈ db.txOut, (db.tx.filter fun t => decide (o.txId = t.id)).length ≤ 1 :=
    fun o _ => length_filter_le_one_of_key db.tx_pkey fun t _ ht => (of_decide_eq_true ht).symm
  have hblock : ∀ p ∈ innerJoin db.tx (fun (o : TxOutRow) t => decide (o.txId = t.id)) db.txOut,
      (db.block.filter fun b => decide (p.2.blockId = b.id)).length ≤ 1 :=
    fun p _ => length_filter_le_one_of_key db.block_pkey fun b _ hb =>
      (of_decide_eq_true hb).symm
  rw [originRows, innerJoin_of_unique hblock, innerJoin_of_unique htx, List.filterMap_filterMap,
    List.map_filterMap]
  apply List.filterMap_congr
  intro o _
  simp only [origin]
  cases db.tx.find? fun t => decide (o.txId = t.id) with
  | none => rfl
  | some t =>
      simp only [Option.map_some, Option.bind_some, Option.bind_eq_bind]
      cases db.block.find? fun b => decide (t.blockId = b.id) <;> rfl

/-- The input that consumes an output, with its transaction and block. -/
def consumingOf (db : Db J) (r : OriginRow) : ConsumingRow :=
  let i := db.txIn.find? fun i =>
    decide (r.txOut.txId = i.txOutId) && decide (r.txOut.index = i.txOutIndex)
  let t := db.tx.find? fun t => i.any fun i => decide (i.txInId = t.id)
  let b := db.block.find? fun b => t.any fun t => decide (t.blockId = b.id)
  ⟨r, i, t, b⟩

private theorem joinConsuming_eq (h : Ledger db) (rows : List OriginRow) :
    joinConsuming db rows = rows.map (consumingOf db) := by
  rw [joinConsuming, leftJoin_of_unique, leftJoin_of_unique, leftJoin_of_unique]
  · simp only [List.map_map]
    rfl
  · intro r _
    apply length_filter_le_one_of_key h.spent_once (k := (r.txOut.txId, r.txOut.index))
    intro i _ hi
    simp only [Bool.and_eq_true, decide_eq_true_eq] at hi
    rw [hi.1, hi.2]
  · rintro ⟨r, i⟩ _
    cases i with
    | none => simp
    | some i =>
        exact length_filter_le_one_of_key db.tx_pkey fun t _ ht => (of_decide_eq_true ht).symm
  · rintro ⟨r, t⟩ _
    cases t with
    | none => simp
    | some t =>
        exact length_filter_le_one_of_key db.block_pkey fun b _ hb => (of_decide_eq_true hb).symm

/-- A row of the join for one input of the transaction of the output. -/
def utxoRowOf (db : Db J) (row : ConsumingRow) (i : Option TxInRow) : UtxoRow J :=
  let o := db.txOut.find? fun o => i.any fun i =>
    decide (o.txId = i.txOutId) && decide (i.txOutIndex = o.index)
  let t := db.tx.find? fun t => o.any fun o => decide (t.id = o.txId)
  let d := db.datum.find? fun d =>
    row.origin.txOut.dataHash.any fun hash => decide (hash = d.hash)
  ⟨row, i, o, t, d⟩

private theorem joinConsumes_eq (h : Ledger db) (rows : List ConsumingRow) :
    joinConsumes db rows = rows.flatMap fun row =>
      (partners (db.txIn.filter fun i => decide (i.txInId = row.origin.tx.id))).map
        (utxoRowOf db row) := by
  rw [joinConsumes, leftJoin_of_unique, leftJoin_of_unique, leftJoin_of_unique, leftJoin]
  · simp only [List.map_map, List.map_flatMap]
    rfl
  · rintro ⟨row, i⟩ _
    cases i with
    | none => simp
    | some i =>
        apply length_filter_le_one_of_key h.unique_txout (k := (i.txOutId, i.txOutIndex))
        intro o _ ho
        simp only [Option.any_some, Bool.and_eq_true, decide_eq_true_eq] at ho
        rw [ho.1, ho.2]
  · rintro ⟨row, o⟩ _
    cases o with
    | none => simp
    | some o =>
        exact length_filter_le_one_of_key db.tx_pkey fun t _ ht => of_decide_eq_true ht
  · rintro ⟨⟨⟨row, i⟩, o⟩, t⟩ _
    cases hhash : row.origin.txOut.dataHash with
    | none => simp [hhash]
    | some hash =>
        apply length_filter_le_one_of_key h.unique_datum (k := hash)
        intro d _ hd
        simp only [hhash, Option.any_some, decide_eq_true_eq] at hd
        exact hd.symm

/-- The rows of the whole join for one output. -/
def utxoRowsOf (db : Db J) (r : OriginRow) : List (UtxoRow J) :=
  (partners (db.txIn.filter fun i => decide (i.txInId = r.tx.id))).map
    (utxoRowOf db (consumingOf db r))

private theorem utxoRows_eq (h : Ledger db) :
    joinConsumes db (joinConsuming db (originRows db)) =
      (db.txOut.filterMap (origin db)).flatMap (utxoRowsOf db) := by
  rw [originRows_eq, joinConsuming_eq h, joinConsumes_eq h, List.flatMap_map]
  rfl

private theorem utxoRowsOf_ne_nil (db : Db J) (r : OriginRow) : utxoRowsOf db r ≠ [] := by
  unfold utxoRowsOf
  simpa using partners_ne_nil _

private theorem consuming_of_mem_utxoRowsOf {r : OriginRow} {row : UtxoRow J}
    (h : row ∈ utxoRowsOf db r) : row.consuming = consumingOf db r := by
  obtain ⟨i, -, rfl⟩ := List.mem_map.mp h
  rfl

private theorem columns_of_mem_utxoRowsOf {r : OriginRow} {row : UtxoRow J}
    (h : row ∈ utxoRowsOf db r) : row.columns = r.columns (datumValue db r.txOut) := by
  obtain ⟨i, -, rfl⟩ := List.mem_map.mp h
  rfl

/-! ## Spent outputs -/

theorem find?_tx {t : TxRow} (ht : t ∈ db.tx) :
    db.tx.find? (fun c => decide (t.id = c.id)) = some t :=
  find?_eq_some_of_key db.tx_pkey ht (by simp) fun _ _ hc => (of_decide_eq_true hc).symm

theorem find?_block {b : BlockRow} (hb : b ∈ db.block) :
    db.block.find? (fun c => decide (b.id = c.id)) = some b :=
  find?_eq_some_of_key db.block_pkey hb (by simp) fun _ _ hc => (of_decide_eq_true hc).symm

/-- The block number of a transaction is the one of its block. -/
theorem blockNoOfTx_eq {t : TxRow} {b : BlockRow} (ht : t ∈ db.tx) (hb : b ∈ db.block)
    (hid : b.id = t.blockId) : blockNoOfTx db t.id = b.blockNo := by
  simp only [blockNoOfTx, find?_tx ht, ← hid, find?_block hb, bind, Option.bind]

/-- The input that consumes an output is in a numbered block. -/
theorem Ledger.exists_block (h : Ledger db) {i : TxInRow} (hi : i ∈ db.txIn) :
    ∃ t ∈ db.tx, ∃ b ∈ db.block, ∃ n, t.id = i.txInId ∧ b.id = t.blockId ∧
      b.blockNo = some n ∧ blockNoOfTx db i.txInId = some n := by
  obtain ⟨t, ht, htid⟩ := h.tx_in_tx_in_id_fkey i hi
  obtain ⟨b, hb, hbid⟩ := db.tx_block_id_fkey t ht
  obtain ⟨n, hn⟩ := Option.isSome_iff_exists.mp (h.numbered i hi t ht htid b hb hbid)
  exact ⟨t, ht, b, hb, n, htid, hbid, hn, by rw [← htid, blockNoOfTx_eq ht hb hbid, hn]⟩

/-- The condition on the nullable consuming side says that the output is not
spent up to the block. -/
theorem unspent_consumingOf (h : Ledger db) (r : OriginRow) (block : Nat) :
    (consumingOf db r).unspent block = !spentBy db r.txOut block := by
  cases hfind : db.txIn.find? fun i =>
      decide (r.txOut.txId = i.txOutId) && decide (r.txOut.index = i.txOutIndex) with
  | none =>
      have hspent : spentBy db r.txOut block = false := by
        rw [spentBy, List.any_eq_false]
        intro i hi
        have hno := List.find?_eq_none.mp hfind i hi
        simp only [Bool.and_eq_true, decide_eq_true_eq] at hno ⊢
        exact fun hspent => hno hspent.1
      simp [hspent, ConsumingRow.unspent, consumingOf, hfind]
  | some i =>
      have hi := List.mem_of_find?_eq_some hfind
      have hpi := List.find?_some hfind
      simp only [Bool.and_eq_true, decide_eq_true_eq] at hpi
      obtain ⟨t, ht, b, hb, n, htid, hbid, hn, hblock⟩ := h.exists_block hi
      have hunspent : (consumingOf db r).unspent block = decide (block < n) := by
        simp [ConsumingRow.unspent, consumingOf, hfind, ← htid, find?_tx ht, ← hbid,
          find?_block hb, hn]
      have hspent : spentBy db r.txOut block = decide (n ≤ block) := by
        rw [Bool.eq_iff_iff, spentBy, List.any_eq_true, decide_eq_true_eq]
        constructor
        · rintro ⟨j, hj, hpj⟩
          simp only [Bool.and_eq_true, decide_eq_true_eq] at hpj
          have heq : j = i := by
            apply List.inj_on_of_nodup_map h.spent_once hj hi
            rw [← hpj.1.1, ← hpj.1.2, ← hpi.1, ← hpi.2]
          simpa [heq, hblock] using hpj.2
        · intro hle
          exact ⟨i, hi, by simp [hpi, hblock, hle]⟩
      rw [hunspent, hspent, ← decide_not]
      simp

/-! ## The groups -/

/-- An output is in force from its block on until it is spent. -/
theorem mem_inForce {address : MainchainAddress} {block : Nat} {r : OriginRow} :
    r ∈ inForce db address block ↔ r.txOut ∈ db.txOut ∧ origin db r.txOut = some r ∧
      r.txOut.address = address ∧ (∃ n, r.block.blockNo = some n ∧ n ≤ block) ∧
      spentBy db r.txOut block = false := by
  rw [inForce, List.mem_filter, List.mem_filterMap]
  constructor
  · rintro ⟨⟨o, ho, horigin⟩, hr⟩
    have heq := (origin_eq_some horigin).1
    simp only [Bool.and_eq_true, decide_eq_true_eq, Bool.not_eq_true', Option.any_eq_true] at hr
    exact ⟨heq ▸ ho, heq ▸ horigin, hr.1.1, hr.1.2, hr.2⟩
  · rintro ⟨ho, horigin, haddress, ⟨n, hn, hle⟩, hspent⟩
    exact ⟨⟨r.txOut, ho, horigin⟩, by simp [haddress, hn, hle, hspent]⟩

/-- An output is identified by the hash of its transaction and its index. -/
theorem origin_eq_of_utxoId (h : Ledger db) {r r' : OriginRow} (hr : origin db r.txOut = some r)
    (hr' : origin db r'.txOut = some r') (hmem : r.txOut ∈ db.txOut)
    (hmem' : r'.txOut ∈ db.txOut) (hhash : r.tx.hash = r'.tx.hash)
    (hindex : r.txOut.index = r'.txOut.index) : r = r' := by
  obtain ⟨-, ht, -, hid, -⟩ := origin_eq_some hr
  obtain ⟨-, ht', -, hid', -⟩ := origin_eq_some hr'
  have htx : r.tx = r'.tx := List.inj_on_of_nodup_map db.unique_tx ht ht' hhash
  have hout : r.txOut = r'.txOut := by
    apply List.inj_on_of_nodup_map h.unique_txout hmem hmem'
    rw [hid, hid', htx, hindex]
  rw [hout, hr'] at hr
  exact (Option.some.inj hr).symm

/-- No output is listed twice. -/
theorem inForce_nodup (db : Db J) (address : MainchainAddress) (block : Nat) :
    (inForce db address block).Nodup := by
  refine List.Nodup.filter _ (List.Nodup.filterMap ?_ db.tx_out_pkey.of_map)
  intro o o' r hr hr'
  rw [← (origin_eq_some hr).1, ← (origin_eq_some hr').1]

private theorem utxoGroups_eq [DecidableEq J] (h : Ledger db) (address : MainchainAddress)
    (block : Nat) :
    utxoGroups db address block = (inForce db address block).map fun r =>
      (r.columns (datumValue db r.txOut), utxoRowsOf db r) := by
  have hactive : ∀ r ∈ db.txOut.filterMap (origin db), ∀ row ∈ utxoRowsOf db r,
      (decide (row.consuming.origin.txOut.address = address) &&
        row.consuming.origin.block.blockNo.any (fun n => decide (n ≤ block)) &&
        row.consuming.unspent block) =
      (decide (r.txOut.address = address) &&
        r.block.blockNo.any (fun n => decide (n ≤ block)) && !spentBy db r.txOut block) := by
    intro r _ row hrow
    rw [consuming_of_mem_utxoRowsOf hrow, unspent_consumingOf h]
    rfl
  simp only [utxoGroups]
  rw [utxoRows_eq h, filter_flatMap_of_forall hactive]
  refine groupBy_flatMap _ (fun r : OriginRow => r.columns (datumValue db r.txOut)) _ ?_ ?_ ?_
  · intro r _
    exact utxoRowsOf_ne_nil db r
  · intro r _ row hrow
    exact columns_of_mem_utxoRowsOf hrow
  · refine List.Nodup.map_on ?_ (inForce_nodup db address block)
    intro r hr r' hr' hcolumns
    obtain ⟨hmem, horigin, -⟩ := mem_inForce.mp hr
    obtain ⟨hmem', horigin', -⟩ := mem_inForce.mp hr'
    exact origin_eq_of_utxoId h horigin horigin' hmem hmem' (congrArg UtxoColumns.txHash hcolumns)
      (congrArg UtxoColumns.index hcolumns)

/-! ## Decoding the groups -/

private theorem utxoIdFromStr_txInput (h : Ledger db) (hex : HexDecoder) (row : ConsumingRow)
    {i : TxInRow} (hi : i ∈ db.txIn) :
    ∃ c ∈ db.tx, c.id = i.txOutId ∧
      utxoIdFromStr hex (utxoRowOf db row (some i)).txInput = .ok ⟨c.hash, i.txOutIndex⟩ := by
  obtain ⟨o, ho, hoid, hoindex⟩ := h.consumes_output i hi
  obtain ⟨c, hc, hcid⟩ := h.tx_out_tx_id_fkey o ho
  have hfind : db.txOut.find? (fun o => decide (o.txId = i.txOutId) &&
      decide (i.txOutIndex = o.index)) = some o := by
    refine find?_eq_some_of_key h.unique_txout ho (by simp [hoid, hoindex]) ?_
    intro o' _ ho'
    simp only [Bool.and_eq_true, decide_eq_true_eq] at ho'
    rw [ho'.1, ← ho'.2, hoid, hoindex]
  have htx : db.tx.find? (fun t => decide (t.id = o.txId)) = some c :=
    find?_eq_some_of_key db.tx_pkey hc (by simp [hcid]) fun t _ ht =>
      (of_decide_eq_true ht).trans hcid.symm
  refine ⟨c, hc, hcid.trans hoid, ?_⟩
  have htext : (utxoRowOf db row (some i)).txInput =
      concatWs [some (hexEncode c.hash.bytes), some (Nat.toDigits 10 i.txOutIndex)] := by
    simp [UtxoRow.txInput, utxoRowOf, hfind, htx]
  rw [htext, utxoIdFromStr_concatWs hex _ (hoindex ▸ h.txindex o ho)]

/-- The collected texts read back as the outputs that the transaction
consumed. -/
theorem mapM_txInput (h : Ledger db) (hex : HexDecoder) {r : OriginRow}
    (hinput : ∃ i ∈ db.txIn, i.txInId = r.tx.id) :
    ((utxoRowsOf db r).map UtxoRow.txInput).mapM (utxoIdFromStr hex) =
      .ok (consumedOutputs db r.tx) := by
  have hne : (db.txIn.filter fun i => decide (i.txInId = r.tx.id)) ≠ [] := by
    obtain ⟨i, hi, hid⟩ := hinput
    exact List.ne_nil_of_mem (List.mem_filter.mpr ⟨hi, by simp [hid]⟩)
  have hpartners : ∀ l : List TxInRow, l ≠ [] → partners l = l.map some := by
    intro l hl
    cases l with
    | nil => exact absurd rfl hl
    | cons i l => rfl
  have hmem : ∀ i ∈ db.txIn.filter (fun i => decide (i.txInId = r.tx.id)), i ∈ db.txIn :=
    fun i hi => (List.mem_filter.mp hi).1
  rw [utxoRowsOf, hpartners _ hne, consumedOutputs, List.map_map, List.map_map, List.mapM_map]
  generalize db.txIn.filter (fun i => decide (i.txInId = r.tx.id)) = l at hmem
  induction l with
  | nil => rfl
  | cons i l ih =>
      obtain ⟨c, hc, hcid, htext⟩ :=
        utxoIdFromStr_txInput h hex (consumingOf db r) (hmem i List.mem_cons_self)
      have hfind : db.tx.find? (fun t => decide (t.id = i.txOutId)) = some c :=
        find?_eq_some_of_key db.tx_pkey hc (by simp [hcid]) fun t _ ht =>
          (of_decide_eq_true ht).trans hcid.symm
      have ih := ih fun j hj => hmem j (List.mem_cons_of_mem _ hj)
      rw [List.mapM_cons, ih, List.filterMap_cons, hfind]
      simp only [Function.comp_apply, htext]
      rfl

private theorem OrdinaryTransactions.exists_input {address : MainchainAddress}
    (h : OrdinaryTransactions db address) {block : Nat} {r : OriginRow}
    (hr : r ∈ inForce db address block) : ∃ i ∈ db.txIn, i.txInId = r.tx.id := by
  obtain ⟨hmem, horigin, haddress, ⟨n, hn, -⟩, -⟩ := mem_inForce.mp hr
  obtain ⟨-, htx, hblock, htxId, hblockId⟩ := origin_eq_some horigin
  obtain ⟨i, hi, hid⟩ := h _ hmem haddress _ htx htxId.symm _ hblock hblockId.symm (by simp [hn])
  exact ⟨i, hi, hid.trans htxId⟩

/-- Of one group only the datum can fail to decode. -/
theorem decode_utxoGroup (lib : Libraries J) (h : Ledger db) {address : MainchainAddress}
    (hordinary : OrdinaryTransactions db address) {block : Nat} {r : OriginRow}
    (hr : r ∈ inForce db address block) :
    ∃ row : Option PlutusData → MainchainTxOutputRow,
      MainchainTxOutputRow.decode lib (r.columns (datumValue db r.txOut), utxoRowsOf db r) =
        (decodeDatum lib (datumValue db r.txOut)).map row ∧
      ∀ datum, MainchainTxOutput.tryFrom lib (row datum) = .ok (outputOf db r datum) := by
  obtain ⟨-, horigin, -, ⟨n, hn, -⟩, -⟩ := mem_inForce.mp hr
  obtain ⟨e, s, he, hs, -⟩ := Db.decode_ok (origin_eq_some horigin).2.2.1 hn
  have hinputs := mapM_txInput h lib.hex (hordinary.exists_input hr)
  refine ⟨fun datum =>
    { utxoIdTxHash := r.tx.hash, utxoIdIndex := r.txOut.index, txBlockNo := n, txSlotNo := s,
      txEpochNo := e, txIndexInBlock := r.tx.blockIndex, address := r.txOut.address,
      datum := datum, txInputs := (utxoRowsOf db r).map UtxoRow.txInput }, ?_, ?_⟩
  · simp only [MainchainTxOutputRow.decode, OriginRow.columns, notNull, hn, hs, he, bind,
      Except.bind]
    cases decodeDatum lib (datumValue db r.txOut) <;> rfl
  · intro datum
    simp [MainchainTxOutput.tryFrom, hinputs, Except.mapError, bind, Except.bind, outputOf, hn,
      hs, he]

/-- The query returns the outputs in force; only the conversion of a datum can
fail. -/
theorem getUtxosForAddress_eq [DecidableEq J] (lib : Libraries J) (h : Ledger db)
    {address : MainchainAddress} (hordinary : OrdinaryTransactions db address) (block : Nat) :
    getUtxosForAddress lib db address block =
      (inForce db address block).mapM fun r =>
        (decodeDatum lib (datumValue db r.txOut)).map (outputOf db r) := by
  rw [getUtxosForAddress, utxoGroups_eq h, fetchAll, List.mapM_map]
  refine mapM_bind_mapM ?_ ?_
  · intro r hr
    obtain ⟨row, hdecode, htryFrom⟩ := decode_utxoGroup lib h hordinary hr
    rw [Function.comp_apply, hdecode]
    cases decodeDatum lib (datumValue db r.txOut) with
    | error e => rfl
    | ok datum => exact (htryFrom datum).symm
  · intro r hr _ hrow
    obtain ⟨row, hdecode, htryFrom⟩ := decode_utxoGroup lib h hordinary hr
    rw [Function.comp_apply, hdecode] at hrow
    cases hdatum : decodeDatum lib (datumValue db r.txOut) with
    | error e => simp [hdatum, Except.map] at hrow
    | ok datum =>
        rw [hdatum] at hrow
        exact ⟨_, Except.ok.inj hrow ▸ htryFrom datum⟩

end Joins

end PartnerChains.Ports.LedgerOutputs
