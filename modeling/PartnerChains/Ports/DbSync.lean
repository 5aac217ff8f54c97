import Mathlib.Order.WithBot
import PartnerChains.Ports.Domain
import PartnerChains.Verified.Relational

/-!
# The db-sync database

The tables the main chain follower reads, with the columns its queries use,
and the queries about blocks.  `Db` carries what the schema enforces and what
db-sync maintains: primary keys, unique columns, foreign keys, the types of
the columns of a block, and a block table that holds a single chain.  Blocks
without number are the genesis block and the epoch boundary blocks of the Byron
era.

The numbers of epochs and blocks are `u32` in the source, which binds them to a
query with the bits of an `int4`.  `asInt4` is this cast.  It is left out where
a query is only asked for numbers that were read from rows, which it does not
change.

JSON values of the `datum` table are of a type `J` of their own; how they are
converted is not part of this module.
-/

namespace PartnerChains.Ports.DbSync

open PartnerChains.Ports.Domain
open PartnerChains.Verified.Relational

/-- `bigint` row identifiers, up to their bit pattern. -/
abbrev RowId := Fin (2 ^ 64)

instance rowIdNeZero : NeZero (2 ^ 64 : Nat) := ⟨by decide⟩

/-- The hash a `tx_out` row refers to a datum by. -/
abbrev DatumHash := FixedBytes 32

/-- A row of `block`; the epoch, slot and number are null for blocks such as the
genesis one. -/
structure BlockRow where
  id : RowId
  hash : McBlockHash
  epochNo : Option Nat
  slotNo : Option Nat
  blockNo : Option Nat
  /-- In milliseconds. -/
  time : Int
deriving DecidableEq

/-- The order of the chain: along it numbers and slots increase and epochs do
not decrease. -/
structure BlockRow.Before (b c : BlockRow) : Prop where
  blockNo : b.blockNo.getD 0 < c.blockNo.getD 0
  slotNo : b.slotNo.getD 0 < c.slotNo.getD 0
  epochNo : b.epochNo.getD 0 ≤ c.epochNo.getD 0

instance (b c : BlockRow) : Decidable (b.Before c) :=
  decidable_of_iff (b.blockNo.getD 0 < c.blockNo.getD 0 ∧
      b.slotNo.getD 0 < c.slotNo.getD 0 ∧ b.epochNo.getD 0 ≤ c.epochNo.getD 0)
    ⟨fun h => ⟨h.1, h.2.1, h.2.2⟩, fun h => ⟨h.blockNo, h.slotNo, h.epochNo⟩⟩

/-- A row of `tx`. -/
structure TxRow where
  id : RowId
  hash : McTxHash
  blockId : RowId
  blockIndex : Nat
deriving DecidableEq

/-- `tx_in_id` is the spending transaction, `tx_out_id` the transaction of
the output it spends. -/
structure TxInRow where
  id : RowId
  txInId : RowId
  txOutId : RowId
  txOutIndex : Nat
deriving DecidableEq

/-- A row of `tx_out`. -/
structure TxOutRow where
  id : RowId
  txId : RowId
  index : Nat
  address : MainchainAddress
  dataHash : Option DatumHash
deriving DecidableEq

/-- A row of `datum`, with its `jsonb` value left abstract. -/
structure DatumRow (J : Type) where
  id : RowId
  hash : DatumHash
  txId : RowId
  value : Option J
deriving DecidableEq

/-- A row of `multi_asset`. -/
structure MultiAssetRow where
  id : RowId
  policy : PolicyId
  name : AssetName
deriving DecidableEq

/-- A row of `ma_tx_out`: how much of one asset one output holds. -/
structure MaTxOutRow where
  id : RowId
  quantity : UInt64
  txOutId : RowId
  ident : RowId
deriving DecidableEq

/-- A row of `epoch_stake`. -/
structure EpochStakeRow where
  id : RowId
  poolId : RowId
  amount : UInt64
  epochNo : Nat
deriving DecidableEq

/-- A row of `pool_hash`. -/
structure PoolHashRow where
  id : RowId
  hashRaw : MainchainAddressHash
deriving DecidableEq

/-- A row of `epoch_param`. -/
structure EpochParamRow where
  id : RowId
  epochNo : Nat
  nonce : Option (FixedBytes 32)
  blockId : RowId
deriving DecidableEq

/-- The content of the database. -/
structure Db (J : Type) where
  block : List BlockRow
  tx : List TxRow
  txIn : List TxInRow
  txOut : List TxOutRow
  datum : List (DatumRow J)
  multiAsset : List MultiAssetRow
  maTxOut : List MaTxOutRow
  epochStake : List EpochStakeRow
  poolHash : List PoolHashRow
  epochParam : List EpochParamRow
  block_pkey : (block.map BlockRow.id).Nodup
  tx_pkey : (tx.map TxRow.id).Nodup
  unique_tx : (tx.map TxRow.hash).Nodup
  tx_block_id_fkey : ∀ t ∈ tx, ∃ b ∈ block, b.id = t.blockId
  tx_in_pkey : (txIn.map TxInRow.id).Nodup
  tx_out_pkey : (txOut.map TxOutRow.id).Nodup
  multi_asset_pkey : (multiAsset.map MultiAssetRow.id).Nodup
  unique_multi_asset : (multiAsset.map fun a => (a.policy, a.name)).Nodup
  ma_tx_out_pkey : (maTxOut.map MaTxOutRow.id).Nodup
  unique_ma_tx_out : (maTxOut.map fun m => (m.ident, m.txOutId)).Nodup
  ma_tx_out_ident_fkey : ∀ m ∈ maTxOut, ∃ a ∈ multiAsset, a.id = m.ident
  pool_hash_pkey : (poolHash.map PoolHashRow.id).Nodup
  unique_pool_hash : (poolHash.map PoolHashRow.hashRaw).Nodup
  epoch_stake_pool_id_fkey : ∀ s ∈ epochStake, ∃ p ∈ poolHash, p.id = s.poolId
  /-- `epoch_no` and `block_no` are of `word31type`, `slot_no` is of `word63type`. -/
  block_words : ∀ b ∈ block, b.epochNo.getD 0 < 2 ^ 31 ∧ b.slotNo.getD 0 < 2 ^ 63 ∧
    b.blockNo.getD 0 < 2 ^ 31
  /-- Blocks have distinct hashes. -/
  unique_block_hash : (block.map BlockRow.hash).Nodup
  /-- Blocks with a number have an epoch and a slot. -/
  numbered_complete : ∀ b ∈ block, b.blockNo.isSome → b.epochNo.isSome ∧ b.slotNo.isSome
  /-- The numbered blocks form one chain. -/
  chain : ∀ b ∈ block, ∀ c ∈ block, b ≠ c → b.blockNo.isSome → c.blockNo.isSome →
    b.Before c ∨ c.Before b

/-- The database before the first block. -/
def Db.empty (J : Type) : Db J where
  block := []
  tx := []
  txIn := []
  txOut := []
  datum := []
  multiAsset := []
  maTxOut := []
  epochStake := []
  poolHash := []
  epochParam := []
  block_pkey := by decide
  tx_pkey := by decide
  unique_tx := by decide
  tx_block_id_fkey := by decide
  tx_in_pkey := by decide
  tx_out_pkey := by decide
  multi_asset_pkey := by decide
  unique_multi_asset := by decide
  ma_tx_out_pkey := by decide
  unique_ma_tx_out := by decide
  ma_tx_out_ident_fkey := by decide
  pool_hash_pkey := by decide
  unique_pool_hash := by decide
  epoch_stake_pool_id_fkey := by decide
  block_words := by decide
  unique_block_hash := by decide
  numbered_complete := by decide
  chain := by decide

/-! ## Decoding rows -/

/-- The errors of `sqlx` that can arise while rows are decoded. -/
inductive SqlxError where
  | columnDecode (column : String)
  | decode (message : String)
deriving DecidableEq

/-- `DataSourceError` of the db-sync follower, with the texts its messages are
made of. -/
inductive DataSourceError where
  | badRequest (message : String)
  | internalDataSourceError (error : SqlxError)
  | expectedDataNotFound (what : String)
deriving DecidableEq

/-- A column of a type without `NULL`. -/
def notNull {α : Type} (column : String) : Option α → Except SqlxError α
  | some value => .ok value
  | none => .error (.columnDecode column)

/-- `fetch_optional`: the first row, decoded. -/
def fetchOptional {α β : Type} (decode : α → Except SqlxError β) (rows : List α) :
    Except SqlxError (Option β) :=
  match rows.head? with
  | none => .ok none
  | some row => (decode row).map some

/-- `fetch_all`: all rows, decoded; the first failure fails the query. -/
def fetchAll {α β : Type} (decode : α → Except SqlxError β) (rows : List α) :
    Except SqlxError (List β) :=
  rows.mapM decode

/-- The `Block` the queries return, where no column is null any more. -/
structure Block where
  blockNo : Nat
  hash : McBlockHash
  epochNo : Nat
  slotNo : Nat
  time : Int
deriving DecidableEq

/-- Decoding a row fails at the first of the three columns that is null. -/
def BlockRow.decode (b : BlockRow) : Except SqlxError Block := do
  let blockNo ← notNull "block_no" b.blockNo
  let epochNo ← notNull "epoch_no" b.epochNo
  let slotNo ← notNull "slot_no" b.slotNo
  .ok { blockNo := blockNo, hash := b.hash, epochNo := epochNo, slotNo := slotNo, time := b.time }

/-- How a nullable column sorts: `NULL` is greater than every number. -/
def sortKey (column : Option Nat) : WithTop Nat := column

@[simp] theorem sortKey_some (n : Nat) : sortKey (some n) = (n : WithTop Nat) := rfl

/-! ## Numbers of a query -/

/-- The bits of a `u32` as a signed number, as which it is bound to a query. -/
def asInt4 (n : Nat) : Int := if n < 2 ^ 31 then n else n - 2 ^ 32

/-- Numbers in range are bound as they are. -/
theorem asInt4_of_lt {n : Nat} (h : n < 2 ^ 31) : asInt4 n = n := if_pos h

/-! ## Queries about blocks -/

variable {J : Type} (db : Db J)

/-- `get_latest_block_info`: the block with the highest number. -/
def getLatestBlockInfo : Except SqlxError (Option Block) :=
  fetchOptional BlockRow.decode
    (orderByDesc (fun b => sortKey b.blockNo)
      (db.block.filter fun b => b.blockNo.isSome))

/-- `get_block_by_hash`: hashes are unique, so there is at most one row. -/
def getBlockByHash (hash : McBlockHash) : Except SqlxError (Option Block) :=
  fetchOptional BlockRow.decode (db.block.filter fun b => decide (b.hash = hash))

/-- `get_latest_block_for_epoch`: the last block up to the end of the epoch, which
may lie in an earlier one. -/
def getLatestBlockForEpoch (epoch : Nat) : Except SqlxError (Option Block) :=
  fetchOptional BlockRow.decode
    (orderByDesc (fun b => sortKey b.slotNo)
      (db.block.filter fun b =>
        b.epochNo.any (fun (e : Nat) => decide (e ≤ asInt4 epoch)) && b.slotNo.isSome &&
          b.blockNo.isSome))

variable {db}

theorem getLatestBlockForEpoch_of_lt {epoch : Nat} (h : epoch < 2 ^ 31) :
    getLatestBlockForEpoch db epoch =
      fetchOptional BlockRow.decode
        (orderByDesc (fun b => sortKey b.slotNo)
          (db.block.filter fun b =>
            b.epochNo.any (fun e => decide (e ≤ epoch)) && b.slotNo.isSome &&
              b.blockNo.isSome)) := by
  simp only [getLatestBlockForEpoch, asInt4_of_lt h, Int.ofNat_le]

/-! ## The chain of numbered blocks -/

theorem BlockRow.decode_of_some {b : BlockRow} {n e s : Nat} (hn : b.blockNo = some n)
    (he : b.epochNo = some e) (hs : b.slotNo = some s) :
    b.decode = .ok ⟨n, b.hash, e, s, b.time⟩ := by
  simp [BlockRow.decode, notNull, hn, he, hs, bind, Except.bind]

/-- A decoded block has the columns of its row. -/
theorem BlockRow.decode_eq_ok {b : BlockRow} {block : Block} (h : b.decode = .ok block) :
    b.blockNo = some block.blockNo ∧ b.hash = block.hash ∧ b.epochNo = some block.epochNo ∧
      b.slotNo = some block.slotNo ∧ b.time = block.time := by
  cases hn : b.blockNo with
  | none => simp [BlockRow.decode, notNull, hn, bind, Except.bind] at h
  | some n =>
      cases he : b.epochNo with
      | none => simp [BlockRow.decode, notNull, hn, he, bind, Except.bind] at h
      | some e =>
          cases hs : b.slotNo with
          | none => simp [BlockRow.decode, notNull, hn, he, hs, bind, Except.bind] at h
          | some s =>
              rw [BlockRow.decode_of_some hn he hs] at h
              cases h
              exact ⟨rfl, rfl, rfl, rfl, rfl⟩

/-- Numbered blocks decode. -/
theorem Db.decode_ok {b : BlockRow} (hb : b ∈ db.block) {n : Nat} (hn : b.blockNo = some n) :
    ∃ e s, b.epochNo = some e ∧ b.slotNo = some s ∧
      b.decode = .ok ⟨n, b.hash, e, s, b.time⟩ := by
  obtain ⟨he, hs⟩ := db.numbered_complete b hb (by simp [hn])
  obtain ⟨e, he⟩ := Option.isSome_iff_exists.mp he
  obtain ⟨s, hs⟩ := Option.isSome_iff_exists.mp hs
  exact ⟨e, s, he, hs, BlockRow.decode_of_some hn he hs⟩

theorem Db.epochNo_lt {b : BlockRow} (hb : b ∈ db.block) {e : Nat} (he : b.epochNo = some e) :
    e < 2 ^ 31 := by
  have hword := (db.block_words b hb).1
  rwa [he, Option.getD_some] at hword

theorem Db.slotNo_lt {b : BlockRow} (hb : b ∈ db.block) {s : Nat} (hs : b.slotNo = some s) :
    s < 2 ^ 63 := by
  have hword := (db.block_words b hb).2.1
  rwa [hs, Option.getD_some] at hword

theorem Db.blockNo_lt {b : BlockRow} (hb : b ∈ db.block) {n : Nat} (hn : b.blockNo = some n) :
    n < 2 ^ 31 := by
  have hword := (db.block_words b hb).2.2
  rwa [hn, Option.getD_some] at hword

/-- A number is given to one block. -/
theorem Db.block_eq_of_blockNo {b c : BlockRow} (hb : b ∈ db.block) (hc : c ∈ db.block)
    {n : Nat} (hbn : b.blockNo = some n) (hcn : c.blockNo = some n) : b = c := by
  by_contra hne
  rcases db.chain b hb c hc hne (by simp [hbn]) (by simp [hcn]) with h | h
  · have := h.blockNo
    simp [hbn, hcn] at this
  · have := h.blockNo
    simp [hbn, hcn] at this

/-- A hash is given to one block. -/
theorem Db.block_eq_of_hash {b c : BlockRow} (hb : b ∈ db.block) (hc : c ∈ db.block)
    (h : b.hash = c.hash) : b = c :=
  List.inj_on_of_nodup_map db.unique_block_hash hb hc h

/-- The query by a block's hash finds its row. -/
theorem getBlockByHash_of_mem {b : BlockRow} (hb : b ∈ db.block) :
    getBlockByHash db b.hash = b.decode.map some := by
  rw [getBlockByHash, filter_key_eq_singleton db.unique_block_hash hb]
  rfl

variable (db) in
/-- The number of the latest block, zero if no block has a number. -/
def latestBlockNo : Nat := (db.block.filterMap BlockRow.blockNo).foldr max 0

/-- No number is above the latest one. -/
theorem le_latestBlockNo {b : BlockRow} (hb : b ∈ db.block) {n : Nat}
    (hn : b.blockNo = some n) : n ≤ latestBlockNo db := by
  have hmem : n ∈ db.block.filterMap BlockRow.blockNo := List.mem_filterMap.mpr ⟨b, hb, hn⟩
  unfold latestBlockNo
  generalize db.block.filterMap BlockRow.blockNo = l at hmem
  induction l with
  | nil => simp at hmem
  | cons m l ih =>
      rcases List.mem_cons.mp hmem with rfl | hmem
      · exact le_max_left _ _
      · exact (ih hmem).trans (le_max_right _ _)

/-- The latest number is one of a block. -/
theorem exists_latestBlockNo (h : db.block.filterMap BlockRow.blockNo ≠ []) :
    ∃ b ∈ db.block, b.blockNo = some (latestBlockNo db) := by
  have hmem : latestBlockNo db ∈ db.block.filterMap BlockRow.blockNo := by
    unfold latestBlockNo
    generalize db.block.filterMap BlockRow.blockNo = l at h
    induction l with
    | nil => exact absurd rfl h
    | cons m l ih =>
        cases l with
        | nil => simp
        | cons k l =>
            rcases max_choice m (((k :: l).foldr max 0)) with hmax | hmax
            · rw [List.foldr_cons, hmax]
              exact List.mem_cons_self
            · rw [List.foldr_cons, hmax]
              exact List.mem_cons_of_mem _ (ih (by simp))
  obtain ⟨b, hb, hn⟩ := List.mem_filterMap.mp hmem
  exact ⟨b, hb, hn⟩

theorem latestBlockNo_lt (db : Db J) : latestBlockNo db < 2 ^ 31 := by
  by_cases hne : db.block.filterMap BlockRow.blockNo = []
  · simp [latestBlockNo, hne]
  · obtain ⟨b, hb, hn⟩ := exists_latestBlockNo hne
    exact Db.blockNo_lt hb hn

/-- With a numbered block in the database, the latest block is found. -/
theorem getLatestBlockInfo_ok {b : BlockRow} (hb : b ∈ db.block) (hn : b.blockNo.isSome) :
    ∃ block, getLatestBlockInfo db = .ok (some block) ∧ block.blockNo = latestBlockNo db := by
  have hmem : b ∈ db.block.filter fun b => b.blockNo.isSome := List.mem_filter.mpr ⟨hb, hn⟩
  cases hhead : (orderByDesc (fun b => sortKey b.blockNo)
      (db.block.filter fun b => b.blockNo.isSome)).head? with
  | none =>
      rw [head?_orderByDesc_eq_none] at hhead
      rw [hhead] at hmem
      exact absurd hmem (by simp)
  | some latest =>
      obtain ⟨hlatest, hmax⟩ := head?_orderByDesc hhead
      rw [List.mem_filter] at hlatest
      obtain ⟨n, hn'⟩ := Option.isSome_iff_exists.mp hlatest.2
      obtain ⟨e, s, -, -, hdecode⟩ := Db.decode_ok hlatest.1 hn'
      refine ⟨⟨n, latest.hash, e, s, latest.time⟩, ?_, ?_⟩
      · simp only [getLatestBlockInfo, fetchOptional, hhead, hdecode]
        rfl
      · have hne : db.block.filterMap BlockRow.blockNo ≠ [] :=
          List.ne_nil_of_mem (List.mem_filterMap.mpr ⟨latest, hlatest.1, hn'⟩)
        obtain ⟨c, hc, hcn⟩ := exists_latestBlockNo hne
        apply le_antisymm (le_latestBlockNo hlatest.1 hn')
        have hle := hmax c (List.mem_filter.mpr ⟨hc, by simp [hcn]⟩)
        rw [hcn, hn'] at hle
        exact WithTop.coe_le_coe.mp hle

end PartnerChains.Ports.DbSync
