import PartnerChains.Ports.DbSync
import PartnerChains.Ports.NativeTokenPallet
import PartnerChains.Ports.UtxoText

/-!
# Native token transfers in the database

The port of `NativeTokenManagementDataSourceImpl`: the total of the transfers
from genesis, the per-block totals of a range of blocks, and the cache of the
latter.

The total from genesis keeps only the requested asset, its condition stands in
the `WHERE` clause.  The per-block totals state the condition in the `ON`
clause of an outer join to `multi_asset`, which drops no row, so they sum up
all assets of the outputs.  `quantityIn` is what both are compared with: the
quantity of the assets that satisfy a condition in the outputs to an address,
in the blocks of a range.
-/

namespace PartnerChains.Ports.NativeTokenQuery

open PartnerChains.Ports.Domain
open PartnerChains.Ports.DbSync
open PartnerChains.Ports.NativeTokenPallet
open PartnerChains.Ports.UtxoText
open PartnerChains.Verified.Relational
open PartnerChains.Verified.StableSort

structure Asset where
  policyId : PolicyId
  assetName : AssetName
deriving DecidableEq

/-! ## The queries -/

/-- `NativeTokenQuantity is always a u128`. -/
def decodeAmount (column : String) (sum : Nat) : Except SqlxError Nat :=
  if sum < 2 ^ 128 then .ok sum else .error (.columnDecode column)

section Queries

variable {J : Type} (db : Db J)

/-- `get_total_native_tokens_transfered`: everything that was sent to the address
up to a block. -/
def getTotalNativeTokensTransfered (toBlock : Nat) (asset : Asset)
    (illiquidSupplyAddress : MainchainAddress) : Except SqlxError Nat :=
  let rows := db.txOut
    |> leftJoin db.maTxOut (fun o m => decide (o.id = m.txOutId))
    |> leftJoin db.multiAsset (fun (_, m) a => m.any fun m => decide (a.id = m.ident))
    |> innerJoin db.tx (fun ((o, _), _) t => decide (t.id = o.txId))
    |> innerJoin db.block (fun (_, t) b => decide (b.id = t.blockId))
    |> List.filter (fun ((((o, _), a), _), b) =>
        decide (o.address = illiquidSupplyAddress) &&
          a.any (fun a => decide (a.policy = asset.policyId)) &&
          a.any (fun a => decide (a.name = asset.assetName)) &&
          b.blockNo.any (fun n => decide (n ≤ toBlock)))
  decodeAmount "0" (rows.filterMap fun ((((_, m), _), _), _) =>
    m.map fun m => m.quantity.toNat).sum

structure BlockTokenAmount where
  blockHash : McBlockHash
  amount : Nat
deriving DecidableEq

/-- A row of the join of `get_native_token_transfers`. -/
abbrev TransferRow :=
  ((((BlockRow × Option TxRow) × Option TxOutRow) × Option MaTxOutRow) × Option MultiAssetRow)

/-- The rows of `get_native_token_transfers` from the blocks on, before grouping. -/
def transferRows (asset : Asset) (illiquidSupplyAddress : MainchainAddress)
    (blocks : List BlockRow) : List TransferRow :=
  blocks
    |> leftJoin db.tx (fun b t => decide (b.id = t.blockId))
    |> leftJoin db.txOut (fun (_, t) o =>
        t.any (fun t => decide (t.id = o.txId)) && decide (o.address = illiquidSupplyAddress))
    |> leftJoin db.maTxOut (fun (_, o) m => o.any fun o => decide (o.id = m.txOutId))
    |> leftJoin db.multiAsset (fun (_, m) a =>
        m.any (fun m => decide (a.id = m.ident)) && decide (a.policy = asset.policyId) &&
          decide (a.name = asset.assetName))

/-- `SUM(ma_tx_out.quantity)`, where null counts as nothing. -/
def transferSum (rows : List TransferRow) : Nat :=
  (rows.filterMap fun (((_, _), m), _) => m.map fun m => m.quantity.toNat).sum

/-- `get_native_token_transfers`: the amount sent in each block of the range. -/
def getNativeTokenTransfers (fromBlock toBlock : Nat) (asset : Asset)
    (illiquidSupplyAddress : MainchainAddress) : Except SqlxError (List BlockTokenAmount) :=
  let rows := (transferRows db asset illiquidSupplyAddress db.block).filter
    fun ((((b, _), _), _), _) =>
      b.blockNo.any (fun n => decide (fromBlock ≤ n)) &&
        b.blockNo.any (fun n => decide (n ≤ toBlock))
  let groups := groupBy (fun ((((b, _), _), _), _) => (b.blockNo, b.hash)) rows
  fetchAll (fun group => do
      let amount ← decodeAmount "amount" (transferSum group.2)
      .ok ⟨group.1.2, amount⟩)
    (sortByKey (fun group => sortKey group.1.1) groups)

end Queries

/-! ## The data source -/

/-- `security_parameter` and `cache_size`. -/
structure SourceConfig where
  securityParameter : Nat
  cacheSize : Nat
deriving DecidableEq

/-- Consecutive blocks with their total of transfers. -/
abbrev Cache := List (McBlockHash × Nat)

/-- `None` if a block is missing or the range is not in order. -/
def Cache.getSumInRange (cache : Cache) (afterBlock toBlock : McBlockHash) :
    Option NativeTokenAmount := do
  let afterIdx ← cache.findIdx? fun entry => decide (entry.1 = afterBlock)
  let toIdx ← cache.findIdx? fun entry => decide (entry.1 = toBlock)
  if afterIdx ≤ toIdx then
    some (BitVec.ofNat 128
      (((cache.drop (afterIdx + 1)).take (toIdx - afterIdx)).map Prod.snd).sum)
  else none

/-- `Itertools::take_while_inclusive`. -/
def takeWhileInclusive {α : Type} (p : α → Bool) : List α → List α
  | [] => []
  | a :: rest => if p a then a :: takeWhileInclusive p rest else [a]

/-- A database error becomes a `DataSourceError`. -/
def internal {α : Type} (result : Except SqlxError α) : Except DataSourceError α :=
  result.mapError .internalDataSourceError

/-- `Display` of a block hash. -/
def hashText (hash : McBlockHash) : String := String.ofList (hexEncode hash.bytes)

section Source

variable {J : Type} (config : SourceConfig) (db : Db J)

def getFromBlockNo (fromBlock : McBlockHash) : Except DataSourceError Nat := do
  match ← internal (getBlockByHash db fromBlock) with
  | some block => .ok block.blockNo
  | none => .error (.expectedDataNotFound ("Lower bound block " ++ hashText fromBlock ++
      " not found when querying for native token transfers"))

def getToBlockNo (toBlock : McBlockHash) : Except DataSourceError Nat := do
  match ← internal (getBlockByHash db toBlock) with
  | some block => .ok block.blockNo
  | none => .error (.expectedDataNotFound ("Upper bound block " ++ hashText toBlock ++
      " not found when querying for native token transfers"))

def getLatestBlock : Except DataSourceError Block := do
  match ← internal (getLatestBlockInfo db) with
  | some block => .ok block
  | none => .error (.expectedDataNotFound
      "The latest block not found when querying for native token transfers")

/-- `u32::saturating_add`. -/
def saturatingAdd (a b : Nat) : Nat := min (a + b) (2 ^ 32 - 1)

/-- The totals from `fromBlock` on; the first entry is `fromBlock` itself, as
guard for the cache. -/
def getDataToCache (fromBlock toBlock : McBlockHash) (asset : Asset)
    (address : MainchainAddress) : Except DataSourceError Cache := do
  let fromBlockNo ← getFromBlockNo db fromBlock
  let toBlockNo ← getToBlockNo db toBlock
  let latestBlock ← getLatestBlock db
  let latestStableBlock := latestBlock.blockNo - config.securityParameter
  let cacheToBlockNo := min latestStableBlock
    (max toBlockNo (saturatingAdd fromBlockNo config.cacheSize))
  let transfers ← internal
    (getNativeTokenTransfers db fromBlockNo cacheToBlockNo asset address)
  .ok (transfers.map fun t => (t.blockHash, t.amount))

/-- `query_transfers_from_genesis`: one sum instead of a sum of blocks. -/
def queryTransfersFromGenesis (toBlock : McBlockHash) (asset : Asset)
    (address : MainchainAddress) : Except DataSourceError NativeTokenAmount := do
  let toBlockNo ← getToBlockNo db toBlock
  let amount ← internal (getTotalNativeTokensTransfered db toBlockNo asset address)
  .ok (BitVec.ofNat 128 amount)

/-- The answer together with the cache that it leaves. -/
def getTotalNativeTokenTransfer (cache : Cache) (afterBlock : Option McBlockHash)
    (toBlock : McBlockHash) (asset : Asset) (address : MainchainAddress) :
    Except DataSourceError (NativeTokenAmount × Cache) :=
  match afterBlock with
  | some afterBlock =>
      if afterBlock = toBlock then .ok (0, cache)
      else
        match cache.getSumInRange afterBlock toBlock with
        | some amount => .ok (amount, cache)
        | none => do
            let blockToAmount ← getDataToCache config db afterBlock toBlock asset address
            let amount := ((takeWhileInclusive (fun entry => decide (entry.1 ≠ toBlock))
              (blockToAmount.drop 1)).map Prod.snd).sum
            .ok (BitVec.ofNat 128 amount, blockToAmount)
  | none => do
      let amount ← queryTransfersFromGenesis db toBlock asset address
      .ok (amount, cache)

end Source

/-! ## What the totals are meant to be -/

section Quantity

variable {J : Type} (db : Db J)

/-- The token rows of one asset. -/
def isAsset (asset : Asset) (m : MaTxOutRow) : Bool :=
  db.multiAsset.any fun a =>
    decide (a.id = m.ident) && decide (a.policy = asset.policyId) &&
      decide (a.name = asset.assetName)

/-- The quantity of the kept assets in one output. -/
def outputQuantity (keep : MaTxOutRow → Bool) (o : TxOutRow) : Nat :=
  ((db.maTxOut.filter fun m => decide (o.id = m.txOutId)).map fun m =>
    if keep m then m.quantity.toNat else 0).sum

/-- The quantity in the outputs of one transaction to an address. -/
def txQuantity (keep : MaTxOutRow → Bool) (address : MainchainAddress) (t : TxRow) : Nat :=
  ((db.txOut.filter fun o => decide (t.id = o.txId) && decide (o.address = address)).map
    (outputQuantity db keep)).sum

/-- What the transactions of a block send to the address, of the kept rows. -/
def blockQuantity (keep : MaTxOutRow → Bool) (address : MainchainAddress) (b : BlockRow) :
    Nat :=
  ((db.tx.filter fun t => decide (b.id = t.blockId)).map (txQuantity db keep address)).sum

/-- The quantity of the kept assets in the outputs to an address, over the
blocks whose number satisfies `range`. -/
def quantityIn (keep : MaTxOutRow → Bool) (address : MainchainAddress) (range : Nat → Bool) :
    Nat :=
  ((db.block.filter fun b => b.blockNo.any range).map (blockQuantity db keep address)).sum

end Quantity

end PartnerChains.Ports.NativeTokenQuery
