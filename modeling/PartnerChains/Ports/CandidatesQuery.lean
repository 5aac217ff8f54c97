import PartnerChains.Ports.DbSync
import PartnerChains.Ports.MainchainDatums
import PartnerChains.Ports.NativeTokenQuery
import PartnerChains.Ports.UtxoText

/-!
# Queries about authority candidates

The port of the queries behind `CandidatesDataSourceImpl`: the unspent outputs
of an address after a block, the stake distribution and the nonce of an epoch,
and the latest output that held a token up to an epoch.

The query for the outputs of an address joins each output to its transaction
and block, to the input that consumes it, to the inputs that its transaction
consumes, and to its datum.  It groups the rows by output and collects the
consumed outputs as text.
-/

namespace PartnerChains.Ports.CandidatesQuery

open PartnerChains.Ports.Domain
open PartnerChains.Ports.DbSync
open PartnerChains.Ports.MainchainDatums
open PartnerChains.Ports.NativeTokenQuery
open PartnerChains.Ports.UtxoText
open PartnerChains.Verified.Relational

/-- The functions of libraries outside the repository: the hexadecimal
decoder, the conversion of a JSON value by the detailed schema, and the
BLAKE2b hash of a verification key. -/
structure Libraries (J : Type) where
  hex : HexDecoder
  encodeJsonValueToPlutusDatum : J → Option PlutusData
  fromVkey : MainchainPublicKey → MainchainAddressHash

section Decoding

variable {J : Type} (lib : Libraries J)

/-- `DbDatum::decode` of a nullable column. -/
def decodeDatum (column : Option J) : Except SqlxError (Option PlutusData) :=
  match column with
  | none => .ok none
  | some value =>
      match lib.encodeJsonValueToPlutusDatum value with
      | some data => .ok (some data)
      | none => .error (.columnDecode "datum")

end Decoding

/-! ## The unspent outputs of an address -/

/-- An output with its place on the main chain and the outputs its transaction
consumes. -/
structure MainchainTxOutput where
  utxoId : UtxoId
  txBlockNo : Nat
  txSlotNo : Nat
  txEpochNo : Nat
  txIndexInBlock : Nat
  address : String
  datum : Option PlutusData
  txInputs : List UtxoId

/-- The row `get_utxos_for_address` is decoded to; the consumed inputs are still
text. -/
structure MainchainTxOutputRow where
  utxoIdTxHash : McTxHash
  utxoIdIndex : Nat
  txBlockNo : Nat
  txSlotNo : Nat
  txEpochNo : Nat
  txIndexInBlock : Nat
  address : String
  datum : Option PlutusData
  txInputs : List Text

/-- The columns that the rows are grouped by. -/
structure UtxoColumns (J : Type) where
  txHash : McTxHash
  index : Nat
  blockNo : Option Nat
  slotNo : Option Nat
  epochNo : Option Nat
  blockIndex : Nat
  address : MainchainAddress
  datum : Option J
deriving DecidableEq

/-- An output with its transaction and block. -/
structure OriginRow where
  txOut : TxOutRow
  tx : TxRow
  block : BlockRow
deriving DecidableEq

/-- An output with the input that consumes it. -/
structure ConsumingRow where
  origin : OriginRow
  consumingTxIn : Option TxInRow
  consumingTx : Option TxRow
  consumingBlock : Option BlockRow

/-- A row of the whole join: with one input of the transaction of the output,
the output that the input consumes, and the datum. -/
structure UtxoRow (J : Type) where
  consuming : ConsumingRow
  consumesTxIn : Option TxInRow
  consumesTxOut : Option TxOutRow
  consumesTx : Option TxRow
  datum : Option (DatumRow J)

section Joins

variable {J : Type} (db : Db J)

/-- Every output with the transaction and the block that made it. -/
def originRows : List OriginRow :=
  (db.txOut
    |> innerJoin db.tx (fun o t => decide (o.txId = t.id))
    |> innerJoin db.block (fun (_, t) b => decide (t.blockId = b.id))).map
      fun ((o, t), b) => ⟨o, t, b⟩

/-- Left joins what spends each output: the input, its transaction and its block. -/
def joinConsuming (rows : List OriginRow) : List ConsumingRow :=
  (rows
    |> leftJoin db.txIn (fun origin i =>
        decide (origin.txOut.txId = i.txOutId) && decide (origin.txOut.index = i.txOutIndex))
    |> leftJoin db.tx (fun (_, i) t => i.any fun i => decide (i.txInId = t.id))
    |> leftJoin db.block (fun (_, t) b => t.any fun t => decide (t.blockId = b.id))).map
      fun (((origin, i), t), b) => ⟨origin, i, t, b⟩

/-- Left joins what the creating transaction consumes, one row for each input, and
the output's datum. -/
def joinConsumes (rows : List ConsumingRow) : List (UtxoRow J) :=
  (rows
    |> leftJoin db.txIn (fun row i => decide (i.txInId = row.origin.tx.id))
    |> leftJoin db.txOut (fun (_, i) o => i.any fun i =>
        decide (o.txId = i.txOutId) && decide (i.txOutIndex = o.index))
    |> leftJoin db.tx (fun (_, o) t => o.any fun o => decide (t.id = o.txId))
    |> leftJoin db.datum (fun (((row, _), _), _) d =>
        row.origin.txOut.dataHash.any fun hash => decide (hash = d.hash))).map
      fun ((((row, i), o), t), d) => ⟨row, i, o, t, d⟩

/-- The `GROUP BY` columns that come from the output, next to a given datum. -/
def OriginRow.columns (row : OriginRow) (datum : Option J) : UtxoColumns J where
  txHash := row.tx.hash
  index := row.txOut.index
  blockNo := row.block.blockNo
  slotNo := row.block.slotNo
  epochNo := row.block.epochNo
  blockIndex := row.tx.blockIndex
  address := row.txOut.address
  datum := datum

/-- The columns the query groups by. -/
def UtxoRow.columns (row : UtxoRow J) : UtxoColumns J :=
  row.consuming.origin.columns (row.datum.bind DatumRow.value)

/-- The text collected by `array_agg`. -/
def UtxoRow.txInput (row : UtxoRow J) : Text :=
  concatWs [row.consumesTx.map fun t => hexEncode t.hash.bytes,
    row.consumesTxIn.map fun i => Nat.toDigits 10 i.txOutIndex]

/-- Unspent after the block: not consumed, or consumed in a later block. -/
def ConsumingRow.unspent (row : ConsumingRow) (block : Nat) : Bool :=
  row.consumingTxIn.isNone ||
    (row.consumingBlock.bind BlockRow.blockNo).any fun n => decide (block < n)

/-- The groups of `get_utxos_for_address` before they are decoded. -/
def utxoGroups [DecidableEq J] (address : MainchainAddress) (block : Nat) :
    List (UtxoColumns J × List (UtxoRow J)) :=
  let rows := (joinConsumes db (joinConsuming db (originRows db))).filter fun row =>
    decide (row.consuming.origin.txOut.address = address) &&
      row.consuming.origin.block.blockNo.any (fun n => decide (n ≤ block)) &&
      row.consuming.unspent block
  groupBy UtxoRow.columns rows

end Joins

section Utxos

variable {J : Type} (lib : Libraries J)

/-- Decodes one group; a column that is null for an unnumbered block is an error. -/
def MainchainTxOutputRow.decode (group : UtxoColumns J × List (UtxoRow J)) :
    Except SqlxError MainchainTxOutputRow := do
  let txBlockNo ← notNull "tx_block_no" group.1.blockNo
  let txSlotNo ← notNull "tx_slot_no" group.1.slotNo
  let txEpochNo ← notNull "tx_epoch_no" group.1.epochNo
  let datum ← decodeDatum lib group.1.datum
  .ok { utxoIdTxHash := group.1.txHash, utxoIdIndex := group.1.index, txBlockNo := txBlockNo,
        txSlotNo := txSlotNo, txEpochNo := txEpochNo, txIndexInBlock := group.1.blockIndex,
        address := group.1.address, datum := datum, txInputs := group.2.map UtxoRow.txInput }

/-- `TryFrom<MainchainTxOutputRow>`: parses the text of each consumed input. -/
def MainchainTxOutput.tryFrom (r : MainchainTxOutputRow) : Except SqlxError MainchainTxOutput := do
  let txInputs ← (r.txInputs.mapM (utxoIdFromStr lib.hex)).mapError .decode
  .ok { utxoId := ⟨r.utxoIdTxHash, r.utxoIdIndex⟩, txBlockNo := r.txBlockNo,
        txSlotNo := r.txSlotNo, txEpochNo := r.txEpochNo, txIndexInBlock := r.txIndexInBlock,
        address := r.address, datum := r.datum, txInputs := txInputs }

/-- `get_utxos_for_address`: the outputs at the address that are unspent at the
given block. -/
def getUtxosForAddress [DecidableEq J] (db : Db J) (address : MainchainAddress) (block : Nat) :
    Except SqlxError (List MainchainTxOutput) := do
  let rows ← fetchAll (MainchainTxOutputRow.decode lib) (utxoGroups db address block)
  rows.mapM (MainchainTxOutput.tryFrom lib)

end Utxos

/-! ## Stake and nonce of an epoch -/

section Epoch

variable {J : Type} (db : Db J)

/-- A stake pool with the stake delegated to it in one epoch. -/
structure StakePoolEntry where
  poolHash : MainchainAddressHash
  stake : UInt64
deriving DecidableEq

/-- `StakeDelegation is always a u64`. -/
def decodeStake (sum : Nat) : Except SqlxError UInt64 :=
  if sum < 2 ^ 64 then .ok (UInt64.ofNat sum) else .error (.columnDecode "stake")

/-- `get_stake_distribution`: the delegated stake of the epoch summed by pool. -/
def getStakeDistribution (epoch : Nat) : Except SqlxError (List StakePoolEntry) :=
  let rows := (db.epochStake
    |> innerJoin db.poolHash (fun es ph => decide (es.poolId = ph.id))).filter
      fun (es, _) => decide ((es.epochNo : Int) = asInt4 epoch)
  fetchAll (fun group => do
      let stake ← decodeStake (group.2.map fun (es, _) => es.amount.toNat).sum
      .ok ⟨group.1, stake⟩)
    (groupBy (fun (_, ph) => ph.hashRaw) rows)

/-- `get_epoch_nonce`: a row whose nonce is null does not decode, a missing row is
`none`. -/
def getEpochNonce (epoch : Nat) : Except SqlxError (Option Bytes) :=
  fetchOptional (fun row => (notNull "nonce" row.nonce).map FixedBytes.bytes)
    (db.epochParam.filter fun row => decide ((row.epochNo : Int) = asInt4 epoch))

variable {db} {epoch : Nat}

theorem getStakeDistribution_of_lt (h : epoch < 2 ^ 31) :
    getStakeDistribution db epoch =
      fetchAll (fun group => do
          let stake ← decodeStake (group.2.map fun (es, _) => es.amount.toNat).sum
          .ok ⟨group.1, stake⟩)
        (groupBy (fun (_, ph) => ph.hashRaw)
          ((db.epochStake |> innerJoin db.poolHash (fun es ph => decide (es.poolId = ph.id))).filter
            fun (es, _) => decide (es.epochNo = epoch))) := by
  simp only [getStakeDistribution, asInt4_of_lt h, Int.natCast_inj]

theorem getEpochNonce_of_lt (h : epoch < 2 ^ 31) :
    getEpochNonce db epoch =
      fetchOptional (fun row => (notNull "nonce" row.nonce).map FixedBytes.bytes)
        (db.epochParam.filter fun row => decide (row.epochNo = epoch)) := by
  simp only [getEpochNonce, asInt4_of_lt h, Int.natCast_inj]

end Epoch

/-! ## The latest output with a token -/

/-- An output that carries the token, with its place on the main chain and its
datum. -/
structure TokenTxOutput where
  originTxHash : McTxHash
  utxoIndex : Nat
  txEpochNo : Nat
  txBlockNo : Nat
  txSlotNo : Nat
  txBlockIndex : Nat
  datum : Option PlutusData

/-- A row of the join of `get_token_utxo_for_epoch`. -/
structure TokenRow (J : Type) where
  maTxOut : MaTxOutRow
  multiAsset : MultiAssetRow
  txOut : TxOutRow
  originTx : TxRow
  originBlock : BlockRow
  datum : Option (DatumRow J)

section Token

variable {J : Type} (lib : Libraries J) (db : Db J)

/-- Every token quantity with its asset, its output, the output's transaction,
block and datum. -/
def tokenRows : List (TokenRow J) :=
  (db.maTxOut
    |> innerJoin db.multiAsset (fun m a => decide (m.ident = a.id))
    |> innerJoin db.txOut (fun (m, _) o => decide (m.txOutId = o.id))
    |> innerJoin db.tx (fun (_, o) t => decide (o.txId = t.id))
    |> innerJoin db.block (fun (_, t) b => decide (t.blockId = b.id))
    |> leftJoin db.datum (fun (((_, o), _), _) d =>
        o.dataHash.any fun hash => decide (hash = d.hash))).map
      fun (((((m, a), o), t), b), d) => ⟨m, a, o, t, b, d⟩

/-- Decodes one row of the token query. -/
def TokenTxOutput.decode (row : TokenRow J) : Except SqlxError TokenTxOutput := do
  let txEpochNo ← notNull "tx_epoch_no" row.originBlock.epochNo
  let txBlockNo ← notNull "tx_block_no" row.originBlock.blockNo
  let txSlotNo ← notNull "tx_slot_no" row.originBlock.slotNo
  let datum ← decodeDatum lib (row.datum.bind DatumRow.value)
  .ok { originTxHash := row.originTx.hash, utxoIndex := row.txOut.index,
        txEpochNo := txEpochNo, txBlockNo := txBlockNo, txSlotNo := txSlotNo,
        txBlockIndex := row.originTx.blockIndex, datum := datum }

/-- The order of the query: by block, then by position in the block. -/
def TokenRow.position (row : TokenRow J) : WithTop Nat ×ₗ Nat :=
  toLex (sortKey row.originBlock.blockNo, row.originTx.blockIndex)

/-- `get_token_utxo_for_epoch`: the last output with the asset up to the end of
the epoch, spent or not. -/
def getTokenUtxoForEpoch (asset : Asset) (epoch : Nat) :
    Except SqlxError (Option TokenTxOutput) :=
  let rows := (tokenRows db).filter fun row =>
    decide (row.multiAsset.policy = asset.policyId) &&
      decide (row.multiAsset.name = asset.assetName) &&
      row.originBlock.epochNo.any fun (e : Nat) => decide (e ≤ asInt4 epoch)
  fetchOptional (TokenTxOutput.decode lib) (orderByDesc TokenRow.position rows)

theorem getTokenUtxoForEpoch_of_lt (asset : Asset) {epoch : Nat} (h : epoch < 2 ^ 31) :
    getTokenUtxoForEpoch lib db asset epoch =
      fetchOptional (TokenTxOutput.decode lib)
        (orderByDesc TokenRow.position ((tokenRows db).filter fun row =>
          decide (row.multiAsset.policy = asset.policyId) &&
            decide (row.multiAsset.name = asset.assetName) &&
            row.originBlock.epochNo.any fun e => decide (e ≤ epoch))) := by
  simp only [getTokenUtxoForEpoch, asInt4_of_lt h, Int.ofNat_le]

end Token

end PartnerChains.Ports.CandidatesQuery
