import PartnerChains.Ports.AriadneProvider
import PartnerChains.Verified.Fallible

/-!
# The data source of main chain blocks

The port of `BlockDataSourceImpl`.  A proposer asks for the latest stable block
in a window of time before its slot, a verifier for a block by its hash, which
has to be stable and in the window.  Stable blocks are kept in a cache for
lookups by hash; it is filled from the block that was asked for.

Times are in milliseconds.  Block numbers are `u32`: their sums wrap around as
in a release build, their differences saturate.  Numbers and slots that are
bound to a query reach the database as signed integers of the same bits.

`fillCache` is put together from the two queries it makes, `blocksToCache` is
the second one.
-/

namespace PartnerChains.Ports.BlockDataSource

open PartnerChains.Ports.Domain
open PartnerChains.Ports.DbSync
open PartnerChains.Ports.AriadneProvider
open PartnerChains.Verified.Fallible
open PartnerChains.Verified.Relational
open PartnerChains.Verified.StableSort

/-- A main chain block as the node gets it. -/
structure MainchainBlock where
  number : Nat
  hash : McBlockHash
  epoch : Nat
  slot : Nat
  /-- In seconds. -/
  timestamp : Nat
deriving DecidableEq

/-- What the boxed error of the data source can hold. -/
inductive BlockSourceError where
  | sqlx (error : SqlxError)
  /-- The message ends with the value. -/
  | badRequest (message : String) (value : Int)
  | internalDataSourceError (message : String)
  | expectedDataNotFound (what : String)
  /-- Not a value of the source: the call panics. -/
  | panic (message : String)
deriving DecidableEq

/-- `MainchainEpochConfig` with its last field. -/
structure MainchainSlotConfig extends MainchainEpochConfig where
  firstSlotNumber : UInt64

/-- `timestamp_to_mainchain_slot_number`, for a time in milliseconds; slots take a
second. -/
def MainchainSlotConfig.timestampToMainchainSlotNumber (config : MainchainSlotConfig)
    (timestamp : Nat) : Except EpochDerivationError Nat :=
  if timestamp < config.firstEpochTimestampMillis.toNat then .error .timestampTooSmall
  else
    .ok ((config.firstSlotNumber.toNat +
      (timestamp - config.firstEpochTimestampMillis.toNat) / 1000) % 2 ^ 64)

/-- The configuration of the data source. -/
structure BlockDataSourceImpl where
  securityParameter : UInt32
  /-- A span of time, in milliseconds. -/
  minSlotBoundaryAsSeconds : Int
  maxSlotBoundaryAsSeconds : Int
  mainchainEpochConfig : MainchainSlotConfig
  blockStabilityMargin : UInt32
  cacheSize : UInt16
  /-- The last time that `DateTime` represents. -/
  latestDateTime : Int

/-! ## Queries -/

section Queries

variable {J : Type} (db : Db J)

/-- `get_blocks_by_numbers`: the blocks between two numbers, in their order. -/
def getBlocksByNumbers (from' to' : Nat) : Except SqlxError (List Block) :=
  fetchAll BlockRow.decode
    (sortByKey (fun b => sortKey b.blockNo)
      (db.block.filter fun b => b.blockNo.any fun n => decide (from' ≤ n) && decide (n ≤ to')))

/-- The bits of a `u64` as a signed number. -/
def asInt8 (n : Nat) : Int := if n < 2 ^ 63 then n else n - 2 ^ 64

/-- The `WHERE` clause of `get_highest_block`. -/
def inRange (maxBlockNumber : Nat) (minTime : Int) (minSlot : Nat) (maxTime : Int)
    (maxSlot : Nat) (b : BlockRow) : Bool :=
  (b.blockNo.any fun (n : Nat) => decide (n ≤ asInt4 maxBlockNumber)) &&
    (b.slotNo.any fun (s : Nat) => decide (asInt8 minSlot ≤ s)) &&
    (b.slotNo.any fun (s : Nat) => decide (s ≤ asInt8 maxSlot)) &&
    decide (minTime ≤ b.time) && decide (b.time ≤ maxTime)

/-- `get_highest_block`: the highest block below a number with a time and slot in
a range. -/
def getHighestBlock (maxBlockNumber : Nat) (minTime : Int) (minSlot : Nat) (maxTime : Int)
    (maxSlot : Nat) : Except SqlxError (Option Block) :=
  fetchOptional BlockRow.decode
    (orderByDesc (fun b => sortKey b.blockNo)
      (db.block.filter (inRange maxBlockNumber minTime minSlot maxTime maxSlot)))

end Queries

/-- `From<Block> for MainchainBlock`. -/
def MainchainBlock.ofBlock (b : Block) : Except BlockSourceError MainchainBlock :=
  if b.time < 0 then .error (.panic "i64 timestamp is valid u64")
  else
    .ok { number := b.blockNo, hash := b.hash, epoch := b.epochNo, slot := b.slotNo,
          timestamp := (b.time / 1000).toNat }

/-! ## The data source -/

namespace BlockDataSourceImpl

variable {J : Type} (source : BlockDataSourceImpl) (db : Db J)

/-- `timestamp_to_db_type`: times beyond those of `DateTime` are refused. -/
def timestampToDbType (timestamp : UInt64) : Except BlockSourceError Int :=
  if timestamp.toNat < 2 ^ 63 ∧ (timestamp.toNat : Int) ≤ source.latestDateTime then
    .ok timestamp.toNat
  else .error (.badRequest "Timestamp out of range: " timestamp.toNat)

/-- `date_time_to_slot`: a time before the first epoch counts as the first slot. -/
def dateTimeToSlot (dt : Int) : Except BlockSourceError Nat :=
  if dt < 0 then .error (.badRequest "Datetime out of range: " dt)
  else
    match source.mainchainEpochConfig.timestampToMainchainSlotNumber dt.toNat with
    | .ok slot => .ok slot
    | .error _ => .ok source.mainchainEpochConfig.firstSlotNumber.toNat

/-- `min_block_allowed_time`: the oldest a block may be for a reference time. -/
def minBlockAllowedTime (referenceTimestamp : Int) : Int :=
  referenceTimestamp - source.maxSlotBoundaryAsSeconds

/-- `max_allowed_block_time`: the youngest a block may be for a reference time. -/
def maxAllowedBlockTime (referenceTimestamp : Int) : Int :=
  referenceTimestamp - source.minSlotBoundaryAsSeconds

/-- `is_block_time_valid`: both ends of the range are allowed. -/
def isBlockTimeValid (block : Block) (timestamp : Int) : Bool :=
  decide (source.minBlockAllowedTime timestamp ≤ block.time) &&
    decide (block.time ≤ source.maxAllowedBlockTime timestamp)

/-- The latest block of the database, which has to be there. -/
def latestBlockInfo : Except BlockSourceError MainchainBlock := do
  match ← (getLatestBlockInfo db).mapError .sqlx with
  | some block => MainchainBlock.ofBlock block
  | none => .error (.expectedDataNotFound "No latest block on chain.")

/-- `get_latest_block`: the highest block up to a number that is valid for a
reference time. -/
def getLatestBlock (maxBlock : Nat) (referenceTimestamp : Int) :
    Except BlockSourceError (Option Block) := do
  let minTime := source.minBlockAllowedTime referenceTimestamp
  let minSlot ← source.dateTimeToSlot minTime
  let maxTime := source.maxAllowedBlockTime referenceTimestamp
  let maxSlot ← source.dateTimeToSlot maxTime
  (getHighestBlock db maxBlock minTime minSlot maxTime maxSlot).mapError .sqlx

/-- The number up to which the proposer takes blocks for stable. -/
def stableBlockNo (latest : Nat) : Nat :=
  latest - (source.securityParameter + source.blockStabilityMargin).toNat

/-- `get_latest_stable_block_for`: the block that an author refers to. -/
def getLatestStableBlockFor (referenceTimestamp : UInt64) :
    Except BlockSourceError (Option MainchainBlock) := do
  let referenceTimestamp ← source.timestampToDbType referenceTimestamp
  let latest ← latestBlockInfo db
  let stable := source.stableBlockNo latest.number
  match ← source.getLatestBlock db stable referenceTimestamp with
  | some block => do
      let block ← MainchainBlock.ofBlock block
      .ok (some block)
  | none => .ok none

/-! The cache is a list of blocks. -/

/-- `get_stable_block_by_hash_from_cache`: stability is not checked again. -/
def getStableBlockByHashFromCache (cache : List Block) (hash : McBlockHash)
    (referenceTimestamp : Int) : Option Block :=
  (cache.find? fun b => decide (b.hash = hash)).filter fun block =>
    source.isBlockTimeValid block referenceTimestamp

/-- The verifier's notion of a stable block. -/
def isStable (block latest : Nat) : Bool :=
  decide ((block + source.securityParameter.toNat) % 2 ^ 32 ≤ latest)

/-- `get_stable_block_by_hash_from_db`: the block has to be stable and valid for
the reference time. -/
def getStableBlockByHashFromDb (hash : McBlockHash) (referenceTimestamp : Int) :
    Except BlockSourceError (Option Block) := do
  let block ← (getBlockByHash db hash).mapError .sqlx
  let latestBlock ← (getLatestBlockInfo db).mapError .sqlx
  match block, latestBlock with
  | some block, some latestBlock =>
      .ok (if source.isStable block.blockNo latestBlock.blockNo &&
          source.isBlockTimeValid block referenceTimestamp then some block else none)
  | _, _ => .ok none

/-- Up to which number blocks are cached. -/
def toBlockNo (fromBlock latest : Nat) : Nat :=
  min (min (fromBlock + source.cacheSize.toNat) (2 ^ 32 - 1))
    (latest - source.securityParameter.toNat)

/-- The blocks that go into the cache after a block was found in the database. -/
def blocksToCache (fromBlock : Block) (latest : Nat) : Except BlockSourceError (List Block) :=
  let toBlockNo := source.toBlockNo fromBlock.blockNo latest
  if fromBlock.blockNo < toBlockNo then
    (getBlocksByNumbers db fromBlock.blockNo toBlockNo).mapError .sqlx
  else .ok [fromBlock]

/-- The new content of the cache. -/
def fillCache (fromBlock : Block) : Except BlockSourceError (List Block) := do
  match ← (getLatestBlockInfo db).mapError .sqlx with
  | none => .error (.internalDataSourceError "No latest block when filling the caches.")
  | some latestBlock => source.blocksToCache db fromBlock latestBlock.blockNo

/-- The answer and the cache after it. -/
def getStableBlockByHash (cache : List Block) (hash : McBlockHash) (referenceTimestamp : Int) :
    Except BlockSourceError (Option MainchainBlock) × List Block :=
  match source.getStableBlockByHashFromCache cache hash referenceTimestamp with
  | some block => ((MainchainBlock.ofBlock block).map some, cache)
  | none =>
      match source.getStableBlockByHashFromDb db hash referenceTimestamp with
      | .error e => (.error e, cache)
      | .ok none => (.ok none, cache)
      | .ok (some block) =>
          match source.fillCache db block with
          | .error e => (.error e, cache)
          | .ok blocks => ((MainchainBlock.ofBlock block).map some, blocks)

/-- `get_stable_block_for`: the cache comes first, and the result has the cache
after the call. -/
def getStableBlockFor (cache : List Block) (hash : McBlockHash) (referenceTimestamp : UInt64) :
    Except BlockSourceError (Option MainchainBlock) × List Block :=
  match source.timestampToDbType referenceTimestamp with
  | .error e => (.error e, cache)
  | .ok referenceTimestamp => source.getStableBlockByHash db cache hash referenceTimestamp

end BlockDataSourceImpl

/-! ## The blocks of a database -/

section Blocks

variable {J : Type} {db : Db J}

/-- A numbered block of the database. -/
def HasBlock (db : Db J) (block : Block) : Prop := ∃ row ∈ db.block, row.decode = .ok block

/-- A block at depth `k` or more. -/
def Deep (k : UInt32) (db : Db J) (block : Block) : Prop :=
  HasBlock db block ∧ block.blockNo + k.toNat ≤ latestBlockNo db

/-- A row with a number decodes. -/
theorem hasBlock_of_row {row : BlockRow} (hrow : row ∈ db.block) (hn : row.blockNo.isSome) :
    ∃ block, row.decode = .ok block ∧ HasBlock db block := by
  obtain ⟨n, hn⟩ := Option.isSome_iff_exists.mp hn
  obtain ⟨e, s, -, -, hdecode⟩ := Db.decode_ok hrow hn
  exact ⟨_, hdecode, row, hrow, hdecode⟩

/-- Block numbers and slots are in the same order. -/
theorem HasBlock.blockNo_lt_iff {b c : Block} (hb : HasBlock db b) (hc : HasBlock db c) :
    b.blockNo < c.blockNo ↔ b.slotNo < c.slotNo := by
  obtain ⟨row, hrow, hdecode⟩ := hb
  obtain ⟨row', hrow', hdecode'⟩ := hc
  obtain ⟨hn, -, -, hs, -⟩ := BlockRow.decode_eq_ok hdecode
  obtain ⟨hn', -, -, hs', -⟩ := BlockRow.decode_eq_ok hdecode'
  by_cases hsame : row = row'
  · subst hsame
    have hno : c.blockNo = b.blockNo := Option.some.inj (hn'.symm.trans hn)
    have hslot : c.slotNo = b.slotNo := Option.some.inj (hs'.symm.trans hs)
    omega
  · rcases db.chain row hrow row' hrow' hsame (by simp [hn]) (by simp [hn']) with h | h
    · have h₁ := h.blockNo
      have h₂ := h.slotNo
      simp only [hn, hn', hs, hs', Option.getD_some] at h₁ h₂
      omega
    · have h₁ := h.blockNo
      have h₂ := h.slotNo
      simp only [hn, hn', hs, hs', Option.getD_some] at h₁ h₂
      omega

theorem HasBlock.blockNo_lt {b : Block} (hb : HasBlock db b) : b.blockNo < 2 ^ 31 := by
  obtain ⟨row, hrow, hdecode⟩ := hb
  exact Db.blockNo_lt hrow (BlockRow.decode_eq_ok hdecode).1

theorem HasBlock.slotNo_lt {b : Block} (hb : HasBlock db b) : b.slotNo < 2 ^ 63 := by
  obtain ⟨row, hrow, hdecode⟩ := hb
  exact Db.slotNo_lt hrow (BlockRow.decode_eq_ok hdecode).2.2.2.1

/-- No block is above the latest one. -/
theorem HasBlock.blockNo_le_latest {b : Block} (hb : HasBlock db b) :
    b.blockNo ≤ latestBlockNo db := by
  obtain ⟨row, hrow, hdecode⟩ := hb
  exact le_latestBlockNo hrow (BlockRow.decode_eq_ok hdecode).1

/-- When there is a block at all, the latest one is found. -/
theorem HasBlock.getLatestBlockInfo {b : Block} (hb : HasBlock db b) :
    ∃ latest, DbSync.getLatestBlockInfo db = .ok (some latest) ∧
      latest.blockNo = latestBlockNo db := by
  obtain ⟨row, hrow, hdecode⟩ := hb
  exact getLatestBlockInfo_ok hrow (by simp [(BlockRow.decode_eq_ok hdecode).1])

theorem blockNo_of_getLatestBlockInfo {latest : Block}
    (h : DbSync.getLatestBlockInfo db = .ok (some latest)) :
    latest.blockNo = latestBlockNo db := by
  have hrow : ∃ row ∈ db.block, row.blockNo.isSome := by
    by_contra hnone
    push Not at hnone
    have hempty : (db.block.filter fun b => b.blockNo.isSome) = [] :=
      List.filter_eq_nil_iff.mpr hnone
    simp [DbSync.getLatestBlockInfo, hempty, orderByDesc, sortByKey, fetchOptional] at h
  obtain ⟨row, hmem, hn⟩ := hrow
  obtain ⟨latest', hlatest, hno⟩ := getLatestBlockInfo_ok hmem hn
  cases h.symm.trans hlatest
  exact hno

/-! ## What the queries return -/

/-- A block is found by its hash. -/
theorem HasBlock.getBlockByHash {block : Block} (h : HasBlock db block) :
    DbSync.getBlockByHash db block.hash = .ok (some block) := by
  obtain ⟨row, hrow, hdecode⟩ := h
  rw [← (BlockRow.decode_eq_ok hdecode).2.1, getBlockByHash_of_mem hrow, hdecode]
  rfl

/-- What is found by a hash is a block with that hash. -/
theorem hasBlock_of_getBlockByHash {hash : McBlockHash} {block : Block}
    (h : DbSync.getBlockByHash db hash = .ok (some block)) :
    HasBlock db block ∧ block.hash = hash := by
  unfold DbSync.getBlockByHash fetchOptional at h
  cases hhead : (db.block.filter fun b => decide (b.hash = hash)).head? with
  | none => simp [hhead] at h
  | some row =>
      have hmem := List.mem_of_head? hhead
      rw [List.mem_filter, decide_eq_true_eq] at hmem
      simp only [hhead] at h
      cases hdecode : row.decode with
      | error e => simp [hdecode, Except.map] at h
      | ok result =>
          simp only [hdecode, Except.map, Except.ok.injEq, Option.some.injEq] at h
          subst h
          exact ⟨⟨row, hmem.1, hdecode⟩, by rw [← (BlockRow.decode_eq_ok hdecode).2.1, hmem.2]⟩

/-- The blocks between two numbers. -/
theorem getBlocksByNumbers_ok (db : Db J) (from' to' : Nat) :
    ∃ blocks, getBlocksByNumbers db from' to' = .ok blocks ∧
      ∀ block, block ∈ blocks ↔
        HasBlock db block ∧ from' ≤ block.blockNo ∧ block.blockNo ≤ to' := by
  have hrows : ∀ row, row ∈ sortByKey (fun b => sortKey b.blockNo) (db.block.filter fun b =>
      b.blockNo.any fun n => decide (from' ≤ n) && decide (n ≤ to')) ↔
      row ∈ db.block ∧ ∃ n, row.blockNo = some n ∧ from' ≤ n ∧ n ≤ to' := by
    intro row
    rw [(sortByKey_perm _ _).mem_iff, List.mem_filter]
    simp [Option.any_eq_true]
  have hdecode : ∀ row ∈ sortByKey (fun b => sortKey b.blockNo) (db.block.filter fun b =>
      b.blockNo.any fun n => decide (from' ≤ n) && decide (n ≤ to')),
      row.decode = .ok ⟨row.blockNo.getD 0, row.hash, row.epochNo.getD 0, row.slotNo.getD 0,
        row.time⟩ := by
    intro row hrow
    obtain ⟨hmem, n, hn, -⟩ := (hrows row).mp hrow
    obtain ⟨e, s, he, hs, hdecode⟩ := Db.decode_ok hmem hn
    rw [hdecode, hn, he, hs]
    rfl
  refine ⟨_, mapM_ok hdecode, ?_⟩
  intro block
  rw [List.mem_map]
  constructor
  · rintro ⟨row, hrow, rfl⟩
    obtain ⟨hmem, n, hn, hfrom, hto⟩ := (hrows row).mp hrow
    exact ⟨⟨row, hmem, hdecode row hrow⟩, by simpa [hn] using ⟨hfrom, hto⟩⟩
  · rintro ⟨⟨row, hmem, hrow⟩, hfrom, hto⟩
    have hin := (hrows row).mpr ⟨hmem, _, (BlockRow.decode_eq_ok hrow).1, hfrom, hto⟩
    exact ⟨row, hin, Except.ok.inj ((hdecode row hin).symm.trans hrow)⟩

/-- The conditions of `get_highest_block`. -/
structure InRange (maxBlockNumber : Nat) (minTime : Int) (minSlot : Nat) (maxTime : Int)
    (maxSlot : Nat) (block : Block) : Prop where
  blockNo : block.blockNo ≤ asInt4 maxBlockNumber
  minSlot : asInt8 minSlot ≤ block.slotNo
  maxSlot : block.slotNo ≤ asInt8 maxSlot
  minTime : minTime ≤ block.time
  maxTime : block.time ≤ maxTime

/-- The filter of the query, on decoded blocks. -/
theorem inRange_iff {maxBlockNumber : Nat} {minTime : Int} {minSlot : Nat} {maxTime : Int}
    {maxSlot : Nat} {row : BlockRow} {block : Block} (h : row.decode = .ok block) :
    inRange maxBlockNumber minTime minSlot maxTime maxSlot row = true ↔
      InRange maxBlockNumber minTime minSlot maxTime maxSlot block := by
  obtain ⟨hn, -, -, hs, ht⟩ := BlockRow.decode_eq_ok h
  simp only [inRange, hn, hs, ht, Option.any_some, Bool.and_eq_true, decide_eq_true_eq]
  constructor
  · rintro ⟨⟨⟨⟨hno, hmin⟩, hmax⟩, hminTime⟩, hmaxTime⟩
    exact ⟨hno, hmin, hmax, hminTime, hmaxTime⟩
  · rintro ⟨hno, hmin, hmax, hminTime, hmaxTime⟩
    exact ⟨⟨⟨⟨hno, hmin⟩, hmax⟩, hminTime⟩, hmaxTime⟩

/-- The highest of the numbered blocks that meet a condition, if there is
one. -/
theorem fetchHighest_ok (db : Db J) {p : BlockRow → Bool} {P : Block → Prop}
    (hnumbered : ∀ row, p row = true → row.blockNo.isSome)
    (hp : ∀ row block, row.decode = .ok block → (p row = true ↔ P block)) :
    ∃ result, fetchOptional BlockRow.decode
        (orderByDesc (fun b => sortKey b.blockNo) (db.block.filter p)) = .ok result ∧
      (∀ block, result = some block → HasBlock db block ∧ P block) ∧
      ∀ c, HasBlock db c → P c → ∃ block, result = some block ∧ c.blockNo ≤ block.blockNo := by
  unfold fetchOptional
  cases hhead : (orderByDesc (fun b => sortKey b.blockNo) (db.block.filter p)).head? with
  | none =>
      refine ⟨none, rfl, fun _ h => (by cases h), ?_⟩
      rintro c ⟨row, hmem, hdecode⟩ hc
      have hfilter := List.mem_filter.mpr ⟨hmem, (hp row c hdecode).mpr hc⟩
      rw [head?_orderByDesc_eq_none.mp hhead] at hfilter
      cases hfilter
  | some row =>
      obtain ⟨hfilter, hmax⟩ := head?_orderByDesc hhead
      rw [List.mem_filter] at hfilter
      obtain ⟨block, hdecode, hblock⟩ := hasBlock_of_row hfilter.1 (hnumbered row hfilter.2)
      refine ⟨some block, by simp only [hdecode]; rfl, ?_, ?_⟩
      · rintro _ ⟨⟩
        exact ⟨hblock, (hp row block hdecode).mp hfilter.2⟩
      · rintro c ⟨row', hmem', hdecode'⟩ hc
        have hle := hmax row' (List.mem_filter.mpr ⟨hmem', (hp row' c hdecode').mpr hc⟩)
        rw [(BlockRow.decode_eq_ok hdecode).1, (BlockRow.decode_eq_ok hdecode').1] at hle
        exact ⟨block, rfl, WithTop.coe_le_coe.mp hle⟩

/-- The highest block in the range, if there is one. -/
theorem getHighestBlock_ok (db : Db J) (maxBlockNumber : Nat) (minTime : Int) (minSlot : Nat)
    (maxTime : Int) (maxSlot : Nat) :
    ∃ result, getHighestBlock db maxBlockNumber minTime minSlot maxTime maxSlot = .ok result ∧
      (∀ block, result = some block → HasBlock db block ∧
        InRange maxBlockNumber minTime minSlot maxTime maxSlot block) ∧
      ∀ c, HasBlock db c → InRange maxBlockNumber minTime minSlot maxTime maxSlot c →
        ∃ block, result = some block ∧ c.blockNo ≤ block.blockNo := by
  refine fetchHighest_ok db ?_ fun row block hdecode => inRange_iff hdecode
  intro row hrow
  cases hn : row.blockNo with
  | none => simp [inRange, hn] at hrow
  | some n => rfl

end Blocks

/-! ## What the data source returns -/

section Source

variable {J : Type} {source : BlockDataSourceImpl} {db : Db J}

theorem isBlockTimeValid_iff {block : Block} {time : Int} :
    source.isBlockTimeValid block time = true ↔
      source.minBlockAllowedTime time ≤ block.time ∧
        block.time ≤ source.maxAllowedBlockTime time := by
  simp [BlockDataSourceImpl.isBlockTimeValid]

/-- The verifier finds a block of the database that is stable and in time. -/
theorem HasBlock.getStableBlockByHashFromDb {block : Block} (h : HasBlock db block) (time : Int) :
    source.getStableBlockByHashFromDb db block.hash time =
      .ok (if source.isStable block.blockNo (latestBlockNo db) &&
        source.isBlockTimeValid block time then some block else none) := by
  obtain ⟨latest, hlatest, hno⟩ := h.getLatestBlockInfo
  simp only [BlockDataSourceImpl.getStableBlockByHashFromDb, h.getBlockByHash, hlatest,
    Except.mapError, bind, Except.bind, hno]

/-- The database answers with the block of the hash exactly if it is stable and
timely. -/
theorem getStableBlockByHashFromDb_eq_some {hash : McBlockHash} {time : Int} {block : Block} :
    source.getStableBlockByHashFromDb db hash time = .ok (some block) ↔
      HasBlock db block ∧ block.hash = hash ∧
        source.isStable block.blockNo (latestBlockNo db) = true ∧
        source.isBlockTimeValid block time = true := by
  constructor
  · intro h
    obtain ⟨found, hfound, hrest⟩ := bind_eq_ok.mp h
    obtain ⟨latest, -, hresult⟩ := bind_eq_ok.mp hrest
    cases found with
    | none => cases hresult
    | some found =>
        obtain ⟨hblock, rfl⟩ := hasBlock_of_getBlockByHash (mapError_eq_ok.mp hfound)
        rw [hblock.getStableBlockByHashFromDb, Except.ok.injEq,
          Option.ite_none_right_eq_some, Bool.and_eq_true] at h
        obtain ⟨⟨hstable, hvalid⟩, hsome⟩ := h
        obtain rfl := Option.some.inj hsome
        exact ⟨hblock, rfl, hstable, hvalid⟩
  · rintro ⟨hblock, rfl, hstable, hvalid⟩
    rw [hblock.getStableBlockByHashFromDb, hstable, hvalid]
    rfl

/-- What is cached: the block itself, or blocks that are stable behind the
latest one. -/
theorem blocksToCache_ok (source : BlockDataSourceImpl) (db : Db J) (fromBlock : Block)
    (latest : Nat) :
    ∃ blocks, source.blocksToCache db fromBlock latest = .ok blocks ∧
      ∀ block ∈ blocks, block = fromBlock ∨
        HasBlock db block ∧ block.blockNo + source.securityParameter.toNat ≤ latest := by
  unfold BlockDataSourceImpl.blocksToCache
  by_cases hlt : fromBlock.blockNo < source.toBlockNo fromBlock.blockNo latest
  · obtain ⟨blocks, hblocks, hmem⟩ :=
      getBlocksByNumbers_ok db fromBlock.blockNo (source.toBlockNo fromBlock.blockNo latest)
    refine ⟨blocks, by simp only [hlt, if_true, hblocks]; rfl, ?_⟩
    intro block hblock
    obtain ⟨hhas, -, hto⟩ := (hmem block).mp hblock
    have hbound : source.toBlockNo fromBlock.blockNo latest ≤
        latest - source.securityParameter.toNat := Nat.min_le_right _ _
    exact Or.inr ⟨hhas, by omega⟩
  · exact ⟨[fromBlock], by simp [hlt], fun block hblock => Or.inl (List.mem_singleton.mp hblock)⟩

/-- The latest block decides what is put into the cache. -/
theorem HasBlock.fillCache {fromBlock : Block} (h : HasBlock db fromBlock) :
    source.fillCache db fromBlock =
      source.blocksToCache db fromBlock (latestBlockNo db) := by
  obtain ⟨latest, hlatest, hno⟩ := h.getLatestBlockInfo
  simp only [BlockDataSourceImpl.fillCache, hlatest, Except.mapError, bind, Except.bind, hno]

/-! ## The cache -/

/-- The cache holds stable blocks of the database. -/
def CacheSound (source : BlockDataSourceImpl) (db : Db J) (cache : List Block) : Prop :=
  ∀ block ∈ cache, HasBlock db block ∧
    source.isStable block.blockNo (latestBlockNo db) = true

/-- An empty cache is sound. -/
theorem CacheSound.nil (source : BlockDataSourceImpl) (db : Db J) : CacheSound source db [] :=
  fun _ h => absurd h List.not_mem_nil

/-- The sum of the stability check does not wrap for blocks that are deep enough. -/
theorem isStable_of_le {block latest : Nat} (hlt : latest < 2 ^ 32)
    (h : block + source.securityParameter.toNat ≤ latest) :
    source.isStable block latest = true := by
  rw [BlockDataSourceImpl.isStable, decide_eq_true_eq, Nat.mod_eq_of_lt (by omega)]
  exact h

/-- A cached answer is that of the database. -/
theorem CacheSound.fromCache {cache : List Block} (h : CacheSound source db cache)
    {hash : McBlockHash} {time : Int} {block : Block}
    (hfound : source.getStableBlockByHashFromCache cache hash time = some block) :
    source.getStableBlockByHashFromDb db hash time = .ok (some block) := by
  unfold BlockDataSourceImpl.getStableBlockByHashFromCache at hfound
  rw [Option.filter_eq_some_iff] at hfound
  obtain ⟨hfind, hvalid⟩ := hfound
  obtain ⟨hblock, hstable⟩ := h block (List.mem_of_find?_eq_some hfind)
  have hhash := List.find?_some hfind
  rw [decide_eq_true_eq] at hhash
  exact getStableBlockByHashFromDb_eq_some.mpr ⟨hblock, hhash, hstable, hvalid⟩

/-- With a sound cache, a request is answered from the database. -/
theorem CacheSound.getStableBlockByHash {cache : List Block} (h : CacheSound source db cache)
    (hash : McBlockHash) (time : Int) :
    (source.getStableBlockByHash db cache hash time).1 =
      (source.getStableBlockByHashFromDb db hash time).bind fun found =>
        match found with
        | some block => (MainchainBlock.ofBlock block).map some
        | none => .ok none := by
  unfold BlockDataSourceImpl.getStableBlockByHash
  cases hcache : source.getStableBlockByHashFromCache cache hash time with
  | some block =>
      rw [h.fromCache hcache]
      rfl
  | none =>
      cases hdb : source.getStableBlockByHashFromDb db hash time with
      | error e => rfl
      | ok found =>
          cases found with
          | none => rfl
          | some block =>
              obtain ⟨hblock, -⟩ := getStableBlockByHashFromDb_eq_some.mp hdb
              obtain ⟨blocks, hblocks, -⟩ :=
                blocksToCache_ok source db block (latestBlockNo db)
              simp only [hblock.fillCache, hblocks]
              rfl

/-- It stays sound. -/
theorem CacheSound.afterRequest {cache : List Block} (h : CacheSound source db cache)
    (hash : McBlockHash) (time : Int) :
    CacheSound source db (source.getStableBlockByHash db cache hash time).2 := by
  unfold BlockDataSourceImpl.getStableBlockByHash
  cases source.getStableBlockByHashFromCache cache hash time with
  | some block => exact h
  | none =>
      cases hdb : source.getStableBlockByHashFromDb db hash time with
      | error e => exact h
      | ok found =>
          cases found with
          | none => exact h
          | some block =>
              obtain ⟨hblock, -, hstable, -⟩ := getStableBlockByHashFromDb_eq_some.mp hdb
              obtain ⟨blocks, hblocks, hmem⟩ :=
                blocksToCache_ok source db block (latestBlockNo db)
              simp only [hblock.fillCache, hblocks]
              intro b hb
              rcases hmem b hb with rfl | ⟨hhas, hle⟩
              · exact ⟨hblock, hstable⟩
              · have hlatest := latestBlockNo_lt db
                exact ⟨hhas, isStable_of_le (by omega) hle⟩

end Source

end PartnerChains.Ports.BlockDataSource
