import PartnerChains.Ports.BlockDataSource

/-!
# Proposed main chain blocks and their verification

The proposer takes the highest block in the window up to `latest - (k + margin)`,
the verifier a block `n` of the window with `n + k <= latest`.  On a main chain
shorter than `k + margin` the difference saturates at zero, and the proposer
offers block 0 as a stable block, which it is not for the verifier.

`getStableBlockFor_iff` is the exact condition under which a verifier that has
all blocks of the proposer accepts what is offered.
-/

namespace PartnerChains.Ports.StableProposal

open PartnerChains.Ports.Domain
open PartnerChains.Ports.DbSync
open PartnerChains.Ports.BlockDataSource
open PartnerChains.Verified.Fallible
open PartnerChains.Verified.Relational

variable {J : Type} {source : BlockDataSourceImpl} {db db' : Db J}

/-! ## The block that is offered -/

/-- What the proposer's block is: the highest one in its range. -/
structure Offered (source : BlockDataSourceImpl) (db : Db J) (timestamp : UInt64) (time : Int)
    (minSlot maxSlot : Nat) (block : Block) : Prop where
  time_eq : source.timestampToDbType timestamp = .ok time
  minSlot_eq : source.dateTimeToSlot (source.minBlockAllowedTime time) = .ok minSlot
  maxSlot_eq : source.dateTimeToSlot (source.maxAllowedBlockTime time) = .ok maxSlot
  hasBlock : HasBlock db block
  range : InRange (source.stableBlockNo (latestBlockNo db)) (source.minBlockAllowedTime time)
    minSlot (source.maxAllowedBlockTime time) maxSlot block
  highest : ∀ c, HasBlock db c →
    InRange (source.stableBlockNo (latestBlockNo db)) (source.minBlockAllowedTime time)
      minSlot (source.maxAllowedBlockTime time) maxSlot c → c.blockNo ≤ block.blockNo

theorem ofBlock_eq_ok {block : Block} {b : MainchainBlock}
    (h : MainchainBlock.ofBlock block = .ok b) :
    b.number = block.blockNo ∧ b.hash = block.hash := by
  unfold MainchainBlock.ofBlock at h
  split at h
  · cases h
  · cases h
    exact ⟨rfl, rfl⟩

private theorem number_of_latestBlockInfo {latest : MainchainBlock}
    (h : BlockDataSourceImpl.latestBlockInfo db = .ok latest) :
    latest.number = latestBlockNo db := by
  obtain ⟨found, hfound, hrest⟩ := bind_eq_ok.mp h
  cases found with
  | none => cases hrest
  | some block =>
      have hno := blockNo_of_getLatestBlockInfo (mapError_eq_ok.mp hfound)
      rw [← hno]
      exact (ofBlock_eq_ok hrest).1

/-- The proposer's block is the highest one in its range. -/
theorem offered_of_getLatestStableBlockFor {timestamp : UInt64} {b : MainchainBlock}
    (h : source.getLatestStableBlockFor db timestamp = .ok (some b)) :
    ∃ time minSlot maxSlot block, Offered source db timestamp time minSlot maxSlot block ∧
      MainchainBlock.ofBlock block = .ok b := by
  obtain ⟨time, htime, hrest⟩ := bind_eq_ok.mp h
  obtain ⟨latest, hlatest, hrest⟩ := bind_eq_ok.mp hrest
  obtain ⟨found, hfound, hrest⟩ := bind_eq_ok.mp hrest
  obtain ⟨minSlot, hminSlot, hfound⟩ := bind_eq_ok.mp hfound
  obtain ⟨maxSlot, hmaxSlot, hfound⟩ := bind_eq_ok.mp hfound
  rw [number_of_latestBlockInfo hlatest] at hfound
  obtain ⟨result, hresult, hsome, hhighest⟩ := getHighestBlock_ok db
    (source.stableBlockNo (latestBlockNo db)) (source.minBlockAllowedTime time) minSlot
    (source.maxAllowedBlockTime time) maxSlot
  obtain rfl : result = found :=
    Except.ok.inj (hresult.symm.trans (mapError_eq_ok.mp hfound))
  cases result with
  | none => cases hrest
  | some block =>
      obtain ⟨b', hb', hrest⟩ := bind_eq_ok.mp hrest
      obtain rfl : b' = b := by simpa using hrest
      obtain ⟨hblock, hrange⟩ := hsome block rfl
      refine ⟨time, minSlot, maxSlot, block,
        ⟨htime, hminSlot, hmaxSlot, hblock, hrange, ?_⟩, hb'⟩
      intro c hc hin
      obtain ⟨highest, hhigh, hle⟩ := hhighest c hc hin
      cases hhigh
      exact hle

/-- Numbers up to the latest one are bound to a query as they are. -/
theorem asInt4_stableBlockNo (source : BlockDataSourceImpl) (db : Db J) :
    asInt4 (source.stableBlockNo (latestBlockNo db)) = source.stableBlockNo (latestBlockNo db) := by
  have hlatest := latestBlockNo_lt db
  exact asInt4_of_lt (by rw [BlockDataSourceImpl.stableBlockNo]; omega)

/-- What is offered is stable by the number of its block. -/
theorem Offered.blockNo_le_stable {timestamp : UInt64} {time : Int} {minSlot maxSlot : Nat}
    {block : Block} (h : Offered source db timestamp time minSlot maxSlot block) :
    block.blockNo ≤ source.stableBlockNo (latestBlockNo db) := by
  have hno := h.range.blockNo
  rw [asInt4_stableBlockNo] at hno
  exact_mod_cast hno

theorem Offered.isBlockTimeValid {timestamp : UInt64} {time : Int} {minSlot maxSlot : Nat}
    {block : Block} (h : Offered source db timestamp time minSlot maxSlot block) :
    source.isBlockTimeValid block time = true :=
  isBlockTimeValid_iff.mpr ⟨h.range.minTime, h.range.maxTime⟩

/-! ## Stability on both sides -/

/-- When the verifier takes a block that was offered for stable.  Unless the
`u32` sum of the two parameters overflows, block 0 is the only problem. -/
def OfferStable (source : BlockDataSourceImpl) (number latest : Nat) : Prop :=
  if source.securityParameter.toNat + source.blockStabilityMargin.toNat < 2 ^ 32 then
    number = 0 → source.securityParameter.toNat ≤ latest
  else source.isStable number latest = true

/-- What is offered is found stable later exactly if the margin allows for it. -/
theorem Offered.isStable_iff {timestamp : UInt64} {time : Int} {minSlot maxSlot : Nat}
    {block : Block} (h : Offered source db timestamp time minSlot maxSlot block)
    {latest : Nat} (hlatest : latestBlockNo db ≤ latest) :
    source.isStable block.blockNo latest = true ↔ OfferStable source block.blockNo latest := by
  unfold OfferStable
  by_cases hsum : source.securityParameter.toNat + source.blockStabilityMargin.toNat < 2 ^ 32
  · rw [if_pos hsum]
    have hk : source.securityParameter.toNat < 2 ^ 32 := source.securityParameter.toNat_lt
    have hoffset : (source.securityParameter + source.blockStabilityMargin).toNat =
        source.securityParameter.toNat + source.blockStabilityMargin.toNat := by
      rw [UInt32.toNat_add, Nat.mod_eq_of_lt hsum]
    have hlt := latestBlockNo_lt db
    have hno := h.blockNo_le_stable
    rw [BlockDataSourceImpl.stableBlockNo, hoffset] at hno
    by_cases hzero : block.blockNo = 0
    · rw [BlockDataSourceImpl.isStable, decide_eq_true_eq, hzero, Nat.zero_add,
        Nat.mod_eq_of_lt hk]
      simp
    · have hfit : block.blockNo + source.securityParameter.toNat < 2 ^ 32 := by omega
      rw [BlockDataSourceImpl.isStable, decide_eq_true_eq, Nat.mod_eq_of_lt hfit]
      exact iff_of_true (by omega) fun h => absurd h hzero
  · rw [if_neg hsum]

/-- A chain that contains all blocks of another one is at least as high. -/
theorem latestBlockNo_mono (hblocks : ∀ block, HasBlock db block → HasBlock db' block) :
    latestBlockNo db ≤ latestBlockNo db' := by
  by_cases hne : db.block.filterMap BlockRow.blockNo = []
  · simp [latestBlockNo, hne]
  · obtain ⟨row, hrow, hn⟩ := exists_latestBlockNo hne
    obtain ⟨block, hdecode, hblock⟩ := hasBlock_of_row hrow (by simp [hn])
    rw [(BlockRow.decode_eq_ok hdecode).1] at hn
    rw [← Option.some.inj hn]
    exact (hblocks block hblock).blockNo_le_latest

/-! ## Verification -/

/-- With a sound cache the answer is found in the database. -/
theorem getStableBlockFor_eq {cache : List Block} (hcache : CacheSound source db cache)
    {timestamp : UInt64} {time : Int} (htime : source.timestampToDbType timestamp = .ok time)
    {block : Block} {b : MainchainBlock} (hof : MainchainBlock.ofBlock block = .ok b)
    (hblock : HasBlock db block) (hvalid : source.isBlockTimeValid block time = true) :
    (source.getStableBlockFor db cache b.hash timestamp).1 =
      .ok (if source.isStable block.blockNo (latestBlockNo db) then some b else none) := by
  rw [BlockDataSourceImpl.getStableBlockFor, htime]
  show (source.getStableBlockByHash db cache b.hash time).1 = _
  rw [hcache.getStableBlockByHash, (ofBlock_eq_ok hof).2, hblock.getStableBlockByHashFromDb,
    hvalid, Bool.and_true]
  cases source.isStable block.blockNo (latestBlockNo db) with
  | true => simp [Except.bind, hof, Except.map]
  | false => simp [Except.bind]

/-- A verifier with all blocks of the proposer accepts the block that was
offered, cached or not, exactly if it is stable on its side. -/
theorem getStableBlockFor_iff
    (hblocks : ∀ block, HasBlock db block → HasBlock db' block) {cache : List Block}
    (hcache : CacheSound source db' cache) {timestamp : UInt64} {b : MainchainBlock}
    (hoffer : source.getLatestStableBlockFor db timestamp = .ok (some b)) :
    (source.getStableBlockFor db' cache b.hash timestamp).1 = .ok (some b) ↔
      OfferStable source b.number (latestBlockNo db') := by
  obtain ⟨time, minSlot, maxSlot, block, hoffered, hof⟩ :=
    offered_of_getLatestStableBlockFor hoffer
  rw [getStableBlockFor_eq hcache hoffered.time_eq hof (hblocks block hoffered.hasBlock)
      hoffered.isBlockTimeValid, (ofBlock_eq_ok hof).1,
    ← hoffered.isStable_iff (latestBlockNo_mono hblocks)]
  simp

/-! ## A main chain of one block

With a security parameter of one, a single block is not stable. -/

/-- One confirmation makes a block stable. -/
def oneBlockSource : BlockDataSourceImpl where
  securityParameter := 1
  minSlotBoundaryAsSeconds := 1000
  maxSlotBoundaryAsSeconds := 3000
  mainchainEpochConfig := ⟨⟨0, 10000, 0⟩, 0⟩
  blockStabilityMargin := 0
  cacheSize := 100
  latestDateTime := 2 ^ 52

/-- The only block. -/
def firstRow : BlockRow := ⟨0, FixedBytes.replicate 32 0, some 0, some 0, some 0, 0⟩

/-- A main chain of one block. -/
def oneBlockDb : Db Unit :=
  { Db.empty Unit with
    block := [firstRow]
    block_pkey := by decide
    block_words := by decide
    tx_block_id_fkey := by decide
    unique_block_hash := by decide
    numbered_complete := by decide
    chain := by decide }

/-- `firstRow` as the data source returns it. -/
def firstMainchainBlock : MainchainBlock := ⟨0, FixedBytes.replicate 32 0, 0, 0, 0⟩

theorem oneBlockDb_latest :
    getLatestBlockInfo oneBlockDb = .ok (some ⟨0, FixedBytes.replicate 32 0, 0, 0, 0⟩) := by
  show fetchOptional BlockRow.decode (orderByDesc (fun b => sortKey b.blockNo) [firstRow]) = _
  rw [orderByDesc_of_pairwise (List.pairwise_singleton _ _)]
  rfl

private theorem oneBlockDb_highest :
    getHighestBlock oneBlockDb 0 0 0 2000 2 =
      .ok (some ⟨0, FixedBytes.replicate 32 0, 0, 0, 0⟩) := by
  show fetchOptional BlockRow.decode (orderByDesc (fun b => sortKey b.blockNo) [firstRow]) = _
  rw [orderByDesc_of_pairwise (List.pairwise_singleton _ _)]
  rfl

/-- The only block is offered although nothing confirms it. -/
theorem oneBlockDb_offer :
    oneBlockSource.getLatestStableBlockFor oneBlockDb 3000 = .ok (some firstMainchainBlock) := by
  have hlatest : BlockDataSourceImpl.latestBlockInfo oneBlockDb = .ok firstMainchainBlock := by
    rw [BlockDataSourceImpl.latestBlockInfo, oneBlockDb_latest]
    rfl
  have hblock : oneBlockSource.getLatestBlock oneBlockDb 0 3000 =
      .ok (some ⟨0, FixedBytes.replicate 32 0, 0, 0, 0⟩) := by
    show (getHighestBlock oneBlockDb 0 0 0 2000 2).mapError _ = _
    rw [oneBlockDb_highest]
    rfl
  rw [BlockDataSourceImpl.getLatestStableBlockFor, hlatest]
  show (oneBlockSource.getLatestBlock oneBlockDb 0 3000).bind _ = _
  rw [hblock]
  rfl

/-- The same node does not accept the block that it offers. -/
theorem oneBlockDb_refused :
    oneBlockSource.getLatestStableBlockFor oneBlockDb 3000 = .ok (some firstMainchainBlock) ∧
      (oneBlockSource.getStableBlockFor oneBlockDb [] firstMainchainBlock.hash 3000).1 =
        .ok none := by
  refine ⟨oneBlockDb_offer, ?_⟩
  have hdb : oneBlockSource.getStableBlockByHashFromDb oneBlockDb firstMainchainBlock.hash 3000 =
      .ok none := by
    rw [BlockDataSourceImpl.getStableBlockByHashFromDb, oneBlockDb_latest]
    rfl
  show (oneBlockSource.getStableBlockByHash oneBlockDb [] firstMainchainBlock.hash 3000).1 = _
  rw [BlockDataSourceImpl.getStableBlockByHash,
    show oneBlockSource.getStableBlockByHashFromCache [] firstMainchainBlock.hash 3000 = none
      from rfl]
  simp only [hdb]

/-- The condition on the chain of one block. -/
theorem getStableBlockFor_iff_oneBlock :
    (oneBlockSource.getStableBlockFor oneBlockDb [] firstMainchainBlock.hash 3000).1 =
        .ok (some firstMainchainBlock) ↔
      OfferStable oneBlockSource firstMainchainBlock.number (latestBlockNo oneBlockDb) :=
  getStableBlockFor_iff (fun _ h => h) (fun _ h => absurd h List.not_mem_nil)
    oneBlockDb_offer

end PartnerChains.Ports.StableProposal
