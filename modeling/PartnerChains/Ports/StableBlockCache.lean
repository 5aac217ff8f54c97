import PartnerChains.Ports.BlockDataSource
import PartnerChains.Verified.Interleaving

/-!
# Requests for stable blocks, while the database changes

`get_stable_block_for` waits for the database four times: for the block and for
the latest block when it checks whether the block is stable, for the latest
block and for a range of blocks when it fills the cache.  Other requests run
and the database changes in between.  `turn` is what a request does between two
such points; left alone, it computes `getStableBlockFor`
(`alone_blockRequests`).

The database may change in any way that keeps the blocks at depth `k` and does
not lower the latest block number.  `cache_transparent` says when the cache is
not noticed: block numbers fit their type when the security parameter is added,
and no change touches a block between the two queries that check it.  The check
is not a transaction, and a block that is undone between them is taken for
stable as soon as the chain has grown past it (`forked_answer`).
-/

namespace PartnerChains.Ports.StableBlockCache

open PartnerChains.Ports.Domain
open PartnerChains.Ports.DbSync
open PartnerChains.Ports.BlockDataSource
open PartnerChains.Verified.Fallible
open PartnerChains.Verified.Interleaving

/-- How far a request has come. -/
inductive Phase where
  | asked
  /-- The block is not in the cache. -/
  | missed (referenceTimestamp : Int)
  /-- The block has been queried by its hash. -/
  | queried (referenceTimestamp : Int) (block : Option Block)
  /-- The block is stable and in time. -/
  | checked (block : Block)
  /-- The latest block number has been queried to fill the cache. -/
  | filling (block : Block) (latest : Nat)
  /-- The blocks for the cache have been queried. -/
  | filled (block : Block) (blocks : List Block)

/-- A call of `get_stable_block_for` with the point its task has reached. -/
structure Request where
  hash : McBlockHash
  referenceTimestamp : UInt64
  phase : Phase

/-- What a finished call gives its caller. -/
abbrev Answer := Except BlockSourceError (Option MainchainBlock)

/-- How a block is answered. -/
def answerWith : Option Block → Answer
  | some block => (MainchainBlock.ofBlock block).map some
  | none => .ok none

section Turns

variable {J : Type} (source : BlockDataSourceImpl) (db : Db J) (cache : List Block)

/-- What a task does between two points at which others may run. -/
def turn (r : Request) : Turn (List Block) Request Answer :=
  match r.phase with
  | .asked =>
      match source.timestampToDbType r.referenceTimestamp with
      | .error e => .done (.error e) cache
      | .ok time =>
          match source.getStableBlockByHashFromCache cache r.hash time with
          | some block => .done (answerWith (some block)) cache
          | none => .goOn { r with phase := .missed time } cache
  | .missed time =>
      match (getBlockByHash db r.hash).mapError .sqlx with
      | .error e => .done (.error e) cache
      | .ok block => .goOn { r with phase := .queried time block } cache
  | .queried time block =>
      match (getLatestBlockInfo db).mapError .sqlx with
      | .error e => .done (.error e) cache
      | .ok latestBlock =>
          match block, latestBlock with
          | some block, some latestBlock =>
              if source.isStable block.blockNo latestBlock.blockNo &&
                  source.isBlockTimeValid block time then
                .goOn { r with phase := .checked block } cache
              else .done (answerWith none) cache
          | _, _ => .done (answerWith none) cache
  | .checked block =>
      match (getLatestBlockInfo db).mapError .sqlx with
      | .error e => .done (.error e) cache
      | .ok none =>
          .done (.error (.internalDataSourceError "No latest block when filling the caches.")) cache
      | .ok (some latestBlock) =>
          .goOn { r with phase := .filling block latestBlock.blockNo } cache
  | .filling block latest =>
      match source.blocksToCache db block latest with
      | .error e => .done (.error e) cache
      | .ok blocks => .goOn { r with phase := .filled block blocks } cache
  | .filled block blocks => .done (answerWith (some block)) blocks

/-- What `get_stable_block_by_hash_from_db` returns for a request. -/
def answerFromDb (hash : McBlockHash) (referenceTimestamp : UInt64) : Answer := do
  let time ← source.timestampToDbType referenceTimestamp
  let block ← source.getStableBlockByHashFromDb db hash time
  answerWith block

/-- The changes of the database: deep blocks stay, the chain does not get
shorter. -/
structure Keeps (db db' : Db J) : Prop where
  deep : ∀ block, Deep source.securityParameter db block → HasBlock db' block
  latest_le : latestBlockNo db ≤ latestBlockNo db'

end Turns

/-- Requests with any hashes and timestamps, over a database. -/
def blockRequests (J : Type) (source : BlockDataSourceImpl) :
    System (Db J) (List Block) Request Answer where
  Starts r := r.phase = .asked
  turn := turn source
  Changes c db' := Keeps source c.env db'

/-- A database with an empty cache, before the first request. -/
def initially {J : Type} (db : Db J) : Config (Db J) (List Block) Request := ⟨db, [], []⟩

/-- Block numbers can be added to the security parameter. -/
def Fits {J : Type} (source : BlockDataSourceImpl) (db : Db J) : Prop :=
  latestBlockNo db + source.securityParameter.toNat < 2 ^ 32

instance {J : Type} (source : BlockDataSourceImpl) (db : Db J) : Decidable (Fits source db) :=
  inferInstanceAs (Decidable (_ < _))

/-- A change after which block numbers fit, and which does not add or remove a
block that a request is about to check. -/
structure Orderly {J : Type} (source : BlockDataSourceImpl)
    (c : Config (Db J) (List Block) Request) (db' : Db J) : Prop where
  fits : Fits source db'
  queried : ∀ r ∈ c.tasks, ∀ time block, r.phase = .queried time block →
    getBlockByHash db' r.hash = getBlockByHash c.env r.hash

/-! ## A request that is left alone -/

section Alone

variable {J : Type} (source : BlockDataSourceImpl) (db : Db J) (cache : List Block)
  (hash : McBlockHash) (timestamp : UInt64)

private theorem alone_checked (block : Block) :
    alone (blockRequests J source) db 3 cache ⟨hash, timestamp, .checked block⟩ =
      some (match source.fillCache db block with
        | .error e => (.error e, cache)
        | .ok blocks => (answerWith (some block), blocks)) := by
  unfold BlockDataSourceImpl.fillCache
  cases hlatest : getLatestBlockInfo db with
  | error e => simp [alone, blockRequests, turn, hlatest, Except.mapError, bind, Except.bind]
  | ok latest =>
      cases latest with
      | none => simp [alone, blockRequests, turn, hlatest, Except.mapError, bind, Except.bind]
      | some latest =>
          cases hblocks : source.blocksToCache db block latest.blockNo with
          | error e =>
              simp [alone, blockRequests, turn, hlatest, hblocks, Except.mapError, bind,
                Except.bind]
          | ok blocks =>
              simp [alone, blockRequests, turn, hlatest, hblocks, Except.mapError, bind,
                Except.bind]

private theorem alone_missed (time : Int) :
    alone (blockRequests J source) db 5 cache ⟨hash, timestamp, .missed time⟩ =
      some (match source.getStableBlockByHashFromDb db hash time with
        | .error e => (.error e, cache)
        | .ok none => (answerWith none, cache)
        | .ok (some block) =>
            match source.fillCache db block with
            | .error e => (.error e, cache)
            | .ok blocks => (answerWith (some block), blocks)) := by
  unfold BlockDataSourceImpl.getStableBlockByHashFromDb
  cases hblock : getBlockByHash db hash with
  | error e => simp [alone, blockRequests, turn, hblock, Except.mapError, bind, Except.bind]
  | ok block =>
      rw [alone]
      simp only [blockRequests, turn, hblock, Except.mapError, bind, Except.bind]
      rw [alone]
      cases hlatest : getLatestBlockInfo db with
      | error e => simp [turn, hlatest, Except.mapError]
      | ok latest =>
          cases block with
          | none => simp [turn, hlatest, Except.mapError]
          | some block =>
              cases latest with
              | none => simp [turn, hlatest, Except.mapError]
              | some latest =>
                  cases hstable : source.isStable block.blockNo latest.blockNo &&
                      source.isBlockTimeValid block time with
                  | false => simp [turn, hlatest, hstable, Except.mapError]
                  | true =>
                      simp only [turn, hlatest, hstable, Except.mapError, if_true]
                      exact alone_checked source db cache hash timestamp block

/-- Without interruptions, six turns compute `getStableBlockFor`. -/
theorem alone_blockRequests :
    alone (blockRequests J source) db 6 cache ⟨hash, timestamp, .asked⟩ =
      some (source.getStableBlockFor db cache hash timestamp) := by
  rw [alone, BlockDataSourceImpl.getStableBlockFor]
  cases htime : source.timestampToDbType timestamp with
  | error e => simp [blockRequests, turn, htime]
  | ok time =>
      simp only [blockRequests, turn, htime]
      unfold BlockDataSourceImpl.getStableBlockByHash
      cases hcache : source.getStableBlockByHashFromCache cache hash time with
      | some block => rfl
      | none =>
          exact alone_missed source db cache hash timestamp time

end Alone

/-! ## What is kept -/

section Invariant

variable {J : Type} {source : BlockDataSourceImpl} {db db' : Db J}

/-- A deep block stays deep. -/
theorem Keeps.keepsDeep (h : Keeps source db db') {block : Block}
    (hdeep : Deep source.securityParameter db block) :
    Deep source.securityParameter db' block :=
  ⟨h.deep block hdeep, hdeep.2.trans h.latest_le⟩

/-- A deep block is stable. -/
theorem isStable_of_deep {block : Block} (h : Deep source.securityParameter db block)
    (hfits : Fits source db) :
    source.isStable block.blockNo (latestBlockNo db) = true :=
  isStable_of_le (by unfold Fits at hfits; omega) h.2

/-- While block numbers fit, blocks that pass the check are deep. -/
theorem deep_of_isStable {block : Block} (hfits : Fits source db) (hblock : HasBlock db block)
    (h : source.isStable block.blockNo (latestBlockNo db) = true) :
    Deep source.securityParameter db block := by
  have hle := hblock.blockNo_le_latest
  unfold Fits at hfits
  rw [BlockDataSourceImpl.isStable, decide_eq_true_eq, Nat.mod_eq_of_lt (by omega)] at h
  exact ⟨hblock, h⟩

/-- The block is the answer to the request. -/
structure Serves (source : BlockDataSourceImpl) (db : Db J) (r : Request) (block : Block) :
    Prop where
  deep : Deep source.securityParameter db block
  hash_eq : block.hash = r.hash
  valid : ∃ time, source.timestampToDbType r.referenceTimestamp = .ok time ∧
    source.isBlockTimeValid block time = true

private theorem Serves.answerFromDb_eq {r : Request} {block : Block} (h : Serves source db r block)
    (hfits : Fits source db) :
    answerFromDb source db r.hash r.referenceTimestamp = answerWith (some block) := by
  obtain ⟨time, htime, hvalid⟩ := h.valid
  have hfound := getStableBlockByHashFromDb_eq_some.mpr
    ⟨h.deep.1, h.hash_eq, isStable_of_deep h.deep hfits, hvalid⟩
  simp only [answerFromDb, htime, hfound, bind, Except.bind]

/-- What holds of a request under way. -/
def Fine (source : BlockDataSourceImpl) (db : Db J) (r : Request) : Prop :=
  match r.phase with
  | .asked => True
  | .missed time => source.timestampToDbType r.referenceTimestamp = .ok time
  | .queried time block => source.timestampToDbType r.referenceTimestamp = .ok time ∧
      getBlockByHash db r.hash = .ok block
  | .checked block => Serves source db r block
  | .filling block latest => Serves source db r block ∧ latest ≤ latestBlockNo db
  | .filled block blocks =>
      Serves source db r block ∧ ∀ b ∈ blocks, Deep source.securityParameter db b

/-- What holds of the cache. -/
def Sound (source : BlockDataSourceImpl) (db : Db J) (cache : List Block) : Prop :=
  Fits source db ∧ ∀ block ∈ cache, Deep source.securityParameter db block

/-- The answer is the one without a cache. -/
def Right (source : BlockDataSourceImpl) (db : Db J) (r : Request) (answer : Answer) : Prop :=
  answer = answerFromDb source db r.hash r.referenceTimestamp

private theorem Keeps.keepsServes (h : Keeps source db db') {r : Request} {block : Block}
    (hserves : Serves source db r block) : Serves source db' r block :=
  ⟨h.keepsDeep hserves.deep, hserves.hash_eq, hserves.valid⟩

/-- A task stays fine as long as its block is found in the same way. -/
theorem Keeps.keepsFine (h : Keeps source db db') {r : Request} (hfine : Fine source db r)
    (hqueried : ∀ time block, r.phase = .queried time block →
      getBlockByHash db' r.hash = getBlockByHash db r.hash) :
    Fine source db' r := by
  obtain ⟨hash, timestamp, phase⟩ := r
  cases phase with
  | asked => trivial
  | missed time => exact hfine
  | queried time block => exact ⟨hfine.1, (hqueried time block rfl).trans hfine.2⟩
  | checked block => exact h.keepsServes hfine
  | filling block latest => exact ⟨h.keepsServes hfine.1, hfine.2.trans h.latest_le⟩
  | filled block blocks =>
      exact ⟨h.keepsServes hfine.1, fun b hb => h.keepsDeep (hfine.2 b hb)⟩

/-! ## Turns -/

section Turn

variable {cache : List Block} {hash : McBlockHash} {timestamp : UInt64}

/-- What a turn has to leave behind. -/
abbrev TurnOk (source : BlockDataSourceImpl) (db : Db J) (cache : List Block) (r : Request) :
    Prop :=
  (turn source db cache r).Leaves (fun r' cache' => Sound source db cache' ∧ Fine source db r')
    fun answer cache' => Sound source db cache' ∧ Right source db r answer

/-- The first turn of a task. -/
theorem turn_asked (hsound : Sound source db cache) :
    TurnOk source db cache ⟨hash, timestamp, .asked⟩ := by
  cases htime : source.timestampToDbType timestamp with
  | error e =>
      have hturn : turn source db cache ⟨hash, timestamp, .asked⟩ = .done (.error e) cache := by
        simp only [turn, htime]
      exact Turn.leaves_of_done hturn
        ⟨hsound, by simp [Right, answerFromDb, htime, bind, Except.bind]⟩
  | ok time =>
      cases hcache : source.getStableBlockByHashFromCache cache hash time with
      | none =>
          have hturn : turn source db cache ⟨hash, timestamp, .asked⟩ =
              .goOn ⟨hash, timestamp, .missed time⟩ cache := by
            simp only [turn, htime, hcache]
          exact Turn.leaves_of_goOn hturn ⟨hsound, htime⟩
      | some block =>
          have hcached : CacheSound source db cache :=
            fun b hb => ⟨(hsound.2 b hb).1, isStable_of_deep (hsound.2 b hb) hsound.1⟩
          have hright : Right source db ⟨hash, timestamp, .asked⟩ (answerWith (some block)) := by
            simp only [Right, answerFromDb, htime, hcached.fromCache hcache, bind, Except.bind]
          exact Turn.leaves_of_done (by simp only [turn, htime, hcache]) ⟨hsound, hright⟩

/-- The turn of a task that did not find its block in the cache. -/
theorem turn_missed (hsound : Sound source db cache) {time : Int}
    (htime : source.timestampToDbType timestamp = .ok time) :
    TurnOk source db cache ⟨hash, timestamp, .missed time⟩ := by
  cases hblock : getBlockByHash db hash with
  | error e =>
      have hright : Right source db ⟨hash, timestamp, .missed time⟩ (.error (.sqlx e)) := by
        simp [Right, answerFromDb, htime, BlockDataSourceImpl.getStableBlockByHashFromDb, hblock,
          Except.mapError, bind, Except.bind]
      exact Turn.leaves_of_done (by simp only [turn, hblock, Except.mapError]) ⟨hsound, hright⟩
  | ok block =>
      have hturn : turn source db cache ⟨hash, timestamp, .missed time⟩ =
          .goOn ⟨hash, timestamp, .queried time block⟩ cache := by
        simp only [turn, hblock, Except.mapError]
      exact Turn.leaves_of_goOn hturn ⟨hsound, htime, hblock⟩

/-- The check, given what its first query finds. -/
theorem answerFromDb_of_queried {time : Int} {block : Option Block}
    (htime : source.timestampToDbType timestamp = .ok time)
    (hblock : getBlockByHash db hash = .ok block) :
    answerFromDb source db hash timestamp =
      ((getLatestBlockInfo db).mapError .sqlx).bind fun latestBlock =>
        match block, latestBlock with
        | some block, some latestBlock =>
            answerWith (if source.isStable block.blockNo latestBlock.blockNo &&
              source.isBlockTimeValid block time then some block else none)
        | _, _ => answerWith none := by
  simp only [answerFromDb, htime, BlockDataSourceImpl.getStableBlockByHashFromDb, hblock,
    Except.mapError, bind, Except.bind]
  cases getLatestBlockInfo db with
  | error e => rfl
  | ok latest =>
      cases block with
      | none => rfl
      | some block => cases latest <;> rfl

private theorem turn_queried (hsound : Sound source db cache) {time : Int} {block : Option Block}
    (htime : source.timestampToDbType timestamp = .ok time)
    (hblock : getBlockByHash db hash = .ok block) :
    TurnOk source db cache ⟨hash, timestamp, .queried time block⟩ := by
  have hanswer := answerFromDb_of_queried htime hblock
  cases hlatest : getLatestBlockInfo db with
  | error e =>
      rw [hlatest] at hanswer
      have hturn : turn source db cache ⟨hash, timestamp, .queried time block⟩ =
          .done (.error (.sqlx e)) cache := by
        simp only [turn, hlatest, Except.mapError]
      exact Turn.leaves_of_done hturn ⟨hsound, hanswer.symm⟩
  | ok latest =>
      rw [hlatest] at hanswer
      cases block with
      | none =>
          have hturn : turn source db cache ⟨hash, timestamp, .queried time none⟩ =
              .done (answerWith none) cache := by
            simp only [turn, hlatest, Except.mapError]
          exact Turn.leaves_of_done hturn ⟨hsound, hanswer.symm⟩
      | some block =>
          obtain ⟨hhas, hhash⟩ := hasBlock_of_getBlockByHash hblock
          obtain ⟨latest', hlatest', hno⟩ := hhas.getLatestBlockInfo
          obtain rfl : latest = some latest' := Except.ok.inj (hlatest.symm.trans hlatest')
          cases hcheck : source.isStable block.blockNo latest'.blockNo &&
              source.isBlockTimeValid block time with
          | false =>
              have hright : Right source db ⟨hash, timestamp, .queried time (some block)⟩
                  (answerWith none) := by
                rw [Right, hanswer]
                simp only [Except.mapError, Except.bind, hcheck]
                rfl
              exact Turn.leaves_of_done (by simp [turn, hlatest, Except.mapError, hcheck])
                ⟨hsound, hright⟩
          | true =>
              obtain ⟨hstable, hvalid⟩ := Bool.and_eq_true_iff.mp hcheck
              rw [hno] at hstable
              have hturn : turn source db cache ⟨hash, timestamp, .queried time (some block)⟩ =
                  .goOn ⟨hash, timestamp, .checked block⟩ cache := by
                simp only [turn, hlatest, Except.mapError, hcheck, if_true]
              exact Turn.leaves_of_goOn hturn
                ⟨hsound, deep_of_isStable hsound.1 hhas hstable, hhash, time, htime, hvalid⟩

/-- A deep block of the database is there when the cache is filled. -/
theorem turn_checked (hsound : Sound source db cache) {block : Block}
    (hserves : Serves source db ⟨hash, timestamp, .checked block⟩ block) :
    TurnOk source db cache ⟨hash, timestamp, .checked block⟩ := by
  obtain ⟨latest, hlatest, hno⟩ := hserves.deep.1.getLatestBlockInfo
  have hturn : turn source db cache ⟨hash, timestamp, .checked block⟩ =
      .goOn ⟨hash, timestamp, .filling block latest.blockNo⟩ cache := by
    simp only [turn, hlatest, Except.mapError]
  exact Turn.leaves_of_goOn hturn
    ⟨hsound, ⟨hserves.deep, hserves.hash_eq, hserves.valid⟩, hno.le⟩

/-- The blocks for the cache are read when the chain is at least as long as
when their range was fixed. -/
theorem turn_filling (hsound : Sound source db cache) {block : Block} {latest : Nat}
    (hserves : Serves source db ⟨hash, timestamp, .filling block latest⟩ block)
    (hle : latest ≤ latestBlockNo db) :
    TurnOk source db cache ⟨hash, timestamp, .filling block latest⟩ := by
  obtain ⟨blocks, hblocks, hmem⟩ := blocksToCache_ok source db block latest
  have hdeep : ∀ b ∈ blocks, Deep source.securityParameter db b := by
    intro b hb
    rcases hmem b hb with rfl | ⟨hhas, hdepth⟩
    · exact hserves.deep
    · exact ⟨hhas, hdepth.trans hle⟩
  have hturn : turn source db cache ⟨hash, timestamp, .filling block latest⟩ =
      .goOn ⟨hash, timestamp, .filled block blocks⟩ cache := by
    simp only [turn, hblocks]
  exact Turn.leaves_of_goOn hturn
    ⟨hsound, ⟨hserves.deep, hserves.hash_eq, hserves.valid⟩, hdeep⟩

private theorem turn_filled (hsound : Sound source db cache) {block : Block} {blocks : List Block}
    (hserves : Serves source db ⟨hash, timestamp, .filled block blocks⟩ block)
    (hdeep : ∀ b ∈ blocks, Deep source.securityParameter db b) :
    TurnOk source db cache ⟨hash, timestamp, .filled block blocks⟩ :=
  Turn.leaves_of_done rfl
    ⟨⟨hsound.1, hdeep⟩, (hserves.answerFromDb_eq hsound.1).symm⟩

/-- No turn breaks the cache, and every answer is right. -/
theorem turn_ok (hsound : Sound source db cache) {r : Request} (hfine : Fine source db r) :
    TurnOk source db cache r := by
  obtain ⟨hash, timestamp, phase⟩ := r
  cases phase with
  | asked => exact turn_asked hsound
  | missed time => exact turn_missed hsound hfine
  | queried time block => exact turn_queried hsound hfine.1 hfine.2
  | checked block => exact turn_checked hsound hfine
  | filling block latest => exact turn_filling hsound hfine.1 hfine.2
  | filled block blocks => exact turn_filled hsound hfine.1 hfine.2

end Turn

/-- The steps of the system keep the cache sound and the tasks fine. -/
theorem invariant (J : Type) (source : BlockDataSourceImpl) :
    Invariant ((blockRequests J source).provided (Orderly source)) (Sound source) (Fine source)
      (Right source) where
  starts db r hstart := by
    obtain ⟨hash, timestamp, phase⟩ := r
    obtain rfl : phase = .asked := hstart
    trivial
  changes c db' hchange hsound hfine := by
    obtain ⟨hkeeps, horderly⟩ := hchange
    exact ⟨⟨horderly.fits, fun b hb => hkeeps.keepsDeep (hsound.2 b hb)⟩,
      fun r hr => Keeps.keepsFine hkeeps (hfine r hr) (horderly.queried r hr)⟩
  turn db cache r hsound hfine := turn_ok hsound hfine

end Invariant

/-! ## The cache is not noticed -/

/-- Along every run with orderly changes, the cache holds deep blocks and every
answer is that of the database. -/
theorem cache_transparent {J : Type} {source : BlockDataSourceImpl} {db : Db J}
    (hfits : Fits source db) {c : Config (Db J) (List Block) Request}
    (hrun : Run ((blockRequests J source).provided (Orderly source)) (initially db) c) :
    (∀ block ∈ c.shared, Deep source.securityParameter c.env block) ∧
      ∀ r answer c', Step (blockRequests J source) c (some (r, answer)) c' →
        answer = answerFromDb source c.env r.hash r.referenceTimestamp := by
  have hsound : Sound source (initially db).env (initially db).shared :=
    ⟨hfits, fun _ h => absurd h List.not_mem_nil⟩
  have hfine : ∀ r ∈ (initially db).tasks, Fine source (initially db).env r :=
    fun _ h => absurd h List.not_mem_nil
  refine ⟨((invariant J source).run hsound hfine hrun).1.2, ?_⟩
  intro r answer c' hstep
  exact (invariant J source).right hsound hfine hrun hstep.provided

/-! ## A fork between two queries

The security parameter is one, and block 1 is the latest one when it is asked
for.  After the request has read it, the chain switches to another block 1 and
grows to block 2. -/

/-- One confirmation makes a block stable. -/
def forkSource : BlockDataSourceImpl where
  securityParameter := 1
  minSlotBoundaryAsSeconds := 0
  maxSlotBoundaryAsSeconds := 100000
  mainchainEpochConfig := ⟨⟨0, 10000, 0⟩, 0⟩
  blockStabilityMargin := 0
  cacheSize := 100
  latestDateTime := 2 ^ 52

/-- A block of the number on the branch of the hash. -/
def forkRow (number : Nat) (hash : UInt8) : BlockRow where
  id := Fin.ofNat _ hash.toNat
  hash := FixedBytes.replicate 32 hash
  epochNo := some 0
  slotNo := some number
  blockNo := some number
  time := 1000 * number

/-- `forkRow` decoded. -/
def forkBlock (number : Nat) (hash : UInt8) : Block :=
  ⟨number, FixedBytes.replicate 32 hash, 0, number, 1000 * number⟩

/-- A chain of two blocks. -/
def beforeForkDb : Db Unit :=
  { Db.empty Unit with
    block := [forkRow 1 1, forkRow 0 0]
    block_pkey := by decide
    block_words := by decide
    tx_block_id_fkey := by decide
    unique_block_hash := by decide
    numbered_complete := by decide
    chain := by decide }

/-- The same chain after its last block was replaced. -/
def afterForkDb : Db Unit :=
  { Db.empty Unit with
    block := [forkRow 2 3, forkRow 1 2, forkRow 0 0]
    block_pkey := by decide
    block_words := by decide
    tx_block_id_fkey := by decide
    unique_block_hash := by decide
    numbered_complete := by decide
    chain := by decide }

/-- The request for the block that is undone. -/
def forkRequest (phase : Phase) : Request := ⟨FixedBytes.replicate 32 1, 10000, phase⟩

private theorem forkRequest_queried :
    Run (blockRequests Unit forkSource) (initially beforeForkDb)
      ⟨beforeForkDb, [], [forkRequest (.queried 10000 (some (forkBlock 1 1)))]⟩ := by
  have hasked : Run (blockRequests Unit forkSource) (initially beforeForkDb)
      ⟨beforeForkDb, [], [forkRequest .asked]⟩ := Run.refl.step (.start rfl)
  have hmissed : Run (blockRequests Unit forkSource) (initially beforeForkDb)
      ⟨beforeForkDb, [], [forkRequest (.missed 10000)]⟩ := hasked.goOn rfl
  exact hmissed.goOn rfl

/-- The fork happens above the deep blocks. -/
theorem fork_keeps : Keeps forkSource beforeForkDb afterForkDb := by
  refine ⟨?_, by decide⟩
  rintro block ⟨⟨row, hrow, hdecode⟩, hdepth⟩
  rw [show latestBlockNo beforeForkDb = 1 from rfl] at hdepth
  rcases List.mem_cons.mp hrow with rfl | hrow
  · cases hdecode
    exact absurd hdepth (by decide)
  · obtain rfl : row = forkRow 0 0 := List.mem_singleton.mp hrow
    exact ⟨forkRow 0 0, by decide, hdecode⟩

private theorem beforeForkDb_latest :
    getLatestBlockInfo beforeForkDb = .ok (some (forkBlock 1 1)) := by
  show fetchOptional BlockRow.decode (Verified.Relational.orderByDesc (fun b => sortKey b.blockNo)
    [forkRow 1 1, forkRow 0 0]) = _
  rw [Verified.Relational.orderByDesc_of_pairwise (by decide)]
  rfl

theorem afterForkDb_latest :
    getLatestBlockInfo afterForkDb = .ok (some (forkBlock 2 3)) := by
  show fetchOptional BlockRow.decode (Verified.Relational.orderByDesc (fun b => sortKey b.blockNo)
    [forkRow 2 3, forkRow 1 2, forkRow 0 0]) = _
  rw [Verified.Relational.orderByDesc_of_pairwise (by decide)]
  rfl

/-- The request goes on with the block it has read. -/
theorem forkRequest_filled :
    Run (blockRequests Unit forkSource) (initially beforeForkDb)
      ⟨afterForkDb, [], [forkRequest (.filled (forkBlock 1 1) [forkBlock 1 1])]⟩ := by
  have hchanged : Run (blockRequests Unit forkSource) (initially beforeForkDb)
      ⟨afterForkDb, [], [forkRequest (.queried 10000 (some (forkBlock 1 1)))]⟩ :=
    forkRequest_queried.step (.change fork_keeps)
  have hchecked : Run (blockRequests Unit forkSource) (initially beforeForkDb)
      ⟨afterForkDb, [], [forkRequest (.checked (forkBlock 1 1))]⟩ := by
    refine hchanged.goOn ?_
    simp only [blockRequests, turn, forkRequest, afterForkDb_latest, Except.mapError]
    rfl
  have hfilling : Run (blockRequests Unit forkSource) (initially beforeForkDb)
      ⟨afterForkDb, [], [forkRequest (.filling (forkBlock 1 1) 2)]⟩ := by
    refine hchecked.goOn ?_
    simp only [blockRequests, turn, forkRequest, afterForkDb_latest, Except.mapError]
    rfl
  exact hfilling.goOn rfl

/-- The block is answered and cached, though the database does not have it. -/
theorem forked_answer :
    ∃ c c', Run (blockRequests Unit forkSource) (initially beforeForkDb) c ∧
      Step (blockRequests Unit forkSource) c
        (some (forkRequest (.filled (forkBlock 1 1) [forkBlock 1 1]),
          .ok (some ⟨1, FixedBytes.replicate 32 1, 0, 1, 1⟩))) c' ∧
      answerFromDb forkSource c.env (FixedBytes.replicate 32 1) 10000 = .ok none ∧
      forkBlock 1 1 ∈ c'.shared ∧ ¬ Deep forkSource.securityParameter c'.env (forkBlock 1 1) := by
  refine ⟨_, ⟨afterForkDb, [forkBlock 1 1], []⟩, forkRequest_filled,
    .ofDone _ rfl, ?_, List.mem_singleton_self _, ?_⟩
  · have hblock : getBlockByHash afterForkDb (FixedBytes.replicate 32 1) = .ok none := rfl
    have htime : forkSource.timestampToDbType 10000 = .ok 10000 := rfl
    rw [answerFromDb_of_queried htime hblock, afterForkDb_latest]
    rfl
  · rintro ⟨hblock, -⟩
    have hfound := hblock.getBlockByHash
    rw [show getBlockByHash afterForkDb (forkBlock 1 1).hash = .ok none from rfl] at hfound
    cases hfound

/-- The request for the block that both chains have. -/
def commonRequest (phase : Phase) : Request := ⟨FixedBytes.replicate 32 0, 10000, phase⟩

/-- The chain switches while the cache is filled. -/
theorem commonRequest_filled :
    Run ((blockRequests Unit forkSource).provided (Orderly forkSource)) (initially beforeForkDb)
      ⟨afterForkDb, [], [commonRequest (.filled (forkBlock 0 0) [forkBlock 0 0])]⟩ := by
  have hasked : Run ((blockRequests Unit forkSource).provided (Orderly forkSource))
      (initially beforeForkDb) ⟨beforeForkDb, [], [commonRequest .asked]⟩ :=
    Run.refl.step (.start rfl)
  have hmissed : Run ((blockRequests Unit forkSource).provided (Orderly forkSource))
      (initially beforeForkDb) ⟨beforeForkDb, [], [commonRequest (.missed 10000)]⟩ :=
    hasked.goOn rfl
  have hqueried : Run ((blockRequests Unit forkSource).provided (Orderly forkSource))
      (initially beforeForkDb)
      ⟨beforeForkDb, [], [commonRequest (.queried 10000 (some (forkBlock 0 0)))]⟩ :=
    hmissed.goOn rfl
  have hchecked : Run ((blockRequests Unit forkSource).provided (Orderly forkSource))
      (initially beforeForkDb) ⟨beforeForkDb, [], [commonRequest (.checked (forkBlock 0 0))]⟩ := by
    refine hqueried.goOn ?_
    simp only [System.provided, blockRequests, turn, commonRequest, beforeForkDb_latest,
      Except.mapError]
    rfl
  have hfilling : Run ((blockRequests Unit forkSource).provided (Orderly forkSource))
      (initially beforeForkDb)
      ⟨beforeForkDb, [], [commonRequest (.filling (forkBlock 0 0) 1)]⟩ := by
    refine hchecked.goOn ?_
    simp only [System.provided, blockRequests, turn, commonRequest, beforeForkDb_latest,
      Except.mapError]
    rfl
  have horderly : Orderly forkSource
      ⟨beforeForkDb, [], [commonRequest (.filling (forkBlock 0 0) 1)]⟩ afterForkDb := by
    refine ⟨by decide, ?_⟩
    intro r hr time block hphase
    obtain rfl := List.mem_singleton.mp hr
    cases hphase
  have hchanged : Run ((blockRequests Unit forkSource).provided (Orderly forkSource))
      (initially beforeForkDb)
      ⟨afterForkDb, [], [commonRequest (.filling (forkBlock 0 0) 1)]⟩ :=
    hfilling.step (.change ⟨fork_keeps, horderly⟩)
  exact hchanged.goOn rfl

/-- A block below the fork is found before and after it. -/
theorem cache_transparent_common :
    .ok (some ⟨0, FixedBytes.replicate 32 0, 0, 0, 0⟩) =
      answerFromDb forkSource afterForkDb (FixedBytes.replicate 32 0) 10000 :=
  (cache_transparent (show Fits forkSource beforeForkDb by decide)
    commonRequest_filled).2 _ _ _ (.ofDone _ rfl)

end PartnerChains.Ports.StableBlockCache
