import PartnerChains.Ports.McHash
import PartnerChains.Ports.StableProposal

/-!
# The main chain reference of a block and that of its parent

The port of `McHashInherentDataProvider`.  The author of a block proposes the
latest stable block of the main chain without looking at the parent block; a
verifier also requires that the reference does not fall behind the parent's.

The parent's reference may be any block that verifiers take for stable, and
these are less deep than the proposer's by the stability margin.
`newVerification_iff` says when an honest proposal is accepted.
-/

namespace PartnerChains.Ports.McReference

open PartnerChains.Ports.Domain
open PartnerChains.Ports.DbSync
open PartnerChains.Ports.McHash
open PartnerChains.Ports.AriadneProvider
open PartnerChains.Ports.BlockDataSource
open PartnerChains.Ports.StableProposal
open PartnerChains.Verified.Fallible

/-- `McHashInherentDataProvider`: the main chain block a partner chain block
refers to. -/
structure McHashInherentDataProvider where
  mcBlock : MainchainBlock
deriving DecidableEq

/-- `McHashInherentError`. -/
inductive McHashInherentError where
  | dataSourceError (error : BlockSourceError)
  /-- Stable block not found.  It means that the main chain wasn't producing
  blocks for a long time. -/
  | stableBlockNotFound (timestamp : UInt64)
  /-- Slot represents a timestamp bigger than of `u64::MAX`. -/
  | slotTooBig
  | mcStateReferenceInvalid (hash : McBlockHash) (slot timestamp : UInt64)
  /-- The number of the main chain block is lower than its parent's. -/
  | mcStateReferenceRegressed (hash : McBlockHash) (slot : UInt64) (number parentNumber : Nat)
  | digestError (error : DigestError)
deriving DecidableEq

section Provider

variable {J : Type} (timestamp : UInt64 → UInt64 → Option UInt64) (source : BlockDataSourceImpl)
  (db : Db J)

/-- `new_proposal`: the latest stable block at the start of the slot. -/
def newProposal (slot slotDuration : UInt64) :
    Except McHashInherentError McHashInherentDataProvider :=
  match timestamp slot slotDuration with
  | none => .error .slotTooBig
  | some slotStartTimestamp =>
      match source.getLatestStableBlockFor db slotStartTimestamp with
      | .error e => .error (.dataSourceError e)
      | .ok none => .error (.stableBlockNotFound slotStartTimestamp)
      | .ok (some mcBlock) => .ok ⟨mcBlock⟩

/-- The result and the cache of the data source after it. -/
def getMcStateReference (cache : List Block) (verifiedBlockSlot : UInt64)
    (verifiedBlockMcHash : McBlockHash) (slotDuration : UInt64) :
    Except McHashInherentError MainchainBlock × List Block :=
  match timestamp verifiedBlockSlot slotDuration with
  | none => (.error .slotTooBig, cache)
  | some time =>
      match source.getStableBlockFor db cache verifiedBlockMcHash time with
      | (.error e, cache) => (.error (.dataSourceError e), cache)
      | (.ok none, cache) =>
          (.error (.mcStateReferenceInvalid verifiedBlockMcHash verifiedBlockSlot time), cache)
      | (.ok (some mcBlock), cache) => (.ok mcBlock, cache)

/-- The genesis block has no slot and no reference. -/
def newVerification (cache : List Block) (parentHeader : Header) (parentSlot : Option UInt64)
    (verifiedBlockSlot : UInt64) (mcStateReferenceHash : McBlockHash) (slotDuration : UInt64) :
    Except McHashInherentError McHashInherentDataProvider × List Block :=
  match getMcStateReference timestamp source db cache verifiedBlockSlot mcStateReferenceHash
      slotDuration with
  | (.error e, cache) => (.error e, cache)
  | (.ok mcStateReferenceBlock, cache) =>
      match parentSlot with
      | none => (.ok ⟨mcStateReferenceBlock⟩, cache)
      | some parentSlot =>
          match valueFromDigest parentHeader.logs with
          | .error e => (.error (.digestError e), cache)
          | .ok parentMcHash =>
              match getMcStateReference timestamp source db cache parentSlot parentMcHash
                  slotDuration with
              | (.error e, cache) => (.error e, cache)
              | (.ok parentMcStateReferenceBlock, cache) =>
                  if mcStateReferenceBlock.number < parentMcStateReferenceBlock.number then
                    (.error (.mcStateReferenceRegressed mcStateReferenceHash verifiedBlockSlot
                      mcStateReferenceBlock.number parentMcStateReferenceBlock.number), cache)
                  else (.ok ⟨mcStateReferenceBlock⟩, cache)

end Provider

variable {J : Type} {timestamp : UInt64 → UInt64 → Option UInt64} {source : BlockDataSourceImpl}
  {db : Db J}

/-! ## Times and slots of the main chain -/

/-- The configuration fits the chain: from its first slot on, the time of a
block is that of its slot. -/
structure SlotTimes (config : MainchainSlotConfig) (db : Db J) : Prop where
  first_lt : config.firstSlotNumber.toNat < 2 ^ 62
  time_eq : ∀ block, HasBlock db block → config.firstSlotNumber.toNat ≤ block.slotNo →
    block.time = config.firstEpochTimestampMillis.toNat +
      1000 * (block.slotNo - config.firstSlotNumber.toNat : Nat)

/-- The slot of a time is that of the last block up to it. -/
theorem dateTimeToSlot_spec {dt : Int} {slot : Nat} (h : source.dateTimeToSlot dt = .ok slot)
    (hdt : dt < 2 ^ 63)
    (hfirst : source.mainchainEpochConfig.firstSlotNumber.toNat < 2 ^ 62) :
    asInt8 slot = slot ∧ source.mainchainEpochConfig.firstSlotNumber.toNat ≤ slot ∧
      ∀ s, source.mainchainEpochConfig.firstSlotNumber.toNat ≤ s →
        (dt ≤ source.mainchainEpochConfig.firstEpochTimestampMillis.toNat +
            1000 * (s - source.mainchainEpochConfig.firstSlotNumber.toNat : Nat) → slot ≤ s) ∧
        (source.mainchainEpochConfig.firstEpochTimestampMillis.toNat +
            1000 * (s - source.mainchainEpochConfig.firstSlotNumber.toNat : Nat) ≤ dt →
          s ≤ slot) := by
  unfold BlockDataSourceImpl.dateTimeToSlot
    MainchainSlotConfig.timestampToMainchainSlotNumber at h
  generalize source.mainchainEpochConfig.firstSlotNumber.toNat = first at h hfirst ⊢
  generalize source.mainchainEpochConfig.firstEpochTimestampMillis.toNat = start at h ⊢
  by_cases hneg : dt < 0
  · simp [hneg] at h
  · by_cases hstart : dt.toNat < start
    · simp only [hneg, if_false, hstart, if_true, Except.ok.injEq] at h
      subst h
      refine ⟨if_pos (by omega), le_refl _, fun s hs => ⟨fun _ => hs, fun hle => by omega⟩⟩
    · have hlt : first + (dt.toNat - start) / 1000 < 2 ^ 63 := by omega
      simp only [hneg, if_false, hstart, Except.ok.injEq] at h
      rw [Nat.mod_eq_of_lt (by omega)] at h
      subst h
      exact ⟨if_pos hlt, by omega, fun s hs => ⟨fun hle => by omega, fun hle => by omega⟩⟩

/-! ## The proposal does not fall behind stable references -/

/-- A timestamp that converts keeps its value. -/
theorem timestampToDbType_eq_ok {ts : UInt64} {time : Int}
    (h : source.timestampToDbType ts = .ok time) : time = ts.toNat ∧ time < 2 ^ 63 := by
  unfold BlockDataSourceImpl.timestampToDbType at h
  split at h
  · next hlt =>
      cases h
      exact ⟨rfl, by exact_mod_cast hlt.1⟩
  · cases h

/-- A block in the window of an earlier time, up to the number of the proposer,
is not higher than the proposed block: it is in the window of the proposer, or
before it. -/
theorem Offered.blockNo_le (htimes : SlotTimes source.mainchainEpochConfig db)
    (hmin : 0 ≤ source.minSlotBoundaryAsSeconds) (hmax : 0 ≤ source.maxSlotBoundaryAsSeconds)
    {ts : UInt64} {time : Int} {minSlot maxSlot : Nat} {block : Block}
    (hoffered : Offered source db ts time minSlot maxSlot block) {p : Block}
    (hp : HasBlock db p) {parentTime : Int} (hearlier : parentTime ≤ time)
    (hvalid : source.isBlockTimeValid p parentTime = true)
    (hstable : p.blockNo ≤ source.stableBlockNo (latestBlockNo db)) :
    p.blockNo ≤ block.blockNo := by
  obtain ⟨-, htime⟩ := timestampToDbType_eq_ok hoffered.time_eq
  obtain ⟨hminInt, hminFirst, hminSlot⟩ := dateTimeToSlot_spec hoffered.minSlot_eq
    (by rw [BlockDataSourceImpl.minBlockAllowedTime]; omega) htimes.first_lt
  obtain ⟨hmaxInt, -, hmaxSlot⟩ := dateTimeToSlot_spec hoffered.maxSlot_eq
    (by rw [BlockDataSourceImpl.maxAllowedBlockTime]; omega) htimes.first_lt
  have hrange := hoffered.range
  have hblockSlot : minSlot ≤ block.slotNo := by
    have hle := hrange.minSlot
    rw [hminInt] at hle
    exact_mod_cast hle
  have hblockTime := htimes.time_eq block hoffered.hasBlock (hminFirst.trans hblockSlot)
  have horder : p.slotNo < block.slotNo → p.blockNo ≤ block.blockNo := fun hlt =>
    le_of_lt ((hp.blockNo_lt_iff hoffered.hasBlock).mpr hlt)
  by_cases hera : source.mainchainEpochConfig.firstSlotNumber.toNat ≤ p.slotNo
  · have hpTime := htimes.time_eq p hp hera
    by_cases hin : source.minBlockAllowedTime time ≤ p.time
    · have hpMax : p.time ≤ source.maxAllowedBlockTime time := by
        have hle := (isBlockTimeValid_iff.mp hvalid).2
        rw [BlockDataSourceImpl.maxAllowedBlockTime] at hle ⊢
        omega
      apply hoffered.highest p hp
      refine ⟨by rw [asInt4_stableBlockNo]; exact_mod_cast hstable, ?_, ?_, hin, hpMax⟩
      · rw [hminInt]
        exact_mod_cast (hminSlot p.slotNo hera).1 (hpTime ▸ hin)
      · rw [hmaxInt]
        exact_mod_cast (hmaxSlot p.slotNo hera).2 (hpTime ▸ hpMax)
    · apply horder
      have hle := hrange.minTime
      omega
  · apply horder
    omega

/-! ## Verification -/

/-- A reference is valid exactly if its block is stable at the start of the slot. -/
theorem getMcStateReference_eq_ok {cache : List Block} {slot slotDuration : UInt64}
    {hash : McBlockHash} {b : MainchainBlock} :
    (getMcStateReference timestamp source db cache slot hash slotDuration).1 = .ok b ↔
      ∃ ts, timestamp slot slotDuration = some ts ∧
        (source.getStableBlockFor db cache hash ts).1 = .ok (some b) := by
  unfold getMcStateReference
  cases timestamp slot slotDuration with
  | none => simp
  | some ts =>
      simp only [Option.some.injEq, exists_eq_left']
      match hfound : source.getStableBlockFor db cache hash ts with
      | (.error e, cache') => simp
      | (.ok none, cache') => simp
      | (.ok (some mcBlock), cache') => simp

/-- Looking up a reference keeps the cache sound. -/
theorem getMcStateReference_cache (cache : List Block) (slot slotDuration : UInt64)
    (hash : McBlockHash) (hcache : CacheSound source db cache) :
    CacheSound source db
      (getMcStateReference timestamp source db cache slot hash slotDuration).2 := by
  unfold getMcStateReference
  cases timestamp slot slotDuration with
  | none => exact hcache
  | some ts =>
      have hafter : CacheSound source db (source.getStableBlockFor db cache hash ts).2 := by
        unfold BlockDataSourceImpl.getStableBlockFor
        cases source.timestampToDbType ts with
        | error e => exact hcache
        | ok time => exact hcache.afterRequest hash time
      match hfound : source.getStableBlockFor db cache hash ts with
      | (.error e, cache') => simpa [hfound] using hafter
      | (.ok none, cache') => simpa [hfound] using hafter
      | (.ok (some mcBlock), cache') => simpa [hfound] using hafter

/-- Sound caches make no difference. -/
theorem getStableBlockFor_cache {cache cache' : List Block} (h : CacheSound source db cache)
    (h' : CacheSound source db cache') (hash : McBlockHash) (ts : UInt64) :
    (source.getStableBlockFor db cache hash ts).1 =
      (source.getStableBlockFor db cache' hash ts).1 := by
  unfold BlockDataSourceImpl.getStableBlockFor
  cases source.timestampToDbType ts with
  | error e => rfl
  | ok time =>
      show (source.getStableBlockByHash db cache hash time).1 =
        (source.getStableBlockByHash db cache' hash time).1
      rw [h.getStableBlockByHash, h'.getStableBlockByHash]

/-- What an accepted reference is. -/
theorem hasBlock_of_getStableBlockFor {cache : List Block} (h : CacheSound source db cache)
    {hash : McBlockHash} {ts : UInt64} {b : MainchainBlock}
    (hfound : (source.getStableBlockFor db cache hash ts).1 = .ok (some b)) :
    ∃ time block, source.timestampToDbType ts = .ok time ∧ HasBlock db block ∧
      MainchainBlock.ofBlock block = .ok b ∧ source.isBlockTimeValid block time = true := by
  unfold BlockDataSourceImpl.getStableBlockFor at hfound
  cases htime : source.timestampToDbType ts with
  | error e => simp [htime] at hfound
  | ok time =>
      simp only [htime] at hfound
      rw [h.getStableBlockByHash] at hfound
      obtain ⟨found, hdb, hof⟩ := bind_eq_ok.mp hfound
      cases found with
      | none => cases hof
      | some block =>
          obtain ⟨hblock, -, -, hvalid⟩ := getStableBlockByHashFromDb_eq_some.mp hdb
          refine ⟨time, block, rfl, hblock, ?_, hvalid⟩
          cases hmc : MainchainBlock.ofBlock block with
          | error e => simp [hmc, Except.map] at hof
          | ok mcBlock =>
              simp only [hmc, Except.map, Except.ok.injEq, Option.some.injEq] at hof
              rw [hof]

/-- The reference does not depend on which stable blocks are cached. -/
theorem getMcStateReference_of_cacheSound {cache cache' : List Block}
    (hcache : CacheSound source db cache) (hcache' : CacheSound source db cache')
    {slot slotDuration : UInt64} {hash : McBlockHash} {b : MainchainBlock}
    (h : (getMcStateReference timestamp source db cache slot hash slotDuration).1 = .ok b) :
    (getMcStateReference timestamp source db cache' slot hash slotDuration).1 = .ok b := by
  obtain ⟨ts, hts, hfound⟩ := getMcStateReference_eq_ok.mp h
  rw [getMcStateReference_eq_ok]
  exact ⟨ts, hts, by rw [getStableBlockFor_cache hcache' hcache, hfound]⟩

/-- The reference of a parent block: none for the genesis block, otherwise the
one that was accepted when the parent was verified. -/
inductive ParentReference (timestamp : UInt64 → UInt64 → Option UInt64)
    (source : BlockDataSourceImpl) (db : Db J) (slotDuration : UInt64) (parentHeader : Header) :
    Option UInt64 → Option MainchainBlock → Prop where
  | genesis : ParentReference timestamp source db slotDuration parentHeader none none
  | accepted {cache : List Block} {grandparentHeader : Header} {grandparentSlot : Option UInt64}
      {parentSlot : UInt64} {hash : McBlockHash} {provider : McHashInherentDataProvider}
      (sound : CacheSound source db cache) (digest : valueFromDigest parentHeader.logs = .ok hash)
      (verified : (newVerification timestamp source db cache grandparentHeader grandparentSlot
        parentSlot hash slotDuration).1 = .ok provider) :
      ParentReference timestamp source db slotDuration parentHeader (some parentSlot)
        (some provider.mcBlock)

/-- A verified reference is valid. -/
theorem reference_of_newVerification {cache : List Block} {parentHeader : Header}
    {parentSlot : Option UInt64} {slot slotDuration : UInt64} {hash : McBlockHash}
    {provider : McHashInherentDataProvider}
    (h : (newVerification timestamp source db cache parentHeader parentSlot slot hash
      slotDuration).1 = .ok provider) :
    (getMcStateReference timestamp source db cache slot hash slotDuration).1 =
      .ok provider.mcBlock := by
  unfold newVerification at h
  match href : getMcStateReference timestamp source db cache slot hash slotDuration with
  | (.error e, cache') => simp [href] at h
  | (.ok mcBlock, cache') =>
      simp only [href] at h ⊢
      cases parentSlot with
      | none => rw [← Except.ok.inj h]
      | some parentSlot =>
          cases hdigest : valueFromDigest parentHeader.logs with
          | error e => simp [hdigest] at h
          | ok parentHash =>
              simp only [hdigest] at h
              match hparent : getMcStateReference timestamp source db cache' parentSlot parentHash
                  slotDuration with
              | (.error e, _) => simp [hparent] at h
              | (.ok parentBlock, _) =>
                  simp only [hparent] at h
                  split at h
                  · cases h
                  · rw [← Except.ok.inj h]

/-- Without a parent slot the reference is not compared. -/
theorem newVerification_eq_genesis {cache : List Block} {parentHeader : Header}
    {slot slotDuration : UInt64} {hash : McBlockHash} {b : MainchainBlock}
    (hreference : (getMcStateReference timestamp source db cache slot hash slotDuration).1 =
      .ok b) :
    (newVerification timestamp source db cache parentHeader none slot hash slotDuration).1 =
      .ok ⟨b⟩ := by
  unfold newVerification
  match href : getMcStateReference timestamp source db cache slot hash slotDuration with
  | (.error e, cache') => simp [href] at hreference
  | (.ok mcBlock, cache') =>
      simp only [href, Except.ok.injEq] at hreference
      rw [hreference]

/-- With a parent the reference must not be older than the one of the parent. -/
theorem newVerification_eq_parent {cache : List Block} {parentHeader : Header}
    {slot parentSlot slotDuration : UInt64} {hash parentHash : McBlockHash}
    {b p : MainchainBlock}
    (hreference : (getMcStateReference timestamp source db cache slot hash slotDuration).1 =
      .ok b)
    (hdigest : valueFromDigest parentHeader.logs = .ok parentHash)
    (hparent : (getMcStateReference timestamp source db
      (getMcStateReference timestamp source db cache slot hash slotDuration).2 parentSlot
      parentHash slotDuration).1 = .ok p) :
    (newVerification timestamp source db cache parentHeader (some parentSlot) slot hash
      slotDuration).1 =
      if b.number < p.number then
        .error (.mcStateReferenceRegressed hash slot b.number p.number)
      else .ok ⟨b⟩ := by
  unfold newVerification
  match href : getMcStateReference timestamp source db cache slot hash slotDuration with
  | (.error e, cache') => simp [href] at hreference
  | (.ok mcBlock, cache') =>
      simp only [href, Except.ok.injEq] at hreference hparent
      subst hreference
      simp only [hdigest]
      match hpref : getMcStateReference timestamp source db cache' parentSlot parentHash
          slotDuration with
      | (.error e, _) => simp [hpref] at hparent
      | (.ok parentBlock, _) =>
          simp only [hpref, Except.ok.injEq] at hparent
          subst hparent
          by_cases hlt : mcBlock.number < parentBlock.number
          · simp [hlt]
          · simp [hlt]

private theorem newProposal_eq_ok {slot slotDuration : UInt64}
    {provider : McHashInherentDataProvider}
    (h : newProposal timestamp source db slot slotDuration = .ok provider) :
    ∃ ts, timestamp slot slotDuration = some ts ∧
      source.getLatestStableBlockFor db ts = .ok (some provider.mcBlock) := by
  unfold newProposal at h
  cases htimestamp : timestamp slot slotDuration with
  | none => simp [htimestamp] at h
  | some ts =>
      simp only [htimestamp] at h
      match hstable : source.getLatestStableBlockFor db ts with
      | .error e => simp [hstable] at h
      | .ok none => simp [hstable] at h
      | .ok (some mcBlock) =>
          simp only [hstable, Except.ok.injEq] at h
          exact ⟨ts, rfl, by rw [hstable, ← h]⟩

private theorem slotTimestamp_mono {slot slot' slotDuration ts ts' : UInt64} (hlt : slot < slot')
    (h : slotTimestamp slot slotDuration = some ts)
    (h' : slotTimestamp slot' slotDuration = some ts') : ts.toNat ≤ ts'.toNat := by
  rw [slotTimestamp_eq_some h, slotTimestamp_eq_some h']
  exact Nat.mul_le_mul_right _ (le_of_lt (UInt64.lt_iff_toNat_lt.mp hlt))

/-- A verified reference of an earlier slot is not above the proposal exactly
if it is not above the number up to which the proposer looks. -/
theorem number_le_iff (htimestamp : ∀ s d, timestamp s d = slotTimestamp s d)
    (htimes : SlotTimes source.mainchainEpochConfig db)
    (hmin : 0 ≤ source.minSlotBoundaryAsSeconds) (hmax : 0 ≤ source.maxSlotBoundaryAsSeconds)
    {cache : List Block} (hcache : CacheSound source db cache)
    {slot parentSlot slotDuration : UInt64} (hlater : parentSlot < slot) {hash : McBlockHash}
    {p : MainchainBlock} (hp : (getMcStateReference timestamp source db cache parentSlot hash
      slotDuration).1 = .ok p)
    {ts : UInt64} (hts : timestamp slot slotDuration = some ts) {time : Int}
    {minSlot maxSlot : Nat} {block : Block}
    (hoffered : Offered source db ts time minSlot maxSlot block) :
    p.number ≤ block.blockNo ↔ p.number ≤ source.stableBlockNo (latestBlockNo db) := by
  obtain ⟨parentTs, hparentTs, hfound⟩ := getMcStateReference_eq_ok.mp hp
  obtain ⟨parentTime, q, hparentTime, hq, hof, hvalid⟩ :=
    hasBlock_of_getStableBlockFor hcache hfound
  rw [(ofBlock_eq_ok hof).1]
  constructor
  · intro hle
    exact hle.trans hoffered.blockNo_le_stable
  · intro hle
    have hearlier : parentTime ≤ time := by
      rw [(timestampToDbType_eq_ok hparentTime).1, (timestampToDbType_eq_ok hoffered.time_eq).1]
      rw [htimestamp] at hts hparentTs
      exact_mod_cast slotTimestamp_mono hlater hparentTs hts
    exact Offered.blockNo_le htimes hmin hmax hoffered hq hearlier hvalid hle

/-- Verifying an honest proposal on the same database succeeds exactly if the
parent's reference is as deep as the proposer asks for, margin included, and
the proposed block is stable for the verifier. -/
theorem newVerification_iff (htimestamp : ∀ s d, timestamp s d = slotTimestamp s d)
    (htimes : SlotTimes source.mainchainEpochConfig db)
    (hmin : 0 ≤ source.minSlotBoundaryAsSeconds) (hmax : 0 ≤ source.maxSlotBoundaryAsSeconds)
    {cache : List Block} (hcache : CacheSound source db cache) {slot slotDuration : UInt64}
    {parentHeader : Header} {parentSlot : Option UInt64} {p : Option MainchainBlock}
    (hparent : ParentReference timestamp source db slotDuration parentHeader parentSlot p)
    (hlater : ∀ s ∈ parentSlot, s < slot) {provider : McHashInherentDataProvider}
    (hproposal : newProposal timestamp source db slot slotDuration = .ok provider) :
    (∃ verified, (newVerification timestamp source db cache parentHeader parentSlot slot
        provider.mcBlock.hash slotDuration).1 = .ok verified) ↔
      (∀ q ∈ p, q.number ≤ source.stableBlockNo (latestBlockNo db)) ∧
        OfferStable source provider.mcBlock.number (latestBlockNo db) := by
  obtain ⟨ts, hts, hoffer⟩ := newProposal_eq_ok hproposal
  obtain ⟨time, minSlot, maxSlot, block, hoffered, hof⟩ :=
    offered_of_getLatestStableBlockFor hoffer
  obtain ⟨hnumber, -⟩ := ofBlock_eq_ok hof
  have hlookup := getStableBlockFor_eq hcache hoffered.time_eq hof hoffered.hasBlock
    hoffered.isBlockTimeValid
  rw [hnumber, ← hoffered.isStable_iff (le_refl _)]
  cases hstable : source.isStable block.blockNo (latestBlockNo db) with
  | false =>
      refine iff_of_false ?_ (fun h => Bool.noConfusion h.2)
      rintro ⟨verified, hverified⟩
      obtain ⟨ts', hts', hfound⟩ :=
        getMcStateReference_eq_ok.mp (reference_of_newVerification hverified)
      obtain rfl : ts = ts' := Option.some.inj (hts.symm.trans hts')
      rw [hlookup, hstable] at hfound
      cases hfound
  | true =>
      have hreference : (getMcStateReference timestamp source db cache slot
          provider.mcBlock.hash slotDuration).1 = .ok provider.mcBlock := by
        rw [getMcStateReference_eq_ok]
        exact ⟨ts, hts, by rw [hlookup, hstable]; rfl⟩
      cases hparent with
      | genesis =>
          rw [newVerification_eq_genesis hreference]
          simp
      | @accepted cache₀ _ _ parentSlot parentHash parentProvider sound digest verified =>
          have hold := reference_of_newVerification verified
          have hafter : CacheSound source db (getMcStateReference timestamp source db cache slot
              provider.mcBlock.hash slotDuration).2 :=
            getMcStateReference_cache cache slot slotDuration _ hcache
          rw [newVerification_eq_parent hreference digest
            (getMcStateReference_of_cacheSound sound hafter hold), hnumber]
          have hiff := number_le_iff htimestamp htimes hmin hmax sound
            (hlater parentSlot rfl) hold hts hoffered
          by_cases hlt : block.blockNo < parentProvider.mcBlock.number
          · have hnot : ¬ parentProvider.mcBlock.number ≤
                source.stableBlockNo (latestBlockNo db) := by
              rw [← hiff]
              omega
            simp [hlt, hnot]
          · have hle := hiff.mp (by omega)
            simp [hlt, hle]

/-! ## A margin of one block

The main chain has three blocks, one in each second; the security parameter
and the stability margin are one.  The author of the parent block refers to
block 2, which verifiers accept; one second later, an honest author proposes
block 1. -/

/-- A source that stays one block behind the latest stable block. -/
def marginSource : BlockDataSourceImpl :=
  { oneBlockSource with blockStabilityMargin := 1 }

/-- A block a second, in slot order. -/
def marginRow (n : UInt8) : BlockRow where
  id := Fin.ofNat _ n.toNat
  hash := FixedBytes.replicate 32 n
  epochNo := some 0
  slotNo := some n.toNat
  blockNo := some n.toNat
  time := 1000 * n.toNat

/-- `marginRow` decoded. -/
def marginBlock (n : UInt8) : Block :=
  ⟨n.toNat, FixedBytes.replicate 32 n, 0, n.toNat, 1000 * n.toNat⟩

/-- `marginRow` as the data source returns it. -/
def marginMainchainBlock (n : UInt8) : MainchainBlock :=
  ⟨n.toNat, FixedBytes.replicate 32 n, 0, n.toNat, n.toNat⟩

/-- A main chain of three blocks. -/
def marginDb : Db Unit :=
  { Db.empty Unit with
    block := [marginRow 3, marginRow 2, marginRow 1]
    block_pkey := by decide
    block_words := by decide
    tx_block_id_fkey := by decide
    unique_block_hash := by decide
    numbered_complete := by decide
    chain := by decide }

/-- A parent that refers to the second main chain block. -/
def parentHeader : Header := ⟨1, fromMcBlockHash (FixedBytes.replicate 32 2)⟩

private theorem marginDb_latest : getLatestBlockInfo marginDb = .ok (some (marginBlock 3)) := by
  show fetchOptional BlockRow.decode (Verified.Relational.orderByDesc (fun b => sortKey b.blockNo)
    [marginRow 3, marginRow 2, marginRow 1]) = _
  rw [Verified.Relational.orderByDesc_of_pairwise (by decide)]
  rfl

theorem marginDb_proposal :
    newProposal slotTimestamp marginSource marginDb 4 1000 =
      .ok ⟨marginMainchainBlock 1⟩ := by
  have hlatest : BlockDataSourceImpl.latestBlockInfo marginDb = .ok (marginMainchainBlock 3) := by
    rw [BlockDataSourceImpl.latestBlockInfo, marginDb_latest]
    rfl
  have hblock : marginSource.getLatestBlock marginDb 1 4000 = .ok (some (marginBlock 1)) := by
    show (fetchOptional BlockRow.decode (Verified.Relational.orderByDesc
      (fun b => sortKey b.blockNo) [marginRow 1])).mapError _ = _
    rw [Verified.Relational.orderByDesc_of_pairwise (List.pairwise_singleton _ _)]
    rfl
  have hstable : marginSource.getLatestStableBlockFor marginDb 4000 =
      .ok (some (marginMainchainBlock 1)) := by
    rw [BlockDataSourceImpl.getLatestStableBlockFor, hlatest]
    show (marginSource.getLatestBlock marginDb 1 4000).bind _ = _
    rw [hblock]
    rfl
  rw [newProposal, show slotTimestamp 4 1000 = some 4000 from rfl]
  simp only [hstable]

/-- The blocks of the example. -/
theorem mem_of_hasBlock_marginDb {block : Block} (h : HasBlock marginDb block) :
    block ∈ [marginBlock 3, marginBlock 2, marginBlock 1] := by
  obtain ⟨row, hrow, hdecode⟩ := h
  have hrows : ∀ row ∈ marginDb.block, ∃ block ∈ [marginBlock 3, marginBlock 2, marginBlock 1],
      row.decode = .ok block := by decide
  obtain ⟨block', hmem, hdecode'⟩ := hrows row hrow
  rwa [Except.ok.inj (hdecode.symm.trans hdecode')]

private theorem marginDb_times : SlotTimes marginSource.mainchainEpochConfig marginDb := by
  refine ⟨by decide, ?_⟩
  intro block h _
  have hall : ∀ block ∈ [marginBlock 3, marginBlock 2, marginBlock 1],
      block.time = 0 + 1000 * (block.slotNo - 0 : Nat) := by decide
  exact hall block (mem_of_hasBlock_marginDb h)

/-- Blocks 1 and 2 are stable. -/
theorem marginDb_reference {cache : List Block} (hcache : CacheSound marginSource marginDb cache)
    {n : UInt8} {slot ts : UInt64} {time : Int} (hts : slotTimestamp slot 1000 = some ts)
    (htime : marginSource.timestampToDbType ts = .ok time)
    (hof : MainchainBlock.ofBlock (marginBlock n) = .ok (marginMainchainBlock n))
    (hrow : marginRow n ∈ marginDb.block)
    (hvalid : marginSource.isBlockTimeValid (marginBlock n) time = true)
    (hstable : marginSource.isStable (marginBlock n).blockNo 3 = true) :
    (getMcStateReference slotTimestamp marginSource marginDb cache slot
      (FixedBytes.replicate 32 n) 1000).1 = .ok (marginMainchainBlock n) := by
  rw [getMcStateReference_eq_ok]
  have hlookup := getStableBlockFor_eq hcache htime hof ⟨marginRow n, hrow, rfl⟩ hvalid
  rw [show latestBlockNo marginDb = 3 from rfl, hstable] at hlookup
  exact ⟨ts, hts, hlookup⟩

theorem marginDb_parent :
    ParentReference slotTimestamp marginSource marginDb 1000 parentHeader (some 3)
      (some (marginMainchainBlock 2)) := by
  have hverified : (newVerification slotTimestamp marginSource marginDb [] ⟨0, []⟩ none 3
      (FixedBytes.replicate 32 2) 1000).1 = .ok ⟨marginMainchainBlock 2⟩ :=
    newVerification_eq_genesis
      (marginDb_reference (.nil _ _) rfl rfl rfl (by decide) (by decide) (by decide))
  exact ParentReference.accepted (.nil _ _) rfl hverified

/-- A proposal that the verifier refuses, since the parent refers to a newer
block. -/
theorem marginDb_regressed :
    ParentReference slotTimestamp marginSource marginDb 1000 parentHeader (some 3)
        (some (marginMainchainBlock 2)) ∧
      newProposal slotTimestamp marginSource marginDb 4 1000 = .ok ⟨marginMainchainBlock 1⟩ ∧
      (newVerification slotTimestamp marginSource marginDb [] parentHeader (some 3) 4
        (marginMainchainBlock 1).hash 1000).1 =
        .error (.mcStateReferenceRegressed (marginMainchainBlock 1).hash 4 1 2) := by
  refine ⟨marginDb_parent, marginDb_proposal, ?_⟩
  have hreference : (getMcStateReference slotTimestamp marginSource marginDb [] 4
      (marginMainchainBlock 1).hash 1000).1 = .ok (marginMainchainBlock 1) :=
    marginDb_reference (.nil _ _) rfl rfl rfl (by decide) (by decide) (by decide)
  have hafter : CacheSound marginSource marginDb (getMcStateReference slotTimestamp marginSource
      marginDb [] 4 (marginMainchainBlock 1).hash 1000).2 :=
    getMcStateReference_cache [] 4 1000 _ (.nil _ _)
  rw [newVerification_eq_parent hreference rfl
    (marginDb_reference (n := 2) hafter rfl rfl rfl (by decide) (by decide) (by decide))]
  rfl

/-- The condition for acceptance, on the chain with a margin. -/
theorem newVerification_iff_margin :
    (∃ verified, (newVerification slotTimestamp marginSource marginDb [] parentHeader (some 3) 4
        (marginMainchainBlock 1).hash 1000).1 = .ok verified) ↔
      (∀ q ∈ some (marginMainchainBlock 2),
        q.number ≤ marginSource.stableBlockNo (latestBlockNo marginDb)) ∧
        OfferStable marginSource (marginMainchainBlock 1).number (latestBlockNo marginDb) :=
  newVerification_iff (fun _ _ => rfl) marginDb_times (by decide) (by decide)
    (.nil _ _) marginDb_parent (fun s hs => Option.some.inj hs ▸ by decide)
    marginDb_proposal

end PartnerChains.Ports.McReference
