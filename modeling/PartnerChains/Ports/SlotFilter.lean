import PartnerChains.Ports.StableProposal

/-!
# The slot filter of the stable block query

`get_highest_block` looks for blocks in a window of time.  Times are not
indexed, so the window is given in slots, too; the slot of a time before the
first epoch is taken to be the first slot.

`getLatestBlock_eq_iff` says when the slots change nothing: the window does not
reach back before the Unix epoch, where no slot is computed and the request
fails, and if it has a block at all, it has one of the first epoch or a later
one.  If all its blocks are earlier, the filter removes them, since their slots
are below the first one.
-/

namespace PartnerChains.Ports.SlotFilter

open PartnerChains.Ports.Domain
open PartnerChains.Ports.DbSync
open PartnerChains.Ports.BlockDataSource
open PartnerChains.Ports.StableProposal
open PartnerChains.Verified.Fallible
open PartnerChains.Verified.Relational

variable {J : Type}

/-! ## The query without slots -/

/-- The `WHERE` clause without its conditions on slots. -/
def inTimeRange (maxBlockNumber : Nat) (minTime maxTime : Int) (b : BlockRow) : Bool :=
  (b.blockNo.any fun (n : Nat) => decide (n ≤ asInt4 maxBlockNumber)) &&
    decide (minTime ≤ b.time) && decide (b.time ≤ maxTime)

/-- `get_highest_block` without its condition on the slot. -/
def getHighestBlockByTime (db : Db J) (maxBlockNumber : Nat) (minTime maxTime : Int) :
    Except SqlxError (Option Block) :=
  fetchOptional BlockRow.decode
    (orderByDesc (fun b => sortKey b.blockNo)
      (db.block.filter (inTimeRange maxBlockNumber minTime maxTime)))

/-- `get_latest_block` with the other query, for which no slots are computed. -/
def getLatestBlockByTime (source : BlockDataSourceImpl) (db : Db J) (maxBlock : Nat)
    (referenceTimestamp : Int) : Except BlockSourceError (Option Block) :=
  (getHighestBlockByTime db maxBlock (source.minBlockAllowedTime referenceTimestamp)
    (source.maxAllowedBlockTime referenceTimestamp)).mapError .sqlx

/-- The block is in the window. -/
structure InWindow (maxBlockNumber : Nat) (minTime maxTime : Int) (block : Block) : Prop where
  blockNo : block.blockNo ≤ asInt4 maxBlockNumber
  minTime : minTime ≤ block.time
  maxTime : block.time ≤ maxTime

/-- The highest block in the window is found, if there is one. -/
theorem getHighestBlockByTime_ok (db : Db J) (maxBlockNumber : Nat) (minTime maxTime : Int) :
    ∃ result, getHighestBlockByTime db maxBlockNumber minTime maxTime = .ok result ∧
      (∀ block, result = some block → HasBlock db block ∧
        InWindow maxBlockNumber minTime maxTime block) ∧
      ∀ c, HasBlock db c → InWindow maxBlockNumber minTime maxTime c →
        ∃ block, result = some block ∧ c.blockNo ≤ block.blockNo := by
  refine fetchHighest_ok db ?_ ?_
  · intro row hrow
    cases hn : row.blockNo with
    | none => simp [inTimeRange, hn] at hrow
    | some n => rfl
  · intro row block hdecode
    obtain ⟨hn, -, -, -, ht⟩ := BlockRow.decode_eq_ok hdecode
    simp only [inTimeRange, hn, ht, Option.any_some, Bool.and_eq_true, decide_eq_true_eq]
    constructor
    · rintro ⟨⟨hno, hminTime⟩, hmaxTime⟩
      exact ⟨hno, hminTime, hmaxTime⟩
    · rintro ⟨hno, hminTime, hmaxTime⟩
      exact ⟨⟨hno, hminTime⟩, hmaxTime⟩

/-! ## Slots of times -/

/-- When the first epoch starts, in milliseconds. -/
def firstTime (source : BlockDataSourceImpl) : Nat :=
  source.mainchainEpochConfig.firstEpochTimestampMillis.toNat

/-- The first slot the source is configured with. -/
def firstSlot (source : BlockDataSourceImpl) : Nat :=
  source.mainchainEpochConfig.firstSlotNumber.toNat

/-- From the first epoch on slots are counted in seconds; earlier blocks have
smaller slots. -/
structure SlotsOfTimes (source : BlockDataSourceImpl) (db : Db J) : Prop where
  late : ∀ b, HasBlock db b → (firstTime source : Int) ≤ b.time →
    b.slotNo = firstSlot source + (b.time.toNat - firstTime source) / 1000
  early : ∀ b, HasBlock db b → b.time < firstTime source → b.slotNo < firstSlot source

/-- The slot of a time, before it is cast to a word. -/
def slotAt (source : BlockDataSourceImpl) (dt : Int) : Nat :=
  firstSlot source + (dt.toNat - firstTime source) / 1000

/-- The filter keeps a block of the window that ends at `maxTime`: the block is
not before the first epoch, and the last slot is a positive `int8`.  A first
slot of `2 ^ 63` and more is negative for the database; there the last slot
has to wrap to one that is not below the block's. -/
def Kept (source : BlockDataSourceImpl) (maxTime : Int) (b : Block) : Prop :=
  (firstTime source : Int) ≤ b.time ∧ slotAt source maxTime < 2 ^ 63 ∨
    b.slotNo + 2 ^ 64 ≤ slotAt source maxTime

section Slots

variable {source : BlockDataSourceImpl} {db : Db J} {dt : Int}

private theorem dateTimeToSlot_of_neg (h : dt < 0) :
    source.dateTimeToSlot dt = .error (.badRequest "Datetime out of range: " dt) :=
  if_pos h

theorem firstSlot_lt : firstSlot source < 2 ^ 64 :=
  source.mainchainEpochConfig.firstSlotNumber.toNat_lt

/-- The slot of a time from the first epoch on. -/
theorem dateTimeToSlot_of_nonneg (h : 0 ≤ dt) :
    source.dateTimeToSlot dt = .ok (slotAt source dt % 2 ^ 64) := by
  rw [BlockDataSourceImpl.dateTimeToSlot, if_neg (by omega),
    MainchainSlotConfig.timestampToMainchainSlotNumber]
  by_cases hearly : dt.toNat < source.mainchainEpochConfig.firstEpochTimestampMillis.toNat
  · rw [if_pos hearly, slotAt, firstTime, Nat.sub_eq_zero_of_le hearly.le, Nat.zero_div,
      Nat.add_zero, Nat.mod_eq_of_lt firstSlot_lt]
    rfl
  · rw [if_neg hearly]
    rfl

private theorem slotAt_early (h : dt < firstTime source) : slotAt source dt = firstSlot source := by
  rw [slotAt, Nat.sub_eq_zero_of_le (by omega), Nat.zero_div, Nat.add_zero]

private theorem slotAt_mono {dt' : Int} (h : dt ≤ dt') : slotAt source dt ≤ slotAt source dt' := by
  have hdiv : (dt.toNat - firstTime source) / 1000 ≤ (dt'.toNat - firstTime source) / 1000 :=
    Nat.div_le_div_right (by omega)
  rw [slotAt, slotAt]
  omega

private theorem firstSlot_le_slotAt : firstSlot source ≤ slotAt source dt := Nat.le_add_right _ _

/-- A word as an `int8`, for the sums that occur here. -/
theorem asInt8_mod_lt {n : Nat} (h : n < 2 ^ 63 + 2 ^ 64) :
    (n < 2 ^ 63 ∧ asInt8 (n % 2 ^ 64) = n) ∨
      (2 ^ 63 ≤ n ∧ n < 2 ^ 64 ∧ asInt8 (n % 2 ^ 64) < 0) ∨
      (2 ^ 64 ≤ n ∧ asInt8 (n % 2 ^ 64) = n - 2 ^ 64) := by
  unfold asInt8
  split
  · omega
  · omega

private theorem slotAt_lt (h : dt < 2 ^ 63) : slotAt source dt < firstSlot source + 2 ^ 63 := by
  rw [slotAt]
  omega

/-- Among the blocks in the window of time the filter selects the `Kept` ones. -/
theorem SlotsOfTimes.inRange_iff (h : SlotsOfTimes source db) {maxBlock : Nat}
    {minTime maxTime : Int} (hmillis : maxTime < 2 ^ 63) {b : Block} (hb : HasBlock db b)
    (hin : InWindow maxBlock minTime maxTime b) :
    InRange maxBlock minTime (slotAt source minTime % 2 ^ 64) maxTime
        (slotAt source maxTime % 2 ^ 64) b ↔ Kept source maxTime b := by
  have hword := hb.slotNo_lt
  have hmono : slotAt source minTime ≤ slotAt source maxTime :=
    slotAt_mono (hin.minTime.trans hin.maxTime)
  have hlt := @slotAt_lt source _ hmillis
  have hfirstLt := @firstSlot_lt source
  have hmin := @asInt8_mod_lt (slotAt source minTime) (by omega)
  have hmax := @asInt8_mod_lt (slotAt source maxTime) (by omega)
  have hslots : InRange maxBlock minTime (slotAt source minTime % 2 ^ 64) maxTime
        (slotAt source maxTime % 2 ^ 64) b ↔
      asInt8 (slotAt source minTime % 2 ^ 64) ≤ b.slotNo ∧
        b.slotNo ≤ asInt8 (slotAt source maxTime % 2 ^ 64) :=
    ⟨fun hrange => ⟨hrange.minSlot, hrange.maxSlot⟩,
      fun ⟨hminSlot, hmaxSlot⟩ =>
        ⟨hin.blockNo, hminSlot, hmaxSlot, hin.minTime, hin.maxTime⟩⟩
  rw [hslots, Kept]
  by_cases hlate : (firstTime source : Int) ≤ b.time
  · have hslot : b.slotNo = slotAt source b.time := h.late b hb hlate
    have hmono' := @slotAt_mono source _ _ hin.minTime
    have hmono'' := @slotAt_mono source _ _ hin.maxTime
    simp only [hlate, true_and]
    omega
  · have hearly := Int.not_le.mp hlate
    have hslot := h.early b hb hearly
    have hfirst := slotAt_early (Int.lt_of_le_of_lt hin.minTime hearly)
    have hle := @firstSlot_le_slotAt source maxTime
    simp only [hlate, false_and, false_or]
    omega

end Slots

/-! ## The result -/

section Result

variable {source : BlockDataSourceImpl} {db : Db J} {maxBlock : Nat} {minTime maxTime : Int}

/-- Every block of the window comes with a late one, and the last slot is a
positive `int8`, or the last slot wraps past the block. -/
def HasLate (source : BlockDataSourceImpl) (db : Db J) (maxBlock : Nat)
    (minTime maxTime : Int) : Prop :=
  ∀ b, HasBlock db b → InWindow maxBlock minTime maxTime b →
    ((∃ c, HasBlock db c ∧ InWindow maxBlock minTime maxTime c ∧
        (firstTime source : Int) ≤ c.time) ∧ slotAt source maxTime < 2 ^ 63) ∨
      b.slotNo + 2 ^ 64 ≤ slotAt source maxTime

private theorem HasBlock.eq_of_blockNo {b c : Block} (hb : HasBlock db b) (hc : HasBlock db c)
    (h : b.blockNo = c.blockNo) : b = c := by
  obtain ⟨row, hrow, hdecode⟩ := hb
  obtain ⟨row', hrow', hdecode'⟩ := hc
  have hn := (BlockRow.decode_eq_ok hdecode).1
  have hn' := (BlockRow.decode_eq_ok hdecode').1
  rw [← h] at hn'
  obtain rfl := Db.block_eq_of_blockNo hrow hrow' hn hn'
  exact Except.ok.inj (hdecode.symm.trans hdecode')

/-- A block that is not below a late one is late. -/
theorem SlotsOfTimes.late_of_le (h : SlotsOfTimes source db) {b c : Block} (hb : HasBlock db b)
    (hc : HasBlock db c) (hlate : (firstTime source : Int) ≤ c.time)
    (hle : c.blockNo ≤ b.blockNo) : (firstTime source : Int) ≤ b.time := by
  by_contra hearly
  have hslot := h.early b hb (Int.not_le.mp hearly)
  have hslot' := h.late c hc hlate
  have hlt := (HasBlock.blockNo_lt_iff hb hc).mpr (by omega)
  omega

private theorem HasBlock.slotNo_le {b c : Block} (hb : HasBlock db b) (hc : HasBlock db c)
    (h : b.blockNo ≤ c.blockNo) : b.slotNo ≤ c.slotNo := by
  by_contra hlt
  have hno := (HasBlock.blockNo_lt_iff hc hb).mpr (Nat.lt_of_not_le hlt)
  omega

private theorem getHighestBlock_eq_iff (h : SlotsOfTimes source db) (hmillis : maxTime < 2 ^ 63) :
    getHighestBlock db maxBlock minTime (slotAt source minTime % 2 ^ 64) maxTime
          (slotAt source maxTime % 2 ^ 64) =
        getHighestBlockByTime db maxBlock minTime maxTime ↔
      HasLate source db maxBlock minTime maxTime := by
  obtain ⟨filtered, hfiltered, hrange, hhighest⟩ :=
    getHighestBlock_ok db maxBlock minTime (slotAt source minTime % 2 ^ 64) maxTime
      (slotAt source maxTime % 2 ^ 64)
  obtain ⟨found, hfound, hwindow, hhighest'⟩ :=
    getHighestBlockByTime_ok db maxBlock minTime maxTime
  rw [hfiltered, hfound, Except.ok.injEq]
  constructor
  · rintro rfl b hb hin
    obtain ⟨highest, rfl, hle⟩ := hhighest' b hb hin
    obtain ⟨hhas, hinRange⟩ := hrange highest rfl
    have hin' := (hwindow highest rfl).2
    rcases (h.inRange_iff hmillis hhas hin').mp hinRange with ⟨hlate, hfits⟩ | hwraps
    · exact Or.inl ⟨⟨highest, hhas, hin', hlate⟩, hfits⟩
    · have hslot := HasBlock.slotNo_le hb hhas hle
      exact Or.inr (by omega)
  · intro hcond
    have hin' : ∀ b, filtered = some b → InWindow maxBlock minTime maxTime b := by
      intro b hb
      have hinRange := (hrange b hb).2
      exact ⟨hinRange.blockNo, hinRange.minTime, hinRange.maxTime⟩
    cases found with
    | none =>
        cases filtered with
        | none => rfl
        | some b =>
            obtain ⟨block, hblock, -⟩ := hhighest' b (hrange b rfl).1 (hin' b rfl)
            cases hblock
    | some highest =>
        obtain ⟨hhas, hin⟩ := hwindow highest rfl
        have hkept : Kept source maxTime highest := by
          rcases hcond highest hhas hin with ⟨⟨c, hc, hcin, hclate⟩, hfits⟩ | hwraps
          · obtain ⟨block, hblock, hle⟩ := hhighest' c hc hcin
            obtain rfl := Option.some.inj hblock
            exact Or.inl ⟨h.late_of_le hhas hc hclate hle, hfits⟩
          · exact Or.inr hwraps
        -- the filter keeps the highest block, and finds no higher one
        obtain ⟨b, rfl, hle⟩ := hhighest highest hhas ((h.inRange_iff hmillis hhas hin).mpr hkept)
        have hb := (hrange b rfl).1
        obtain ⟨block, hblock, hle'⟩ := hhighest' b hb (hin' b rfl)
        obtain rfl := Option.some.inj hblock
        rw [HasBlock.eq_of_blockNo hb hhas (Nat.le_antisymm hle' hle)]

/-- A window that starts or ends before the Unix epoch is refused. -/
theorem getLatestBlock_of_neg (db : Db J) (maxBlock : Nat) {referenceTimestamp : Int}
    (h : source.minBlockAllowedTime referenceTimestamp < 0 ∨
      source.maxAllowedBlockTime referenceTimestamp < 0) :
    ∃ time, source.getLatestBlock db maxBlock referenceTimestamp =
      .error (.badRequest "Datetime out of range: " time) := by
  by_cases hmin : source.minBlockAllowedTime referenceTimestamp < 0
  · refine ⟨source.minBlockAllowedTime referenceTimestamp, ?_⟩
    simp only [BlockDataSourceImpl.getLatestBlock, dateTimeToSlot_of_neg hmin, bind, Except.bind]
  · refine ⟨source.maxAllowedBlockTime referenceTimestamp, ?_⟩
    simp only [BlockDataSourceImpl.getLatestBlock, dateTimeToSlot_of_nonneg (Int.not_lt.mp hmin),
      dateTimeToSlot_of_neg (h.resolve_left hmin), bind, Except.bind]

/-- The conditions on slots change nothing exactly if the window does not reach
back before the Unix epoch, and every block of it comes with one of the first
epoch or a later one. -/
theorem getLatestBlock_eq_iff (h : SlotsOfTimes source db) (maxBlock : Nat)
    (referenceTimestamp : Int)
    (hmillis : source.maxAllowedBlockTime referenceTimestamp < 2 ^ 63) :
    source.getLatestBlock db maxBlock referenceTimestamp =
        getLatestBlockByTime source db maxBlock referenceTimestamp ↔
      0 ≤ source.minBlockAllowedTime referenceTimestamp ∧
        0 ≤ source.maxAllowedBlockTime referenceTimestamp ∧
        HasLate source db maxBlock (source.minBlockAllowedTime referenceTimestamp)
          (source.maxAllowedBlockTime referenceTimestamp) := by
  by_cases hneg : source.minBlockAllowedTime referenceTimestamp < 0 ∨
      source.maxAllowedBlockTime referenceTimestamp < 0
  · obtain ⟨time, hfails⟩ := getLatestBlock_of_neg db maxBlock hneg
    obtain ⟨found, hfound, -⟩ := getHighestBlockByTime_ok db maxBlock
      (source.minBlockAllowedTime referenceTimestamp)
      (source.maxAllowedBlockTime referenceTimestamp)
    refine iff_of_false ?_ (by omega)
    rw [hfails, getLatestBlockByTime, hfound]
    intro heq
    cases heq
  · have hmin : 0 ≤ source.minBlockAllowedTime referenceTimestamp := by omega
    have hmax : 0 ≤ source.maxAllowedBlockTime referenceTimestamp := by omega
    simp only [BlockDataSourceImpl.getLatestBlock, getLatestBlockByTime,
      dateTimeToSlot_of_nonneg hmin, dateTimeToSlot_of_nonneg hmax, bind, Except.bind, hmin, hmax,
      true_and]
    rw [← getHighestBlock_eq_iff h hmillis]
    exact mapError_inj fun _ _ heq => BlockSourceError.sqlx.inj heq

end Result

/-! ## One block

The only block is at time and slot 0.  The window of the reference 3000 is from
0 to 2000 milliseconds. -/

theorem oneBlockDb_block {block : Block} (h : HasBlock oneBlockDb block) :
    block = ⟨0, FixedBytes.replicate 32 0, 0, 0, 0⟩ := by
  obtain ⟨row, hmem, hdecode⟩ := h
  rw [List.mem_singleton.mp hmem] at hdecode
  exact (Except.ok.inj hdecode).symm

private theorem oneBlock_slotsOfTimes : SlotsOfTimes oneBlockSource oneBlockDb where
  late b hb _ := by
    rw [oneBlockDb_block hb]
    rfl
  early b hb htime := by
    rw [oneBlockDb_block hb] at htime
    exact absurd htime (by decide)

/-- On one block the filter changes nothing. -/
theorem getLatestBlock_eq_iff_oneBlock :
    oneBlockSource.getLatestBlock oneBlockDb 0 3000 =
      getLatestBlockByTime oneBlockSource oneBlockDb 0 3000 := by
  refine (getLatestBlock_eq_iff oneBlock_slotsOfTimes 0 3000 (by decide)).mpr
    ⟨by decide, by decide, ?_⟩
  intro b hb hin
  refine Or.inl ⟨⟨b, hb, hin, ?_⟩, by decide⟩
  rw [oneBlockDb_block hb]
  decide

/-- The first epoch starts ten seconds later, at slot 10. -/
def tenSecondsSource : BlockDataSourceImpl :=
  { oneBlockSource with mainchainEpochConfig := ⟨⟨10000, 10000, 0⟩, 10⟩ }

private theorem tenSeconds_slotsOfTimes : SlotsOfTimes tenSecondsSource oneBlockDb where
  late b hb htime := by
    rw [oneBlockDb_block hb] at htime
    exact absurd htime (by decide)
  early b hb _ := by
    rw [oneBlockDb_block hb]
    decide

/-- Here the window is before the first epoch, and the filter looks for a block
of slot 10. -/
theorem tenSeconds_filtered :
    SlotsOfTimes tenSecondsSource oneBlockDb ∧
      tenSecondsSource.getLatestBlock oneBlockDb 0 3000 = .ok none ∧
      getLatestBlockByTime tenSecondsSource oneBlockDb 0 3000 =
        .ok (some ⟨0, FixedBytes.replicate 32 0, 0, 0, 0⟩) := by
  refine ⟨tenSeconds_slotsOfTimes, ?_, ?_⟩
  · show (fetchOptional BlockRow.decode
      (orderByDesc (fun b => sortKey b.blockNo) ([] : List BlockRow))).mapError _ = _
    rw [orderByDesc_of_pairwise List.Pairwise.nil]
    rfl
  · show (fetchOptional BlockRow.decode
      (orderByDesc (fun b => sortKey b.blockNo) [firstRow])).mapError _ = _
    rw [orderByDesc_of_pairwise (List.pairwise_singleton _ _)]
    rfl

end PartnerChains.Ports.SlotFilter
