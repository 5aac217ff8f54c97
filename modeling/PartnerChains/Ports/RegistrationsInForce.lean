import PartnerChains.Ports.LedgerOutputs

/-!
# The registrations in force

What `get_candidates` is for, said on the ledger: for every main chain key the
outputs in force at the last block of the data epoch whose datum is a valid
registration of the key, with the stake of the pool with that key.  On a
database whose datums convert, `get_candidates` returns exactly this
(`getCandidates_eq_inForce`).
-/

namespace PartnerChains.Ports.RegistrationsInForce

open PartnerChains.Ports.Domain
open PartnerChains.Ports.DbSync
open PartnerChains.Ports.MainchainDatums
open PartnerChains.Ports.CandidatesQuery
open PartnerChains.Ports.CandidatesDataSource
open PartnerChains.Ports.LedgerOutputs
open PartnerChains.Verified.Fallible
open PartnerChains.Verified.Relational

variable {J : Type}

/-! ## The specification -/

section Specification

variable (lib : Libraries J) (db : Db J)

/-- The number of the last block of an epoch not later than `epoch`. -/
def lastBlockNo (epoch : Nat) : Option Nat :=
  ((db.block.filter fun b => b.epochNo.any fun e => decide (e ≤ epoch)).filterMap
    BlockRow.blockNo).max?

/-- The registration that the datum of an output holds, if it is valid. -/
def registrationDatum (o : TxOutRow) : Option RegisterValidatorDatum := do
  let value ← datumValue db o
  let data ← lib.encodeJsonValueToPlutusDatum value
  (RegisterValidatorDatum.schema.decode data).toOption

/-- The registration that an output with the datum makes. -/
def registrationOf (r : OriginRow) (d : RegisterValidatorDatum) : RegistrationData where
  consumedInput := d.consumedInput
  sidechainSignature := d.sidechainSignature
  mainchainSignature := d.stakeOwnership.signature
  crossChainSignature := d.sidechainSignature
  sidechainPubKey := d.sidechainPubKey
  crossChainPubKey := d.sidechainPubKey
  utxoInfo :=
    { utxoId := ⟨r.tx.hash, r.txOut.index⟩
      epochNumber := r.block.epochNo.getD 0
      blockNumber := r.block.blockNo.getD 0
      slotNumber := r.block.slotNo.getD 0
      txIndexWithinBlock := r.tx.blockIndex }
  txInputs := consumedOutputs db r.tx
  auraPubKey := d.auraPubKey
  grandpaPubKey := d.grandpaPubKey

/-- The outputs in force at the last block of the epoch. -/
def outputsInForce (address : MainchainAddress) (epoch : Nat) : List OriginRow :=
  match lastBlockNo db epoch with
  | none => []
  | some block => inForce db address block

/-- The registrations of a key in force. -/
def registrationsInForce (address : MainchainAddress) (epoch : Nat)
    (key : MainchainPublicKey) : List RegistrationData :=
  (outputsInForce db address epoch).filterMap fun r =>
    (registrationDatum lib db r.txOut).bind fun d =>
      if d.stakeOwnership.pubKey = key then some (registrationOf db r d) else none

/-- The stake rows of an epoch that belong to the pool with a hash. -/
def poolStakeRows (epoch : Nat) (hash : MainchainAddressHash) : List EpochStakeRow :=
  db.epochStake.filter fun s => decide (s.epochNo = epoch) &&
    db.poolHash.any fun p => decide (s.poolId = p.id) && decide (p.hashRaw = hash)

/-- The stake of the pool with a key: unknown if the epoch has no stake rows,
zero if the pool has none. -/
def stakeInForce (epoch : Nat) (key : MainchainPublicKey) : Option UInt64 :=
  if db.epochStake.any fun s => decide (s.epochNo = epoch) then
    some (UInt64.ofNat ((poolStakeRows db epoch (lib.fromVkey key)).map
      fun s => s.amount.toNat).sum)
  else none

/-- Every datum converts. -/
def DatumsConvert : Prop :=
  ∀ d ∈ db.datum, ∀ value, d.value = some value →
    (lib.encodeJsonValueToPlutusDatum value).isSome

end Specification

/-! ## The last block -/

variable {lib : Libraries J} {db : Db J}

/-- Along the chain a block with a later slot has the greater number. -/
theorem blockNo_le_of_slotNo_le {b c : BlockRow} (hb : b ∈ db.block) (hc : c ∈ db.block)
    {n m : Nat} (hn : b.blockNo = some n) (hm : c.blockNo = some m)
    (hle : sortKey c.slotNo ≤ sortKey b.slotNo) : m ≤ n := by
  by_contra hlt
  have hne : b ≠ c := by
    intro heq
    rw [heq, hm] at hn
    exact hlt (Option.some.inj hn).le
  obtain ⟨-, s, -, hs, -⟩ := Db.decode_ok hb hn
  obtain ⟨-, s', -, hs', -⟩ := Db.decode_ok hc hm
  rcases db.chain b hb c hc hne (by simp [hn]) (by simp [hm]) with hbefore | hbefore
  · have hslot := hbefore.slotNo
    simp only [hs, hs', Option.getD_some, sortKey_some] at hslot hle
    have hle' : s' ≤ s := WithTop.coe_le_coe.mp hle
    omega
  · have hnumber := hbefore.blockNo
    simp only [hn, hm, Option.getD_some] at hnumber
    omega

/-- The rows of `get_latest_block_for_epoch`. -/
theorem mem_epochRows {b : BlockRow} (hb : b ∈ db.block) (hnumbered : b.blockNo.isSome)
    {epoch : Nat} (he : (b.epochNo.any fun e => decide (e ≤ epoch)) = true) :
    b ∈ db.block.filter fun b => b.epochNo.any (fun e => decide (e ≤ epoch)) &&
      b.slotNo.isSome && b.blockNo.isSome := by
  have hslot := (db.numbered_complete b hb hnumbered).2
  exact List.mem_filter.mpr ⟨hb, by simp [he, hslot, hnumbered]⟩

/-- The query for the last block of an epoch always succeeds. -/
theorem getLastBlockForEpoch_eq (db : Db J) {epoch : Nat} (hepoch : epoch < 2 ^ 31) :
    getLastBlockForEpoch db epoch = .ok (lastBlockNo db epoch) := by
  cases hhead : (orderByDesc (fun b : BlockRow => sortKey b.slotNo)
      (db.block.filter fun b => b.epochNo.any (fun e => decide (e ≤ epoch)) &&
        b.slotNo.isSome && b.blockNo.isSome)).head? with
  | none =>
      have hempty := head?_orderByDesc_eq_none.mp hhead
      have hnone : lastBlockNo db epoch = none := by
        rw [lastBlockNo, List.max?_eq_none_iff, List.filterMap_eq_nil_iff]
        intro b hb
        obtain ⟨hb, he⟩ := List.mem_filter.mp hb
        by_contra hn
        have hmem := mem_epochRows hb (Option.isSome_iff_ne_none.mpr hn) he
        rw [hempty] at hmem
        exact List.not_mem_nil hmem
      simp [getLastBlockForEpoch, getLatestBlockForEpoch_of_lt hepoch, fetchOptional, hnone, hhead,
        Except.mapError, bind, Except.bind]
  | some b =>
      obtain ⟨hmem, hmax⟩ := head?_orderByDesc hhead
      obtain ⟨hb, hcond⟩ := List.mem_filter.mp hmem
      simp only [Bool.and_eq_true] at hcond
      obtain ⟨n, hn⟩ := Option.isSome_iff_exists.mp hcond.2
      obtain ⟨e, s, he, hs, hdecode⟩ := Db.decode_ok hb hn
      have hlast : lastBlockNo db epoch = some n := by
        rw [lastBlockNo, List.max?_eq_some_iff]
        constructor
        · exact List.mem_filterMap.mpr ⟨b, List.mem_filter.mpr ⟨hb, hcond.1.1⟩, hn⟩
        · intro m hm
          obtain ⟨c, hc, hcm⟩ := List.mem_filterMap.mp hm
          obtain ⟨hc, hce⟩ := List.mem_filter.mp hc
          have hle := hmax c (mem_epochRows hc (by simp [hcm]) hce)
          exact blockNo_le_of_slotNo_le hb hc hn hcm hle
      simp [getLastBlockForEpoch, getLatestBlockForEpoch_of_lt hepoch, fetchOptional, hhead,
        hdecode, hlast,
        Except.mapError, Except.map, bind, Except.bind]

/-- Along the chain, the blocks up to the last one of an epoch are those of
earlier epochs and of the epoch itself. -/
theorem le_lastBlockNo_iff {b : BlockRow} (hb : b ∈ db.block) {n : Nat}
    (hn : b.blockNo = some n) (epoch : Nat) :
    (∃ last, lastBlockNo db epoch = some last ∧ n ≤ last) ↔
      (b.epochNo.any fun e => decide (e ≤ epoch)) = true := by
  constructor
  · rintro ⟨last, hlast, hle⟩
    rw [lastBlockNo, List.max?_eq_some_iff] at hlast
    obtain ⟨c, hc, hcn⟩ := List.mem_filterMap.mp hlast.1
    obtain ⟨hc, hce⟩ := List.mem_filter.mp hc
    by_cases heq : b = c
    · exact heq ▸ hce
    · obtain ⟨e, -, he, -, -⟩ := Db.decode_ok hb hn
      obtain ⟨e', -, he', -, -⟩ := Db.decode_ok hc hcn
      rcases db.chain b hb c hc heq (by simp [hn]) (by simp [hcn]) with hbefore | hbefore
      · have hepoch := hbefore.epochNo
        simp only [he, he', Option.getD_some, Option.any_some, decide_eq_true_eq] at hepoch hce ⊢
        omega
      · have hnumber := hbefore.blockNo
        simp only [hn, hcn, Option.getD_some] at hnumber
        omega
  · intro he
    have hmem : n ∈ (db.block.filter fun b => b.epochNo.any fun e => decide (e ≤ epoch)).filterMap
        BlockRow.blockNo := List.mem_filterMap.mpr ⟨b, List.mem_filter.mpr ⟨hb, he⟩, hn⟩
    cases hlast : lastBlockNo db epoch with
    | none =>
        rw [lastBlockNo, List.max?_eq_none_iff] at hlast
        rw [hlast] at hmem
        simp at hmem
    | some last =>
        rw [lastBlockNo, List.max?_eq_some_iff] at hlast
        exact ⟨last, rfl, hlast.2 n hmem⟩

/-- A transaction in a block up to the epoch consumes the output. -/
def SpentUpTo (db : Db J) (o : TxOutRow) (epoch : Nat) : Prop :=
  ∃ i ∈ db.txIn, o.txId = i.txOutId ∧ o.index = i.txOutIndex ∧
    ∃ t ∈ db.tx, t.id = i.txInId ∧ ∃ b ∈ db.block, b.id = t.blockId ∧
      (b.epochNo.any fun e => decide (e ≤ epoch)) = true

/-- An output of the address, created and not spent up to the epoch. -/
structure OutputInForce (db : Db J) (address : MainchainAddress) (epoch : Nat)
    (r : OriginRow) : Prop where
  txOut_mem : r.txOut ∈ db.txOut
  tx_mem : r.tx ∈ db.tx
  block_mem : r.block ∈ db.block
  txId_eq : r.txOut.txId = r.tx.id
  blockId_eq : r.tx.blockId = r.block.id
  address_eq : r.txOut.address = address
  numbered : r.block.blockNo.isSome
  created : (r.block.epochNo.any fun e => decide (e ≤ epoch)) = true
  unspent : ¬ SpentUpTo db r.txOut epoch

theorem OutputInForce.origin_eq {address : MainchainAddress} {epoch : Nat} {r : OriginRow}
    (hr : OutputInForce db address epoch r) : origin db r.txOut = some r := by
  simp only [origin, hr.txId_eq, find?_tx hr.tx_mem, hr.blockId_eq, find?_block hr.block_mem,
    bind, Option.bind]

private theorem spentBy_iff (h : Ledger db) (o : TxOutRow) {epoch last : Nat}
    (hlast : lastBlockNo db epoch = some last) :
    spentBy db o last = true ↔ SpentUpTo db o epoch := by
  rw [spentBy, List.any_eq_true]
  constructor
  · rintro ⟨i, hi, hcond⟩
    simp only [Bool.and_eq_true, decide_eq_true_eq] at hcond
    obtain ⟨t, ht, b, hb, n, htid, hbid, hn, hblock⟩ := h.exists_block hi
    have hle : n ≤ last := by simpa [hblock] using hcond.2
    exact ⟨i, hi, hcond.1.1, hcond.1.2, t, ht, htid, b, hb, hbid,
      (le_lastBlockNo_iff hb hn epoch).mp ⟨last, hlast, hle⟩⟩
  · rintro ⟨i, hi, htxId, hindex, t, ht, htid, b, hb, hbid, he⟩
    obtain ⟨n, hn⟩ := Option.isSome_iff_exists.mp (h.numbered i hi t ht htid b hb hbid)
    obtain ⟨last', hlast', hle⟩ := (le_lastBlockNo_iff hb hn epoch).mpr he
    rw [hlast] at hlast'
    have hle' : n ≤ last := Option.some.inj hlast' ▸ hle
    have hblock : blockNoOfTx db i.txInId = some n := by
      rw [← htid, blockNoOfTx_eq ht hb hbid, hn]
    exact ⟨i, hi, by simp [htxId, hindex, hblock, hle']⟩

/-- The list of outputs in force is what it is called. -/
theorem mem_outputsInForce (h : Ledger db) {address : MainchainAddress} {epoch : Nat}
    {r : OriginRow} :
    r ∈ outputsInForce db address epoch ↔ OutputInForce db address epoch r := by
  unfold outputsInForce
  constructor
  · intro hr
    cases hlast : lastBlockNo db epoch with
    | none => simp [hlast] at hr
    | some last =>
        rw [hlast] at hr
        obtain ⟨hmem, horigin, haddress, ⟨n, hn, hle⟩, hspent⟩ := mem_inForce.mp hr
        obtain ⟨-, htx, hblock, htxId, hblockId⟩ := origin_eq_some horigin
        refine ⟨hmem, htx, hblock, htxId, hblockId, haddress, by simp [hn],
          (le_lastBlockNo_iff hblock hn epoch).mp ⟨last, hlast, hle⟩, ?_⟩
        rw [← spentBy_iff h _ hlast, hspent]
        simp
  · intro hr
    obtain ⟨n, hn⟩ := Option.isSome_iff_exists.mp hr.numbered
    obtain ⟨last, hlast, hle⟩ := (le_lastBlockNo_iff hr.block_mem hn epoch).mpr hr.created
    rw [hlast]
    refine mem_inForce.mpr ⟨hr.txOut_mem, hr.origin_eq, hr.address_eq, ⟨n, hn, hle⟩, ?_⟩
    rw [Bool.eq_false_iff, Ne, spentBy_iff h _ hlast]
    exact hr.unspent

/-! ## The stake -/

/-- The rows of the stake query before they are grouped. -/
def stakeRows (db : Db J) (epoch : Nat) : List (EpochStakeRow × PoolHashRow) :=
  (db.epochStake
    |> innerJoin db.poolHash (fun es ph => decide (es.poolId = ph.id))).filter
      fun (es, _) => decide (es.epochNo = epoch)

theorem stakeRows_eq (db : Db J) (epoch : Nat) :
    stakeRows db epoch =
      (db.epochStake.filter fun s => decide (s.epochNo = epoch)).filterMap fun s =>
        (db.poolHash.find? fun p => decide (s.poolId = p.id)).map fun p => (s, p) := by
  have hunique : ∀ s ∈ db.epochStake,
      (db.poolHash.filter fun p => decide (s.poolId = p.id)).length ≤ 1 :=
    fun s _ => length_filter_le_one_of_key db.pool_hash_pkey fun p _ hp =>
      (of_decide_eq_true hp).symm
  rw [stakeRows, innerJoin_of_unique hunique, List.filter_filterMap, List.filterMap_filter]
  apply List.filterMap_congr
  intro s _
  cases db.poolHash.find? fun p => decide (s.poolId = p.id) with
  | none => simp
  | some p => by_cases he : s.epochNo = epoch <;> simp [he]

/-- Grouped by pool, the rows are those of the pool. -/
theorem map_fst_filter_stakeRows (db : Db J) (epoch : Nat) (hash : MainchainAddressHash) :
    ((stakeRows db epoch).filter fun row => decide (row.2.hashRaw = hash)).map Prod.fst =
      poolStakeRows db epoch hash := by
  rw [stakeRows_eq, List.filter_filterMap, List.map_filterMap, poolStakeRows,
    List.filterMap_filter, ← List.filterMap_eq_filter]
  apply List.filterMap_congr
  intro s hs
  obtain ⟨p, hp, hid⟩ := db.epoch_stake_pool_id_fkey s hs
  have hfind : db.poolHash.find? (fun p => decide (s.poolId = p.id)) = some p :=
    find?_eq_some_of_key db.pool_hash_pkey hp (by simp [hid]) fun q _ hq =>
      (of_decide_eq_true hq).symm.trans hid.symm
  have hany : (db.poolHash.any fun q => decide (s.poolId = q.id) && decide (q.hashRaw = hash)) =
      decide (p.hashRaw = hash) := by
    rw [Bool.eq_iff_iff, List.any_eq_true, decide_eq_true_eq]
    constructor
    · rintro ⟨q, hq, hcond⟩
      simp only [Bool.and_eq_true, decide_eq_true_eq] at hcond
      have heq : q = p := by
        apply List.inj_on_of_nodup_map db.pool_hash_pkey hq hp
        rw [← hcond.1, hid]
      rw [← heq, hcond.2]
    · intro hraw
      exact ⟨p, hp, by simp [hid, hraw]⟩
  simp only [Option.guard, hfind, hany]
  by_cases he : s.epochNo = epoch <;> by_cases hraw : p.hashRaw = hash <;> simp [he, hraw]

private theorem sum_poolStakeRows_lt (h : Ledger db) (epoch : Nat) (hash : MainchainAddressHash) :
    ((poolStakeRows db epoch hash).map fun s => s.amount.toNat).sum < 2 ^ 64 := by
  refine lt_of_le_of_lt ?_ (h.stake_lt epoch)
  have hsublist : (poolStakeRows db epoch hash).Sublist
      (db.epochStake.filter fun s => decide (s.epochNo = epoch)) := by
    apply List.monotone_filter_right _
    intro s hs
    exact (Bool.and_eq_true_iff.mp hs).1
  exact (hsublist.map _).sum_le_sum (by simp)

private theorem lookup_map_key {α β : Type} [BEq α] [LawfulBEq α] [DecidableEq α] (f : α → β)
    (l : List α) (k : α) :
    (l.map fun a => (a, f a)).lookup k = if k ∈ l then some (f k) else none := by
  induction l with
  | nil => rfl
  | cons a l ih =>
      by_cases hka : k = a
      · subst hka
        simp
      · have hbeq : (k == a) = false := by simpa using hka
        rw [List.map_cons, List.lookup_cons, hbeq, ih]
        simp [hka]

private theorem getStakeDistribution_eq (h : Ledger db) {epoch : Nat} (hepoch : epoch < 2 ^ 31) :
    getStakeDistribution db epoch =
      .ok (((stakeRows db epoch).map fun row => row.2.hashRaw).dedup.map fun hash =>
        ⟨hash, UInt64.ofNat
          ((poolStakeRows db epoch hash).map fun s => s.amount.toNat).sum⟩) := by
  have hsum : ∀ hash, (((stakeRows db epoch).filter fun row =>
      decide (row.2.hashRaw = hash)).map fun row => row.1.amount.toNat).sum =
        ((poolStakeRows db epoch hash).map fun s => s.amount.toNat).sum := by
    intro hash
    rw [← map_fst_filter_stakeRows, List.map_map]
    rfl
  rw [getStakeDistribution_of_lt hepoch, fetchAll, groupBy, List.mapM_map]
  apply mapM_ok
  intro hash _
  have hlt := sum_poolStakeRows_lt h epoch hash
  rw [← hsum] at hlt ⊢
  exact congrArg (fun stake : Except SqlxError UInt64 => stake.bind fun stake =>
    Except.ok (StakePoolEntry.mk hash stake)) (if_pos hlt)

/-- An epoch without stake rows has no pools in its distribution. -/
theorem stakeRows_eq_nil_iff (db : Db J) (epoch : Nat) :
    stakeRows db epoch = [] ↔ (db.epochStake.any fun s => decide (s.epochNo = epoch)) = false := by
  rw [stakeRows_eq, List.filterMap_eq_nil_iff, List.any_eq_false]
  constructor
  · intro hnil s hs he
    obtain ⟨p, hp, hid⟩ := db.epoch_stake_pool_id_fkey s hs
    have hnone := hnil s (List.mem_filter.mpr ⟨hs, he⟩)
    rw [Option.map_eq_none_iff, List.find?_eq_none] at hnone
    exact hnone p hp (by simp [hid])
  · intro hno s hs
    obtain ⟨hs, he⟩ := List.mem_filter.mp hs
    exact absurd he (hno s hs)

private theorem poolStakeRows_eq_nil {epoch : Nat} {hash : MainchainAddressHash}
    (h : hash ∉ ((stakeRows db epoch).map fun row => row.2.hashRaw).dedup) :
    poolStakeRows db epoch hash = [] := by
  rw [← map_fst_filter_stakeRows, List.map_eq_nil_iff, List.filter_eq_nil_iff]
  intro row hrow hraw
  rw [List.mem_dedup] at h
  exact h (List.mem_map.mpr ⟨row, hrow, of_decide_eq_true hraw⟩)

/-- Looking a key up in the stake map gives the stake of its pool. -/
theorem getStakeDelegation_eq (lib : Libraries J) (db : Db J) (epoch : Nat)
    (key : MainchainPublicKey) :
    getStakeDelegation lib (makeStakeMap
      (((stakeRows db epoch).map fun row => row.2.hashRaw).dedup.map fun hash =>
        ⟨hash, UInt64.ofNat
          ((poolStakeRows db epoch hash).map fun s => s.amount.toNat).sum⟩)) key =
      stakeInForce lib db epoch key := by
  have hmap : makeStakeMap
      (((stakeRows db epoch).map fun row => row.2.hashRaw).dedup.map fun hash =>
        ⟨hash, UInt64.ofNat
          ((poolStakeRows db epoch hash).map fun s => s.amount.toNat).sum⟩) =
      ((stakeRows db epoch).map fun row => row.2.hashRaw).dedup.reverse.map fun hash =>
        (hash, UInt64.ofNat
          ((poolStakeRows db epoch hash).map fun s => s.amount.toNat).sum) := by
    rw [makeStakeMap, List.map_map, ← List.map_reverse]
    rfl
  rw [getStakeDelegation, hmap, lookup_map_key, stakeInForce]
  cases hrows : db.epochStake.any fun s => decide (s.epochNo = epoch) with
  | false =>
      rw [← stakeRows_eq_nil_iff] at hrows
      simp [hrows]
  | true =>
      have hne : stakeRows db epoch ≠ [] := by
        rw [Ne, stakeRows_eq_nil_iff, hrows]
        simp
      obtain ⟨row, hrow⟩ := List.exists_mem_of_ne_nil _ hne
      have hmem : row.2.hashRaw ∈ ((stakeRows db epoch).map fun row => row.2.hashRaw).dedup :=
        List.mem_dedup.mpr (List.mem_map.mpr ⟨row, hrow, rfl⟩)
      have hempty : (((stakeRows db epoch).map fun row => row.2.hashRaw).dedup.reverse.map
          fun hash => (hash, UInt64.ofNat
            ((poolStakeRows db epoch hash).map fun s => s.amount.toNat).sum)).isEmpty =
          false := by
        rw [List.isEmpty_eq_false_iff]
        simpa using List.ne_nil_of_mem hmem
      rw [hempty]
      simp only [Bool.false_eq_true, if_false, if_true, Option.some.injEq]
      split
      · rfl
      · next hnone =>
          rw [List.mem_reverse] at hnone
          rw [poolStakeRows_eq_nil hnone]
          rfl

/-! ## The candidates -/

/-- The candidate that an output in force registers. -/
def candidateOf (lib : Libraries J) (db : Db J) (r : OriginRow) : Option RegisteredCandidate :=
  (registrationDatum lib db r.txOut).map fun d =>
    registeredCandidate ⟨(registrationOf db r d).utxoInfo, d, consumedOutputs db r.tx⟩

private theorem parseCandidate_outputOf (lib : Libraries J) (db : Db J) (r : OriginRow) :
    (parseCandidate (outputOf db r
      ((datumValue db r.txOut).bind lib.encodeJsonValueToPlutusDatum))).map
        registeredCandidate = candidateOf lib db r := by
  unfold candidateOf registrationDatum parseCandidate outputOf
  cases datumValue db r.txOut with
  | none => rfl
  | some value =>
      simp only [Option.bind_some, Option.bind_eq_bind]
      cases lib.encodeJsonValueToPlutusDatum value with
      | none => rfl
      | some data =>
          simp only [Option.bind_some]
          cases RegisterValidatorDatum.schema.decode data with
          | error e => rfl
          | ok d => rfl

/-- The datum of every output in force decodes. -/
def ConvertsInForce (lib : Libraries J) (db : Db J) (address : MainchainAddress)
    (epoch : Nat) : Prop :=
  ∀ r ∈ outputsInForce db address epoch, ∀ value, datumValue db r.txOut = some value →
    (lib.encodeJsonValueToPlutusDatum value).isSome

/-- A column whose value converts is decoded. -/
theorem decodeDatum_eq {column : Option J}
    (h : ∀ value, column = some value → (lib.encodeJsonValueToPlutusDatum value).isSome) :
    decodeDatum lib column = .ok (column.bind lib.encodeJsonValueToPlutusDatum) := by
  cases column with
  | none => rfl
  | some value =>
      obtain ⟨data, hdata⟩ := Option.isSome_iff_exists.mp (h value rfl)
      simp [decodeDatum, hdata]

/-- One datum that does not convert fails the query for all. -/
theorem getRegisteredCandidates_error [DecidableEq J] (h : Ledger db)
    {address : MainchainAddress} (hordinary : OrdinaryTransactions db address) {epoch : Nat}
    (hword : epoch < 2 ^ 31) (hnot : ¬ ConvertsInForce lib db address epoch) :
    getRegisteredCandidates lib db epoch address = .error (.sqlx (.columnDecode "datum")) := by
  unfold ConvertsInForce outputsInForce at hnot
  push Not at hnot
  obtain ⟨r, hr, value, hvalue, hnone⟩ := hnot
  rw [getRegisteredCandidates, getLastBlockForEpoch_eq db hword]
  cases hlast : lastBlockNo db epoch with
  | none => simp [hlast] at hr
  | some block =>
      rw [hlast] at hr
      have hutxos : getUtxosForAddress lib db address block = .error (.columnDecode "datum") := by
        rw [getUtxosForAddress_eq lib h hordinary]
        refine mapM_error hr ?_ ?_
        · simp [hvalue, decodeDatum, Option.not_isSome_iff_eq_none.mp hnone, Except.map]
        · intro r' _ e he
          unfold decodeDatum at he
          split at he
          · simp [Except.map] at he
          · split at he <;> simp [Except.map] at he
            exact he.symm
      simp [bind, Except.bind, hutxos, Except.mapError]

private theorem getRegisteredCandidates_eq [DecidableEq J] (h : Ledger db)
    {address : MainchainAddress}
    (hordinary : OrdinaryTransactions db address) {epoch : Nat} (hword : epoch < 2 ^ 31)
    (hconvert : ConvertsInForce lib db address epoch) :
    getRegisteredCandidates lib db epoch address =
      .ok ((outputsInForce db address epoch).filterMap (candidateOf lib db)) := by
  unfold ConvertsInForce outputsInForce at hconvert
  rw [getRegisteredCandidates, getLastBlockForEpoch_eq db hword, outputsInForce]
  cases hlast : lastBlockNo db epoch with
  | none => rfl
  | some block =>
      rw [hlast] at hconvert
      have hutxos : getUtxosForAddress lib db address block =
          .ok ((inForce db address block).map fun r => outputOf db r
            ((datumValue db r.txOut).bind lib.encodeJsonValueToPlutusDatum)) := by
        rw [getUtxosForAddress_eq lib h hordinary]
        apply mapM_ok
        intro r hr
        rw [decodeDatum_eq (hconvert r hr)]
        rfl
      have hcandidates : convertUtxosToCandidates ((inForce db address block).map fun r =>
            outputOf db r ((datumValue db r.txOut).bind lib.encodeJsonValueToPlutusDatum)) =
          (inForce db address block).filterMap (candidateOf lib db) := by
        rw [convertUtxosToCandidates, parseCandidates, List.filterMap_map, List.map_filterMap]
        exact List.filterMap_congr fun r _ => parseCandidate_outputOf lib db r
      simp only [bind, Except.bind, hutxos, Except.mapError, hcandidates]

/-- What `get_candidates` returns when the outputs in force decode. -/
theorem getCandidates_eq [DecidableEq J] (h : Ledger db) {address : MainchainAddress}
    (hordinary : OrdinaryTransactions db address) {epoch : Nat} (hepoch : 2 ≤ epoch)
    (hword : epoch - 2 < 2 ^ 31) (hconvert : ConvertsInForce lib db address (epoch - 2)) :
    getCandidates lib db epoch address =
      .ok ((groupBy RegisteredCandidate.mainchainPubKey
        ((outputsInForce db address (epoch - 2)).filterMap (candidateOf lib db))).map fun group =>
          { mainchainPubKey := group.1
            registrations := group.2.map makeRegistrationData
            stakeDelegation := stakeInForce lib db (epoch - 2) group.1 }) := by
  have hstorage : getEpochOfDataStorage epoch = .ok (epoch - 2) := if_neg (by omega)
  simp only [getCandidates, hstorage, getRegisteredCandidates_eq h hordinary hword hconvert,
    getStakeDistribution_eq h hword, Except.map, Except.mapError, bind, Except.bind,
    getStakeDelegation_eq, groupCandidatesByMcPubKey]

/-- One datum in force that does not convert fails the whole query. -/
theorem getCandidates_error [DecidableEq J] (h : Ledger db) {address : MainchainAddress}
    (hordinary : OrdinaryTransactions db address) {epoch : Nat} (hepoch : 2 ≤ epoch)
    (hword : epoch - 2 < 2 ^ 31) (hnot : ¬ ConvertsInForce lib db address (epoch - 2)) :
    getCandidates lib db epoch address = .error (.sqlx (.columnDecode "datum")) := by
  have hstorage : getEpochOfDataStorage epoch = .ok (epoch - 2) := if_neg (by omega)
  simp only [getCandidates, hstorage, getRegisteredCandidates_error h hordinary hword hnot, bind,
    Except.bind]

/-- `get_candidates` succeeds exactly when the outputs in force decode. -/
theorem getCandidates_isOk_iff [DecidableEq J] (h : Ledger db) {address : MainchainAddress}
    (hordinary : OrdinaryTransactions db address) {epoch : Nat} (hepoch : 2 ≤ epoch)
    (hword : epoch - 2 < 2 ^ 31) :
    (∃ candidates, getCandidates lib db epoch address = .ok candidates) ↔
      ConvertsInForce lib db address (epoch - 2) := by
  by_cases hconvert : ConvertsInForce lib db address (epoch - 2)
  · exact iff_of_true ⟨_, getCandidates_eq h hordinary hepoch hword hconvert⟩ hconvert
  · rw [getCandidates_error h hordinary hepoch hword hconvert]
    simp [hconvert]

/-- The registrations of a group are those of its key. -/
theorem map_makeRegistrationData_filter (lib : Libraries J) (db : Db J)
    (address : MainchainAddress) (epoch : Nat) (key : MainchainPublicKey) :
    (((outputsInForce db address epoch).filterMap (candidateOf lib db)).filter
        fun c => decide (c.mainchainPubKey = key)).map makeRegistrationData =
      registrationsInForce lib db address epoch key := by
  rw [List.filter_filterMap, List.map_filterMap, registrationsInForce]
  apply List.filterMap_congr
  intro r _
  rw [candidateOf]
  cases registrationDatum lib db r.txOut with
  | none => rfl
  | some d =>
      by_cases hkey : d.stakeOwnership.pubKey = key
      · simp [registeredCandidate, makeRegistrationData, registrationOf, hkey, Option.filter]
      · simp [registeredCandidate, hkey, Option.filter]

/-- The registrations of a pool are those of its outputs in force. -/
theorem mem_registrationsInForce (h : Ledger db) {address : MainchainAddress} {epoch : Nat}
    {key : MainchainPublicKey} {x : RegistrationData} :
    x ∈ registrationsInForce lib db address epoch key ↔
      ∃ r, OutputInForce db address epoch r ∧ ∃ d, registrationDatum lib db r.txOut = some d ∧
        d.stakeOwnership.pubKey = key ∧ registrationOf db r d = x := by
  simp only [registrationsInForce, List.mem_filterMap, mem_outputsInForce h,
    Option.bind_eq_some_iff, Option.ite_none_right_eq_some, Option.some.injEq]

/-- One entry for each key with registrations in force, with all of them and
the stake of its pool. -/
structure CandidatesInForce (lib : Libraries J) (db : Db J) (address : MainchainAddress)
    (epoch : Nat) (candidates : List CandidateRegistrations) : Prop where
  keys_nodup : (candidates.map CandidateRegistrations.mainchainPubKey).Nodup
  keys : ∀ key, key ∈ candidates.map CandidateRegistrations.mainchainPubKey ↔
    registrationsInForce lib db address epoch key ≠ []
  registrations : ∀ c ∈ candidates,
    c.registrations = registrationsInForce lib db address epoch c.mainchainPubKey
  stake : ∀ c ∈ candidates, c.stakeDelegation = stakeInForce lib db epoch c.mainchainPubKey

/-- The query returns the registrations in force, with the stake of each pool. -/
theorem getCandidates_candidatesInForce [DecidableEq J] (h : Ledger db)
    {address : MainchainAddress} (hordinary : OrdinaryTransactions db address) {epoch : Nat}
    (hepoch : 2 ≤ epoch) (hword : epoch - 2 < 2 ^ 31)
    (hconvert : ConvertsInForce lib db address (epoch - 2)) :
    ∃ candidates, getCandidates lib db epoch address = .ok candidates ∧
      CandidatesInForce lib db address (epoch - 2) candidates := by
  refine ⟨_, getCandidates_eq h hordinary hepoch hword hconvert, ?_, ?_, ?_, ?_⟩
  · rw [groupBy, List.map_map, List.map_map]
    simpa [Function.comp_def] using List.nodup_dedup _
  · intro key
    rw [groupBy, List.map_map, List.map_map, ← map_makeRegistrationData_filter]
    generalize (outputsInForce db address (epoch - 2)).filterMap (candidateOf lib db) =
      candidates
    simp [Function.comp_def]
  · intro c hc
    obtain ⟨group, hgroup, rfl⟩ := List.mem_map.mp hc
    obtain ⟨key, -, rfl⟩ := List.mem_map.mp hgroup
    exact map_makeRegistrationData_filter lib db address (epoch - 2) key
  · intro c hc
    obtain ⟨group, -, rfl⟩ := List.mem_map.mp hc
    rfl

/-- If every datum converts, those in force do. -/
theorem DatumsConvert.convertsInForce (h : DatumsConvert lib db) (address : MainchainAddress)
    (epoch : Nat) : ConvertsInForce lib db address epoch := by
  intro r _ value hvalue
  obtain ⟨d, hd, hvalue⟩ := Option.bind_eq_some_iff.mp hvalue
  exact h d (List.mem_of_find?_eq_some hd) value hvalue

/-- `get_candidates` returns exactly the registrations in force.  Epochs are
documented to be below `2 ^ 31`; up to two more the epoch of the data is, and
from there on it is bound as a negative number. -/
theorem getCandidates_eq_inForce [DecidableEq J] (h : Ledger db) {address : MainchainAddress}
    (hordinary : OrdinaryTransactions db address) (hconvert : DatumsConvert lib db)
    {epoch : Nat} (hepoch : 2 ≤ epoch) (hrange : epoch < 2 ^ 31 + 2) :
    ∃ candidates, getCandidates lib db epoch address = .ok candidates ∧
      CandidatesInForce lib db address (epoch - 2) candidates :=
  getCandidates_candidatesInForce h hordinary hepoch (by omega)
    (hconvert.convertsInForce address _)

/-! ## One registration

A transaction of block 2 consumes an output of the funding transaction and
registers a pool.  A second transaction of the block may send an output with a
datum that does not convert. -/

/-- A registration, and a value that is no datum. -/
inductive ExampleJson where
  | registration
  | malformed
deriving DecidableEq

/-- The key of a stake pool. -/
def exampleKey : MainchainPublicKey := FixedBytes.replicate 32 1

/-- The datum of a registration. -/
def exampleRegistration : RegisterValidatorDatum where
  stakeOwnership := ⟨exampleKey, [2]⟩
  sidechainPubKey := [3]
  sidechainSignature := [4]
  consumedInput := ⟨FixedBytes.replicate 32 10, 0⟩
  ownPkh := FixedBytes.replicate 28 5
  auraPubKey := [6]
  grandpaPubKey := [7]

/-- The BLAKE2b hash of `exampleKey`. -/
def examplePool : MainchainAddressHash :=
  ⟨[250, 191, 39, 21, 7, 143, 243, 19, 75, 251, 25, 169, 210, 143, 70, 196, 124, 97, 71, 185,
    220, 29, 198, 237, 191, 123, 214, 27], by decide⟩

/-- Only the registration converts to a datum. -/
def exampleLibraries : Libraries ExampleJson where
  hex := UtxoText.lowerHex
  encodeJsonValueToPlutusDatum
    | .registration => some exampleRegistration.toPlutusData
    | .malformed => none
  fromVkey := fun _ => examplePool

/-- The block of the number, in epoch zero. -/
def chainBlock (n : UInt8) : BlockRow where
  id := Fin.ofNat _ n.toNat
  hash := FixedBytes.replicate 32 n
  epochNo := some 0
  slotNo := some n.toNat
  blockNo := some n.toNat
  time := n.toNat

/-- The output of the second transaction. -/
def malformedOutput : TxOutRow := ⟨3, 2, 0, "registrations", some (FixedBytes.replicate 32 21)⟩

/-- A registration and, if asked for, a malformed datum at the same address. -/
def registrationDb (malformed : Bool) : Db ExampleJson :=
  { Db.empty ExampleJson with
    block := [chainBlock 1, chainBlock 2]
    tx := [⟨0, FixedBytes.replicate 32 10, 1, 0⟩, ⟨1, FixedBytes.replicate 32 11, 2, 0⟩] ++
      if malformed then [⟨2, FixedBytes.replicate 32 12, 2, 1⟩] else []
    txIn := ⟨0, 1, 0, 0⟩ :: if malformed then [⟨1, 2, 0, 1⟩] else []
    txOut := [⟨0, 0, 0, "wallet", none⟩, ⟨1, 0, 1, "wallet", none⟩,
      ⟨2, 1, 0, "registrations", some (FixedBytes.replicate 32 20)⟩] ++
      if malformed then [malformedOutput] else []
    datum := ⟨0, FixedBytes.replicate 32 20, 1, some .registration⟩ ::
      if malformed then [⟨1, FixedBytes.replicate 32 21, 2, some .malformed⟩] else []
    epochStake := [⟨0, 0, 1000, 0⟩]
    poolHash := [⟨0, examplePool⟩]
    block_pkey := by decide
    block_words := by decide
    tx_pkey := by cases malformed <;> decide
    unique_tx := by cases malformed <;> decide
    tx_block_id_fkey := by cases malformed <;> decide
    tx_in_pkey := by cases malformed <;> decide
    tx_out_pkey := by cases malformed <;> decide
    pool_hash_pkey := by decide
    unique_pool_hash := by decide
    epoch_stake_pool_id_fkey := by decide
    unique_block_hash := by decide
    numbered_complete := by decide
    chain := by decide }

theorem registrationDb_ledger (malformed : Bool) : Ledger (registrationDb malformed) where
  unique_txout := by cases malformed <;> decide
  tx_out_tx_id_fkey := by cases malformed <;> decide
  tx_in_tx_in_id_fkey := by cases malformed <;> decide
  unique_datum := by cases malformed <;> decide
  txindex := by cases malformed <;> decide
  consumes_output := by cases malformed <;> decide
  spent_once := by cases malformed <;> decide
  numbered := by cases malformed <;> decide
  epoch_numbered := by cases malformed <;> decide
  stake_lt := by
    intro epoch
    have hle := ((List.filter_sublist (p := fun s : EpochStakeRow => decide (s.epochNo = epoch))
      (l := (registrationDb malformed).epochStake)).map fun s => s.amount.toNat).sum_le_sum
        (by simp)
    exact lt_of_le_of_lt hle (by cases malformed <;> decide)

theorem registrationDb_ordinary (malformed : Bool) :
    OrdinaryTransactions (registrationDb malformed) "registrations" := by
  unfold OrdinaryTransactions
  cases malformed <;> decide

theorem registrationDb_convert : DatumsConvert exampleLibraries (registrationDb false) := by
  intro d hd value hvalue
  rw [show d = ⟨0, FixedBytes.replicate 32 20, 1, some .registration⟩ by
    simpa [registrationDb] using hd] at hvalue
  cases hvalue
  rfl

/-! ## Two pools

The first pool registers in block 1 and again in block 2, the second one in
block 1; in block 2 it spends its registration and registers anew.  Another
output of the address has a datum that is no registration.  The first
registration is spent in the next epoch. -/

/-- Registrations of several pools, and a text. -/
inductive RosterJson where
  | registration (key : MainchainPublicKey) (consumedInput : UtxoId)
  | text
deriving DecidableEq

/-- The key of another stake pool. -/
def secondKey : MainchainPublicKey := FixedBytes.replicate 32 2

/-- The BLAKE2b hash of `secondKey`. -/
def secondPool : MainchainAddressHash :=
  ⟨[6, 163, 59, 218, 116, 86, 89, 129, 178, 108, 214, 34, 8, 203, 204, 135, 188, 248, 96, 203,
    135, 78, 28, 105, 251, 83, 49, 71], by decide⟩

/-- Everything converts to a datum, only registrations to one that decodes. -/
def rosterLibraries : Libraries RosterJson where
  hex := UtxoText.lowerHex
  encodeJsonValueToPlutusDatum
    | .registration key consumedInput =>
        some { exampleRegistration with
          stakeOwnership := ⟨key, [2]⟩, consumedInput := consumedInput }.toPlutusData
    | .text => some (.bytes [])
  fromVkey := fun key => if key = secondKey then secondPool else examplePool

/-- A block without a number. -/
def genesisBlock : BlockRow := ⟨0, FixedBytes.replicate 32 0, none, none, none, 0⟩

/-- Output `index` of transaction `n`. -/
def rosterUtxo (n : UInt8) (index : Nat) : UtxoId := ⟨FixedBytes.replicate 32 n, index⟩

/-- The main chain of the two pools. -/
def rosterDb : Db RosterJson :=
  { Db.empty RosterJson with
    block := [genesisBlock, chainBlock 1, chainBlock 2, { chainBlock 3 with epochNo := some 1 }]
    tx := [⟨0, FixedBytes.replicate 32 10, 0, 0⟩, ⟨1, FixedBytes.replicate 32 11, 1, 0⟩,
      ⟨2, FixedBytes.replicate 32 12, 1, 1⟩, ⟨3, FixedBytes.replicate 32 13, 2, 0⟩,
      ⟨4, FixedBytes.replicate 32 14, 2, 1⟩, ⟨5, FixedBytes.replicate 32 15, 2, 2⟩,
      ⟨6, FixedBytes.replicate 32 16, 3, 0⟩]
    txIn := [⟨0, 1, 0, 0⟩, ⟨1, 2, 0, 1⟩, ⟨2, 3, 0, 2⟩, ⟨3, 4, 2, 0⟩, ⟨4, 5, 0, 3⟩, ⟨5, 6, 1, 0⟩]
    txOut := [⟨0, 0, 0, "wallet", none⟩, ⟨1, 0, 1, "wallet", none⟩, ⟨2, 0, 2, "wallet", none⟩,
      ⟨3, 0, 3, "wallet", none⟩,
      ⟨4, 1, 0, "registrations", some (FixedBytes.replicate 32 21)⟩,
      ⟨5, 2, 0, "registrations", some (FixedBytes.replicate 32 22)⟩,
      ⟨6, 3, 0, "registrations", some (FixedBytes.replicate 32 23)⟩,
      ⟨7, 4, 0, "registrations", some (FixedBytes.replicate 32 24)⟩,
      ⟨8, 5, 0, "registrations", some (FixedBytes.replicate 32 25)⟩,
      ⟨9, 6, 0, "wallet", none⟩]
    datum := [⟨0, FixedBytes.replicate 32 21, 1, some (.registration exampleKey (rosterUtxo 10 0))⟩,
      ⟨1, FixedBytes.replicate 32 22, 2, some (.registration secondKey (rosterUtxo 10 1))⟩,
      ⟨2, FixedBytes.replicate 32 23, 3, some (.registration exampleKey (rosterUtxo 10 2))⟩,
      ⟨3, FixedBytes.replicate 32 24, 4, some (.registration secondKey (rosterUtxo 12 0))⟩,
      ⟨4, FixedBytes.replicate 32 25, 5, some .text⟩]
    epochStake := [⟨0, 0, 1000, 0⟩, ⟨1, 0, 500, 0⟩, ⟨2, 1, 700, 1⟩]
    poolHash := [⟨0, examplePool⟩, ⟨1, secondPool⟩]
    block_pkey := by decide
    block_words := by decide
    tx_pkey := by decide
    unique_tx := by decide
    tx_block_id_fkey := by decide
    tx_in_pkey := by decide
    tx_out_pkey := by decide
    pool_hash_pkey := by decide
    unique_pool_hash := by decide
    epoch_stake_pool_id_fkey := by decide
    unique_block_hash := by decide
    numbered_complete := by decide
    chain := by decide }

private theorem rosterDb_ledger : Ledger rosterDb where
  unique_txout := by decide
  tx_out_tx_id_fkey := by decide
  tx_in_tx_in_id_fkey := by decide
  unique_datum := by decide
  txindex := by decide
  consumes_output := by decide
  spent_once := by decide
  numbered := by decide
  epoch_numbered := by decide
  stake_lt := by
    intro epoch
    have hle := ((List.filter_sublist (p := fun s : EpochStakeRow => decide (s.epochNo = epoch))
      (l := rosterDb.epochStake)).map fun s => s.amount.toNat).sum_le_sum (by simp)
    exact lt_of_le_of_lt hle (by decide)

private theorem rosterDb_ordinary : OrdinaryTransactions rosterDb "registrations" := by
  unfold OrdinaryTransactions
  decide

private theorem rosterDb_convert : DatumsConvert rosterLibraries rosterDb := by
  intro d _ value _
  cases value <;> rfl

/-- The registrations of the two pools. -/
theorem getCandidates_eq_inForce_roster :
    ((registrationsInForce rosterLibraries rosterDb "registrations" 0 exampleKey).map fun r =>
        r.consumedInput) = [rosterUtxo 10 0, rosterUtxo 10 2] ∧
      ((registrationsInForce rosterLibraries rosterDb "registrations" 0 secondKey).map fun r =>
        r.consumedInput) = [rosterUtxo 12 0] ∧
      stakeInForce rosterLibraries rosterDb 0 exampleKey = some 1500 ∧
      ∃ candidates, getCandidates rosterLibraries rosterDb 2 "registrations" = .ok candidates ∧
        CandidatesInForce rosterLibraries rosterDb "registrations" 0 candidates :=
  ⟨by decide, by decide, by decide,
    getCandidates_eq_inForce rosterDb_ledger rosterDb_ordinary rosterDb_convert (by decide)
      (by decide)⟩

end PartnerChains.Ports.RegistrationsInForce
