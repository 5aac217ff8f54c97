import PartnerChains.Ports.NativeTokenQuery
import PartnerChains.Verified.Fallible

/-!
# What the native token queries return

For every database the total from genesis is the quantity of the requested
asset up to the block, and the per-block totals are the quantities of all
assets of the outputs to the address.  An answer over a range of blocks is
therefore right exactly when the other assets in the part of the range that
was read balance the requested asset in the part beyond the last stable
block, which is not read.

## Main results

* `getTotalNativeTokensTransfered_eq`, `getNativeTokenTransfers_eq`: the two
  queries.
* `getDataToCache_eq`: the entries that are read and cached.
* `freshTotal_after`: the answer with an empty cache.
* `totals_additive_iff`: when the totals are additive.
-/

namespace PartnerChains.Ports.NativeTokenTotals

open PartnerChains.Ports.Domain
open PartnerChains.Ports.DbSync
open PartnerChains.Ports.NativeTokenPallet
open PartnerChains.Ports.NativeTokenQuery
open PartnerChains.Verified.Fallible
open PartnerChains.Verified.Relational
open PartnerChains.Verified.StableSort

variable {J : Type} {db : Db J}

/-! ## No sum overflows -/

private theorem sum_quantity_lt (db : Db J) :
    (db.maTxOut.map fun m => m.quantity.toNat).sum < 2 ^ 128 := by
  have hlength : db.maTxOut.length ≤ 2 ^ 64 := by
    have hcard := db.ma_tx_out_pkey.length_le_card
    simpa using hcard
  have hsum : (db.maTxOut.map fun m => m.quantity.toNat).sum ≤
      db.maTxOut.length * (2 ^ 64 - 1) := by
    have h := List.sum_le_card_nsmul (db.maTxOut.map fun m => m.quantity.toNat) (2 ^ 64 - 1)
      (by
        intro q hq
        obtain ⟨m, -, rfl⟩ := List.mem_map.mp hq
        have hlt : m.quantity.toNat < 2 ^ 64 := m.quantity.toNat_lt
        omega)
    simpa using h
  calc (db.maTxOut.map fun m => m.quantity.toNat).sum
      ≤ db.maTxOut.length * (2 ^ 64 - 1) := hsum
    _ ≤ 2 ^ 64 * (2 ^ 64 - 1) := Nat.mul_le_mul_right _ hlength
    _ < 2 ^ 128 := by norm_num

/-- Sums of quantities are far from the bounds of a `u128`. -/
theorem quantityIn_lt (db : Db J) (keep : MaTxOutRow → Bool) (address : MainchainAddress)
    (range : Nat → Bool) : quantityIn db keep address range < 2 ^ 128 := by
  have hblocks : ∀ t : TxRow,
      ((db.block.filter fun b => b.blockNo.any range).filter
        fun b => decide (b.id = t.blockId)).length ≤ 1 := by
    intro t
    exact length_filter_le_one_of_key (db.block_pkey.sublist (List.filter_sublist.map _))
      fun b _ hb => of_decide_eq_true hb
  have htxs : ∀ o : TxOutRow,
      (db.tx.filter fun t => decide (t.id = o.txId) && decide (o.address = address)).length ≤
        1 := by
    intro o
    apply length_filter_le_one_of_key db.tx_pkey (k := o.txId)
    intro t _ ht
    exact of_decide_eq_true (Bool.and_eq_true_iff.mp ht).1
  have houtputs : ∀ m : MaTxOutRow,
      (db.txOut.filter fun o => decide (o.id = m.txOutId)).length ≤ 1 :=
    fun m => length_filter_le_one_of_key db.tx_out_pkey fun o _ ho => of_decide_eq_true ho
  calc quantityIn db keep address range
      ≤ (db.tx.map (txQuantity db keep address)).sum :=
        sum_join_le _ db.tx (fun (b : BlockRow) t => decide (b.id = t.blockId)) _ hblocks
    _ ≤ (db.txOut.map (outputQuantity db keep)).sum :=
        sum_join_le db.tx db.txOut
          (fun t o => decide (t.id = o.txId) && decide (o.address = address)) _ htxs
    _ ≤ (db.maTxOut.map fun m => if keep m then m.quantity.toNat else 0).sum :=
        sum_join_le db.txOut db.maTxOut (fun o m => decide (o.id = m.txOutId)) _ houtputs
    _ ≤ (db.maTxOut.map fun m => m.quantity.toNat).sum := by
        apply List.sum_le_sum
        intro m _
        split <;> omega
    _ < 2 ^ 128 := sum_quantity_lt db

theorem decodeAmount_of_lt {column : String} {sum : Nat} (h : sum < 2 ^ 128) :
    decodeAmount column sum = .ok sum := if_pos h

/-! ## The total from genesis -/

/-- The join to `multi_asset` counts a token row once if it is of the asset
and not at all otherwise. -/
theorem sum_multiAsset (asset : Asset) (m : MaTxOutRow) (x : Nat) :
    ((db.multiAsset.filter fun a => decide (a.id = m.ident)).map fun a =>
      if decide (a.policy = asset.policyId) && decide (a.name = asset.assetName)
        then x else 0).sum =
      if isAsset db asset m then x else 0 := by
  have hany : isAsset db asset m =
      (db.multiAsset.filter fun a => decide (a.id = m.ident)).any fun a =>
        decide (a.policy = asset.policyId) && decide (a.name = asset.assetName) := by
    rw [isAsset, List.any_filter]
    congr 1
    funext a
    rw [Bool.and_assoc]
  rw [hany]
  rcases filter_key_eq_nil_or_singleton db.multi_asset_pkey m.ident with h | ⟨a, -, -, h⟩
  · simp [h]
  · simp [h]

/-- The quantities of one output, summed over its transaction and block. -/
def outputSum (db : Db J) (keep : MaTxOutRow → Bool) (address : MainchainAddress)
    (range : Nat → Bool) (o : TxOutRow) : Nat :=
  ((db.tx.filter fun t => decide (t.id = o.txId)).map fun t =>
    ((db.block.filter fun b => decide (b.id = t.blockId)).map fun b =>
      if b.blockNo.any range && decide (o.address = address) then outputQuantity db keep o
      else 0).sum).sum

/-- The sum over blocks is a sum over outputs. -/
theorem quantityIn_eq_sum_outputs (keep : MaTxOutRow → Bool) (address : MainchainAddress)
    (range : Nat → Bool) :
    quantityIn db keep address range = (db.txOut.map (outputSum db keep address range)).sum := by
  calc quantityIn db keep address range
      = (db.block.map fun b =>
          ((db.tx.filter fun t => decide (b.id = t.blockId)).map fun t =>
            ((db.txOut.filter fun o => decide (t.id = o.txId)).map fun o =>
              if b.blockNo.any range && decide (o.address = address)
                then outputQuantity db keep o else 0).sum).sum).sum := by
        rw [quantityIn, sum_filter]
        congr 1
        apply List.map_congr_left
        intro b _
        by_cases hrange : b.blockNo.any range
        · simp only [hrange, if_true, Bool.true_and, blockQuantity]
          congr 1
          apply List.map_congr_left
          intro t _
          rw [txQuantity, ← sum_filter (fun o : TxOutRow => decide (o.address = address)),
            List.filter_filter]
          congr 2
          apply List.filter_congr
          intro o _
          rw [Bool.and_comm]
        · simp [hrange]
    _ = (db.tx.map fun t =>
          ((db.block.filter fun b => decide (b.id = t.blockId)).map fun b =>
            ((db.txOut.filter fun o => decide (t.id = o.txId)).map fun o =>
              if b.blockNo.any range && decide (o.address = address)
                then outputQuantity db keep o else 0).sum).sum).sum :=
        sum_join_comm db.block db.tx (fun b t => decide (b.id = t.blockId)) _
    _ = (db.tx.map fun t =>
          ((db.txOut.filter fun o => decide (t.id = o.txId)).map fun o =>
            ((db.block.filter fun b => decide (b.id = t.blockId)).map fun b =>
              if b.blockNo.any range && decide (o.address = address)
                then outputQuantity db keep o else 0).sum).sum).sum := by
        congr 1
        apply List.map_congr_left
        intro t _
        have hswap := sum_join_comm (db.block.filter fun b => decide (b.id = t.blockId))
          (db.txOut.filter fun o => decide (t.id = o.txId)) (fun _ _ => true)
          fun b o => if b.blockNo.any range && decide (o.address = address)
            then outputQuantity db keep o else 0
        simpa only [List.filter_true] using hswap
    _ = (db.txOut.map (outputSum db keep address range)).sum :=
        sum_join_comm db.tx db.txOut (fun t o => decide (t.id = o.txId)) _

/-- For one output the order in which the query joins does not matter: its
transaction and its block are unique. -/
theorem sum_tokens_of_output (asset : Asset) (address : MainchainAddress)
    (range : Nat → Bool) (o : TxOutRow) :
    ((db.maTxOut.filter fun m => decide (o.id = m.txOutId)).map fun m =>
      ((db.multiAsset.filter fun a => decide (a.id = m.ident)).map fun a =>
        ((db.tx.filter fun t => decide (t.id = o.txId)).map fun t =>
          ((db.block.filter fun b => decide (b.id = t.blockId)).map fun b =>
            if decide (o.address = address) && decide (a.policy = asset.policyId) &&
                decide (a.name = asset.assetName) && b.blockNo.any range
              then m.quantity.toNat else 0).sum).sum).sum).sum =
      outputSum db (isAsset db asset) address range o := by
  unfold outputSum
  rcases filter_key_eq_nil_or_singleton db.tx_pkey o.txId with htx | ⟨t, -, -, htx⟩
  · simp [htx]
  · rcases filter_key_eq_nil_or_singleton db.block_pkey t.blockId with hb | ⟨b, -, -, hb⟩
    · simp [htx, hb]
    · simp only [htx, hb, List.map_cons, List.map_nil, List.sum_cons, List.sum_nil,
        Nat.add_zero]
      by_cases haddress : o.address = address
      · by_cases hrange : b.blockNo.any range
        · simp only [haddress, hrange, decide_true, Bool.true_and, Bool.and_true, if_true,
            sum_multiAsset, outputQuantity]
        · simp [hrange]
      · simp [haddress]

/-- The total up to a block counts the asset only. -/
theorem getTotalNativeTokensTransfered_eq (db : Db J) (toBlock : Nat) (asset : Asset)
    (address : MainchainAddress) :
    getTotalNativeTokensTransfered db toBlock asset address =
      .ok (quantityIn db (isAsset db asset) address fun n => decide (n ≤ toBlock)) := by
  have hlt := quantityIn_lt db (isAsset db asset) address fun n => decide (n ≤ toBlock)
  rw [← decodeAmount_of_lt hlt, getTotalNativeTokensTransfered]
  congr 1
  simp only [sum_filterMap]
  rw [sum_filter, sum_innerJoin, sum_innerJoin, sum_leftJoin, sum_leftJoin,
    quantityIn_eq_sum_outputs]
  · congr 1
    apply List.map_congr_left
    intro o _
    simp only [Option.any_some, Option.map_some, Option.getD_some]
    exact sum_tokens_of_output asset address _ o
  · intro o
    simp
  · intro x
    simp

/-! ## The totals of each block -/

private theorem transferRows_eq_flatMap (asset : Asset) (address : MainchainAddress)
    (blocks : List BlockRow) :
    transferRows db asset address blocks =
      blocks.flatMap fun b => transferRows db asset address [b] := by
  simp only [transferRows]
  rw [leftJoin_eq_flatMap db.tx _ blocks, leftJoin_flatMap, leftJoin_flatMap, leftJoin_flatMap]

private theorem transferRows_ne_nil (asset : Asset) (address : MainchainAddress) (b : BlockRow) :
    transferRows db asset address [b] ≠ [] :=
  leftJoin_ne_nil _ _ (leftJoin_ne_nil _ _ (leftJoin_ne_nil _ _ (leftJoin_ne_nil _ _ (by simp))))

private theorem block_of_mem_transferRows {asset : Asset} {address : MainchainAddress}
    {b : BlockRow} {row : TransferRow} (h : row ∈ transferRows db asset address [b]) :
    row.1.1.1.1 = b := by
  have hmem := fst_mem_of_mem_leftJoin (fst_mem_of_mem_leftJoin (fst_mem_of_mem_leftJoin
    (fst_mem_of_mem_leftJoin h)))
  simpa using hmem

/-- All assets count: the outer join to `multi_asset` drops nothing. -/
theorem transferSum_transferRows (asset : Asset) (address : MainchainAddress) (b : BlockRow) :
    transferSum (transferRows db asset address [b]) =
      blockQuantity db (fun _ => true) address b := by
  simp only [transferSum, transferRows, sum_filterMap]
  rw [sum_leftJoin_of_unique db.multiAsset _ _
    (fun row : ((BlockRow × Option TxRow) × Option TxOutRow) × Option MaTxOutRow =>
      (row.2.map fun m => m.quantity.toNat).getD 0), sum_leftJoin, sum_leftJoin, sum_leftJoin]
  · unfold blockQuantity txQuantity outputQuantity
    simp
  · intro b
    simp
  · intro x
    simp
  · intro x
    simp
  · rintro ⟨x, m⟩ _
    cases m with
    | none => simp
    | some m =>
        apply length_filter_le_one_of_key db.multi_asset_pkey (k := m.ident)
        intro a _ ha
        simp only [Option.any_some, Bool.and_assoc] at ha
        exact of_decide_eq_true (Bool.and_eq_true_iff.mp ha).1

private theorem blockQuantity_lt (db : Db J) (keep : MaTxOutRow → Bool) (address : MainchainAddress)
    {b : BlockRow} (hb : b ∈ db.block) (hn : b.blockNo.isSome) :
    blockQuantity db keep address b < 2 ^ 128 := by
  refine lt_of_le_of_lt ?_ (quantityIn_lt db keep address fun _ => true)
  refine List.le_sum_of_mem (List.mem_map_of_mem ?_)
  rw [List.mem_filter]
  refine ⟨hb, ?_⟩
  obtain ⟨n, hn⟩ := Option.isSome_iff_exists.mp hn
  simp [hn]

/-- The numbered blocks of a range, in the order of the chain. -/
def blocksBetween (db : Db J) (fromBlock toBlock : Nat) : List BlockRow :=
  sortByKey (fun b => sortKey b.blockNo)
    (db.block.filter fun b => b.blockNo.any fun n => decide (fromBlock ≤ n) && decide (n ≤ toBlock))

/-- The transfers by block count every asset. -/
theorem getNativeTokenTransfers_eq (db : Db J) (fromBlock toBlock : Nat) (asset : Asset)
    (address : MainchainAddress) :
    getNativeTokenTransfers db fromBlock toBlock asset address =
      .ok ((blocksBetween db fromBlock toBlock).map fun b =>
        ⟨b.hash, blockQuantity db (fun _ => true) address b⟩) := by
  have hrange : ∀ b ∈ db.block, ∀ row ∈ transferRows db asset address [b],
      (row.1.1.1.1.blockNo.any (fun n => decide (fromBlock ≤ n)) &&
        row.1.1.1.1.blockNo.any (fun n => decide (n ≤ toBlock))) =
      b.blockNo.any fun n => decide (fromBlock ≤ n) && decide (n ≤ toBlock) := by
    intro b _ row hrow
    rw [block_of_mem_transferRows hrow]
    cases b.blockNo <;> rfl
  simp only [getNativeTokenTransfers]
  rw [transferRows_eq_flatMap, filter_flatMap_of_forall hrange,
    groupBy_flatMap _ (fun b : BlockRow => (b.blockNo, b.hash)), sortByKey_map]
  · rw [fetchAll, mapM_ok (g := fun group => ⟨group.1.2, transferSum group.2⟩), List.map_map]
    · simp only [Function.comp_def, transferSum_transferRows]
      rfl
    · intro group hgroup
      obtain ⟨b, hb, rfl⟩ := List.mem_map.mp hgroup
      rw [(sortByKey_perm _ _).mem_iff, List.mem_filter] at hb
      have hnumber : b.blockNo.isSome := by
        cases hn : b.blockNo with
        | none => simp [hn] at hb
        | some n => rfl
      simp only [transferSum_transferRows]
      rw [decodeAmount_of_lt (blockQuantity_lt db _ address hb.1 hnumber)]
      rfl
  · intro b _
    exact transferRows_ne_nil asset address b
  · intro b _ row hrow
    rw [block_of_mem_transferRows hrow]
  · have hhash : ((db.block.filter fun b => b.blockNo.any fun n =>
        decide (fromBlock ≤ n) && decide (n ≤ toBlock)).map BlockRow.hash).Nodup :=
      db.unique_block_hash.sublist (List.filter_sublist.map _)
    have hsnd : ∀ l : List BlockRow, (l.map BlockRow.hash).Nodup →
        (l.map fun b => (b.blockNo, b.hash)).Nodup := by
      intro l hl
      apply List.Nodup.of_map Prod.snd
      rw [List.map_map]
      exact hl
    exact hsnd _ hhash

theorem mem_blocksBetween {fromBlock toBlock : Nat} {b : BlockRow} :
    b ∈ blocksBetween db fromBlock toBlock ↔
      b ∈ db.block ∧ ∃ n, b.blockNo = some n ∧ fromBlock ≤ n ∧ n ≤ toBlock := by
  rw [blocksBetween, (sortByKey_perm _ _).mem_iff, List.mem_filter]
  refine and_congr_right fun _ => ?_
  cases b.blockNo with
  | none => simp
  | some n => simp

/-- The blocks are in order. -/
theorem blocksBetween_pairwise (fromBlock toBlock : Nat) :
    (blocksBetween db fromBlock toBlock).Pairwise fun b c =>
      sortKey b.blockNo < sortKey c.blockNo := by
  apply sortByKey_pairwise_lt _ _
  rw [List.nodup_map_iff_inj_on (db.block_pkey.of_map.filter _)]
  intro b hb c hc h
  rw [List.mem_filter] at hb hc
  cases hn : b.blockNo with
  | none => simp [hn] at hb
  | some n =>
      have hcn : c.blockNo = some n := by
        rw [← hn]
        exact h.symm
      exact Db.block_eq_of_blockNo hb.1 hc.1 hn hcn

/-- The total over the blocks of a range that satisfy a condition. -/
theorem sum_blocksBetween (keep : MaTxOutRow → Bool) (address : MainchainAddress)
    (fromBlock toBlock : Nat) (p : Nat → Bool) :
    (((blocksBetween db fromBlock toBlock).filter fun b => b.blockNo.any p).map
        (blockQuantity db keep address)).sum =
      quantityIn db keep address fun n =>
        decide (fromBlock ≤ n) && decide (n ≤ toBlock) && p n := by
  have hperm := ((sortByKey_perm (fun b : BlockRow => sortKey b.blockNo)
    (db.block.filter fun b => b.blockNo.any fun n =>
      decide (fromBlock ≤ n) && decide (n ≤ toBlock))).filter fun b => b.blockNo.any p).map
        (blockQuantity db keep address)
  rw [blocksBetween, hperm.sum_eq, quantityIn, List.filter_filter]
  congr 2
  apply List.filter_congr
  intro b _
  cases b.blockNo with
  | none => rfl
  | some n => simp [Bool.and_comm]

/-! ## Answers with an empty cache -/

/-- In a list without ties, taking up to and including `b` keeps the elements
that are not greater. -/
theorem takeWhileInclusive_eq_filter {α κ : Type} [LinearOrder κ] {key : α → κ} {p : α → Bool}
    {b : α} {l : List α} (hsorted : l.Pairwise fun x y => key x < key y)
    (hp : ∀ x ∈ l, (p x = true ↔ x ≠ b)) (hb : b ∈ l ∨ ∀ x ∈ l, key x < key b) :
    takeWhileInclusive p l = l.filter fun x => decide (key x ≤ key b) := by
  induction l with
  | nil => rfl
  | cons x l ih =>
      obtain ⟨hx, hl⟩ := List.pairwise_cons.mp hsorted
      have hpx := hp x List.mem_cons_self
      by_cases hxb : x = b
      · subst hxb
        have hnone : l.filter (fun y => decide (key y ≤ key x)) = [] := by
          rw [List.filter_eq_nil_iff]
          intro y hy
          simpa using hx y hy
        have hstop : ¬ p x = true := fun h => hpx.mp h rfl
        rw [takeWhileInclusive, if_neg hstop, List.filter_cons_of_pos (by simp), hnone]
      · have hlt : key x < key b := by
          rcases hb with hb | hb
          · exact hx b ((List.mem_cons.mp hb).resolve_left (Ne.symm hxb))
          · exact hb x List.mem_cons_self
        have hrest : b ∈ l ∨ ∀ y ∈ l, key y < key b := by
          rcases hb with hb | hb
          · exact Or.inl ((List.mem_cons.mp hb).resolve_left (Ne.symm hxb))
          · exact Or.inr fun y hy => hb y (List.mem_cons_of_mem _ hy)
        rw [takeWhileInclusive, if_pos (hpx.mpr hxb),
          ih hl (fun y hy => hp y (List.mem_cons_of_mem _ hy)) hrest,
          List.filter_cons_of_pos (by simpa using hlt.le)]

private theorem takeWhileInclusive_map {α β : Type} (f : α → β) (p : β → Bool) (l : List α) :
    takeWhileInclusive p (l.map f) = (takeWhileInclusive (fun a => p (f a)) l).map f := by
  induction l with
  | nil => rfl
  | cons a l ih =>
      simp only [List.map_cons, takeWhileInclusive]
      split
      · rw [List.map_cons, ih]
      · rfl

/-- The last block whose transfers are read. -/
def cacheToBlockNo (config : SourceConfig) (db : Db J) (fromBlockNo toBlockNo : Nat) : Nat :=
  min (latestBlockNo db - config.securityParameter)
    (max toBlockNo (saturatingAdd fromBlockNo config.cacheSize))

/-- The entries for a list of blocks. -/
def cacheEntries (db : Db J) (address : MainchainAddress) (blocks : List BlockRow) : Cache :=
  blocks.map fun b => (b.hash, blockQuantity db (fun _ => true) address b)

section Range

variable {config : SourceConfig} {a b : Nat} {A B : BlockRow} (asset : Asset)
  (address : MainchainAddress)

theorem getToBlockNo_eq (hB : B ∈ db.block) (hb : B.blockNo = some b) :
    getToBlockNo db B.hash = .ok b := by
  obtain ⟨e, s, -, -, hdecode⟩ := Db.decode_ok hB hb
  simp only [getToBlockNo, getBlockByHash_of_mem hB, hdecode]
  rfl

private theorem getFromBlockNo_eq (hA : A ∈ db.block) (ha : A.blockNo = some a) :
    getFromBlockNo db A.hash = .ok a := by
  obtain ⟨e, s, -, -, hdecode⟩ := Db.decode_ok hA ha
  simp only [getFromBlockNo, getBlockByHash_of_mem hA, hdecode]
  rfl

/-- The cache gets the transfers of a range of blocks. -/
theorem getDataToCache_eq (hA : A ∈ db.block) (hB : B ∈ db.block) (ha : A.blockNo = some a)
    (hb : B.blockNo = some b) :
    getDataToCache config db A.hash B.hash asset address =
      .ok (cacheEntries db address (blocksBetween db a (cacheToBlockNo config db a b))) := by
  obtain ⟨latest, hlatest, hnumber⟩ := getLatestBlockInfo_ok hA (by simp [ha])
  have hlatest' : getLatestBlock db = .ok latest := by
    simp only [getLatestBlock, hlatest]
    rfl
  simp only [getDataToCache, getFromBlockNo_eq hA ha, getToBlockNo_eq hB hb, hlatest',
    hnumber, bind, Except.bind, getNativeTokenTransfers_eq, internal, Except.mapError,
    List.map_map]
  rfl

/-- The blocks read for a range that starts at `A`: `A` itself and the blocks
after it. -/
theorem blocksBetween_cons (hA : A ∈ db.block) (ha : A.blockNo = some a) {c : Nat}
    (hac : a ≤ c) :
    blocksBetween db a c =
      A :: (blocksBetween db a c).filter fun x =>
        decide (sortKey A.blockNo < sortKey x.blockNo) := by
  have hmem : A ∈ blocksBetween db a c := mem_blocksBetween.mpr ⟨hA, a, ha, le_refl a, hac⟩
  have hsplit := split_at_mem _ (blocksBetween_pairwise a c) hmem
  have hbelow : (blocksBetween db a c).filter
      (fun x => decide (sortKey x.blockNo < sortKey A.blockNo)) = [] := by
    rw [List.filter_eq_nil_iff]
    intro x hx
    obtain ⟨-, n, hn, hle, -⟩ := mem_blocksBetween.mp hx
    simpa [hn, ha] using hle
  rw [hbelow, List.nil_append] at hsplit
  exact hsplit

/-- What is summed up on a miss: the blocks after `A` up to `B`, as far as
they were read. -/
theorem takeWhileInclusive_blocksBetween (hA : A ∈ db.block) (hB : B ∈ db.block)
    (ha : A.blockNo = some a) (hb : B.blockNo = some b) (hab : a < b) (c : Nat) :
    takeWhileInclusive (fun x : BlockRow => decide (x.hash ≠ B.hash))
        ((blocksBetween db a c).drop 1) =
      (blocksBetween db a c).filter fun x =>
        x.blockNo.any fun n => decide (a < n) && decide (n ≤ b) := by
  by_cases hac : a ≤ c
  · have hdrop : (blocksBetween db a c).drop 1 =
        (blocksBetween db a c).filter fun x =>
          decide (sortKey A.blockNo < sortKey x.blockNo) := by
      have hcons := congrArg (List.drop 1) (blocksBetween_cons hA ha hac)
      simpa using hcons
    rw [hdrop, takeWhileInclusive_eq_filter
      ((blocksBetween_pairwise a c).sublist List.filter_sublist) (b := B),
      List.filter_filter]
    · apply List.filter_congr
      intro x hx
      obtain ⟨-, n, hn, -⟩ := mem_blocksBetween.mp hx
      simp [hn, ha, hb, Bool.and_comm]
    · intro x hx
      have hmem := (mem_blocksBetween.mp (List.mem_filter.mp hx).1).1
      rw [decide_eq_true_eq]
      exact not_congr ⟨fun h => Db.block_eq_of_hash hmem hB h, fun h => h ▸ rfl⟩
    · by_cases hbc : b ≤ c
      · refine Or.inl (List.mem_filter.mpr ⟨?_, ?_⟩)
        · exact mem_blocksBetween.mpr ⟨hB, b, hb, hab.le, hbc⟩
        · simpa [ha, hb] using hab
      · apply Or.inr
        intro x hx
        obtain ⟨-, n, hn, -, hnc⟩ := mem_blocksBetween.mp (List.mem_filter.mp hx).1
        have hlt : n < b := by omega
        simpa [hn, hb] using hlt
  · have hempty : blocksBetween db a c = [] := by
      rw [List.eq_nil_iff_forall_not_mem]
      intro x hx
      obtain ⟨-, n, -, hle, hle'⟩ := mem_blocksBetween.mp hx
      omega
    rw [hempty]
    rfl

/-- The number of the last stable block. -/
def stableBlockNo (config : SourceConfig) (db : Db J) : Nat :=
  latestBlockNo db - config.securityParameter

/-- The answer with an empty cache. -/
def freshTotal (config : SourceConfig) (db : Db J) (afterBlock : Option McBlockHash)
    (toBlock : McBlockHash) (asset : Asset) (address : MainchainAddress) :
    Except DataSourceError NativeTokenAmount :=
  (getTotalNativeTokenTransfer config db [] afterBlock toBlock asset address).map Prod.fst

/-- Without a lower bound the asset is counted. -/
theorem freshTotal_none (hB : B ∈ db.block) (hb : B.blockNo = some b) :
    freshTotal config db none B.hash asset address =
      .ok (BitVec.ofNat 128
        (quantityIn db (isAsset db asset) address fun n => decide (n ≤ b))) := by
  simp only [freshTotal, getTotalNativeTokenTransfer, queryTransfersFromGenesis,
    getToBlockNo_eq hB hb, getTotalNativeTokensTransfered_eq, internal, Except.mapError,
    bind, Except.bind, Except.map]

/-- The sum of a miss: all assets in the blocks after `A`, up to `B` or the
last stable block. -/
theorem missSum_eq (hA : A ∈ db.block) (hB : B ∈ db.block) (ha : A.blockNo = some a)
    (hb : B.blockNo = some b) (hab : a < b) :
    ((takeWhileInclusive (fun entry => decide (entry.1 ≠ B.hash))
        ((cacheEntries db address
          (blocksBetween db a (cacheToBlockNo config db a b))).drop 1)).map Prod.snd).sum =
      quantityIn db (fun _ => true) address fun n =>
        decide (a < n) && decide (n ≤ min b (stableBlockNo config db)) := by
  rw [cacheEntries, ← List.map_drop, takeWhileInclusive_map, List.map_map,
    takeWhileInclusive_blocksBetween hA hB ha hb hab]
  simp only [Function.comp_def]
  rw [sum_blocksBetween]
  congr 1
  funext n
  rw [Bool.eq_iff_iff]
  simp only [Bool.and_eq_true, decide_eq_true_eq, cacheToBlockNo, stableBlockNo, le_min_iff,
    le_max_iff]
  omega

/-- With a lower bound every asset is counted, up to the stable block. -/
theorem freshTotal_some (hA : A ∈ db.block) (hB : B ∈ db.block) (ha : A.blockNo = some a)
    (hb : B.blockNo = some b) (hab : a ≤ b) :
    freshTotal config db (some A.hash) B.hash asset address =
      .ok (BitVec.ofNat 128 (quantityIn db (fun _ => true) address fun n =>
        decide (a < n) && decide (n ≤ min b (stableBlockNo config db)))) := by
  by_cases hhash : A.hash = B.hash
  · have heq : a = b := by
      have hAB := Db.block_eq_of_hash hA hB hhash
      rw [hAB, hb] at ha
      exact (Option.some.inj ha).symm
    have hempty : (quantityIn db (fun _ => true) address fun n =>
        decide (a < n) && decide (n ≤ min b (stableBlockNo config db))) = 0 := by
      have hnone : (db.block.filter fun x => x.blockNo.any fun n =>
          decide (a < n) && decide (n ≤ min b (stableBlockNo config db))) = [] := by
        rw [List.filter_eq_nil_iff]
        intro x _
        cases x.blockNo with
        | none => simp
        | some n =>
            simp only [Option.any_some, Bool.and_eq_true, decide_eq_true_eq]
            omega
      rw [quantityIn, hnone]
      rfl
    rw [hempty]
    simp [freshTotal, getTotalNativeTokenTransfer, hhash, Except.map]
  · have hlt : a < b := by
      apply lt_of_le_of_ne hab
      intro heq
      exact hhash (by rw [Db.block_eq_of_blockNo hA hB (heq ▸ ha) hb])
    have hcache : Cache.getSumInRange [] A.hash B.hash = none := rfl
    simp only [freshTotal, getTotalNativeTokenTransfer, hhash, if_false, hcache,
      getDataToCache_eq asset address hA hB ha hb, bind, Except.bind, Except.map,
      missSum_eq address hA hB ha hb hlt]

/-! ## When totals are additive -/

private theorem quantityIn_split_range (keep : MaTxOutRow → Bool) (p q r : Nat → Bool)
    (hp : ∀ n, p n = (q n || r n)) (hdisjoint : ∀ n, ¬ (q n = true ∧ r n = true)) :
    quantityIn db keep address p = quantityIn db keep address q + quantityIn db keep address r := by
  simp only [quantityIn, sum_filter]
  rw [← List.sum_map_add]
  congr 1
  apply List.map_congr_left
  intro x _
  cases x.blockNo with
  | none => simp
  | some n =>
      have hpn := hp n
      have hdn := hdisjoint n
      cases hq : q n <;> cases hr : r n <;> simp_all

private theorem quantityIn_split_keep (keep : MaTxOutRow → Bool) (range : Nat → Bool) :
    quantityIn db (fun _ => true) address range =
      quantityIn db keep address range + quantityIn db (fun m => !keep m) address range := by
  have houtput : ∀ o, outputQuantity db (fun _ => true) o =
      outputQuantity db keep o + outputQuantity db (fun m => !keep m) o := by
    intro o
    simp only [outputQuantity]
    rw [← List.sum_map_add]
    congr 1
    apply List.map_congr_left
    intro m _
    by_cases hkeep : keep m <;> simp [hkeep]
  have htx : ∀ t, txQuantity db (fun _ => true) address t =
      txQuantity db keep address t + txQuantity db (fun m => !keep m) address t := by
    intro t
    simp only [txQuantity]
    rw [← List.sum_map_add, List.map_congr_left fun o _ => houtput o]
  have hblock : ∀ x, blockQuantity db (fun _ => true) address x =
      blockQuantity db keep address x + blockQuantity db (fun m => !keep m) address x := by
    intro x
    simp only [blockQuantity]
    rw [← List.sum_map_add, List.map_congr_left fun t _ => htx t]
  simp only [quantityIn]
  rw [← List.sum_map_add, List.map_congr_left fun x _ => hblock x]

/-- The quantity of the asset in the blocks after `lo` up to `hi`. -/
def requestedIn (db : Db J) (asset : Asset) (address : MainchainAddress) (lo hi : Nat) : Nat :=
  quantityIn db (isAsset db asset) address fun n => decide (lo < n) && decide (n ≤ hi)

/-- The quantity of all other assets in these blocks. -/
def othersIn (db : Db J) (asset : Asset) (address : MainchainAddress) (lo hi : Nat) : Nat :=
  quantityIn db (fun m => !isAsset db asset m) address fun n => decide (lo < n) && decide (n ≤ hi)

/-- The answers for `A`, for `B` and for the range between them are additive,
and the last one counts the requested asset in the range. -/
def TotalsAdditive (config : SourceConfig) (db : Db J) (asset : Asset)
    (address : MainchainAddress) (A B : BlockRow) (a b : Nat) : Prop :=
  ∃ x y z : NativeTokenAmount,
    freshTotal config db none B.hash asset address = .ok x ∧
    freshTotal config db none A.hash asset address = .ok y ∧
    freshTotal config db (some A.hash) B.hash asset address = .ok z ∧
    x.toNat = y.toNat + z.toNat ∧ z.toNat = requestedIn db asset address a b

theorem toNat_ofNat_quantityIn (keep : MaTxOutRow → Bool) (range : Nat → Bool) :
    (BitVec.ofNat 128 (quantityIn db keep address range)).toNat =
      quantityIn db keep address range := by
  rw [BitVec.toNat_ofNat, Nat.mod_eq_of_lt (quantityIn_lt db keep address range)]

/-- Totals are additive exactly when the other assets in the stable part of
the range weigh as much as the requested asset in its unstable part. -/
theorem totals_additive_iff (hA : A ∈ db.block) (hB : B ∈ db.block)
    (ha : A.blockNo = some a) (hb : B.blockNo = some b) (hab : a ≤ b) :
    TotalsAdditive config db asset address A B a b ↔
      othersIn db asset address a (min b (stableBlockNo config db)) =
        requestedIn db asset address (max a (stableBlockNo config db)) b := by
  have hgenesis : (quantityIn db (isAsset db asset) address fun n => decide (n ≤ b)) =
      (quantityIn db (isAsset db asset) address fun n => decide (n ≤ a)) +
        requestedIn db asset address a b := by
    refine quantityIn_split_range address _ _ _ _ ?_ ?_
    · intro n
      rw [Bool.eq_iff_iff]
      simp only [Bool.or_eq_true, Bool.and_eq_true, decide_eq_true_eq]
      omega
    · intro n
      simp only [Bool.and_eq_true, decide_eq_true_eq]
      omega
  have hrange : requestedIn db asset address a b =
      requestedIn db asset address a (min b (stableBlockNo config db)) +
        requestedIn db asset address (max a (stableBlockNo config db)) b := by
    refine quantityIn_split_range address _ _ _ _ ?_ ?_
    · intro n
      rw [Bool.eq_iff_iff]
      simp only [Bool.or_eq_true, Bool.and_eq_true, decide_eq_true_eq, le_min_iff, max_lt_iff]
      omega
    · intro n
      simp only [Bool.and_eq_true, decide_eq_true_eq, le_min_iff, max_lt_iff]
      omega
  have hread : (quantityIn db (fun _ => true) address fun n =>
      decide (a < n) && decide (n ≤ min b (stableBlockNo config db))) =
      requestedIn db asset address a (min b (stableBlockNo config db)) +
        othersIn db asset address a (min b (stableBlockNo config db)) :=
    quantityIn_split_keep address _ _
  unfold TotalsAdditive
  rw [freshTotal_none asset address hB hb, freshTotal_none asset address hA ha,
    freshTotal_some asset address hA hB ha hb hab]
  constructor
  · rintro ⟨x, y, z, hx, hy, hz, -, hcount⟩
    obtain rfl := Except.ok.inj hz
    rw [toNat_ofNat_quantityIn] at hcount
    omega
  · intro h
    refine ⟨_, _, _, rfl, rfl, rfl, ?_, ?_⟩
    · simp only [toNat_ofNat_quantityIn]
      omega
    · rw [toNat_ofNat_quantityIn]
      omega

end Range

/-! ## An output with two assets

One transaction in block 2 pays 5 of the requested token and 7 of another
one to the illiquid supply address. -/

/-- A block whose columns all hold one number. -/
def exampleBlock (n : UInt8) : BlockRow where
  id := Fin.ofNat _ n.toNat
  hash := FixedBytes.replicate 32 n
  epochNo := some 0
  slotNo := some n.toNat
  blockNo := some n.toNat
  time := n.toNat

/-- The asset of the native token. -/
def exampleAsset : Asset := ⟨FixedBytes.replicate 28 1, AssetName.empty⟩

/-- One output that holds the token and another asset. -/
def twoAssets : Db Empty :=
  { Db.empty Empty with
    block := [exampleBlock 1, exampleBlock 2]
    tx := [⟨0, FixedBytes.replicate 32 9, 2, 0⟩]
    txOut := [⟨0, 0, 0, "illiquid_supply", none⟩]
    multiAsset := [⟨0, FixedBytes.replicate 28 1, AssetName.empty⟩,
      ⟨1, FixedBytes.replicate 28 2, AssetName.empty⟩]
    maTxOut := [⟨0, 5, 0, 0⟩, ⟨1, 7, 0, 1⟩]
    block_pkey := by decide
    block_words := by decide
    tx_pkey := by decide
    unique_tx := by decide
    tx_block_id_fkey := by decide
    tx_out_pkey := by decide
    multi_asset_pkey := by decide
    unique_multi_asset := by decide
    ma_tx_out_pkey := by decide
    unique_ma_tx_out := by decide
    ma_tx_out_ident_fkey := by decide
    unique_block_hash := by decide
    numbered_complete := by decide
    chain := by decide }

/-- Five up to the second block and nothing up to the first, but twelve between
them. -/
theorem totals_not_additive_twoAssets :
    freshTotal ⟨0, 1000⟩ twoAssets none (exampleBlock 2).hash exampleAsset "illiquid_supply" =
        .ok 5 ∧
      freshTotal ⟨0, 1000⟩ twoAssets none (exampleBlock 1).hash exampleAsset
        "illiquid_supply" = .ok 0 ∧
      freshTotal ⟨0, 1000⟩ twoAssets (some (exampleBlock 1).hash) (exampleBlock 2).hash
        exampleAsset "illiquid_supply" = .ok 12 ∧
      requestedIn twoAssets exampleAsset "illiquid_supply" 1 2 = 5 := by
  have h1 : exampleBlock 1 ∈ twoAssets.block := List.mem_cons_self
  have h2 : exampleBlock 2 ∈ twoAssets.block := List.mem_cons_of_mem _ List.mem_cons_self
  rw [freshTotal_none _ _ h2 rfl, freshTotal_none _ _ h1 rfl,
    freshTotal_some _ _ h1 h2 rfl rfl (by decide)]
  decide

/-- The totals of the example differ by the other asset. -/
theorem totals_additive_iff_twoAssets :
    TotalsAdditive ⟨0, 1000⟩ twoAssets exampleAsset "illiquid_supply" (exampleBlock 1)
        (exampleBlock 2) 1 2 ↔
      othersIn twoAssets exampleAsset "illiquid_supply" 1
          (min 2 (stableBlockNo ⟨0, 1000⟩ twoAssets)) =
        requestedIn twoAssets exampleAsset "illiquid_supply"
          (max 1 (stableBlockNo ⟨0, 1000⟩ twoAssets)) 2 :=
  totals_additive_iff exampleAsset "illiquid_supply" List.mem_cons_self
    (List.mem_cons_of_mem _ List.mem_cons_self) rfl rfl (by decide)

end PartnerChains.Ports.NativeTokenTotals
