import PartnerChains.Ports.NativeTokenTotals

/-!
# The cache of native token transfers

The cache holds the per-block totals of a window of stable blocks and is keyed
by block hashes only.  The query that fills it sums up all assets sent to the
address of the request, so a cached window belongs to one address.  Along a
run of requests and of database growth that leaves stable blocks alone, the
window stays what the query would return for the address it was filled for
(`Reachable.window`).  A request gets the answer of an empty cache unless it
is served from a window whose address received a different amount in the
range (`answer_transparent_iff`).
-/

namespace PartnerChains.Ports.NativeTokenCache

open PartnerChains.Ports.Domain
open PartnerChains.Ports.DbSync
open PartnerChains.Ports.NativeTokenPallet
open PartnerChains.Ports.NativeTokenQuery
open PartnerChains.Ports.NativeTokenTotals
open PartnerChains.Verified.Relational
open PartnerChains.Verified.StableSort

variable {J : Type}

/-! ## Requests -/

/-- A request that its callers may make: the upper block is stable and the
lower one, if there is one, is not above it. -/
structure StableRequest (config : SourceConfig) (db : Db J) where
  asset : Asset
  address : MainchainAddress
  toRow : BlockRow
  toNo : Nat
  toRow_mem : toRow ∈ db.block
  toRow_blockNo : toRow.blockNo = some toNo
  stable : toNo ≤ stableBlockNo config db
  afterRow : Option (BlockRow × Nat)
  afterRow_mem : ∀ p, afterRow = some p → p.1 ∈ db.block
  afterRow_blockNo : ∀ p, afterRow = some p → p.1.blockNo = some p.2
  afterRow_le : ∀ p, afterRow = some p → p.2 ≤ toNo

section Request

variable {config : SourceConfig} {db : Db J} (r : StableRequest config db) (cache : Cache)

/-- The lower bound of the request, if it has one. -/
def StableRequest.afterBlock : Option McBlockHash := r.afterRow.map fun p => p.1.hash

/-- The answer and the cache it leaves. -/
def StableRequest.run : Except DataSourceError (NativeTokenAmount × Cache) :=
  getTotalNativeTokenTransfer config db cache r.afterBlock r.toRow.hash r.asset r.address

/-- The amount, without what the request does to the cache. -/
def StableRequest.answer : Except DataSourceError NativeTokenAmount :=
  (r.run cache).map Prod.fst

/-- The request asks for a range that starts after a block. -/
def StableRequest.ranged : Bool :=
  r.afterBlock.any fun afterBlock => decide (afterBlock ≠ r.toRow.hash)

/-- The cache knows the range. -/
def StableRequest.served : Bool :=
  r.ranged && r.afterBlock.any fun afterBlock =>
    (cache.getSumInRange afterBlock r.toRow.hash).isSome

/-- Everything sent to an address in the range of the request. -/
def StableRequest.received (address : MainchainAddress) : Nat :=
  quantityIn db (fun _ => true) address fun n =>
    (r.afterRow.all fun p => decide (p.2 < n)) && decide (n ≤ r.toNo)

end Request

/-! ## Runs -/

/-- One block has the same transactions, outputs and tokens in both
databases. -/
structure SameContent (db db' : Db J) (b : BlockRow) : Prop where
  txs : ∀ t : TxRow, t.blockId = b.id → (t ∈ db.tx ↔ t ∈ db'.tx)
  outputs : ∀ t ∈ db.tx, t.blockId = b.id → ∀ o : TxOutRow, o.txId = t.id →
    (o ∈ db.txOut ↔ o ∈ db'.txOut)
  tokens : ∀ t ∈ db.tx, t.blockId = b.id → ∀ o ∈ db.txOut, o.txId = t.id →
    ∀ m : MaTxOutRow, m.txOutId = o.id → (m ∈ db.maTxOut ↔ m ∈ db'.maTxOut)

/-- Growth that never changes stable blocks. -/
structure Growth (config : SourceConfig) (db db' : Db J) : Prop where
  latest_le : latestBlockNo db ≤ latestBlockNo db'
  stable_iff : ∀ (b : BlockRow) (n : Nat), b.blockNo = some n → n ≤ stableBlockNo config db →
    (b ∈ db.block ↔ b ∈ db'.block)
  content : ∀ b ∈ db.block, ∀ n, b.blockNo = some n → n ≤ stableBlockNo config db →
    SameContent db db' b

/-- The states a run of requests and growth can reach from an empty cache,
with the address for which the cache was last filled. -/
inductive Reachable (config : SourceConfig) :
    Db J → Cache → Option MainchainAddress → Prop where
  | start (db : Db J) : Reachable config db [] none
  | grow {db db' : Db J} {cache : Cache} {filled : Option MainchainAddress} :
      Reachable config db cache filled → Growth config db db' →
      Reachable config db' cache filled
  | request {db : Db J} {cache cache' : Cache} {filled : Option MainchainAddress}
      {amount : NativeTokenAmount} (r : StableRequest config db) :
      Reachable config db cache filled → r.run cache = .ok (amount, cache') →
      Reachable config db cache'
        (if r.ranged && !r.served cache then some r.address else filled)

/-! ## Growth and stable blocks -/

private theorem block_nodup (db : Db J) : db.block.Nodup := db.block_pkey.of_map

private theorem sum_map_congr_perm {α : Type} {l l' : List α} {f g : α → Nat} (hperm : l.Perm l')
    (hfg : ∀ a ∈ l, f a = g a) : (l.map f).sum = (l'.map g).sum := by
  rw [List.map_congr_left hfg]
  exact (hperm.map g).sum_eq

private theorem SameContent.blockQuantity_eq {db db' : Db J} {b : BlockRow}
    (h : SameContent db db' b) (keep : MaTxOutRow → Bool) (address : MainchainAddress) :
    blockQuantity db keep address b = blockQuantity db' keep address b := by
  refine sum_map_congr_perm (filter_perm_of_mem_iff db.tx_pkey.of_map db'.tx_pkey.of_map ?_) ?_
  · intro t ht
    exact h.txs t (of_decide_eq_true ht).symm
  · intro t ht
    obtain ⟨ht, htb⟩ := List.mem_filter.mp ht
    have htb : t.blockId = b.id := (of_decide_eq_true htb).symm
    refine sum_map_congr_perm
      (filter_perm_of_mem_iff db.tx_out_pkey.of_map db'.tx_out_pkey.of_map ?_) ?_
    · intro o ho
      exact h.outputs t ht htb o (of_decide_eq_true (Bool.and_eq_true_iff.mp ho).1).symm
    · intro o ho
      obtain ⟨ho, hot⟩ := List.mem_filter.mp ho
      have hot : o.txId = t.id := (of_decide_eq_true (Bool.and_eq_true_iff.mp hot).1).symm
      refine sum_map_congr_perm
        (filter_perm_of_mem_iff db.ma_tx_out_pkey.of_map db'.ma_tx_out_pkey.of_map ?_) ?_
      · intro m hm
        exact h.tokens t ht htb o ho hot m (of_decide_eq_true hm).symm
      · intro m _
        rfl

private theorem Growth.stable_le {config : SourceConfig} {db db' : Db J}
    (h : Growth config db db') : stableBlockNo config db ≤ stableBlockNo config db' :=
  Nat.sub_le_sub_right h.latest_le _

/-- A window of stable blocks is the same list after growth. -/
theorem Growth.blocksBetween_eq {config : SourceConfig} {db db' : Db J}
    (h : Growth config db db') {f c : Nat} (hc : c ≤ stableBlockNo config db) :
    blocksBetween db f c = blocksBetween db' f c := by
  refine List.Perm.eq_of_pairwise ?_ (blocksBetween_pairwise f c) (blocksBetween_pairwise f c) ?_
  · intro x y _ _ hxy hyx
    exact absurd hyx hxy.asymm
  · refine (sortByKey_perm _ _).trans (List.Perm.trans ?_ (sortByKey_perm _ _).symm)
    apply filter_perm_of_mem_iff (block_nodup db) (block_nodup db')
    intro b hb
    cases hn : b.blockNo with
    | none => simp [hn] at hb
    | some n =>
        simp only [hn, Option.any_some, Bool.and_eq_true, decide_eq_true_eq] at hb
        exact h.stable_iff b n hn (by omega)

private theorem Growth.cacheEntries_eq {config : SourceConfig} {db db' : Db J}
    (h : Growth config db db') (address : MainchainAddress) {f c : Nat}
    (hc : c ≤ stableBlockNo config db) :
    cacheEntries db address (blocksBetween db f c) =
      cacheEntries db' address (blocksBetween db' f c) := by
  rw [← h.blocksBetween_eq hc, cacheEntries, cacheEntries]
  apply List.map_congr_left
  intro b hb
  obtain ⟨hmem, n, hn, -, hnc⟩ := mem_blocksBetween.mp hb
  rw [(h.content b hmem n hn (hnc.trans hc)).blockQuantity_eq]

/-! ## The window in the cache -/

/-- The cache holds the totals of a window of stable blocks for the address it
was filled for. -/
def Window (config : SourceConfig) (db : Db J) (cache : Cache)
    (filled : Option MainchainAddress) : Prop :=
  cache = [] ∨ ∃ address f c, filled = some address ∧ c ≤ stableBlockNo config db ∧
    cache = cacheEntries db address (blocksBetween db f c)

private theorem findIdx?_cacheEntries {db : Db J} (address : MainchainAddress) {f c : Nat}
    {A : BlockRow} (hA : A ∈ db.block) :
    (cacheEntries db address (blocksBetween db f c)).findIdx?
        (fun entry => decide (entry.1 = A.hash)) =
      if A ∈ blocksBetween db f c then
        some ((blocksBetween db f c).filter fun x =>
          decide (sortKey x.blockNo < sortKey A.blockNo)).length
      else none := by
  rw [cacheEntries, List.findIdx?_map]
  have hp : ∀ x ∈ blocksBetween db f c, (decide (x.hash = A.hash) = true ↔ x = A) := by
    intro x hx
    rw [decide_eq_true_eq]
    exact ⟨fun h => Db.block_eq_of_hash (mem_blocksBetween.mp hx).1 hA h, fun h => h ▸ rfl⟩
  split
  · next hmem =>
      exact findIdx?_eq_length_filter _ (blocksBetween_pairwise f c) hmem hp
  · next hmem =>
      rw [List.findIdx?_eq_none_iff]
      intro x hx
      refine Bool.eq_false_iff.mpr fun h => ?_
      exact hmem ((hp x hx).mp h ▸ hx)

/-- Between two blocks of a window, the blocks are told by their numbers. -/
theorem filter_between_blocksBetween {db : Db J} {f c a b : Nat} {A B : BlockRow}
    (ha : A.blockNo = some a) (hb : B.blockNo = some b) :
    ((blocksBetween db f c).filter fun x =>
        decide (sortKey A.blockNo < sortKey x.blockNo) &&
          decide (sortKey x.blockNo ≤ sortKey B.blockNo)) =
      (blocksBetween db f c).filter fun x =>
        x.blockNo.any fun n => decide (a < n) && decide (n ≤ b) := by
  apply List.filter_congr
  intro x hx
  obtain ⟨-, n, hn, -⟩ := mem_blocksBetween.mp hx
  simp [hn, ha, hb]

/-- The index of the earlier block comes first. -/
theorem index_le_index {db : Db J} {f c : Nat} {A B : BlockRow}
    (hkey : sortKey A.blockNo < sortKey B.blockNo) :
    ((blocksBetween db f c).filter fun x =>
        decide (sortKey x.blockNo < sortKey A.blockNo)).length ≤
      ((blocksBetween db f c).filter fun x =>
        decide (sortKey x.blockNo < sortKey B.blockNo)).length := by
  apply (List.monotone_filter_right _ _).length_le
  intro x hx
  simpa using (of_decide_eq_true hx).trans hkey

/-- The window answers exactly the ranges inside it, with everything sent to
the address it belongs to. -/
theorem getSumInRange_cacheEntries {db : Db J} (address : MainchainAddress) {f c a b : Nat}
    {A B : BlockRow} (hA : A ∈ db.block) (hB : B ∈ db.block) (ha : A.blockNo = some a)
    (hb : B.blockNo = some b) (hab : a < b) :
    (cacheEntries db address (blocksBetween db f c)).getSumInRange A.hash B.hash =
      if f ≤ a ∧ b ≤ c then
        some (BitVec.ofNat 128 (quantityIn db (fun _ => true) address fun n =>
          decide (a < n) && decide (n ≤ b)))
      else none := by
  have hmemA : A ∈ blocksBetween db f c ↔ f ≤ a ∧ a ≤ c := by
    simp [mem_blocksBetween, hA, ha]
  have hmemB : B ∈ blocksBetween db f c ↔ f ≤ b ∧ b ≤ c := by
    simp [mem_blocksBetween, hB, hb]
  have hkey : sortKey A.blockNo < sortKey B.blockNo := by
    simpa [ha, hb] using hab
  rw [Cache.getSumInRange, findIdx?_cacheEntries address hA, findIdx?_cacheEntries address hB]
  by_cases hrange : f ≤ a ∧ b ≤ c
  · have hA' : A ∈ blocksBetween db f c := hmemA.mpr (by omega)
    have hB' : B ∈ blocksBetween db f c := hmemB.mpr (by omega)
    rw [if_pos hA', if_pos hB', if_pos hrange]
    simp only [bind, Option.bind, if_pos (index_le_index hkey), cacheEntries]
    rw [← List.map_drop, ← List.map_take, List.map_map,
      slice_between _ (blocksBetween_pairwise f c) hA' hB' hkey,
      filter_between_blocksBetween ha hb]
    simp only [Function.comp_def]
    rw [sum_blocksBetween]
    -- the bounds of the window add nothing inside it
    congr 3
    funext n
    rw [Bool.eq_iff_iff]
    simp only [Bool.and_eq_true, decide_eq_true_eq]
    omega
  · rw [if_neg hrange]
    by_cases hA' : A ∈ blocksBetween db f c
    · have hB' : B ∉ blocksBetween db f c := by
        rw [hmemB]
        rw [hmemA] at hA'
        omega
      rw [if_pos hA', if_neg hB']
      rfl
    · rw [if_neg hA']
      rfl

/-! ## What a request does -/

section Step

variable {config : SourceConfig} {db : Db J} (r : StableRequest config db)

/-- A request that is answered without a range looks at no cache. -/
theorem StableRequest.run_of_not_ranged (h : r.ranged = false) (cache : Cache) :
    r.run cache = (r.answer []).map fun amount => (amount, cache) := by
  unfold StableRequest.ranged at h
  cases hafter : r.afterBlock with
  | none =>
      simp only [StableRequest.answer, StableRequest.run, hafter, getTotalNativeTokenTransfer]
      cases queryTransfersFromGenesis db r.toRow.hash r.asset r.address <;> rfl
  | some afterBlock =>
      have heq : afterBlock = r.toRow.hash := by simpa [hafter] using h
      simp [StableRequest.answer, StableRequest.run, hafter, getTotalNativeTokenTransfer, heq,
        Except.map]

/-- A request with a lower bound names a block below the upper one. -/
theorem StableRequest.exists_of_ranged (h : r.ranged = true) :
    ∃ A a, r.afterRow = some (A, a) ∧ r.afterBlock = some A.hash ∧ A.hash ≠ r.toRow.hash ∧
      A ∈ db.block ∧ A.blockNo = some a ∧ a < r.toNo := by
  cases hafter : r.afterRow with
  | none => simp [StableRequest.ranged, StableRequest.afterBlock, hafter] at h
  | some p =>
      have hne : p.1.hash ≠ r.toRow.hash := by
        simpa [StableRequest.ranged, StableRequest.afterBlock, hafter] using h
      have hmem := r.afterRow_mem p hafter
      have hno := r.afterRow_blockNo p hafter
      refine ⟨p.1, p.2, rfl, ?_, hne, hmem, hno, lt_of_le_of_ne (r.afterRow_le p hafter) ?_⟩
      · simp [StableRequest.afterBlock, hafter]
      · intro heq
        exact hne (by
          rw [Db.block_eq_of_blockNo hmem r.toRow_mem hno (heq ▸ r.toRow_blockNo)])

theorem StableRequest.received_eq {A : BlockRow} {a : Nat} (h : r.afterRow = some (A, a))
    (address : MainchainAddress) :
    r.received address = quantityIn db (fun _ => true) address fun n =>
      decide (a < n) && decide (n ≤ r.toNo) := by
  simp [StableRequest.received, h]

/-- Without a cache the answer is what the address received. -/
theorem StableRequest.answer_nil (h : r.ranged = true) :
    r.answer [] = .ok (BitVec.ofNat 128 (r.received r.address)) := by
  obtain ⟨A, a, hafter, hhash, -, hA, ha, hlt⟩ := r.exists_of_ranged h
  rw [r.received_eq hafter, ← min_eq_left r.stable,
    ← freshTotal_some r.asset r.address hA r.toRow_mem ha r.toRow_blockNo hlt.le, freshTotal,
    StableRequest.answer, StableRequest.run, hhash]

/-- What a request reads that the cache does not answer. -/
theorem StableRequest.run_of_miss {cache : Cache} (h : r.ranged = true)
    (hmiss : r.served cache = false) {A : BlockRow} {a : Nat} (hafter : r.afterRow = some (A, a)) :
    r.run cache = .ok (BitVec.ofNat 128 (r.received r.address),
      cacheEntries db r.address (blocksBetween db a (cacheToBlockNo config db a r.toNo))) := by
  obtain ⟨A', a', hafter', hhash, hne, hA, ha, hlt⟩ := r.exists_of_ranged h
  obtain ⟨rfl, rfl⟩ : A = A' ∧ a = a' := by
    simpa [hafter] using hafter'
  have hnone : cache.getSumInRange A.hash r.toRow.hash = none := by
    simpa [StableRequest.served, h, hhash] using hmiss
  simp only [StableRequest.run, hhash, getTotalNativeTokenTransfer, if_neg hne, hnone,
    getDataToCache_eq r.asset r.address hA r.toRow_mem ha r.toRow_blockNo, bind, Except.bind,
    r.received_eq hafter]
  rw [missSum_eq r.address hA r.toRow_mem ha r.toRow_blockNo hlt, min_eq_left r.stable]

/-- A request that the cache answers gets what the address of the window
received. -/
theorem StableRequest.run_of_hit {cache : Cache} {address : MainchainAddress} {f c : Nat}
    (hcache : cache = cacheEntries db address (blocksBetween db f c))
    (hhit : r.served cache = true) :
    r.run cache = .ok (BitVec.ofNat 128 (r.received address), cache) := by
  have hranged : r.ranged = true := (Bool.and_eq_true_iff.mp hhit).1
  obtain ⟨A, a, hafter, hhash, hne, hA, ha, hlt⟩ := r.exists_of_ranged hranged
  have hsum := getSumInRange_cacheEntries (f := f) (c := c) address hA r.toRow_mem ha
    r.toRow_blockNo hlt
  have hsome : (cache.getSumInRange A.hash r.toRow.hash).isSome := by
    simpa [StableRequest.served, hranged, hhash] using hhit
  rw [← hcache] at hsum
  split at hsum
  · simp only [StableRequest.run, hhash, getTotalNativeTokenTransfer, if_neg hne, hsum,
      r.received_eq hafter]
  · rw [hsum] at hsome
    simp at hsome

/-- An empty cache serves nothing. -/
theorem StableRequest.served_nil : r.served [] = false := by
  have hnone : ∀ afterBlock, Cache.getSumInRange [] afterBlock r.toRow.hash = none :=
    fun _ => rfl
  simp [StableRequest.served, hnone]

end Step

/-! ## The invariant of a run -/

/-- A cache stays a window when the chain grows. -/
theorem Window.grow {config : SourceConfig} {db db' : Db J} {cache : Cache}
    {filled : Option MainchainAddress} (h : Window config db cache filled)
    (hgrowth : Growth config db db') : Window config db' cache filled := by
  rcases h with h | ⟨address, f, c, hfilled, hc, hcache⟩
  · exact Or.inl h
  · refine Or.inr ⟨address, f, c, hfilled, hc.trans hgrowth.stable_le, ?_⟩
    rw [hcache, hgrowth.cacheEntries_eq address hc]

/-- A request leaves a window, filled for its own address if it was not served. -/
theorem Window.request {config : SourceConfig} {db : Db J} {cache cache' : Cache}
    {filled : Option MainchainAddress} {amount : NativeTokenAmount}
    (h : Window config db cache filled) (r : StableRequest config db)
    (hrun : r.run cache = .ok (amount, cache')) :
    Window config db cache' (if r.ranged && !r.served cache then some r.address else filled) := by
  cases hranged : r.ranged with
  | false =>
      rw [r.run_of_not_ranged hranged] at hrun
      cases hanswer : r.answer [] with
      | error e => simp [hanswer, Except.map] at hrun
      | ok x =>
          simp only [hanswer, Except.map, Except.ok.injEq, Prod.mk.injEq] at hrun
          simpa [hrun.2] using h
  | true =>
      cases hserved : r.served cache with
      | false =>
          obtain ⟨A, a, hafter, -⟩ := r.exists_of_ranged hranged
          rw [r.run_of_miss hranged hserved hafter, Except.ok.injEq, Prod.mk.injEq] at hrun
          exact Or.inr ⟨r.address, a, _, by simp, min_le_left _ _, hrun.2.symm⟩
      | true =>
          rcases h with h | ⟨address, f, c, hfilled, hc, hcache⟩
          · rw [h, r.served_nil] at hserved
            cases hserved
          · rw [r.run_of_hit hcache hserved, Except.ok.injEq, Prod.mk.injEq] at hrun
            refine Or.inr ⟨address, f, c, by simpa using hfilled, hc, ?_⟩
            rw [← hrun.2, hcache]

/-- Every cache that can be reached is a window of the chain. -/
theorem Reachable.window {config : SourceConfig} {db : Db J} {cache : Cache}
    {filled : Option MainchainAddress} (h : Reachable config db cache filled) :
    Window config db cache filled := by
  induction h with
  | start db => exact Or.inl rfl
  | grow _ hgrowth ih => exact ih.grow hgrowth
  | request r _ hrun ih => exact ih.request r hrun

/-- In every state of a run, a request gets the answer of an empty cache
unless the cache answers it and the address that the cache was filled for
received a different amount in the range. -/
theorem answer_transparent_iff {config : SourceConfig} {db : Db J} {cache : Cache}
    {filled : Option MainchainAddress} (h : Reachable config db cache filled)
    (r : StableRequest config db) :
    r.answer cache = r.answer [] ↔
      (r.served cache = true → ∀ address, filled = some address →
        r.received address = r.received r.address) := by
  cases hranged : r.ranged with
  | false =>
      have hserved : r.served cache = false := by simp [StableRequest.served, hranged]
      have heq : r.answer cache = r.answer [] := by
        rw [StableRequest.answer, r.run_of_not_ranged hranged]
        cases r.answer [] <;> rfl
      simp [hserved, heq]
  | true =>
      cases hserved : r.served cache with
      | false =>
          obtain ⟨A, a, hafter, -⟩ := r.exists_of_ranged hranged
          have heq : r.answer cache = r.answer [] := by
            rw [r.answer_nil hranged, StableRequest.answer,
              r.run_of_miss hranged hserved hafter]
            rfl
          simp [heq]
      | true =>
          rcases h.window with hcache | ⟨address, f, c, hfilled, -, hcache⟩
          · rw [hcache, r.served_nil] at hserved
            cases hserved
          · have hhit : r.answer cache = .ok (BitVec.ofNat 128 (r.received address)) := by
              rw [StableRequest.answer, r.run_of_hit hcache hserved]
              rfl
            rw [hhit, r.answer_nil hranged, Except.ok.injEq, ← BitVec.toNat_inj]
            simp only [StableRequest.received, toNat_ofNat_quantityIn, hfilled,
              Option.some.injEq, forall_true_left, forall_eq']

/-! ## Two addresses

The range after block 1 up to block 2 is first asked for the address that
received tokens in it, and then for an address that received nothing. -/

/-- A request for all transfers to the address up to the second block. -/
def requestFor (address : MainchainAddress) : StableRequest ⟨0, 1000⟩ twoAssets where
  asset := exampleAsset
  address := address
  toRow := exampleBlock 2
  toNo := 2
  toRow_mem := List.mem_cons_of_mem _ List.mem_cons_self
  toRow_blockNo := rfl
  stable := by decide
  afterRow := some (exampleBlock 1, 1)
  afterRow_mem := by
    intro p hp
    cases hp
    exact List.mem_cons_self
  afterRow_blockNo := by
    intro p hp
    cases hp
    rfl
  afterRow_le := by
    intro p hp
    cases hp
    decide

/-- The cache that the first request leaves. -/
def filledCache : Cache := cacheEntries twoAssets "illiquid_supply" (blocksBetween twoAssets 1 2)

private theorem run_requestFor : (requestFor "illiquid_supply").run [] = .ok (12, filledCache) := by
  have hupto : cacheToBlockNo ⟨0, 1000⟩ twoAssets 1 2 = 2 := by decide
  have hreceived : (requestFor "illiquid_supply").received "illiquid_supply" = 12 := by decide
  have hmiss := (requestFor "illiquid_supply").run_of_miss rfl (StableRequest.served_nil _) rfl
  rw [show (requestFor "illiquid_supply").address = "illiquid_supply" from rfl, hreceived,
    show (requestFor "illiquid_supply").toNo = 2 from rfl, hupto] at hmiss
  exact hmiss

private theorem filledCache_serves (address : MainchainAddress) :
    (requestFor address).served filledCache = true := by
  have hsum := getSumInRange_cacheEntries (f := 1) (c := 2) "illiquid_supply"
    ((requestFor address).afterRow_mem _ rfl) (requestFor address).toRow_mem rfl rfl
    (by decide : 1 < 2)
  rw [if_pos (by decide)] at hsum
  have hafter : (requestFor address).afterBlock = some (exampleBlock 1).hash := rfl
  have hranged : (requestFor address).ranged = true := rfl
  rw [StableRequest.served, hranged, hafter, Option.any_some, Bool.true_and]
  exact Option.isSome_iff_exists.mpr ⟨_, hsum⟩

theorem reachable_filledCache :
    Reachable ⟨0, 1000⟩ twoAssets filledCache (some "illiquid_supply") := by
  have h := Reachable.request _ (Reachable.start twoAssets) run_requestFor
  rwa [StableRequest.served_nil] at h

/-- A cache that was filled for one address answers for another. -/
theorem answer_not_transparent_twoAddresses :
    Reachable ⟨0, 1000⟩ twoAssets filledCache (some "illiquid_supply") ∧
      (requestFor "other").answer filledCache = .ok 12 ∧
      (requestFor "other").answer [] = .ok 0 := by
  refine ⟨reachable_filledCache, ?_, ?_⟩
  · have hcache : filledCache =
        cacheEntries twoAssets "illiquid_supply" (blocksBetween twoAssets 1 2) := rfl
    rw [StableRequest.answer, (requestFor "other").run_of_hit hcache (filledCache_serves _)]
    have hreceived : (requestFor "other").received "illiquid_supply" = 12 := by decide
    rw [hreceived]
    rfl
  · rw [StableRequest.answer_nil _ rfl]
    have hreceived : (requestFor "other").received (requestFor "other").address = 0 := by decide
    rw [hreceived]
    rfl

/-- The addresses of the example received different amounts. -/
theorem answer_transparent_iff_twoAddresses :
    (requestFor "other").answer filledCache = (requestFor "other").answer [] ↔
      ((requestFor "other").served filledCache = true → ∀ address,
        some "illiquid_supply" = some address →
          (requestFor "other").received address = (requestFor "other").received "other") :=
  answer_transparent_iff reachable_filledCache (requestFor "other")

end PartnerChains.Ports.NativeTokenCache
