import Mathlib.Logic.Relation
import PartnerChains.Ports.BlockAgreement
import PartnerChains.Ports.StableBlockCache

/-!
# Runs of a node that imports blocks

A node gets blocks from anyone, in any order, while its clock runs and its view
of the main chain changes.  It verifies each block, and the runtime executes
those that pass; a block that comes with its state, or without a body, or for
which execution is skipped, is stored unexecuted.  About the authors nothing is
assumed.  A verification is one step of a run: the database does not change
between its queries.

`imported_sealed` says who has sealed the blocks that were executed, and
`references_nondecreasing` that the references to the main chain never fall
along them, if blocks of the main chain that were deep once stay.
-/

namespace PartnerChains.Ports.ImportedBlocks

open PartnerChains.Ports.Domain
open PartnerChains.Ports.DbSync
open PartnerChains.Ports.McHash
open PartnerChains.Ports.AriadneProvider
open PartnerChains.Ports.BlockDataSource
open PartnerChains.Ports.StableProposal
open PartnerChains.Ports.McReference
open PartnerChains.Ports.StableBlockCache (Keeps Fits isStable_of_deep deep_of_isStable)
open PartnerChains.Ports.NativeTokenPallet (InherentData NativeTokenAmount TokenTransferData
  TokenTransferHandler InherentsChecked observedAmount transferAmounts recording)
open PartnerChains.Ports.NativeTokenRun (NativeTokenManagementDataSource newInherentDataProvider)
open PartnerChains.Ports.NodeRuntime
open PartnerChains.Ports.BlockProposal
open PartnerChains.Ports.BlockVerification
open PartnerChains.Ports.BlockAgreement
open PartnerChains.Verified.Fallible

variable {Id Keys Account H A S BlockHash AuthorityId J E : Type}
  {config : SessionPallet.Config Id Keys Account H A}

/-! ## The main chain reference of an accepted block -/

section Reference

variable {timestamp : UInt64 → UInt64 → Option UInt64} {source : BlockDataSourceImpl} {db : Db J}
  {cache : List Block} {slot slotDuration : UInt64} {hash : McBlockHash} {parentHeader : Header}
  {parentSlot : Option UInt64}

/-- The header refers to a block that is deep enough in the main chain. -/
structure Refers (k : UInt32) (db : Db J) (header : Header) (block : Block) : Prop where
  deep : Deep k db block
  digest : valueFromDigest header.logs = .ok block.hash

private theorem deep_of_getMcStateReference (hcache : CacheSound source db cache)
    (hfits : Fits source db) {b : MainchainBlock}
    (h : (getMcStateReference timestamp source db cache slot hash slotDuration).1 = .ok b) :
    ∃ block, Deep source.securityParameter db block ∧ block.hash = hash ∧
      block.blockNo = b.number := by
  obtain ⟨ts, -, hfound⟩ := getMcStateReference_eq_ok.mp h
  unfold BlockDataSourceImpl.getStableBlockFor at hfound
  cases htime : source.timestampToDbType ts with
  | error e => simp [htime] at hfound
  | ok time =>
      simp only [htime] at hfound
      rw [hcache.getStableBlockByHash] at hfound
      obtain ⟨found, hdb, hof⟩ := bind_eq_ok.mp hfound
      cases found with
      | none => cases hof
      | some block =>
          obtain ⟨hblock, hhash, hstable, -⟩ := getStableBlockByHashFromDb_eq_some.mp hdb
          refine ⟨block, deep_of_isStable hfits hblock hstable, hhash, ?_⟩
          cases hmc : MainchainBlock.ofBlock block with
          | error e => simp [hmc, Except.map] at hof
          | ok mcBlock =>
              simp only [hmc, Except.map, Except.ok.injEq, Option.some.injEq] at hof
              rw [← hof, (ofBlock_eq_ok hmc).1]

private theorem newVerification_cache (hcache : CacheSound source db cache) :
    CacheSound source db (newVerification timestamp source db cache parentHeader parentSlot slot
      hash slotDuration).2 := by
  have hfirst : CacheSound source db
      (getMcStateReference timestamp source db cache slot hash slotDuration).2 :=
    getMcStateReference_cache cache slot slotDuration hash hcache
  unfold newVerification
  rcases href : getMcStateReference timestamp source db cache slot hash slotDuration with
    ⟨e | mcBlock, cache'⟩
  · simpa [href] using hfirst
  · have hafter : CacheSound source db cache' := by simpa [href] using hfirst
    cases parentSlot with
    | none => exact hafter
    | some parentSlot =>
        simp only
        cases hdigest : valueFromDigest parentHeader.logs with
        | error e => exact hafter
        | ok parentHash =>
            have hsecond : CacheSound source db (getMcStateReference timestamp source db cache'
                parentSlot parentHash slotDuration).2 :=
              getMcStateReference_cache cache' parentSlot slotDuration parentHash hafter
            simp only
            rcases hparent : getMcStateReference timestamp source db cache' parentSlot parentHash
                slotDuration with ⟨e | parentBlock, cache''⟩
            · simpa [hparent] using hsecond
            · have hlast : CacheSound source db cache'' := by simpa [hparent] using hsecond
              simp only
              split
              · exact hlast
              · exact hlast

/-- An accepted reference is deep, and not below the one of the parent. -/
theorem refers_of_newVerification (hcache : CacheSound source db cache)
    (hfits : Fits source db) {provider : McHashInherentDataProvider}
    (h : (newVerification timestamp source db cache parentHeader parentSlot slot hash
      slotDuration).1 = .ok provider) :
    ∃ block, Deep source.securityParameter db block ∧ block.hash = hash ∧
      (parentSlot.isSome → ∃ parentBlock,
        Refers source.securityParameter db parentHeader parentBlock ∧
          parentBlock.blockNo ≤ block.blockNo) := by
  obtain ⟨block, hdeep, hhash, hnumber⟩ :=
    deep_of_getMcStateReference hcache hfits (reference_of_newVerification h)
  refine ⟨block, hdeep, hhash, ?_⟩
  have hfirst : CacheSound source db
      (getMcStateReference timestamp source db cache slot hash slotDuration).2 :=
    getMcStateReference_cache cache slot slotDuration hash hcache
  unfold newVerification at h
  rcases href : getMcStateReference timestamp source db cache slot hash slotDuration with
    ⟨e | mcBlock, cache'⟩
  · simp [href] at h
  · have hafter : CacheSound source db cache' := by simpa [href] using hfirst
    simp only [href] at h
    cases parentSlot with
    | none => simp
    | some parentSlot =>
        intro _
        simp only at h
        cases hdigest : valueFromDigest parentHeader.logs with
        | error e => simp [hdigest] at h
        | ok parentHash =>
            simp only [hdigest] at h
            rcases hparent : getMcStateReference timestamp source db cache' parentSlot parentHash
                slotDuration with ⟨e | parentMcBlock, cache''⟩
            · simp [hparent] at h
            · simp only [hparent] at h
              split at h
              · cases h
              · next hge =>
                obtain rfl := Except.ok.inj h
                obtain ⟨parentBlock, hparentDeep, rfl, hparentNumber⟩ :=
                  deep_of_getMcStateReference (b := parentMcBlock) hafter hfits
                    (congrArg Prod.fst hparent)
                refine ⟨parentBlock, ⟨hparentDeep, hdigest⟩, ?_⟩
                show parentBlock.blockNo ≤ block.blockNo
                simp only at hnumber
                omega

end Reference

/-! ## What a node knows of a block that passes -/

section Verify

variable [DecidableEq Id] [DecidableEq Keys] [DecidableEq J]
  {network : Network config S BlockHash AuthorityId}
  {verifier : Verifier config S BlockHash AuthorityId J E} {cache : List Block}

omit [DecidableEq Id] [DecidableEq Keys] in
private theorem createVerifierProviders_cache
    (hcache : CacheSound verifier.sources.mcHash verifier.sources.db cache) {now slot : UInt64}
    {parentHash : BlockHash} {mcHash : McBlockHash} :
    CacheSound verifier.sources.mcHash verifier.sources.db
      (createVerifierProviders network verifier.client verifier.sources cache now parentHash slot
        mcHash).2 := by
  unfold createVerifierProviders
  cases verifier.client parentHash with
  | none => exact hcache
  | some parent =>
      simp only
      cases slotFromPredigest network.aura parent.header with
      | error e => exact hcache
      | ok parentSlot =>
          have hafter : CacheSound verifier.sources.mcHash verifier.sources.db
              (newVerification network.aura.slotTimestamp verifier.sources.mcHash
                verifier.sources.db cache parent.header.toHeader parentSlot slot mcHash
                network.inherentConfig.scSlotConfig.slotDuration).2 :=
            newVerification_cache hcache
          simp only
          rcases hverification : newVerification network.aura.slotTimestamp
              verifier.sources.mcHash verifier.sources.db cache parent.header.toHeader parentSlot
              slot mcHash network.inherentConfig.scSlotConfig.slotDuration with
            ⟨e | provider, cache'⟩
          · simpa [hverification] using hafter
          · simpa [hverification] using hafter

private theorem verifyOptionalBody_cache
    (hcache : CacheSound verifier.sources.mcHash verifier.sources.db cache)
    {parentHash : BlockHash} {slot : UInt64} {mcHash : McBlockHash}
    {body : Option (List (Extrinsic config BeneficiaryId))} :
    CacheSound verifier.sources.mcHash verifier.sources.db
      (verifyOptionalBody network verifier cache parentHash slot mcHash body).2 := by
  cases body with
  | none => exact hcache
  | some body =>
      have hafter : CacheSound verifier.sources.mcHash verifier.sources.db
          (createVerifierProviders network verifier.client verifier.sources cache verifier.now
            parentHash slot mcHash).2 := createVerifierProviders_cache hcache
      unfold verifyOptionalBody verifyBody
      rcases hproviders : createVerifierProviders network verifier.client verifier.sources cache
          verifier.now parentHash slot mcHash with ⟨e | providers, cache'⟩
      · simpa [hproviders] using hafter
      · have hafter : CacheSound verifier.sources.mcHash verifier.sources.db cache' := by
          simpa [hproviders] using hafter
        simp only
        cases verifier.client parentHash with
        | none => exact hafter
        | some parent =>
            simp only
            split
            · exact hafter
            · exact hafter

/-- The cache holds stable blocks, whatever the verdict. -/
theorem verify_cache
    (hcache : CacheSound verifier.sources.mcHash verifier.sources.db cache)
    (block : BlockImportParams config BlockHash) :
    CacheSound verifier.sources.mcHash verifier.sources.db
      (verify network verifier cache block).2 := by
  unfold verify
  split
  · exact hcache
  · simp only
    split
    · exact hcache
    · split
      · exact hcache
      · split
        · exact hcache
        · split
          · exact hcache
          · split
            · next hverified =>
              have hafter := congrArg Prod.snd hverified
              exact hafter ▸ verifyOptionalBody_cache hcache
            · next hverified =>
              have hafter := congrArg Prod.snd hverified
              exact hafter ▸ verifyOptionalBody_cache hcache

/-- What was checked of a body. -/
structure BodyVerified (network : Network config S BlockHash AuthorityId)
    (verifier : Verifier config S BlockHash AuthorityId J E) (cache : List Block)
    (parentHash : BlockHash) (slot : UInt64) (mcHash : McBlockHash)
    (body : List (Extrinsic config BeneficiaryId)) (parent : StoredBlock config S BlockHash)
    (parentSlot : Option UInt64) (provider : McHashInherentDataProvider)
    (providers : VerifierProviders) : Prop where
  parent_eq : verifier.client parentHash = some parent
  parentSlot_eq : slotFromPredigest network.aura parent.header = .ok parentSlot
  verification : (newVerification network.aura.slotTimestamp verifier.sources.mcHash
    verifier.sources.db cache parent.header.toHeader parentSlot slot mcHash
    network.inherentConfig.scSlotConfig.slotDuration).1 = .ok provider
  timestamp_eq : providers.timestamp = verifier.now
  ariadne_eq : AriadneInherentDataProvider.new network.aura.slotTimestamp
    network.inherentConfig.scSlotConfig network.inherentConfig.mcEpochConfig verifier.sources.lib
    verifier.sources.db (verifier.client.runtimeApi parentHash) slot provider.mcBlock.epoch =
      .ok providers.ariadne
  nativeToken_eq : newInherentDataProvider verifier.sources.nativeToken mcHash
    parent.forNativeToken = .ok providers.nativeToken
  checked : 2 ≤ network.blockBuilderVersion parent.state →
    checkInherents network parent body providers = .ok ()

/-- A body is verified exactly if its parent, its reference and its inherents are. -/
theorem verifyBody_eq_ok_iff {parentHash : BlockHash} {slot : UInt64} {mcHash : McBlockHash}
    {body : List (Extrinsic config BeneficiaryId)} :
    (verifyBody network verifier cache parentHash slot mcHash body).1 = .ok () ↔
      ∃ parent parentSlot provider providers, BodyVerified network verifier cache parentHash slot
        mcHash body parent parentSlot provider providers := by
  rw [verifyBody_fst, createVerifierProviders_fst]
  constructor
  · intro h
    obtain ⟨providers, hproviders, h⟩ := bind_eq_ok.mp h
    obtain ⟨parent, hparent, hproviders⟩ := bind_eq_ok.mp (mapError_eq_ok.mp hproviders)
    obtain ⟨parentSlot, hslot, hproviders⟩ := bind_eq_ok.mp hproviders
    obtain ⟨provider, hprovider, hproviders⟩ := bind_eq_ok.mp hproviders
    obtain ⟨ariadne, hariadne, hproviders⟩ := bind_eq_ok.mp hproviders
    obtain ⟨nativeToken, hnative, hproviders⟩ := bind_eq_ok.mp hproviders
    obtain rfl := Except.ok.inj hproviders
    have hparent := okOr_eq_ok.mp hparent
    obtain ⟨parent', hparent', h⟩ := bind_eq_ok.mp h
    obtain rfl := Option.some.inj (hparent.symm.trans (okOr_eq_ok.mp hparent'))
    rw [Client.newNativeToken, hparent] at hnative
    refine ⟨parent, parentSlot, provider, ⟨verifier.now, ariadne, nativeToken⟩, hparent,
      mapError_eq_ok.mp hslot, mapError_eq_ok.mp hprovider, rfl, mapError_eq_ok.mp hariadne,
      mapError_eq_ok.mp hnative, ?_⟩
    intro hversion
    rw [if_pos hversion] at h
    exact mapError_eq_ok.mp h
  · rintro ⟨parent, parentSlot, provider, ⟨now, ariadne, nativeToken⟩, hparent, hslot,
      hverification, rfl, hariadne, hnative, hchecked⟩
    have hnative' : verifier.client.newNativeToken verifier.sources.nativeToken mcHash parentHash =
        .ok nativeToken := by
      rw [Client.newNativeToken, hparent]
      exact mapError_eq_ok.mpr hnative
    refine bind_eq_ok.mpr ⟨⟨verifier.now, ariadne, nativeToken⟩, mapError_eq_ok.mpr ?_, ?_⟩
    · refine bind_eq_ok.mpr ⟨parent, okOr_eq_ok.mpr hparent, ?_⟩
      refine bind_eq_ok.mpr ⟨parentSlot, mapError_eq_ok.mpr hslot, ?_⟩
      refine bind_eq_ok.mpr ⟨provider, mapError_eq_ok.mpr hverification, ?_⟩
      refine bind_eq_ok.mpr ⟨ariadne, mapError_eq_ok.mpr hariadne, ?_⟩
      exact bind_eq_ok.mpr ⟨nativeToken, hnative', rfl⟩
    · refine bind_eq_ok.mpr ⟨parent, okOr_eq_ok.mpr hparent, ?_⟩
      split
      · next hversion => exact mapError_eq_ok.mpr (hchecked hversion)
      · rfl

end Verify

/-! ## Runs -/

/-- A node with the cache of its data source. -/
structure Node (config : SessionPallet.Config Id Keys Account H A)
    (S BlockHash AuthorityId J E : Type) extends
    Verifier config S BlockHash AuthorityId J E where
  cache : List Block
  /-- The blocks that were imported with execution checks. -/
  executed : List BlockHash

/-- A bare extrinsic is dispatched without an origin. -/
def bareCall : Extrinsic config BeneficiaryId → Option NativeTokenPallet.Extrinsic
  | ⟨false, .nativeToken call⟩ => some ⟨.none, call⟩
  | _ => none

/-- The bare calls of the native token pallet in a block. -/
def bareCalls (body : List (Extrinsic config BeneficiaryId)) : List NativeTokenPallet.Extrinsic :=
  body.filterMap bareCall

/-- What is documented about the execution of a block: it has the next number
and its inherents come first; the native token pallet gets its bare calls, and
between them perhaps calls with other origins.  The rest of the state may be
anything. -/
structure Executed (handler : TokenTransferHandler S) (parent : StoredBlock config S BlockHash)
    (header : BlockHeader BlockHash) (body : List (Extrinsic config BeneficiaryId))
    (state : State config S) : Prop where
  number : header.number = parent.header.number + 1
  inherentsFirst : InherentsFirst body
  nativeToken : ∃ dispatched : List NativeTokenPallet.Extrinsic,
    dispatched.filter (fun x => x.origin = .none) = bareCalls body ∧
      NativeTokenPallet.executeBlock handler parent.state.nativeToken dispatched =
        .ok state.nativeToken

/-- What a run is made of: the network, the handler of the native tokens, how
the view of the main chain may change, and what is assumed about the blocks
that are executed. -/
structure Setting (config : SessionPallet.Config Id Keys Account H A)
    (S BlockHash AuthorityId J E : Type) where
  network : Network config (S × List NativeTokenAmount) BlockHash AuthorityId
  handler : TokenTransferHandler S
  Moves : DataSources J E → DataSources J E → Prop
  Assumed : StoredBlock config (S × List NativeTokenAmount) BlockHash →
    List (Extrinsic config BeneficiaryId) → State config (S × List NativeTokenAmount) → Prop

section Step

variable [DecidableEq Id] [DecidableEq Keys] [DecidableEq J]
  (setting : Setting config S BlockHash AuthorityId J E)

/-- The block passes with all checks, and the runtime executes it on its
parent. -/
structure Passes (node : Node config (S × List NativeTokenAmount) BlockHash AuthorityId J E)
    (block : BlockImportParams config BlockHash) (body : List (Extrinsic config BeneficiaryId))
    (parent : StoredBlock config (S × List NativeTokenAmount) BlockHash)
    (state : State config (S × List NativeTokenAmount)) : Prop where
  withState : block.withState = false
  skipExecutionChecks : block.skipExecutionChecks = false
  body_eq : block.body = some body
  verified : ∃ result, (verify setting.network node.toVerifier node.cache block).1 = .ok result
  parent_eq : node.client block.header.parentHash = some parent
  executed : Executed (recording setting.handler) parent block.header body state
  assumed : setting.Assumed parent body state

/-- What happens to a node.  Each verification is one step, with the view of
the main chain as it is then; a block that is there already is not imported
again. -/
inductive Step [DecidableEq BlockHash] :
    Node config (S × List NativeTokenAmount) BlockHash AuthorityId J E →
    Node config (S × List NativeTokenAmount) BlockHash AuthorityId J E → Prop where
  | imported {node : Node config (S × List NativeTokenAmount) BlockHash AuthorityId J E}
      (block : BlockImportParams config BlockHash)
      (state : State config (S × List NativeTokenAmount))
      {body : List (Extrinsic config BeneficiaryId)}
      {parent : StoredBlock config (S × List NativeTokenAmount) BlockHash}
      (unknown : node.client (setting.network.hash block.header) = none)
      (passes : Passes setting node block body parent state) :
      Step node
        { node with
          client := Function.update node.client (setting.network.hash block.header)
            (some ⟨block.header, state⟩)
          cache := (verify setting.network node.toVerifier node.cache block).2
          executed := setting.network.hash block.header :: node.executed }
  /-- A block that is imported with its state, without execution or without a
  body.  What is then stored is not checked. -/
  | unexecuted {node : Node config (S × List NativeTokenAmount) BlockHash AuthorityId J E}
      (block result : BlockImportParams config BlockHash)
      (state : State config (S × List NativeTokenAmount))
      (unknown : node.client (setting.network.hash block.header) = none)
      (skips : block.withState = true ∨ block.skipExecutionChecks = true ∨ block.body = none)
      (verified : (verify setting.network node.toVerifier node.cache block).1 = .ok result) :
      Step node
        { node with
          client := Function.update node.client (setting.network.hash block.header)
            (some ⟨block.header, state⟩)
          cache := (verify setting.network node.toVerifier node.cache block).2 }
  | refused {node : Node config (S × List NativeTokenAmount) BlockHash AuthorityId J E}
      {block : BlockImportParams config BlockHash} {error : VerifyError BlockHash E}
      (failed : (verify setting.network node.toVerifier node.cache block).1 = .error error) :
      Step node
        { node with cache := (verify setting.network node.toVerifier node.cache block).2 }
  | mainChainMoved {node : Node config (S × List NativeTokenAmount) BlockHash AuthorityId J E}
      {sources : DataSources J E} (moves : setting.Moves node.sources sources) :
      Step node { node with sources := sources }
  | clockMoved {node : Node config (S × List NativeTokenAmount) BlockHash AuthorityId J E}
      (now : UInt64) : Step node { node with now := now }

end Step

/-! ## What executed blocks have in common -/

section Rule

variable [DecidableEq Id] [DecidableEq Keys] [DecidableEq J]
  {setting : Setting config S BlockHash AuthorityId J E}
  {Good : DataSources J E → List Block → Prop}
  {Link : DataSources J E → StoredBlock config (S × List NativeTokenAmount) BlockHash →
    StoredBlock config (S × List NativeTokenAmount) BlockHash → Prop}

/-- `Link` holds between the parent and a block that is executed while the view
of the main chain and the cache are `Good`, and the main chain moves in such a
way that both stay. -/
structure LinkRule (setting : Setting config S BlockHash AuthorityId J E)
    (Good : DataSources J E → List Block → Prop)
    (Link : DataSources J E → StoredBlock config (S × List NativeTokenAmount) BlockHash →
      StoredBlock config (S × List NativeTokenAmount) BlockHash → Prop) : Prop where
  verify : ∀ (node : Node config (S × List NativeTokenAmount) BlockHash AuthorityId J E) block,
    Good node.sources node.cache →
      Good node.sources (verify setting.network node.toVerifier node.cache block).2
  link : ∀ node {block body parent state}, Good node.sources node.cache →
    Passes setting node block body parent state → Link node.sources parent ⟨block.header, state⟩
  moves_good : ∀ {sources sources' cache}, setting.Moves sources sources' → Good sources cache →
    Good sources' cache
  moves_link : ∀ {sources sources' parent child}, setting.Moves sources sources' →
    Link sources parent child → Link sources' parent child

/-- What holds of a node at any time. -/
structure Invariant (Good : DataSources J E → List Block → Prop)
    (Link : DataSources J E → StoredBlock config (S × List NativeTokenAmount) BlockHash →
      StoredBlock config (S × List NativeTokenAmount) BlockHash → Prop)
    (node : Node config (S × List NativeTokenAmount) BlockHash AuthorityId J E) : Prop where
  good : Good node.sources node.cache
  linked : ∀ hash ∈ node.executed, ∃ stored parent, node.client hash = some stored ∧
    node.client stored.header.parentHash = some parent ∧ Link node.sources parent stored

omit [DecidableEq Id] [DecidableEq Keys] [DecidableEq J] in
/-- A block that was executed is linked to its parent. -/
theorem Invariant.linked_of_stored
    {node : Node config (S × List NativeTokenAmount) BlockHash AuthorityId J E}
    (h : Invariant Good Link node) {hash : BlockHash} (hexecuted : hash ∈ node.executed)
    {stored : StoredBlock config (S × List NativeTokenAmount) BlockHash}
    (hstored : node.client hash = some stored) :
    ∃ parent, node.client stored.header.parentHash = some parent ∧
      Link node.sources parent stored := by
  obtain ⟨stored', parent, hstored', hparent, hlink⟩ := h.linked hash hexecuted
  obtain rfl := Option.some.inj (hstored.symm.trans hstored')
  exact ⟨parent, hparent, hlink⟩

variable [DecidableEq BlockHash]
  {start node node' : Node config (S × List NativeTokenAmount) BlockHash AuthorityId J E}

omit [DecidableEq Id] [DecidableEq Keys] [DecidableEq J] in
/-- Blocks are never replaced, so what was stored stays stored. -/
private theorem update_of_unknown {client : Client config S BlockHash} {new hash : BlockHash}
    {stored block : StoredBlock config S BlockHash} (hunknown : client new = none)
    (hstored : client hash = some stored) :
    Function.update client new (some block) hash = some stored := by
  rw [Function.update_of_ne, hstored]
  rintro rfl
  rw [hunknown] at hstored
  cases hstored

/-- A rule for links holds along every step of the node. -/
theorem LinkRule.step (rule : LinkRule setting Good Link) (h : Invariant Good Link node)
    (hstep : Step setting node node') : Invariant Good Link node' := by
  cases hstep with
  | @imported block state body parent unknown passes =>
      refine ⟨rule.verify node block h.good, ?_⟩
      intro hash hmem
      rcases List.mem_cons.mp hmem with rfl | hold
      · exact ⟨⟨block.header, state⟩, parent, Function.update_self .., update_of_unknown unknown
          passes.parent_eq, rule.link node h.good passes⟩
      · obtain ⟨stored, parent, hstored, hparent, hlink⟩ := h.linked hash hold
        exact ⟨stored, parent, update_of_unknown unknown hstored,
          update_of_unknown unknown hparent, hlink⟩
  | unexecuted block result state unknown skips verified =>
      refine ⟨rule.verify node block h.good, ?_⟩
      intro hash hmem
      obtain ⟨stored, parent, hstored, hparent, hlink⟩ := h.linked hash hmem
      exact ⟨stored, parent, update_of_unknown unknown hstored,
        update_of_unknown unknown hparent, hlink⟩
  | refused failed => exact ⟨rule.verify node _ h.good, h.linked⟩
  | mainChainMoved moves =>
      refine ⟨rule.moves_good moves h.good, ?_⟩
      intro hash hmem
      obtain ⟨stored, parent, hstored, hparent, hlink⟩ := h.linked hash hmem
      exact ⟨stored, parent, hstored, hparent, rule.moves_link moves hlink⟩
  | clockMoved now => exact ⟨h.good, h.linked⟩

/-- The rule for whole runs. -/
theorem LinkRule.run (rule : LinkRule setting Good Link)
    (hgood : Good start.sources start.cache) (hexecuted : start.executed = [])
    (hrun : Relation.ReflTransGen (Step setting) start node) : Invariant Good Link node := by
  induction hrun with
  | refl => exact ⟨hgood, by simp [hexecuted]⟩
  | tail _ hstep ih => exact rule.step ih hstep

end Rule

/-! ## What the import of a block leaves behind -/

/-- The block is sealed by the author of its slot among the authorities after
the parent. -/
def SealedAfter (network : Network config S BlockHash AuthorityId)
    (Sealed : BlockHash → AuthorityId → DigestItem → Prop)
    (parent child : StoredBlock config S BlockHash) : Prop :=
  ∃ preHeader item slot author, child.header = preHeader.push item ∧
    network.aura.findPreDigest preHeader = .ok slot ∧
    network.aura.slotAuthor slot (network.authorities parent.state) = some author ∧
    Sealed (network.hash preHeader) author item

/-- The block refers to a deep block of the main chain, which is not below the
one that its parent refers to. -/
structure ReferenceLink (sources : DataSources J E)
    (parent child : StoredBlock config S BlockHash) : Prop where
  number : child.header.number = parent.header.number + 1
  reference : ∃ block,
    Refers sources.mcHash.securityParameter sources.db child.header.toHeader block ∧
    (parent.header.number ≠ 0 → ∃ parentBlock,
      Refers sources.mcHash.securityParameter sources.db parent.header.toHeader parentBlock ∧
        parentBlock.blockNo ≤ block.blockNo)

/-- The answers of a data source are those of the history. -/
def Reports (history source : NativeTokenManagementDataSource E) : Prop :=
  ∀ afterBlock toBlock policyId assetName address amount,
    source afterBlock toBlock policyId assetName address = .ok amount →
      history afterBlock toBlock policyId assetName address = .ok amount

/-- The block was executed with calls that were checked against the amount of
the history. -/
def TokenLink (handler : TokenTransferHandler S)
    (Assumed : StoredBlock config (S × List NativeTokenAmount) BlockHash →
      List (Extrinsic config BeneficiaryId) → State config (S × List NativeTokenAmount) → Prop)
    (history : NativeTokenManagementDataSource E)
    (parent child : StoredBlock config (S × List NativeTokenAmount) BlockHash) : Prop :=
  ∃ mcHash body amount data dispatched,
    valueFromDigest child.header.logs = .ok mcHash ∧
    newInherentDataProvider history mcHash parent.forNativeToken = .ok amount ∧
    observedAmount data = amount.getD 0 ∧ InherentsChecked data dispatched ∧
    transferAmounts dispatched = transferAmounts (bareCalls body) ∧
    NativeTokenPallet.executeBlock (recording handler) parent.state.nativeToken dispatched =
      .ok child.state.nativeToken ∧
    Assumed parent body child.state

private theorem bareCall_eq_some {x : Extrinsic config BeneficiaryId}
    {y : NativeTokenPallet.Extrinsic} :
    bareCall x = some y ↔ x = ⟨false, .nativeToken y.call⟩ ∧ y.origin = .none := by
  obtain ⟨isSigned, call⟩ := x
  obtain ⟨origin, call'⟩ := y
  cases isSigned with
  | true => simp [bareCall]
  | false =>
      cases call with
      | nativeToken call =>
          simp only [bareCall, Option.some.injEq, NativeTokenPallet.Extrinsic.mk.injEq,
            Extrinsic.mk.injEq, RuntimeCall.nativeToken.injEq, true_and]
          constructor
          · rintro ⟨rfl, rfl⟩
            exact ⟨rfl, rfl⟩
          · rintro ⟨rfl, rfl⟩
            exact ⟨rfl, rfl⟩
      | timestamp | committee | blockRewards | other => simp [bareCall]

/-- In a valid block every call that releases tokens is a bare one. -/
theorem origin_of_executeBlock {handler : TokenTransferHandler S}
    {dispatched : List NativeTokenPallet.Extrinsic} :
    ∀ {s s' : NativeTokenPallet.Storage (S × List NativeTokenAmount)},
      NativeTokenPallet.executeBlock (recording handler) s dispatched = .ok s' →
        ∀ x ∈ dispatched, NativeTokenPallet.isInherent x.call = true → x.origin = .none := by
  induction dispatched with
  | nil => simp
  | cons y rest ih =>
      intro s s' h x hx hinherent
      obtain ⟨mid, hfirst, hrest⟩ := (NativeTokenPallet.executeBlock_cons _).mp h
      rcases List.mem_cons.mp hx with rfl | hx
      · rcases NativeTokenPallet.applyExtrinsic_cases handler hfirst with
          ⟨amount, -, rfl, -⟩ | ⟨policyId, assetName, address, hcall, -⟩
        · rfl
        · simp [hcall, NativeTokenPallet.isInherent] at hinherent
      · exact ih hrest x hx hinherent

section Linked

variable {network : Network config (S × List NativeTokenAmount) BlockHash AuthorityId}
  {handler : TokenTransferHandler S} {parent : StoredBlock config (S × List NativeTokenAmount)
    BlockHash} {body : List (Extrinsic config BeneficiaryId)}
  {state : State config (S × List NativeTokenAmount)} {data : InherentData}
  {dispatched : List NativeTokenPallet.Extrinsic}

private theorem transferAmounts_bareCalls
    (hbare : dispatched.filter (fun x => x.origin = .none) = bareCalls body)
    (hexecuted : NativeTokenPallet.executeBlock (recording handler) parent.state.nativeToken
      dispatched = .ok state.nativeToken) :
    transferAmounts dispatched = transferAmounts (bareCalls body) := by
  rw [← hbare, transferAmounts, transferAmounts, List.filterMap_filter]
  refine List.filterMap_congr fun x hx => ?_
  by_cases horigin : x.origin = .none
  · simp [horigin]
  · cases hcall : x.call with
    | transferTokens amount =>
        exact absurd (origin_of_executeBlock hexecuted x hx (by rw [hcall]; rfl)) horigin
    | setMainChainScripts => simp [horigin, NativeTokenPallet.Call.transferAmount]

/-- A bare call reaches the native token pallet exactly if it is in the body. -/
private theorem mem_dispatched_iff
    (hbare : dispatched.filter (fun x => x.origin = .none) = bareCalls body)
    {x : NativeTokenPallet.Extrinsic} (horigin : x.origin = .none) :
    x ∈ dispatched ↔
      (⟨false, .nativeToken x.call⟩ : Extrinsic config BeneficiaryId) ∈ body := by
  have hfilter : x ∈ dispatched ↔ x ∈ bareCalls body := by
    rw [← hbare, List.mem_filter]
    simp [horigin]
  rw [hfilter, bareCalls, List.mem_filterMap]
  constructor
  · rintro ⟨y, hy, hcall⟩
    rwa [← (bareCall_eq_some.mp hcall).1]
  · intro hx
    exact ⟨_, hx, bareCall_eq_some.mpr ⟨rfl, horigin⟩⟩

/-- What `check_inherents` says about the calls that the native token pallet
gets. -/
theorem inherentsChecked_of_checkInherents [DecidableEq Id] [DecidableEq Keys]
    (hfirst : InherentsFirst body)
    (hchecked : network.runtime.checkInherents data parent.state body = .ok ())
    (hbare : dispatched.filter (fun x => x.origin = .none) = bareCalls body)
    (hexecuted : NativeTokenPallet.executeBlock (recording handler) parent.state.nativeToken
      dispatched = .ok state.nativeToken) : InherentsChecked data dispatched := by
  obtain ⟨inherents, others, rfl, hinherents, hothers⟩ := hfirst
  obtain ⟨hcalls, hrequired⟩ := (checkInherents_iff hinherents hothers).mp hchecked
  constructor
  · intro x hx hinherent
    have horigin := origin_of_executeBlock hexecuted x hx hinherent
    have hbody := (mem_dispatched_iff hbare horigin).mp hx
    have hfront : (⟨false, .nativeToken x.call⟩ : Extrinsic config BeneficiaryId) ∈
        inherents := by
      rcases List.mem_append.mp hbody with h | h
      · exact h
      · have hnot := hothers _ h
        simp [Extrinsic.isInherent, RuntimeCall.isInherent, hinherent] at hnot
    have hcall := hcalls _ hfront
    simp only [Runtime.checkInherent] at hcall
    split at hcall
    · cases hcall
    · cases hcall
    · assumption
  · intro error herror
    have hhas := hrequired.nativeToken error herror
    obtain ⟨x, hx, hkind⟩ := List.any_eq_true.mp hhas
    obtain ⟨isSigned, call⟩ := x
    cases isSigned with
    | true => simp at hkind
    | false =>
        cases call with
        | nativeToken call =>
            exact ⟨⟨.none, call⟩, (mem_dispatched_iff hbare rfl).mpr hx, hkind⟩
        | timestamp | committee | blockRewards | other => simp [isNativeTokenInherent] at hkind

private theorem observedAmount_of_verifierData {providers : VerifierProviders}
    (h : VerifierData network providers data) :
    observedAmount data = providers.nativeToken.getD 0 := by
  cases hamount : providers.nativeToken with
  | none =>
      simp [observedAmount, NativeTokenPallet.getTransferedTokensFromInherentData, h.nativeToken,
        hamount]
  | some amount =>
      simp [observedAmount, NativeTokenPallet.getTransferedTokensFromInherentData, h.nativeToken,
        hamount, TokenTransferData.decode_encode]

private theorem newInherentDataProvider_of_reports
    {history source : NativeTokenManagementDataSource E}
    (hreports : Reports history source) {mcHash : McBlockHash} {block : NativeTokenRun.Block S}
    {amount : Option NativeTokenAmount}
    (h : newInherentDataProvider source mcHash block = .ok amount) :
    newInherentDataProvider history mcHash block = .ok amount := by
  unfold newInherentDataProvider at h ⊢
  cases hscripts : block.storage.mainChainScriptsConfiguration with
  | none => simpa [hscripts] using h
  | some scripts =>
      -- The two ranges the provider may ask for.
      cases hinit : block.storage.initialized <;>
      · simp only [hscripts, hinit, Bool.false_eq_true, if_true, if_false] at h ⊢
        obtain ⟨parentMcHash, hparent, h⟩ := bind_eq_ok.mp h
        obtain ⟨total, htotal, hamount⟩ := bind_eq_ok.mp h
        refine bind_eq_ok.mpr ⟨parentMcHash, hparent, bind_eq_ok.mpr ⟨total, ?_, hamount⟩⟩
        rw [hreports _ _ _ _ _ _ (mapError_eq_ok.mp htotal)]
        rfl

end Linked

section Passes

variable [DecidableEq Id] [DecidableEq Keys] [DecidableEq J]
  {setting : Setting config S BlockHash AuthorityId J E}
  {Sealed : BlockHash → AuthorityId → DigestItem → Prop}
  {node : Node config (S × List NativeTokenAmount) BlockHash AuthorityId J E}
  {block : BlockImportParams config BlockHash} {body : List (Extrinsic config BeneficiaryId)}
  {parent : StoredBlock config (S × List NativeTokenAmount) BlockHash}
  {state : State config (S × List NativeTokenAmount)}

/-- What the verification of an executed block has found. -/
theorem Passes.headerVerified
    (haura : setting.network.aura.Documented setting.network.hash Sealed)
    (h : Passes setting node block body parent state) :
    ∃ preHeader slot item author mcHash parentSlot provider providers,
      HeaderVerified setting.network Sealed node.toVerifier block.header parent preHeader slot
        item author mcHash ∧
      BodyVerified setting.network node.toVerifier node.cache block.header.parentHash slot mcHash
        body parent parentSlot provider providers := by
  obtain ⟨result, hverified⟩ := h.verified
  obtain ⟨parent', preHeader, slot, item, author, mcHash, hheader, hoptional, -⟩ :=
    (verify_eq_ok_iff haura h.withState h.skipExecutionChecks).mp hverified
  obtain rfl := Option.some.inj (h.parent_eq.symm.trans hheader.parent_eq)
  rw [h.body_eq] at hoptional
  obtain ⟨parent', parentSlot, provider, providers, hpassed⟩ :=
    verifyBody_eq_ok_iff.mp hoptional
  obtain rfl := Option.some.inj (h.parent_eq.symm.trans hpassed.parent_eq)
  exact ⟨preHeader, slot, item, author, mcHash, parentSlot, provider, providers, hheader, hpassed⟩

private theorem Passes.sealedAfter
    (haura : setting.network.aura.Documented setting.network.hash Sealed)
    (h : Passes setting node block body parent state) :
    SealedAfter setting.network Sealed parent ⟨block.header, state⟩ := by
  obtain ⟨preHeader, slot, item, author, _, _, _, _, hheader, _⟩ := h.headerVerified haura
  exact ⟨preHeader, item, slot, author, hheader.header_eq, hheader.slot_eq, hheader.author_eq,
    hheader.sealed⟩

private theorem Passes.referenceLink
    (haura : setting.network.aura.Documented setting.network.hash Sealed)
    (hfits : Fits node.sources.mcHash node.sources.db)
    (hcache : CacheSound node.sources.mcHash node.sources.db node.cache)
    (h : Passes setting node block body parent state) :
    ReferenceLink node.sources parent ⟨block.header, state⟩ := by
  obtain ⟨_, _, _, _, mcHash, parentSlot, _, _, hheader, hpassed⟩ := h.headerVerified haura
  refine ⟨h.executed.number, ?_⟩
  obtain ⟨mcBlock, hdeep, rfl, hparentReference⟩ :=
    refers_of_newVerification hcache hfits hpassed.verification
  refine ⟨mcBlock, ⟨hdeep, hheader.digest_eq⟩, ?_⟩
  intro hnumber
  apply hparentReference
  have hslot := hpassed.parentSlot_eq
  rw [slotFromPredigest, if_neg hnumber] at hslot
  cases hfound : setting.network.aura.findPreDigest parent.header with
  | error e => simp [hfound, Except.map] at hslot
  | ok slot =>
      simp only [hfound, Except.map, Except.ok.injEq] at hslot
      simp [← hslot]

/-- An imported block transfers what the history says was locked. -/
theorem Passes.tokenLink (haura : setting.network.aura.Documented setting.network.hash Sealed)
    (hversion : ∀ st, 2 ≤ setting.network.blockBuilderVersion st)
    {history : NativeTokenManagementDataSource E}
    (hreports : Reports history node.sources.nativeToken)
    (h : Passes setting node block body parent state) :
    TokenLink setting.handler setting.Assumed history parent ⟨block.header, state⟩ := by
  obtain ⟨_, _, _, _, mcHash, _, _, providers, hheader, hpassed⟩ := h.headerVerified haura
  obtain ⟨dispatched, hbare, hdispatched⟩ := h.executed.nativeToken
  have hinherents := hpassed.checked (hversion _)
  obtain ⟨data, hdata, hentries⟩ := verifierData_createInherentData setting.network providers
  have hchecked : setting.network.runtime.checkInherents data parent.state body = .ok () := by
    simp only [checkInherents, hdata] at hinherents
    split at hinherents
    · assumption
    · cases hinherents
    · cases hinherents
  exact ⟨mcHash, body, providers.nativeToken, data, dispatched, hheader.digest_eq,
    newInherentDataProvider_of_reports hreports hpassed.nativeToken_eq,
    observedAmount_of_verifierData hentries,
    inherentsChecked_of_checkInherents h.executed.inherentsFirst hchecked hbare hdispatched,
    transferAmounts_bareCalls hbare hdispatched, hdispatched, h.assumed⟩

end Passes

/-! ## Changes of the main chain -/

/-- The data source stays, and so do the blocks that it takes for stable; block
numbers can be added to the security parameter. -/
structure KeepsDeep (sources sources' : DataSources J E) : Prop where
  mcHash : sources'.mcHash = sources.mcHash
  keeps : Keeps sources.mcHash sources.db sources'.db
  fits : Fits sources.mcHash sources'.db

/-- The cache holds stable blocks. -/
structure StableCache (sources : DataSources J E) (cache : List Block) : Prop where
  fits : Fits sources.mcHash sources.db
  cache : CacheSound sources.mcHash sources.db cache

/-- A node starts with an empty cache. -/
theorem StableCache.initial {sources : DataSources J E} {cache : List Block} (hcache : cache = [])
    (hfits : Fits sources.mcHash sources.db) : StableCache sources cache := by
  rw [hcache]
  exact ⟨hfits, .nil _ _⟩

/-- A cache stays sound while deep blocks are kept. -/
theorem StableCache.keep {sources sources' : DataSources J E} {cache : List Block}
    (h : StableCache sources cache) (hkeeps : KeepsDeep sources sources') :
    StableCache sources' cache := by
  refine ⟨hkeeps.mcHash ▸ hkeeps.fits, ?_⟩
  intro block hblock
  obtain ⟨hhas, hstable⟩ := h.cache block hblock
  have hdeep := hkeeps.keeps.keepsDeep (deep_of_isStable h.fits hhas hstable)
  rw [hkeeps.mcHash]
  exact ⟨hdeep.1, isStable_of_deep hdeep hkeeps.fits⟩

/-- What deep blocks are does not change when the main chain moves on. -/
theorem ReferenceLink.keep {sources sources' : DataSources J E}
    {parent child : StoredBlock config S BlockHash} (h : ReferenceLink sources parent child)
    (hkeeps : KeepsDeep sources sources') : ReferenceLink sources' parent child := by
  refine ⟨h.number, ?_⟩
  obtain ⟨block, hrefers, hparent⟩ := h.reference
  rw [hkeeps.mcHash]
  refine ⟨block, ⟨hkeeps.keeps.keepsDeep hrefers.deep, hrefers.digest⟩, ?_⟩
  intro hnumber
  obtain ⟨parentBlock, hparentRefers, hle⟩ := hparent hnumber
  exact ⟨parentBlock, ⟨hkeeps.keeps.keepsDeep hparentRefers.deep, hparentRefers.digest⟩, hle⟩

/-! ## Whole runs -/

section Runs

variable [DecidableEq Id] [DecidableEq Keys] [DecidableEq J] [DecidableEq BlockHash]
  {setting : Setting config S BlockHash AuthorityId J E}
  {Sealed : BlockHash → AuthorityId → DigestItem → Prop}
  {start node : Node config (S × List NativeTokenAmount) BlockHash AuthorityId J E}

omit [DecidableEq BlockHash] in
/-- Seals do not depend on the main chain. -/
theorem sealed_rule (haura : setting.network.aura.Documented setting.network.hash Sealed) :
    LinkRule setting (fun _ _ => True) fun _ => SealedAfter setting.network Sealed where
  verify := fun _ _ _ => trivial
  link := fun _ _ _ _ _ _ hpasses => hpasses.sealedAfter haura
  moves_good := fun _ _ => trivial
  moves_link := fun _ h => h

/-- Every block that a node has imported with execution checks, at any time and
from anyone, has its parent there, too, and is sealed by the author of its slot
among the authorities after that parent.  The view of the main chain may change
in any way. -/
theorem imported_sealed (haura : setting.network.aura.Documented setting.network.hash Sealed)
    (hstart : start.executed = [])
    (hrun : Relation.ReflTransGen (Step setting) start node) {hash : BlockHash}
    (hexecuted : hash ∈ node.executed) :
    ∃ stored parent preHeader item slot author,
      node.client hash = some stored ∧
      node.client stored.header.parentHash = some parent ∧
      stored.header = preHeader.push item ∧
      setting.network.aura.findPreDigest preHeader = .ok slot ∧
      setting.network.aura.slotAuthor slot (setting.network.authorities parent.state) =
        some author ∧
      Sealed (setting.network.hash preHeader) author item := by
  obtain ⟨stored, parent, hstored, hparent, preHeader, item, slot, author, hsealed⟩ :=
    ((sealed_rule haura).run trivial hstart hrun).linked hash hexecuted
  exact ⟨stored, parent, preHeader, item, slot, author, hstored, hparent, hsealed⟩

omit [DecidableEq BlockHash] in
/-- References to the main chain are links. -/
theorem reference_rule (haura : setting.network.aura.Documented setting.network.hash Sealed)
    (hmoves : ∀ sources sources', setting.Moves sources sources' → KeepsDeep sources sources') :
    LinkRule setting StableCache ReferenceLink where
  verify := fun _ block hgood => ⟨hgood.fits, verify_cache hgood.cache block⟩
  link := fun _ _ _ _ _ hgood hpasses => hpasses.referenceLink haura hgood.fits hgood.cache
  moves_good := fun hmove hgood => hgood.keep (hmoves _ _ hmove)
  moves_link := fun hmove hlink => hlink.keep (hmoves _ _ hmove)

/-- Blocks from which one gets to a block by way of blocks that were imported
with execution checks. -/
inductive Ancestor (node : Node config S BlockHash AuthorityId J E) :
    StoredBlock config S BlockHash → StoredBlock config S BlockHash → Prop where
  | self (block : StoredBlock config S BlockHash) : Ancestor node block block
  | child {ancestor parent block : StoredBlock config S BlockHash} {hash : BlockHash}
      (ofParent : Ancestor node ancestor parent) (executed : hash ∈ node.executed)
      (stored : node.client hash = some block)
      (parent_eq : node.client block.header.parentHash = some parent) :
      Ancestor node ancestor block

omit [DecidableEq J] in
/-- A header refers to at most one block. -/
theorem Refers.unique {k : UInt32} {db : Db J} {header : Header} {b c : Block}
    (hb : Refers k db header b) (hc : Refers k db header c) : b = c := by
  have hhash : b.hash = c.hash := Except.ok.inj (hb.digest.symm.trans hc.digest)
  have hfound := hb.deep.1.getBlockByHash
  rw [hhash, hc.deep.1.getBlockByHash] at hfound
  simpa using hfound.symm

/-- Along a chain of blocks imported with execution checks, references do not
fall, as long as blocks of the main chain that were deep once stay. -/
theorem references_nondecreasing
    (haura : setting.network.aura.Documented setting.network.hash Sealed)
    (hmoves : ∀ sources sources', setting.Moves sources sources' → KeepsDeep sources sources')
    (hstart : start.executed = []) (hcache : start.cache = [])
    (hfits : Fits start.sources.mcHash start.sources.db)
    (hrun : Relation.ReflTransGen (Step setting) start node) {hash : BlockHash}
    (hexecuted : hash ∈ node.executed)
    {ancestor stored : StoredBlock config (S × List NativeTokenAmount) BlockHash}
    (hancestor : node.client hash = some ancestor) (hdescends : Ancestor node ancestor stored) :
    ∃ earlier later, Refers node.sources.mcHash.securityParameter node.sources.db
        ancestor.header.toHeader earlier ∧
      Refers node.sources.mcHash.securityParameter node.sources.db stored.header.toHeader later ∧
      earlier.blockNo ≤ later.blockNo := by
  have hinv := (reference_rule haura hmoves).run (.initial hcache hfits) hstart hrun
  have hnumber : ∀ {hash : BlockHash} {block : StoredBlock config (S × List NativeTokenAmount)
      BlockHash}, hash ∈ node.executed → node.client hash = some block →
      block.header.number ≠ 0 := by
    intro hash block hmem hblock
    obtain ⟨parent, -, hlink⟩ := hinv.linked_of_stored hmem hblock
    rw [hlink.number]
    exact Nat.succ_ne_zero _
  induction hdescends with
  | self =>
      obtain ⟨parent, -, hlink⟩ := hinv.linked_of_stored hexecuted hancestor
      obtain ⟨reference, hrefers, -⟩ := hlink.reference
      exact ⟨reference, reference, hrefers, hrefers, le_refl _⟩
  | @child parent block hash' ofParent executed stored parent_eq ih =>
      obtain ⟨earlier, middle, hearlier, hmiddle, hle⟩ := ih
      obtain ⟨parent', hparent', hlink⟩ := hinv.linked_of_stored executed stored
      obtain rfl := Option.some.inj (parent_eq.symm.trans hparent')
      obtain ⟨later, hlater, hparentReference⟩ := hlink.reference
      have hparentNumber : parent.header.number ≠ 0 := by
        cases ofParent with
        | self => exact hnumber hexecuted hancestor
        | child _ executed stored _ => exact hnumber executed stored
      obtain ⟨middle', hmiddle', hle'⟩ := hparentReference hparentNumber
      obtain rfl := hmiddle.unique hmiddle'
      exact ⟨earlier, later, hearlier, hlater, hle.trans hle'⟩

end Runs

/-! ## Two blocks

The main chain is that of `marginDb`; five tokens were locked up to its first
block, to which both blocks refer.  Between the two the tip of the main chain
is replaced. -/

/-- The handler has no state; the list records the amounts it was called with. -/
abbrev PlainState := Unit × List NativeTokenAmount

/-- A network over the Aura library of small numbers, whose parts are encoded in
unary. -/
def plainNetwork (S : Type) : Network CommitteeRun.exampleConfig S Nat Nat where
  aura := plainAura
  hash := fun header => header.number
  runtime := ⟨fun _ _ => none, plainTimestamp, unaryCodec _, unaryCodec _, unaryCodec _⟩
  authorities := fun st => st.session.committee.currentCommittee.committee.items.map Prod.fst
  blockBuilderVersion := fun _ => 6
  slotCodec := unaryCodec _
  inherentConfig := ⟨⟨0, 10000, 1⟩, ⟨5, 1000⟩⟩

theorem plainNetwork_documented (S : Type) :
    (plainNetwork S).aura.Documented (plainNetwork S).hash
      (fun hash author item => item = plainSeal hash author) := plainAura_documented

/-- The committees of epochs 0 and 1 are known. -/
def firstSession : SessionPallet.State CommitteeRun.exampleConfig :=
  { CommitteeRun.firstState with
    currentSlot := 3
    epochNumber := some 0
    committee :=
      { currentCommittee := ⟨0, CommitteePallet.BoundedVec.truncateFrom 32 [(1, ()), (2, ())]⟩
        nextCommittee := some ⟨1, CommitteePallet.BoundedVec.truncateFrom 32 [(3, ())]⟩
        mainChainScriptsConfiguration := CommitteeRun.exampleScripts } }

/-- Data sources over three main chain blocks, without an answer about tokens. -/
def marginSources : DataSources Unit Unit where
  mcHash := marginSource
  lib := ⟨UtxoText.lowerHex, fun _ => none, fun _ => FixedBytes.replicate 28 0⟩
  db := marginDb
  nativeToken := fun _ _ _ _ _ => .error ()

/-- Five tokens were locked before the first block, none after it. -/
def lockedHistory : NativeTokenManagementDataSource Unit :=
  fun afterBlock _ _ _ _ => .ok (if afterBlock.isNone then 5 else 0)

/-- A handler that does nothing. -/
def keepState : TokenTransferHandler Unit := fun _ s => .ok s

/-- The scripts the native token pallet is configured with. -/
def plainScripts : NativeTokenPallet.MainChainScripts :=
  ⟨FixedBytes.replicate 28 0, AssetName.empty, "illiquid_supply"⟩

/-- The genesis block as a client stores it. -/
def genesisStored : StoredBlock CommitteeRun.exampleConfig PlainState Nat where
  header := { number := 0, logs := [], parentHash := 0, stateRoot := 0, extrinsicsRoot := 0 }
  state := ⟨0, firstSession, ⟨some plainScripts, false, ((), [])⟩⟩

/-- A header of the slot that refers to the first main chain block. -/
def plainHeader (number : Nat) (slot : UInt64) : BlockHeader Nat where
  number := number
  logs := [plainAura.preDigest slot] ++ fromMcBlockHash (marginMainchainBlock 1).hash
  parentHash := number - 1
  stateRoot := 0
  extrinsicsRoot := 0

/-- The timestamp, the beneficiary and a transfer of tokens, if there is one. -/
def plainBody (moment : UInt64) (amount : Option NativeTokenAmount) :
    List (Extrinsic CommitteeRun.exampleConfig BeneficiaryId) :=
  [⟨false, .timestamp moment⟩, ⟨false, .blockRewards (FixedBytes.replicate 32 7)⟩] ++
    amount.toList.map fun amount => ⟨false, .nativeToken (.transferTokens amount)⟩

/-- A sealed block as the import queue receives it. -/
def plainBlock (number : Nat) (slot : UInt64) (author : Nat) (moment : UInt64)
    (amount : Option NativeTokenAmount) : BlockImportParams CommitteeRun.exampleConfig Nat where
  header := (plainHeader number slot).push (plainSeal number author)
  body := some (plainBody moment amount)
  postDigests := []
  postHash := none
  forkChoice := none
  withState := false
  skipExecutionChecks := false

/-- Another third block. -/
def switchedDb : Db Unit :=
  { Db.empty Unit with
    block := [{ marginRow 3 with hash := FixedBytes.replicate 32 9 }, marginRow 2, marginRow 1]
    block_pkey := by decide
    block_words := by decide
    tx_block_id_fkey := by decide
    unique_block_hash := by decide
    numbered_complete := by decide
    chain := by decide }

/-- The sources of a node that sees `db`. -/
def plainSources (db : Db Unit) : DataSources Unit Unit :=
  { marginSources with db := db, nativeToken := lockedHistory }

/-- Switching to another branch above the deep blocks keeps them. -/
theorem switchedDb_keeps : KeepsDeep (plainSources marginDb) (plainSources switchedDb) where
  mcHash := rfl
  keeps := by
    refine ⟨?_, by decide⟩
    rintro block ⟨hblock, hdeep⟩
    have hall : ∀ block ∈ [marginBlock 3, marginBlock 2, marginBlock 1],
        block.blockNo + 1 ≤ 3 → ∃ row ∈ switchedDb.block, row.decode = .ok block := by decide
    exact hall block (mem_of_hasBlock_marginDb hblock) hdeep
  fits := by
    show Fits marginSource switchedDb
    decide

/-- A node with the given blocks, four and a half seconds after the start. -/
def plainNode (db : Db Unit) (client : Client CommitteeRun.exampleConfig PlainState Nat)
    (cache : List Block) (executed : List Nat) :
    Node CommitteeRun.exampleConfig PlainState Nat Nat Unit Unit where
  client := client
  sources := plainSources db
  now := 4500
  checkForEquivocation := true
  checkEquivocation := fun _ _ _ _ => .ok none
  cache := cache
  executed := executed

/-- The setting over `plainNetwork` and `keepState`. -/
def plainSetting (Moves : DataSources Unit Unit → DataSources Unit Unit → Prop)
    (Assumed : StoredBlock CommitteeRun.exampleConfig PlainState Nat →
      List (Extrinsic CommitteeRun.exampleConfig BeneficiaryId) →
      State CommitteeRun.exampleConfig PlainState → Prop) :
    Setting CommitteeRun.exampleConfig Unit Nat Nat Unit Unit :=
  ⟨plainNetwork PlainState, keepState, Moves, Assumed⟩

theorem plainNode_slot (db : Db Unit) (client : Client CommitteeRun.exampleConfig PlainState Nat)
    (cache : List Block) (executed : List Nat) :
    Verifier.slot (plainNetwork PlainState) (plainNode db client cache executed).toVerifier =
      4 := by
  show (4500 : UInt64) / 1000 = 4
  decide

theorem plainBody_inherents (moment : UInt64) (amount : Option NativeTokenAmount) :
    ∀ x ∈ plainBody moment amount, x.isInherent = true := by
  cases amount with
  | none => simp [plainBody, Extrinsic.isInherent, RuntimeCall.isInherent]
  | some amount =>
      simp [plainBody, Extrinsic.isInherent, RuntimeCall.isInherent, NativeTokenPallet.isInherent]

/-- A body in time passes the checks of the runtime. -/
theorem plainBody_checked {parent : StoredBlock CommitteeRun.exampleConfig PlainState Nat}
    {moment now : UInt64} {amount : Option NativeTokenAmount}
    (hnext : parent.state.session.committee.nextCommittee ≠ none)
    (hdrift : moment ≤ now + maxTimestampDriftMillis)
    (hperiod : parent.state.now + minimumPeriod ≤ moment) :
    checkInherents (plainNetwork PlainState) parent (plainBody moment amount)
      ⟨now, ⟨none⟩, amount⟩ = .ok () := by
  obtain ⟨data, hdata, hentries⟩ :=
    verifierData_createInherentData (plainNetwork PlainState) ⟨now, ⟨none⟩, amount⟩
  have hclock : (plainNetwork PlainState).runtime.timestampData data = some (some now) :=
    getData_of_lookup hentries.timestamp
  have htransfer : NativeTokenPallet.getTransferedTokensFromInherentData data =
      some (amount.map fun amount => ⟨amount⟩) := by
    cases amount with
    | none =>
        simp [NativeTokenPallet.getTransferedTokensFromInherentData, hentries.nativeToken]
    | some amount =>
        simp [NativeTokenPallet.getTransferedTokensFromInherentData, hentries.nativeToken,
          TokenTransferData.decode_encode]
  have hchecked : (plainNetwork PlainState).runtime.checkInherents data parent.state
      (plainBody moment amount) = .ok () := by
    rw [← List.append_nil (plainBody moment amount),
      checkInherents_iff (plainBody_inherents moment amount) (by simp), List.append_nil]
    refine ⟨?_, fun hnone => absurd hnone hnext, by simp [HasInherent, plainBody,
      isBlockRewardsInherent], by simp [NativeTokenPallet.isInherentRequired, htransfer], ?_⟩
    · intro x hx
      simp only [plainBody, List.cons_append, List.nil_append, List.mem_cons, List.mem_map,
        Option.mem_toList] at hx
      rcases hx with rfl | rfl | ⟨amount', hamount, rfl⟩
      · have hcheck := plainTimestamp_documented.check moment now parent.state.now hdrift hperiod
        simp only [Runtime.checkInherent, hclock]
        rw [show (plainNetwork PlainState).runtime.timestamp = plainTimestamp from rfl, hcheck]
      · rfl
      · simp [Runtime.checkInherent, NativeTokenPallet.checkInherent, htransfer, hamount]
    · intro e he
      cases amount with
      | none => simp [NativeTokenPallet.isInherentRequired, htransfer] at he
      | some amount =>
          simp [HasInherent, plainBody, isNativeTokenInherent, NativeTokenPallet.isInherent]
  simp only [checkInherents, hdata, hchecked]

/-- The first block after its import, which transfers the five tokens. -/
def firstImported : StoredBlock CommitteeRun.exampleConfig PlainState Nat where
  header := (plainBlock 1 3 2 3000 (some 5)).header
  state := ⟨3000, firstSession, ⟨some plainScripts, true, ((), [5])⟩⟩

/-- The second block after its import. -/
def secondImported : StoredBlock CommitteeRun.exampleConfig PlainState Nat where
  header := (plainBlock 2 4 1 6000 none).header
  state := ⟨6000, firstSession, ⟨some plainScripts, true, ((), [5])⟩⟩

/-- A client that has only the genesis block. -/
def genesisClient : Client CommitteeRun.exampleConfig PlainState Nat :=
  fun hash => if hash = 0 then some genesisStored else none

private theorem first_verified :
    ∃ result, (verify (plainNetwork PlainState)
      (plainNode marginDb genesisClient [] []).toVerifier []
      (plainBlock 1 3 2 3000 (some 5))).1 = .ok result := by
  have hverification : (newVerification slotTimestamp marginSource marginDb []
      genesisStored.header.toHeader none 3 (marginMainchainBlock 1).hash 1000).1 =
        .ok ⟨marginMainchainBlock 1⟩ :=
    newVerification_eq_genesis
      (marginDb_reference (.nil _ _) rfl rfl rfl (by decide) (by decide) (by decide))
  refine ⟨_, (verify_eq_ok_iff (plainNetwork_documented PlainState) rfl rfl).mpr ⟨genesisStored,
    plainHeader 1 3, 3, plainSeal 1 2, 2, (marginMainchainBlock 1).hash,
    ⟨rfl, rfl, rfl, by rw [plainNode_slot]; decide, rfl, rfl, rfl, fun _ => ⟨none, rfl⟩⟩, ?_,
    rfl⟩⟩
  exact verifyBody_eq_ok_iff.mpr ⟨genesisStored, none, ⟨marginMainchainBlock 1⟩,
    ⟨4500, ⟨none⟩, some 5⟩, rfl, rfl, hverification, rfl, rfl, rfl,
    fun _ => plainBody_checked (by simp [genesisStored, firstSession]) (by decide) (by decide)⟩

/-- Block 1 is still there. -/
theorem switchedDb_reference {cache : List Block}
    (hcache : CacheSound marginSource switchedDb cache) {slot ts : UInt64} {time : Int}
    (hts : slotTimestamp slot 1000 = some ts)
    (htime : marginSource.timestampToDbType ts = .ok time)
    (hvalid : marginSource.isBlockTimeValid (marginBlock 1) time = true) :
    (getMcStateReference slotTimestamp marginSource switchedDb cache slot
      (marginMainchainBlock 1).hash 1000).1 = .ok (marginMainchainBlock 1) := by
  rw [getMcStateReference_eq_ok]
  have hlookup := getStableBlockFor_eq hcache htime
    (show MainchainBlock.ofBlock (marginBlock 1) = .ok (marginMainchainBlock 1) from rfl)
    ⟨marginRow 1, by decide, rfl⟩ hvalid
  rw [show latestBlockNo switchedDb = 3 from rfl,
    show marginSource.isStable (marginBlock 1).blockNo 3 = true by decide] at hlookup
  exact ⟨ts, hts, hlookup⟩

private theorem second_verified {cache : List Block}
    (hcache : CacheSound marginSource switchedDb cache) :
    ∃ result, (verify (plainNetwork PlainState) (plainNode switchedDb
      (Function.update genesisClient 1 (some firstImported)) cache [1]).toVerifier cache
      (plainBlock 2 4 1 6000 none)).1 = .ok result := by
  have hreference : (getMcStateReference slotTimestamp marginSource switchedDb cache 4
      (marginMainchainBlock 1).hash 1000).1 = .ok (marginMainchainBlock 1) :=
    switchedDb_reference hcache rfl rfl (by decide)
  have hafter : CacheSound marginSource switchedDb (getMcStateReference slotTimestamp
      marginSource switchedDb cache 4 (marginMainchainBlock 1).hash 1000).2 :=
    getMcStateReference_cache cache 4 1000 _ hcache
  have hverification : (newVerification slotTimestamp marginSource switchedDb cache
      firstImported.header.toHeader (some 3) 4 (marginMainchainBlock 1).hash 1000).1 =
        .ok ⟨marginMainchainBlock 1⟩ := by
    have hdigest : valueFromDigest firstImported.header.logs =
        .ok (marginMainchainBlock 1).hash := rfl
    have hparent : (getMcStateReference slotTimestamp marginSource switchedDb
        (getMcStateReference slotTimestamp marginSource switchedDb cache 4
          (marginMainchainBlock 1).hash 1000).2 3 (marginMainchainBlock 1).hash 1000).1 =
        .ok (marginMainchainBlock 1) :=
      switchedDb_reference hafter rfl rfl (by decide)
    exact (newVerification_eq_parent hreference hdigest hparent).trans rfl
  refine ⟨_, (verify_eq_ok_iff (plainNetwork_documented PlainState) rfl rfl).mpr ⟨firstImported,
    plainHeader 2 4, 4, plainSeal 2 1, 1, (marginMainchainBlock 1).hash,
    ⟨rfl, rfl, rfl, by rw [plainNode_slot]; decide, rfl, rfl, rfl, fun _ => ⟨none, rfl⟩⟩, ?_,
    rfl⟩⟩
  exact verifyBody_eq_ok_iff.mpr ⟨firstImported, some 3, ⟨marginMainchainBlock 1⟩,
    ⟨4500, ⟨none⟩, none⟩, rfl, rfl, hverification, rfl, rfl, rfl,
    fun _ => plainBody_checked (by simp [firstImported, firstSession]) (by decide) (by decide)⟩

private theorem plainBody_first (moment : UInt64) (amount : Option NativeTokenAmount) :
    InherentsFirst (plainBody moment amount) :=
  ⟨plainBody moment amount, [], (List.append_nil _).symm, plainBody_inherents moment amount,
    by simp⟩

/-- The client after both imports. -/
def twoBlocks : Client CommitteeRun.exampleConfig PlainState Nat :=
  Function.update (Function.update genesisClient 1 (some firstImported)) 2 (some secondImported)

/-- Both blocks are imported, as long as nothing is assumed that they do not
meet. -/
theorem twoBlocks_run (Moves : DataSources Unit Unit → DataSources Unit Unit → Prop)
    (Assumed : StoredBlock CommitteeRun.exampleConfig PlainState Nat →
      List (Extrinsic CommitteeRun.exampleConfig BeneficiaryId) →
      State CommitteeRun.exampleConfig PlainState → Prop)
    (hmoves : Moves (plainSources marginDb) (plainSources switchedDb))
    (hfirst : Assumed genesisStored (plainBody 3000 (some 5)) firstImported.state)
    (hsecond : Assumed firstImported (plainBody 6000 none) secondImported.state) :
    ∃ cache, Relation.ReflTransGen (Step (plainSetting Moves Assumed))
      (plainNode marginDb genesisClient [] []) (plainNode switchedDb twoBlocks cache [2, 1]) := by
  obtain ⟨result, hverified⟩ := first_verified
  have hcache : CacheSound marginSource marginDb (verify (plainNetwork PlainState)
      (plainNode marginDb genesisClient [] []).toVerifier [] (plainBlock 1 3 2 3000 (some 5))).2 :=
    verify_cache (.nil _ _) _
  have hgood : StableCache (plainSources marginDb) _ := ⟨by decide, hcache⟩
  obtain ⟨result', hverified'⟩ := second_verified (hgood.keep switchedDb_keeps).cache
  have hstep : Step (plainSetting Moves Assumed) (plainNode marginDb genesisClient [] []) _ :=
    Step.imported (plainBlock 1 3 2 3000 (some 5)) firstImported.state rfl
      ⟨rfl, rfl, rfl, ⟨result, hverified⟩, rfl,
        ⟨rfl, plainBody_first _ _, ⟨bareCalls (plainBody 3000 (some 5)), rfl, rfl⟩⟩, hfirst⟩
  have hmove : ∀ cache, Step (plainSetting Moves Assumed)
      (plainNode marginDb (Function.update genesisClient 1 (some firstImported)) cache [1])
      (plainNode switchedDb (Function.update genesisClient 1 (some firstImported)) cache [1]) :=
    fun _ => Step.mainChainMoved hmoves
  have hstep' : Step (plainSetting Moves Assumed)
      (plainNode switchedDb (Function.update genesisClient 1 (some firstImported)) _ [1]) _ :=
    Step.imported (plainBlock 2 4 1 6000 none) secondImported.state rfl
      ⟨rfl, rfl, rfl, ⟨result', hverified'⟩, rfl,
        ⟨rfl, plainBody_first _ _, ⟨bareCalls (plainBody 6000 none), rfl, rfl⟩⟩, hsecond⟩
  exact ⟨_, ((Relation.ReflTransGen.single hstep).tail (hmove _)).tail hstep'⟩

/-- The second block of the example, with its author. -/
theorem imported_sealed_second :
    ∃ stored parent preHeader item slot author,
      twoBlocks 2 = some stored ∧ twoBlocks stored.header.parentHash = some parent ∧
      stored.header = preHeader.push item ∧
      plainAura.findPreDigest preHeader = .ok slot ∧
      plainAura.slotAuthor slot ((plainNetwork PlainState).authorities parent.state) =
        some author ∧
      item = plainSeal ((plainNetwork PlainState).hash preHeader) author := by
  obtain ⟨cache, hrun⟩ := twoBlocks_run (fun _ _ => True) (fun _ _ _ => True) trivial trivial
    trivial
  exact imported_sealed (plainNetwork_documented PlainState) rfl hrun
    (show 2 ∈ [2, 1] by decide)

/-- The references of the two blocks of the example. -/
theorem references_nondecreasing_second :
    ∃ earlier later, Refers 1 switchedDb firstImported.header.toHeader earlier ∧
      Refers 1 switchedDb secondImported.header.toHeader later ∧
      earlier.blockNo ≤ later.blockNo := by
  obtain ⟨cache, hrun⟩ := twoBlocks_run KeepsDeep (fun _ _ _ => True) switchedDb_keeps trivial
    trivial
  have hfirst : (plainNode switchedDb twoBlocks cache [2, 1]).client 1 = some firstImported := rfl
  have hsecond : (plainNode switchedDb twoBlocks cache [2, 1]).client 2 = some secondImported := rfl
  exact references_nondecreasing (plainNetwork_documented PlainState) (fun _ _ h => h) rfl rfl
    (show Fits marginSource marginDb by decide) hrun (show 1 ∈ [2, 1] by decide) hfirst
    (.child (.self firstImported) (show 2 ∈ [2, 1] by decide) hsecond rfl)

end PartnerChains.Ports.ImportedBlocks
