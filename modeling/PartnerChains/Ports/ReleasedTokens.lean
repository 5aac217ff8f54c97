import PartnerChains.Ports.ImportedBlocks

/-!
# Locked and released tokens, whoever authors the blocks

What the check of the inherents in each imported block adds up to over a whole
chain.  Authors are not assumed to be honest; a block that is not refused
releases what its verifiers have seen locked, or the same amount again if it
repeats the call.
-/

namespace PartnerChains.Ports.ReleasedTokens

open PartnerChains.Ports.Domain
open PartnerChains.Ports.DbSync
open PartnerChains.Ports.McHash
open PartnerChains.Ports.BlockDataSource
open PartnerChains.Ports.McReference
open PartnerChains.Ports.StableBlockCache (Fits)
open PartnerChains.Ports.NativeTokenPallet (InherentData NativeTokenAmount TokenTransferHandler
  InherentsChecked observedAmount transferAmounts recording sumAmounts)
open PartnerChains.Ports.NativeTokenRun (NativeTokenManagementDataSource totalFor Additive
  ChainInvariant newInherentDataProvider_ok ite_pos_getD)
open PartnerChains.Ports.NodeRuntime
open PartnerChains.Ports.BlockProposal
open PartnerChains.Ports.BlockAgreement
open PartnerChains.Ports.ImportedBlocks

variable {Id Keys Account H A S BlockHash AuthorityId J E : Type}
  {config : SessionPallet.Config Id Keys Account H A}

/-- The blocks of a run call `transfer_tokens` at most once, and leave the
scripts alone. -/
structure TransfersOnce (parent : StoredBlock config (S × List NativeTokenAmount) BlockHash)
    (body : List (Extrinsic config BeneficiaryId))
    (state : State config (S × List NativeTokenAmount)) : Prop where
  once : (transferAmounts (bareCalls body)).length ≤ 1
  scripts : state.nativeToken.mainChainScriptsConfiguration =
    parent.state.nativeToken.mainChainScriptsConfiguration

/-- The order of the main chain on the hashes of its deep blocks. -/
def InOrder (sources : DataSources J E) (a b : McBlockHash) : Prop :=
  ∃ blockA blockB, Deep sources.mcHash.securityParameter sources.db blockA ∧
    Deep sources.mcHash.securityParameter sources.db blockB ∧ blockA.hash = a ∧
    blockB.hash = b ∧ blockA.blockNo ≤ blockB.blockNo

/-- The genesis block, with nothing released. -/
structure GenesisTokens (scripts : NativeTokenPallet.MainChainScripts)
    (stored : StoredBlock config (S × List NativeTokenAmount) BlockHash) : Prop where
  number : stored.header.number = 0
  configured : stored.state.nativeToken.mainChainScriptsConfiguration = some scripts
  uninitialized : stored.state.nativeToken.initialized = false
  nothingHandled : stored.state.nativeToken.handlerState.2 = []

variable {handler : TokenTransferHandler S} {history : NativeTokenManagementDataSource E}
  {scripts : NativeTokenPallet.MainChainScripts} {sources : DataSources J E}
  {parent child : StoredBlock config (S × List NativeTokenAmount) BlockHash}

/-- One block releases the amount that was observed. -/
theorem sumAmounts_of_checked {data : InherentData}
    {dispatched : List NativeTokenPallet.Extrinsic} (hchecked : InherentsChecked data dispatched)
    (honce : (transferAmounts dispatched).length ≤ 1) :
    sumAmounts (transferAmounts dispatched) = (observedAmount data).toNat := by
  have hsum : sumAmounts (transferAmounts dispatched) =
      (transferAmounts dispatched).length * (observedAmount data).toNat := by
    rw [sumAmounts, NativeTokenPallet.transferAmounts_eq_replicate hchecked]
    simp
  by_cases hzero : observedAmount data = 0
  · simp [hsum, hzero]
  · have hpos := List.length_pos_iff.mpr
      (NativeTokenPallet.transferAmounts_ne_nil hchecked hzero)
    rw [hsum, show (transferAmounts dispatched).length = 1 by omega, Nat.one_mul]

private theorem chainInvariant_of_genesis (h : GenesisTokens scripts child) :
    ∃ reference, ChainInvariant history scripts child.forNativeToken reference :=
  ⟨none, h.configured, by simp [StoredBlock.forNativeToken, getMcHashForBlock, h.number],
    fun _ => h.nothingHandled, fun _ => h.uninitialized, by simp⟩

/-- The reference that the parent has reached is not above the one of the child. -/
private theorem inOrder_of_linked {last mcHash : McBlockHash}
    (hlinked : ReferenceLink sources parent child)
    (hread : getMcHashForBlock (some parent.forNativeToken.header) = .ok (some last))
    (hdigest : valueFromDigest child.header.logs = .ok mcHash) : InOrder sources last mcHash := by
  have hnumber : parent.header.number ≠ 0 := by
    intro hzero
    simp [StoredBlock.forNativeToken, getMcHashForBlock, hzero] at hread
  obtain ⟨block, hrefers, hparent⟩ := hlinked.reference
  obtain ⟨parentBlock, hparentRefers, hle⟩ := hparent hnumber
  simp only [StoredBlock.forNativeToken, getMcHashForBlock, hnumber, if_false,
    hparentRefers.digest, Except.ok.injEq, Option.some.injEq] at hread
  have hhash : block.hash = mcHash := Except.ok.inj (hrefers.digest.symm.trans hdigest)
  exact ⟨parentBlock, block, hparentRefers.deep, hrefers.deep, hread, hhash, hle⟩

private theorem chainInvariant_of_linked {reference : Option McBlockHash}
    (hadditive : Additive history scripts (InOrder sources))
    (hinv : ChainInvariant history scripts parent.forNativeToken reference)
    (hlinked : ReferenceLink sources parent child)
    (htokens : TokenLink handler TransfersOnce history parent child) :
    ∃ mcHash, ChainInvariant history scripts child.forNativeToken (some mcHash) := by
  obtain ⟨mcHash, body, amount, data, dispatched, hdigest, hprovider, hobserved, hchecked,
    hbare, hexecuted, hassumed⟩ := htokens
  obtain ⟨parentMcHash, total, hrange, htotal, rfl⟩ :=
    newInherentDataProvider_ok hinv.configured hprovider
  have hnumber : child.header.number ≠ 0 := by
    rw [hlinked.number]
    exact Nat.succ_ne_zero _
  obtain ⟨hlog, hflag⟩ := NativeTokenPallet.executeBlock_recording handler _ hexecuted
  have hsum : sumAmounts child.state.nativeToken.handlerState.2 =
      sumAmounts parent.state.nativeToken.handlerState.2 + total.toNat := by
    have hreleased := sumAmounts_of_checked hchecked (hbare ▸ hassumed.once)
    rw [hobserved, ite_pos_getD] at hreleased
    rw [hlog, ← hreleased, sumAmounts, List.map_append, List.sum_append]
    rfl
  have hbelow : ∀ last, reference = some last → InOrder sources last mcHash := by
    rintro last rfl
    exact inOrder_of_linked hlinked hinv.reads_reference hdigest
  obtain ⟨all, hall, hadd⟩ := hinv.total_next hadditive hbelow hrange htotal
  refine ⟨mcHash, ?_⟩
  refine
    { configured := hassumed.scripts.trans hinv.configured
      reads_reference := ?_
      uninitialized := ?_
      genesis := by simp
      conserved := ?_ }
  · simp [StoredBlock.forNativeToken, getMcHashForBlock, hnumber, hdigest]
  · intro hfalse
    obtain ⟨hparentFlag, hempty⟩ := Bool.or_eq_false_iff.mp (hflag.symm.trans hfalse)
    have hnil : transferAmounts dispatched = [] := by simpa using hempty
    show child.state.nativeToken.handlerState.2 = []
    rw [hlog, hnil, List.append_nil]
    exact hinv.uninitialized hparentFlag
  · intro _ heq
    obtain rfl := Option.some.inj heq
    exact ⟨all, hall, hsum.trans hadd⟩

/-- What a step of the run keeps: the main chain, and the history of the native
tokens. -/
structure KeepsHistory (history : NativeTokenManagementDataSource E)
    (sources sources' : DataSources J E) : Prop where
  keepsDeep : KeepsDeep sources sources'
  reports : Reports history sources'.nativeToken

/-- The block comes after one of the start, by way of blocks that were imported
with execution checks. -/
inductive Descends (start node : Node config S BlockHash AuthorityId J E) :
    StoredBlock config S BlockHash → Prop where
  | start {hash : BlockHash} {stored : StoredBlock config S BlockHash}
      (stored_eq : start.client hash = some stored) : Descends start node stored
  | child {hash : BlockHash} {parent stored : StoredBlock config S BlockHash}
      (ofParent : Descends start node parent) (executed : hash ∈ node.executed)
      (stored_eq : node.client hash = some stored)
      (parent_eq : node.client stored.header.parentHash = some parent) : Descends start node stored

section Runs

variable [DecidableEq Id] [DecidableEq Keys] [DecidableEq J]
  {setting : Setting config S BlockHash AuthorityId J E}
  {Sealed : BlockHash → AuthorityId → DigestItem → Prop}
  {start node : Node config (S × List NativeTokenAmount) BlockHash AuthorityId J E}

private theorem token_rule (haura : setting.network.aura.Documented setting.network.hash Sealed)
    (hversion : ∀ st, 2 ≤ setting.network.blockBuilderVersion st)
    (hmoves : ∀ sources sources', setting.Moves sources sources' →
      KeepsHistory history sources sources') :
    LinkRule setting
      (fun sources cache => StableCache sources cache ∧ Reports history sources.nativeToken)
      (fun sources parent child => ReferenceLink sources parent child ∧
        TokenLink setting.handler setting.Assumed history parent child) := by
  have hreference := reference_rule haura fun _ _ hmove => (hmoves _ _ hmove).keepsDeep
  constructor
  · exact fun node block hgood => ⟨hreference.verify node block hgood.1, hgood.2⟩
  · intro node _ _ _ _ hgood hpasses
    exact ⟨hreference.link node hgood.1 hpasses, hpasses.tokenLink haura hversion hgood.2⟩
  · intro _ _ _ hmove hgood
    exact ⟨hreference.moves_good hmove hgood.1, (hmoves _ _ hmove).reports⟩
  · exact fun hmove hlink => ⟨hreference.moves_link hmove hlink.1, hlink.2⟩

variable [DecidableEq BlockHash]

/-- Up to every block of a chain that was imported with execution checks, the
tokens that were released are those that were locked up to the main chain block
that it refers to. -/
theorem released_eq_locked
    (haura : setting.network.aura.Documented setting.network.hash Sealed)
    (hversion : ∀ st, 2 ≤ setting.network.blockBuilderVersion st)
    (hmoves : ∀ sources sources', setting.Moves sources sources' →
      KeepsHistory history sources sources')
    (honce : setting.Assumed = TransfersOnce)
    (hstart : start.executed = []) (hcache : start.cache = [])
    (hfits : Fits start.sources.mcHash start.sources.db)
    (hreports : Reports history start.sources.nativeToken)
    (hgenesis : ∀ hash stored, start.client hash = some stored → GenesisTokens scripts stored)
    (hrun : Relation.ReflTransGen (Step setting) start node)
    (hadditive : Additive history scripts (InOrder node.sources))
    {stored : StoredBlock config (S × List NativeTokenAmount) BlockHash}
    (hdescends : Descends start node stored) (hnumber : stored.header.number ≠ 0)
    {mcHash : McBlockHash} (hreference : valueFromDigest stored.header.logs = .ok mcHash) :
    ∃ total : NativeTokenAmount, totalFor history scripts none mcHash = .ok total ∧
      sumAmounts stored.state.nativeToken.handlerState.2 = total.toNat := by
  have hinv := (token_rule haura hversion hmoves).run
    ⟨.initial hcache hfits, hreports⟩ hstart hrun
  have hchain : ∃ reference, ChainInvariant history scripts stored.forNativeToken reference := by
    clear hnumber hreference
    induction hdescends with
    | start stored_eq => exact chainInvariant_of_genesis (hgenesis _ _ stored_eq)
    | child _ executed stored_eq parent_eq ih =>
        obtain ⟨reference, hchain⟩ := ih
        obtain ⟨parent, hparent, hlink, htokens⟩ := hinv.linked_of_stored executed stored_eq
        obtain rfl := Option.some.inj (parent_eq.symm.trans hparent)
        obtain ⟨mcHash, hchild⟩ :=
          chainInvariant_of_linked hadditive hchain hlink (honce ▸ htokens)
        exact ⟨some mcHash, hchild⟩
  obtain ⟨reference, hchain⟩ := hchain
  have hread := hchain.reads_reference
  simp only [StoredBlock.forNativeToken, getMcHashForBlock, hnumber, if_false, hreference,
    Except.ok.injEq] at hread
  exact hchain.conserved mcHash hread.symm

end Runs

/-- Five tokens are locked, and released in the first block. -/
theorem released_eq_locked_second :
    ∃ total : NativeTokenAmount,
      totalFor lockedHistory plainScripts none (marginMainchainBlock 1).hash = .ok total ∧
      sumAmounts secondImported.state.nativeToken.handlerState.2 = total.toNat := by
  obtain ⟨cache, hrun⟩ := twoBlocks_run (KeepsHistory lockedHistory) TransfersOnce
    ⟨switchedDb_keeps, fun _ _ _ _ _ _ h => h⟩ ⟨by decide, rfl⟩ ⟨by decide, rfl⟩
  have hgenesis : ∀ hash stored,
      (plainNode marginDb genesisClient [] []).client hash = some stored →
        GenesisTokens plainScripts stored := by
    intro hash stored hstored
    simp only [plainNode, genesisClient, Option.ite_none_right_eq_some] at hstored
    obtain rfl := Option.some.inj hstored.2
    exact ⟨rfl, rfl, rfl, rfl⟩
  have hadditive : Additive lockedHistory plainScripts (InOrder (plainSources switchedDb)) := by
    intro a b x y _ hx hy
    obtain rfl : (5 : NativeTokenAmount) = x := Except.ok.inj hx
    obtain rfl : (0 : NativeTokenAmount) = y := Except.ok.inj hy
    exact ⟨5, rfl, rfl⟩
  have hstart : (plainNode marginDb genesisClient [] []).client 0 = some genesisStored := rfl
  have hfirst : (plainNode switchedDb twoBlocks cache [2, 1]).client 1 = some firstImported := rfl
  have hsecond : (plainNode switchedDb twoBlocks cache [2, 1]).client 2 = some secondImported := rfl
  exact released_eq_locked (plainNetwork_documented PlainState) (fun _ => show 2 ≤ 6 by decide)
    (fun _ _ h => h) rfl rfl rfl (show Fits marginSource marginDb by decide)
    (fun _ _ _ _ _ _ h => h) hgenesis hrun hadditive
    (.child (.child (.start hstart) (show 1 ∈ [2, 1] by decide) hfirst rfl)
      (show 2 ∈ [2, 1] by decide) hsecond rfl) (by decide) rfl

end PartnerChains.Ports.ReleasedTokens
