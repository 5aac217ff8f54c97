import Mathlib.Tactic.DeriveEncodable
import PartnerChains.Ports.BlockVerification
import PartnerChains.Ports.StoredCommittee

/-!
# The author and the nodes that import its block

A block goes from its author, who proposes and seals it, to nodes that verify
it with a clock and data sources of their own.  `verify_authorBlock` says what
a node makes of the block of an honest author, if its data sources give the
same committee inputs and native tokens as the author's: the result is that of
the check of the main chain reference, so nothing else stands in the way of the
block.  When two databases give the same inputs is the subject of
`PrefixOutcome`; the same chain up to the reference is not enough.
-/

namespace PartnerChains.Ports.BlockAgreement

open PartnerChains.Ports.Domain
open PartnerChains.Ports.DbSync
open PartnerChains.Ports.UtxoText
open PartnerChains.Ports.McHash
open PartnerChains.Ports.AriadneProvider
open PartnerChains.Ports.BlockDataSource
open PartnerChains.Ports.StableProposal
open PartnerChains.Ports.McReference
open PartnerChains.Ports.NativeTokenPallet (InherentIdentifier InherentData NativeTokenAmount
  TokenTransferData putData)
open PartnerChains.Ports.NativeTokenRun (NativeTokenManagementDataSource provideInherentData
  newInherentDataProvider)
open PartnerChains.Ports.NodeRuntime
open PartnerChains.Ports.BlockProposal
open PartnerChains.Ports.BlockVerification
open PartnerChains.Ports.CandidatesQuery
open PartnerChains.Ports.RegistrationsInForce (genesisBlock)
open PartnerChains.Ports.TokenHolders (dPolicyExample pPolicyExample)
open PartnerChains.Ports.PrefixOutcome (lateScripts)
open PartnerChains.Ports.StoredCommittee
open PartnerChains.Verified.Fallible

variable {Id Keys Account H A S BlockHash AuthorityId J E : Type}
  {config : SessionPallet.Config Id Keys Account H A}

/-! ## Blocks of an honest author -/

/-- What a peer gets: a block to be executed, with the seal in its header. -/
def received (block : BlockImportParams config BlockHash) : BlockImportParams config BlockHash where
  header := postHeader block
  body := block.body
  postDigests := []
  postHash := none
  forkChoice := none
  withState := false
  skipExecutionChecks := false

/-- The data sources of the verifier answer as those of the author did, for a
block of a slot whose parent has the given runtime: the main chain block has
the same epoch, the inputs of the committee selection are the same if they are
asked for, and so is the amount of native tokens locked up to the block. -/
structure SameAnswers [DecidableEq J] (network : Network config S BlockHash AuthorityId)
    (author verifier : DataSources J E) (cache : List Block) (parentApi : RuntimeApi ApiError)
    (slot : UInt64) (mcBlock : MainchainBlock) : Prop where
  epoch : ∀ ts found, (verifier.mcHash.getStableBlockFor verifier.db cache mcBlock.hash ts).1 =
    .ok (some found) → found.epoch = mcBlock.epoch
  inputs : ∀ forEpoch scripts,
    dataRequest network.aura.slotTimestamp network.inherentConfig.scSlotConfig
      network.inherentConfig.mcEpochConfig parentApi slot mcBlock.epoch =
        .ok (some (forEpoch, scripts)) →
    fromMcData verifier.lib verifier.db forEpoch scripts =
      fromMcData author.lib author.db forEpoch scripts
  nativeToken : ∀ after, verifier.nativeToken after mcBlock.hash =
    author.nativeToken after mcBlock.hash

/-- A node that has the main chain block finds it or nothing. -/
theorem found_of_getStableBlockFor {source : BlockDataSourceImpl} {db : Db J} {cache : List Block}
    (hcache : CacheSound source db cache) {block : Block} (hblock : HasBlock db block)
    {mcBlock : MainchainBlock} (hof : MainchainBlock.ofBlock block = .ok mcBlock) {ts : UInt64}
    {found : MainchainBlock}
    (h : (source.getStableBlockFor db cache mcBlock.hash ts).1 = .ok (some found)) :
    found = mcBlock := by
  unfold BlockDataSourceImpl.getStableBlockFor at h
  cases htime : source.timestampToDbType ts with
  | error e => simp [htime] at h
  | ok time =>
      simp only [htime] at h
      rw [hcache.getStableBlockByHash, (ofBlock_eq_ok hof).2,
        hblock.getStableBlockByHashFromDb] at h
      split at h
      · simp only [Except.bind, hof, Except.map, Except.ok.injEq, Option.some.injEq] at h
        rw [h]
      · cases h

section SameAnswers

variable [DecidableEq J] {network : Network config S BlockHash AuthorityId}
  {author verifier : DataSources J E} {cache : List Block} {parentApi : RuntimeApi ApiError}
  {slot : UInt64} {mcBlock : MainchainBlock}

private theorem SameAnswers.newAriadne
    (h : SameAnswers network author verifier cache parentApi slot mcBlock) :
    AriadneInherentDataProvider.new network.aura.slotTimestamp network.inherentConfig.scSlotConfig
        network.inherentConfig.mcEpochConfig verifier.lib verifier.db parentApi slot
        mcBlock.epoch =
      AriadneInherentDataProvider.new network.aura.slotTimestamp
        network.inherentConfig.scSlotConfig network.inherentConfig.mcEpochConfig author.lib
        author.db parentApi slot mcBlock.epoch := by
  rw [new_eq, new_eq]
  rcases hrequest : dataRequest network.aura.slotTimestamp network.inherentConfig.scSlotConfig
      network.inherentConfig.mcEpochConfig parentApi slot mcBlock.epoch with
    e | (_ | ⟨forEpoch, scripts⟩)
  · rfl
  · rfl
  · simp only [Except.bind, h.inputs forEpoch scripts hrequest]

/-- The providers of the native token agree as well. -/
theorem SameAnswers.newNativeToken
    (h : SameAnswers network author verifier cache parentApi slot mcBlock)
    (client : Client config S BlockHash) (parentHash : BlockHash) :
    client.newNativeToken verifier.nativeToken mcBlock.hash parentHash =
      client.newNativeToken author.nativeToken mcBlock.hash parentHash := by
  simp only [Client.newNativeToken, newInherentDataProvider, h.nativeToken]

end SameAnswers

section HonestAuthor

variable {network : Network config S BlockHash AuthorityId}

private theorem exists_putData (data : InherentData) (identifier : InherentIdentifier)
    (h : data.lookup identifier = none) (value : Bytes) :
    ∃ data', putData data identifier value = some data' := by
  have hnew : identifier ∉ data.map Prod.fst := by
    intro hmem
    obtain ⟨entry, hentry, rfl⟩ := List.mem_map.mp hmem
    simpa using List.lookup_eq_none_iff.mp h entry hentry
  exact ⟨_, if_neg hnew⟩

/-- The entries of the verifier's inherent data. -/
structure VerifierData (network : Network config S BlockHash AuthorityId)
    (providers : VerifierProviders) (data : InherentData) : Prop where
  timestamp : data.lookup timestampIdentifier =
    some (network.runtime.timestampCodec.encode providers.timestamp)
  ariadne : data.lookup ariadneIdentifier =
    providers.ariadne.data.map network.runtime.inputsCodec.encode
  nativeToken : data.lookup NativeTokenPallet.inherentIdentifier =
    providers.nativeToken.map fun amount => TokenTransferData.encode ⟨amount⟩

/-- The three identifiers differ, so the data can be put together. -/
theorem verifierData_createInherentData (network : Network config S BlockHash AuthorityId)
    (providers : VerifierProviders) :
    ∃ data, providers.createInherentData network = some data ∧
      VerifierData network providers data := by
  obtain ⟨data₁, h₁⟩ := exists_putData [] timestampIdentifier rfl
    (network.runtime.timestampCodec.encode providers.timestamp)
  have hnone : ∀ identifier, identifier ≠ timestampIdentifier →
      data₁.lookup identifier = none := by
    intro identifier hne
    rw [lookup_putData h₁, if_neg hne, List.lookup_nil]
  obtain ⟨data₂, h₂⟩ :
      ∃ data₂, provideAriadne network.runtime.inputsCodec providers.ariadne data₁ =
        some data₂ := by
    unfold provideAriadne
    cases providers.ariadne.data with
    | none => exact ⟨data₁, rfl⟩
    | some inputs => exact exists_putData _ _ (hnone _ (by decide)) _
  have hafter := lookup_provideAriadne h₂ (hnone _ (by decide))
  have hnative : data₂.lookup NativeTokenPallet.inherentIdentifier = none := by
    rw [hafter, if_neg (by decide), hnone _ (by decide)]
  obtain ⟨data₃, h₃⟩ :
      ∃ data₃, provideInherentData providers.nativeToken data₂ = some data₃ := by
    unfold provideInherentData
    cases providers.nativeToken with
    | none => exact ⟨data₂, rfl⟩
    | some amount => exact exists_putData _ _ hnative _
  have hfinal := lookup_provideInherentData h₃ hnative
  refine ⟨data₃, ?_, ?_, ?_, ?_⟩
  · simp only [VerifierProviders.createInherentData, h₁, h₂, h₃, Option.bind_eq_bind,
      Option.bind_some]
  · rw [hfinal, if_neg (by decide), hafter, if_neg (by decide), lookup_putData h₁, if_pos rfl]
  · rw [hfinal, if_neg (by decide), hafter, if_pos rfl]
  · rw [hfinal, if_pos rfl]

variable [DecidableEq J] {keystore : Keystore BlockHash AuthorityId}
  {client : Client config S BlockHash} {sources : DataSources J E} {hex : HexDecoder}
  {env : String → Option String} {proposer : Proposer config BlockHash} {now : UInt64}
  {parentHash : BlockHash} {parent : StoredBlock config S BlockHash}
  {providers : ProposalProviders} {data : InherentData} {proposal : Proposal config BlockHash}
  {author : AuthorityId} {item : DigestItem} {block : BlockImportParams config BlockHash}

/-- What the author reads from its clock and its data sources. -/
theorem createProposalProviders_eq_ok
    (h : createProposalProviders network client sources hex env now parentHash =
      .ok providers) :
    providers.timestamp = now ∧
      newProposal network.aura.slotTimestamp sources.mcHash sources.db providers.slot
        network.inherentConfig.scSlotConfig.slotDuration = .ok providers.mcHash ∧
      AriadneInherentDataProvider.new network.aura.slotTimestamp
        network.inherentConfig.scSlotConfig network.inherentConfig.mcEpochConfig sources.lib
        sources.db (client.runtimeApi parentHash) providers.slot providers.mcHash.mcBlock.epoch =
          .ok providers.ariadne ∧
      client.newNativeToken sources.nativeToken providers.mcHash.mcBlock.hash parentHash =
        .ok providers.nativeToken := by
  unfold createProposalProviders at h
  obtain ⟨mcHash, hmcHash, h⟩ := bind_eq_ok.mp h
  obtain ⟨ariadne, hariadne, h⟩ := bind_eq_ok.mp h
  obtain ⟨beneficiary, -, h⟩ := bind_eq_ok.mp h
  obtain ⟨nativeToken, hnativeToken, h⟩ := bind_eq_ok.mp h
  obtain rfl := Except.ok.inj h
  exact ⟨rfl, mapError_eq_ok.mp hmcHash, mapError_eq_ok.mp hariadne, hnativeToken⟩

omit [DecidableEq J] in
private theorem runtimeApi_congr {client client' : Client config S BlockHash}
    (h : client parentHash = client' parentHash) :
    client.runtimeApi parentHash = client'.runtimeApi parentHash := by
  unfold Client.runtimeApi
  rw [h]

variable {verifier : Verifier config S BlockHash AuthorityId J E}

omit [DecidableEq J] in
/-- The header of an authored block passes everything but the check of its
reference. -/
theorem headerVerified_of_builds [DecidableEq Account]
    {Sealed : BlockHash → AuthorityId → DigestItem → Prop}
    (haura : network.aura.Documented network.hash Sealed)
    (hkeystore : keystore.Documented network.aura Sealed) {slot : UInt64} {mcHash : McBlockHash}
    (hbuilds : Builds network parentHash parent slot data
      (preDigestData network.aura slot ++ fromMcBlockHash mcHash) proposal)
    (hclaim : keystore.claimSlot slot (network.authorities parent.state) = some author)
    (hseal : keystore.sealHeader (network.hash proposal.header) author = .ok item)
    (hparent : verifier.client parentHash = some parent)
    (hslot : slot ≤ verifier.slot network + 1)
    (hequivocation : ∀ header, ∃ found, verifier.checkEquivocation (verifier.slot network + 1)
      slot header author = .ok found) :
    HeaderVerified network Sealed verifier (proposal.header.push item) parent proposal.header
      slot item author mcHash := by
  obtain ⟨deposited, hlogs, hdeposited⟩ := hbuilds.logs
  obtain ⟨bytes, hpre⟩ := haura.preDigest slot
  refine ⟨?_, rfl, ?_, hslot, hkeystore.claimSlot _ _ _ hclaim,
    hkeystore.sealHeader _ _ _ hseal, ?_, fun _ => hequivocation _⟩
  · show verifier.client proposal.header.parentHash = some parent
    rw [hbuilds.parentHash, hparent]
  · refine haura.findPreDigest proposal.header [] slot (fromMcBlockHash mcHash ++ deposited)
      (by rw [hbuilds.number]; exact Nat.succ_ne_zero _) (by simp [hlogs, preDigestData]) ?_
    intro item hitem
    rw [List.nil_append] at hitem
    rcases List.mem_append.mp hitem with hreference | hdeposit
    · rw [List.mem_singleton.mp hreference]
      show mcHashDigestId ≠ auraEngineId
      decide
    · have hother := hdeposited item hdeposit
      cases item with
      | preRuntime engine bytes => exact absurd rfl (hother engine bytes)
      | consensus | sealed | other | runtimeEnvironmentUpdated => exact id
  · show valueFromDigest (proposal.header.logs ++ [item]) = _
    rw [hlogs, List.append_assoc]
    refine valueFromDigest_fromMcBlockHash (preDigestData network.aura slot)
      (deposited ++ [item]) ?_ mcHash
    intro item hitem
    rw [List.mem_singleton.mp hitem, hpre]
    show auraEngineId ≠ mcHashDigestId
    decide

variable [DecidableEq Id] [DecidableEq Keys] [DecidableEq Account]

/-- The body of an authored block is refused for its reference or not at
all. -/
theorem verifyBody_of_builds {cache : List Block} {parentSlot : Option UInt64}
    (htimestamp : network.runtime.timestamp.Documented)
    (hproviders : createProposalProviders network client sources hex env now parentHash =
      .ok providers)
    (hdata : providers.createInherentData network = some data) {logs : List DigestItem}
    (hbuilds : Builds network parentHash parent providers.slot data logs proposal)
    (hparent : client parentHash = some parent)
    (hverifierParent : verifier.client parentHash = some parent)
    (hparentSlot : slotFromPredigest network.aura parent.header = .ok parentSlot)
    (hanswers : SameAnswers network sources verifier.sources cache
      (client.runtimeApi parentHash) providers.slot providers.mcHash.mcBlock)
    (hdrift : nextMoment now parent.state.now ≤ verifier.now + maxTimestampDriftMillis) :
    (verifyBody network verifier cache parentHash providers.slot providers.mcHash.mcBlock.hash
        proposal.body).1 =
      ((newVerification network.aura.slotTimestamp verifier.sources.mcHash verifier.sources.db
        cache parent.header.toHeader parentSlot providers.slot providers.mcHash.mcBlock.hash
        network.inherentConfig.scSlotConfig.slotDuration).1.mapError
          (.providers ∘ .mcHash)).map fun _ => () := by
  obtain ⟨htime, hproposal, hariadne, hnative⟩ := createProposalProviders_eq_ok hproviders
  rw [verifyBody_fst, createVerifierProviders_fst, hverifierParent]
  cases hverification : (newVerification network.aura.slotTimestamp verifier.sources.mcHash
      verifier.sources.db cache parent.header.toHeader parentSlot providers.slot
      providers.mcHash.mcBlock.hash network.inherentConfig.scSlotConfig.slotDuration).1 with
  | error e =>
      simp only [okOr, Except.bind, Except.mapError, hparentSlot, hverification]
      rfl
  | ok provider =>
      have hepoch : provider.mcBlock.epoch = providers.mcHash.mcBlock.epoch := by
        obtain ⟨ts, -, hfound⟩ :=
          getMcStateReference_eq_ok.mp (reference_of_newVerification hverification)
        exact hanswers.epoch ts _ hfound
      have hsame : verifier.client parentHash = client parentHash := by
        rw [hverifierParent, hparent]
      have hnative' : verifier.client.newNativeToken verifier.sources.nativeToken
          providers.mcHash.mcBlock.hash parentHash = .ok providers.nativeToken := by
        rw [hanswers.newNativeToken, ← hnative, Client.newNativeToken, Client.newNativeToken, hsame]
      obtain ⟨data', hdata', hentries'⟩ := verifierData_createInherentData network
        ⟨verifier.now, providers.ariadne, providers.nativeToken⟩
      have hentries := proposalData_of_createInherentData hdata
      obtain ⟨session, events, inherents, transactions, hinit, hinherents, hbody,
        htransactions⟩ := hbuilds.body
      have hcheck : network.runtime.checkInherents data' parent.state proposal.body = .ok () := by
        rw [hbody]
        exact checkInherents_inherentExtrinsics htimestamp hinit hinherents
          ⟨hentries'.ariadne.trans hentries.ariadne.symm,
            hentries'.nativeToken.trans hentries.nativeToken.symm⟩
          (getData_of_lookup (htime ▸ hentries.timestamp)) (getData_of_lookup hentries'.timestamp)
          hdrift htransactions
      simp only [okOr, Except.bind, Except.mapError, hparentSlot, hverification, hepoch,
        runtimeApi_congr hsame, hanswers.newAriadne, hariadne, hnative', checkInherents, hdata',
        hcheck]
      split
      · rfl
      · rfl

/-- A block of an honest author, verified with execution checks by a node that
knows the parent, whose data sources answer as the author's did, whose clock is
not too far behind and whose check for equivocations does not itself fail: the
result is that of the check of the main chain reference. -/
theorem verify_authorBlock {Sealed : BlockHash → AuthorityId → DigestItem → Prop}
    (haura : network.aura.Documented network.hash Sealed)
    (hkeystore : keystore.Documented network.aura Sealed)
    (htimestamp : network.runtime.timestamp.Documented)
    (hproviders : createProposalProviders network client sources hex env now parentHash =
      .ok providers)
    (hblock : authorBlock network keystore client sources hex env proposer now parentHash =
      .ok block)
    (hparent : client parentHash = some parent)
    (hproposer : ∀ data logs proposal, proposer data logs = .ok proposal →
      Builds network parentHash parent providers.slot data logs proposal)
    (hverifierParent : verifier.client parentHash = some parent) {parentSlot : Option UInt64}
    (hparentSlot : slotFromPredigest network.aura parent.header = .ok parentSlot)
    {cache : List Block} (hanswers : SameAnswers network sources verifier.sources cache
      (client.runtimeApi parentHash) providers.slot providers.mcHash.mcBlock)
    (hslot : providers.slot ≤ verifier.slot network + 1)
    (hdrift : nextMoment now parent.state.now ≤ verifier.now + maxTimestampDriftMillis)
    (hequivocation : ∀ slotNow slot header author,
      ∃ found, verifier.checkEquivocation slotNow slot header author = .ok found) :
    (verify network verifier cache (received block)).1 =
      ((newVerification network.aura.slotTimestamp verifier.sources.mcHash verifier.sources.db
        cache parent.header.toHeader parentSlot providers.slot providers.mcHash.mcBlock.hash
        network.inherentConfig.scSlotConfig.slotDuration).1.mapError
          (.providers ∘ .mcHash)).map fun _ =>
            { block with postHash := some (network.hash (postHeader block)) } := by
  obtain ⟨parent', providers', data, proposal, author, item, hauthored⟩ :=
    authorBlock_eq_ok hblock
  obtain rfl := Option.some.inj (hparent.symm.trans hauthored.parent_eq)
  obtain rfl := Except.ok.inj (hproviders.symm.trans hauthored.providers_eq)
  have hbuilds := hproposer _ _ _ hauthored.proposal_eq
  obtain rfl := hauthored.block_eq
  have hheader : HeaderVerified network Sealed verifier (proposal.header.push item) parent
      proposal.header providers.slot item author providers.mcHash.mcBlock.hash :=
    headerVerified_of_builds haura hkeystore hbuilds hauthored.claim_eq hauthored.seal_eq
      hverifierParent hslot fun header => hequivocation _ _ _ _
  rw [verify_of_headerVerified haura (received _) rfl rfl hheader]
  have hbody := verifyBody_of_builds htimestamp hproviders hauthored.data_eq hbuilds hparent
    hverifierParent hparentSlot hanswers hdrift
  rw [← hbuilds.parentHash] at hbody
  show (verifyBody network verifier cache proposal.header.parentHash providers.slot
    providers.mcHash.mcBlock.hash proposal.body).1.map _ = _
  rw [hbody]
  cases (newVerification network.aura.slotTimestamp verifier.sources.mcHash verifier.sources.db
    cache parent.header.toHeader parentSlot providers.slot providers.mcHash.mcBlock.hash
    network.inherentConfig.scSlotConfig.slotDuration).1 with
  | error e => rfl
  | ok provider => rfl

end HonestAuthor

/-! ## A block on a longer main chain

Hashes are block numbers, and a seal names its hash and its author.  The main
chain has a block in each second and epochs of three seconds.  A block of slot
5, in which the committee of epoch 3 is to be set, refers to block 3 of the
main chain; the parent of slot 4 has referred to block 2.  The author has five
blocks of the main chain; the verifier has six, and in the last one the only
permissioned candidate is replaced and more tokens are locked. -/

/-- A slot is written as that many bytes. -/
def plainSlot : DigestItem → Option UInt64
  | .preRuntime engine bytes =>
      if engine = auraEngineId then some (UInt64.ofNat bytes.length) else none
  | _ => none

/-- There has to be one item with a slot. -/
def plainFindPreDigest (header : BlockHeader Nat) : Except PreDigestLookupError UInt64 :=
  match header.logs.filterMap plainSlot with
  | [] => .error .noDigestFound
  | [slot] => .ok slot
  | _ => .error .multipleHeaders

/-- A seal is the hash and the author, as they are. -/
def plainSeal (hash author : Nat) : DigestItem :=
  .sealed auraEngineId [UInt8.ofNat hash, UInt8.ofNat author]

/-- The authorities take turns. -/
def plainSlotAuthor (slot : UInt64) (authorities : List Nat) : Option Nat :=
  authorities[slot.toNat % authorities.length]?

/-- The Aura library for headers whose hashes are numbers. -/
def plainAura : AuraLibrary Nat Nat where
  slotFromTimestamp := fun now slotDuration => now / slotDuration
  slotTimestamp := slotTimestamp
  findPreDigest := plainFindPreDigest
  preDigest := fun slot => .preRuntime auraEngineId (List.replicate slot.toNat 0)
  slotAuthor := plainSlotAuthor
  checkHeaderSlotAndSeal := fun slotNow header authorities => do
    let item ← okOr header.logs.getLast? .unsealed
    let pre := { header with logs := header.logs.dropLast }
    let slot ← (plainFindPreDigest pre).mapError .invalidPreDigest
    if slot ≤ slotNow then
      let author ← okOr (plainSlotAuthor slot authorities) .slotAuthorNotFound
      if item = plainSeal pre.number author then .ok (pre, slot, item) else .error .badSignature
    else .error (.deferred header slot)

/-- A keystore with the key of one author. -/
def plainKeystore (author : Nat) : Keystore Nat Nat where
  claimSlot := fun slot authorities => (plainSlotAuthor slot authorities).filter (· = author)
  sealHeader := fun hash author => .ok (plainSeal hash author)

/-- The example library does what the documentation of Aura says. -/
theorem plainAura_documented :
    plainAura.Documented (fun header => header.number)
      (fun hash author item => item = plainSeal hash author) where
  preDigest := fun slot => ⟨_, rfl⟩
  findPreDigest := by
    intro header before slot after _ hlogs hothers
    have hnone : ∀ item ∈ before ++ after, plainSlot item = none := by
      intro item hitem
      have hnot := hothers item hitem
      cases item with
      | preRuntime engine bytes => exact if_neg hnot
      | consensus | sealed | other | runtimeEnvironmentUpdated => rfl
    have hbefore : before.filterMap plainSlot = [] :=
      List.filterMap_eq_nil_iff.mpr fun item hitem => hnone item (List.mem_append_left _ hitem)
    have hafter : after.filterMap plainSlot = [] :=
      List.filterMap_eq_nil_iff.mpr fun item hitem => hnone item (List.mem_append_right _ hitem)
    simp [plainAura, plainFindPreDigest, hlogs, hbefore, hafter, plainSlot]
  checkHeader := by
    intro slotNow header pre authorities slot item
    constructor
    · intro h
      obtain ⟨last, hlast, h⟩ := bind_eq_ok.mp h
      obtain ⟨found, hfound, h⟩ := bind_eq_ok.mp h
      split at h
      · next hle =>
          obtain ⟨author, hauthor, h⟩ := bind_eq_ok.mp h
          split at h
          · next hseal =>
              obtain ⟨rfl, rfl, rfl⟩ : _ = pre ∧ found = slot ∧ last = item := by
                simpa using h
              refine ⟨?_, mapError_eq_ok.mp hfound, hle, author, okOr_eq_ok.mp hauthor, hseal⟩
              simp [BlockHeader.push, List.dropLast_append_getLast? _ (okOr_eq_ok.mp hlast)]
          · cases h
      · cases h
    · rintro ⟨rfl, hslot, hle, author, hauthor, rfl⟩
      have hslot' : plainFindPreDigest pre = .ok slot := hslot
      have hauthor' : plainSlotAuthor slot authorities = some author := hauthor
      simp [plainAura, BlockHeader.push, okOr, hslot', hauthor', hle, bind, Except.bind,
        Except.mapError]

private theorem plainKeystore_documented (author : Nat) :
    (plainKeystore author).Documented plainAura
      (fun hash author item => item = plainSeal hash author) where
  claimSlot := fun _ _ _ h => (Option.filter_eq_some_iff.mp h).1
  sealHeader := fun _ _ _ h => (Except.ok.inj h).symm

/-- The timestamp pallet, with its drift and its minimum period. -/
def plainTimestamp : TimestampPallet where
  createInherent := fun data now =>
    match data with
    | some (some clock) => .ok (nextMoment clock now)
    | _ => .error "Timestamp inherent data must be provided"
  checkInherent := fun moment data now =>
    match data with
    | some (some clock) =>
        if clock + maxTimestampDriftMillis < moment then .ok (.error .tooFarInFuture)
        else if moment < now + minimumPeriod then .ok (.error .tooEarly)
        else .ok (.ok ())
    | _ => .error "Timestamp inherent data not correctly encoded"

theorem plainTimestamp_documented : plainTimestamp.Documented where
  create := fun _ _ => rfl
  check := by
    intro moment clock now hdrift hperiod
    simp [plainTimestamp, UInt64.not_lt.mpr hdrift, UInt64.not_lt.mpr hperiod]

instance encodableUInt8 : Encodable UInt8 :=
  Encodable.ofLeftInverse UInt8.toNat UInt8.ofNat (by simp)

instance encodableUInt16 : Encodable UInt16 :=
  Encodable.ofLeftInverse UInt16.toNat UInt16.ofNat (by simp)

instance encodableUInt64 : Encodable UInt64 :=
  Encodable.ofLeftInverse UInt64.toNat UInt64.ofNat (by simp)

instance encodableFixedBytes (n : Nat) : Encodable (FixedBytes n) :=
  Encodable.ofLeftInjection FixedBytes.bytes (FixedBytes.tryFrom n) FixedBytes.tryFrom_bytes

deriving instance Encodable for DParameter
deriving instance Encodable for UtxoId
deriving instance Encodable for UtxoInfo
deriving instance Encodable for RegistrationData
deriving instance Encodable for CandidateRegistrations
deriving instance Encodable for PermissionedCandidateData
deriving instance Encodable for AuthoritySelectionInputs

/-- A value is written as that many bytes. -/
def unaryCodec (α : Type) [Encodable α] : Codec α where
  encode := fun a => List.replicate (Encodable.encode a) 0
  decode := fun bytes => Encodable.decode bytes.length
  decode_encode := by simp

/-- The network of the example, with the selection of `StoredCommittee`. -/
def longerNetwork : Network replacedConfig Unit Nat Nat where
  aura := plainAura
  hash := fun header => header.number
  runtime := ⟨replacedSelect, plainTimestamp, unaryCodec _, unaryCodec _, unaryCodec _⟩
  authorities := fun st => st.session.committee.currentCommittee.committee.items.map Prod.fst
  blockBuilderVersion := fun _ => 6
  slotCodec := unaryCodec _
  inherentConfig := ⟨⟨0, 3000, 0⟩, ⟨2, 1000⟩⟩

private theorem longerNetwork_documented :
    longerNetwork.aura.Documented longerNetwork.hash
      (fun hash author item => item = plainSeal hash author) := plainAura_documented

/-- A block in each second. -/
def secondRow (n : UInt8) : BlockRow := { marginRow n with epochNo := some (n.toNat / 3) }

/-- The block of a second, as the data source reports it. -/
def secondMainchainBlock (n : UInt8) : MainchainBlock :=
  ⟨n.toNat, FixedBytes.replicate 32 n, n.toNat / 3, n.toNat, n.toNat⟩

/-- A main chain with a block in every second.  The longer one has one block more,
which spends an output with a governance token. -/
def secondsDb (longer : Bool) : Db ReplacedJson :=
  { Db.empty ReplacedJson with
    block := [secondRow 5, secondRow 4, secondRow 3, secondRow 2, secondRow 1, genesisBlock] ++
      if longer then [secondRow 6] else []
    tx := [⟨0, FixedBytes.replicate 32 10, 0, 0⟩, ⟨1, FixedBytes.replicate 32 11, 2, 0⟩] ++
      if longer then [⟨2, FixedBytes.replicate 32 12, 6, 0⟩] else []
    txIn := [⟨0, 1, 0, 0⟩] ++ if longer then [⟨1, 2, 1, 1⟩] else []
    txOut := [⟨0, 0, 0, "wallet", none⟩,
      ⟨2, 1, 0, "governance", some (FixedBytes.replicate 32 20)⟩,
      ⟨3, 1, 1, "governance", some (FixedBytes.replicate 32 21)⟩] ++
      if longer then [⟨4, 2, 0, "governance", some (FixedBytes.replicate 32 22)⟩] else []
    datum := [⟨0, FixedBytes.replicate 32 20, 1, some .dParameter⟩,
      ⟨1, FixedBytes.replicate 32 21, 1, some (.candidate 1)⟩] ++
      if longer then [⟨2, FixedBytes.replicate 32 22, 2, some (.candidate 2)⟩] else []
    multiAsset := [⟨0, dPolicyExample, AssetName.empty⟩, ⟨1, pPolicyExample, AssetName.empty⟩]
    maTxOut := [⟨0, 1, 2, 0⟩, ⟨1, 1, 3, 1⟩] ++ if longer then [⟨2, 1, 4, 1⟩] else []
    block_pkey := by cases longer <;> decide
    block_words := by cases longer <;> decide
    tx_pkey := by cases longer <;> decide
    unique_tx := by cases longer <;> decide
    tx_block_id_fkey := by cases longer <;> decide
    tx_in_pkey := by cases longer <;> decide
    tx_out_pkey := by cases longer <;> decide
    multi_asset_pkey := replacedDb.multi_asset_pkey
    unique_multi_asset := replacedDb.unique_multi_asset
    ma_tx_out_pkey := by cases longer <;> decide
    unique_ma_tx_out := by cases longer <;> decide
    ma_tx_out_ident_fkey := by cases longer <;> decide
    unique_block_hash := by cases longer <;> decide
    numbered_complete := by cases longer <;> decide
    chain := by cases longer <;> decide }

private theorem secondsDb_unregistered (longer : Bool) : Unregistered (secondsDb longer) where
  ledger :=
    { unique_txout := by cases longer <;> decide
      tx_out_tx_id_fkey := by cases longer <;> decide
      tx_in_tx_in_id_fkey := by cases longer <;> decide
      unique_datum := by cases longer <;> decide
      txindex := by cases longer <;> decide
      consumes_output := by cases longer <;> decide
      spent_once := by cases longer <;> decide
      numbered := by cases longer <;> decide
      epoch_numbered := by cases longer <;> decide
      stake_lt := by
        intro epoch
        simp [secondsDb, Db.empty] }
  address := by cases longer <;> decide
  nonce := rfl

/-- For both nodes the candidate of epoch 0 is the first one. -/
theorem secondsDb_inputs (longer : Bool) :
    fromMcData replacedLibraries (secondsDb longer) 2 lateScripts = .ok (replacedInputs 1) := by
  apply (secondsDb_unregistered longer).fromMcData_eq (le_refl 2) (by decide)
  apply parametersAt_candidate <;> cases longer <;> decide

/-- Seven tokens are locked in each block. -/
def lockedUpTo (mcHash : McBlockHash) : NativeTokenAmount :=
  BitVec.ofNat 128 (7 * (mcHash.bytes.headD 0).toNat)

/-- The data source of a node that knows the blocks up to a number. -/
def lockedSource (known : UInt8) : NativeTokenManagementDataSource Unit :=
  fun afterBlock toBlock _ _ _ =>
    if toBlock.bytes.headD 0 ≤ known then
      .ok (lockedUpTo toBlock - (afterBlock.map lockedUpTo).getD 0)
    else .error ()

/-- The data sources of the author, and those of a node that has seen one block
more. -/
def secondsSources (longer : Bool) : DataSources ReplacedJson Unit where
  mcHash := marginSource
  lib := replacedLibraries
  db := secondsDb longer
  nativeToken := lockedSource (if longer then 6 else 5)

/-- The committee of epoch 2 is in charge, and the next one is not known. -/
def parentSession : SessionPallet.State replacedConfig :=
  { replacedState₀ with
    blockNumber := 4
    currentSlot := 4
    epochNumber := some 2
    committee :=
      { replacedState₀.committee with
        currentCommittee :=
          ⟨2, CommitteePallet.BoundedVec.truncateFrom 32 [(1, []), (2, [])]⟩ } }

/-- The parent, whose reference is the second block. -/
def parentStored : StoredBlock replacedConfig Unit Nat where
  header :=
    { number := 4
      logs := [plainAura.preDigest 4] ++ fromMcBlockHash (secondMainchainBlock 2).hash ++
        [plainSeal 4 1]
      parentHash := 3
      stateRoot := 0
      extrinsicsRoot := 0 }
  state := ⟨2000, parentSession,
    ⟨some ⟨FixedBytes.replicate 28 0, AssetName.empty, "illiquid_supply"⟩, true, ()⟩⟩

/-- A node that has the parent only. -/
def parentClient : Client replacedConfig Unit Nat :=
  fun hash => if hash = 4 then some parentStored else none

/-- The beneficiary is in the environment. -/
def plainEnv : String → Option String :=
  fun _ => some (String.ofList (hexEncode (FixedBytes.replicate 32 7).bytes))

/-- The session after the block has been initialized. -/
def childSession : SessionPallet.State replacedConfig :=
  { parentSession with blockNumber := 5, currentSlot := 5 }

/-- The proposer puts the inherents into the block, and nothing else. -/
def plainProposer : Proposer replacedConfig Nat := fun data logs => do
  let inherents ← longerNetwork.runtime.inherentExtrinsics data
    { parentStored.state with session := childSession }
  .ok ⟨{ number := 5, logs := logs, parentHash := 4, stateRoot := 0, extrinsicsRoot := 0 },
    inherents⟩

/-- What the author provides: the third block, the inputs of its committee, and
seven tokens. -/
def childProviders : ProposalProviders :=
  ⟨5, 5000, ⟨secondMainchainBlock 3⟩, ⟨some (replacedInputs 1)⟩, FixedBytes.replicate 32 7,
    some 7⟩

private theorem secondsDb_latest :
    getLatestBlockInfo (secondsDb false) =
      .ok (some ⟨5, FixedBytes.replicate 32 5, 1, 5, 5000⟩) := by
  show fetchOptional BlockRow.decode (Verified.Relational.orderByDesc (fun b => sortKey b.blockNo)
    [secondRow 5, secondRow 4, secondRow 3, secondRow 2, secondRow 1]) = _
  rw [Verified.Relational.orderByDesc_of_pairwise (by decide)]
  rfl

private theorem secondsDb_proposal :
    newProposal slotTimestamp marginSource (secondsDb false) 5 1000 =
      .ok ⟨secondMainchainBlock 3⟩ := by
  have hlatest : BlockDataSourceImpl.latestBlockInfo (secondsDb false) =
      .ok (secondMainchainBlock 5) := by
    rw [BlockDataSourceImpl.latestBlockInfo, secondsDb_latest]
    rfl
  have hblock : marginSource.getLatestBlock (secondsDb false) 3 5000 =
      .ok (some ⟨3, FixedBytes.replicate 32 3, 1, 3, 3000⟩) := by
    show (fetchOptional BlockRow.decode (Verified.Relational.orderByDesc
      (fun b => sortKey b.blockNo) [secondRow 3, secondRow 2])).mapError _ = _
    rw [Verified.Relational.orderByDesc_of_pairwise (by decide)]
    rfl
  have hstable : marginSource.getLatestStableBlockFor (secondsDb false) 5000 =
      .ok (some (secondMainchainBlock 3)) := by
    rw [BlockDataSourceImpl.getLatestStableBlockFor, hlatest]
    show (marginSource.getLatestBlock (secondsDb false) 3 5000).bind _ = _
    rw [hblock]
    rfl
  rw [newProposal, show slotTimestamp 5 1000 = some 5000 from rfl]
  simp only [hstable]

/-- The verifier finds the blocks that it is given the hashes of. -/
theorem secondsDb_reference {cache : List Block}
    (hcache : CacheSound marginSource (secondsDb true) cache) {n : UInt8} {slot ts : UInt64}
    {time : Int} (hts : slotTimestamp slot 1000 = some ts)
    (htime : marginSource.timestampToDbType ts = .ok time) {block : Block}
    (hof : MainchainBlock.ofBlock block = .ok (secondMainchainBlock n))
    (hrow : secondRow n ∈ (secondsDb true).block) (hdecode : (secondRow n).decode = .ok block)
    (hvalid : marginSource.isBlockTimeValid block time = true)
    (hstable : marginSource.isStable block.blockNo 6 = true) :
    (getMcStateReference slotTimestamp marginSource (secondsDb true) cache slot
      (secondMainchainBlock n).hash 1000).1 = .ok (secondMainchainBlock n) := by
  rw [getMcStateReference_eq_ok]
  have hlookup := getStableBlockFor_eq hcache htime hof ⟨secondRow n, hrow, hdecode⟩ hvalid
  rw [show latestBlockNo (secondsDb true) = 6 from rfl, hstable] at hlookup
  exact ⟨ts, hts, hlookup⟩

/-- The request for the committee of epoch 3. -/
theorem parentStored_request :
    dataRequest slotTimestamp ⟨2, 1000⟩ ⟨0, 3000, 0⟩ (parentClient.runtimeApi 4) 5 1 =
      .ok (some (2, lateScripts)) := rfl

/-- The providers of the second author, computed. -/
theorem childProviders_eq :
    createProposalProviders longerNetwork parentClient (secondsSources false) lowerHex plainEnv
      5000 4 = .ok childProviders := by
  have hproposal : newProposal longerNetwork.aura.slotTimestamp (secondsSources false).mcHash
      (secondsSources false).db 5 1000 = .ok ⟨secondMainchainBlock 3⟩ := secondsDb_proposal
  have hariadne : AriadneInherentDataProvider.new longerNetwork.aura.slotTimestamp ⟨2, 1000⟩
      ⟨0, 3000, 0⟩ (secondsSources false).lib (secondsSources false).db
      (parentClient.runtimeApi 4) 5 1 = .ok ⟨some (replacedInputs 1)⟩ := by
    rw [new_eq]
    show (dataRequest slotTimestamp ⟨2, 1000⟩ ⟨0, 3000, 0⟩ (parentClient.runtimeApi 4) 5 1).bind
      _ = _
    rw [parentStored_request]
    simp only [Except.bind, secondsSources, secondsDb_inputs]
    rfl
  have hbeneficiary : beneficiaryFromEnv lowerHex plainEnv "SIDECHAIN_BLOCK_BENEFICIARY" =
      .ok (FixedBytes.replicate 32 7) := by
    simp [beneficiaryFromEnv, plainEnv, lowerHex.fromHex_hexEncode]
  have hnative : parentClient.newNativeToken (secondsSources false).nativeToken
      (secondMainchainBlock 3).hash 4 = .ok (some 7) := rfl
  unfold createProposalProviders
  refine bind_eq_ok.mpr ⟨⟨secondMainchainBlock 3⟩, mapError_eq_ok.mpr hproposal, ?_⟩
  refine bind_eq_ok.mpr ⟨⟨some (replacedInputs 1)⟩, mapError_eq_ok.mpr hariadne, ?_⟩
  refine bind_eq_ok.mpr ⟨FixedBytes.replicate 32 7, mapError_eq_ok.mpr hbeneficiary, ?_⟩
  exact bind_eq_ok.mpr ⟨some 7, hnative, rfl⟩

private theorem plainProposer_builds {data : InherentData} {logs : List DigestItem}
    {proposal : Proposal replacedConfig Nat} (h : plainProposer data logs = .ok proposal) :
    Builds longerNetwork 4 parentStored 5 data logs proposal := by
  obtain ⟨inherents, hinherents, h⟩ := bind_eq_ok.mp h
  obtain rfl := Except.ok.inj h
  refine ⟨rfl, rfl, ⟨[], (List.append_nil _).symm, by simp⟩, ?_⟩
  exact ⟨childSession, [], inherents, [], rfl, hinherents, (List.append_nil _).symm, by simp⟩

/-- The header before it is sealed. -/
def childHeader : BlockHeader Nat where
  number := 5
  logs := [plainAura.preDigest 5] ++ fromMcBlockHash (secondMainchainBlock 3).hash
  parentHash := 4
  stateRoot := 0
  extrinsicsRoot := 0

/-- The block sets the committee of epoch 3 and releases the tokens of the third
block of the main chain. -/
def childBody : List (Extrinsic replacedConfig BeneficiaryId) :=
  [⟨false, .timestamp 5000⟩, ⟨false, .committee (.set (replacedCommittee 1) 3)⟩,
    ⟨false, .blockRewards (FixedBytes.replicate 32 7)⟩,
    ⟨false, .nativeToken (.transferTokens 7)⟩]

/-- The block that the author hands to the import. -/
def childBlock : BlockImportParams replacedConfig Nat where
  header := childHeader
  body := some childBody
  postDigests := [plainSeal 5 2]
  postHash := none
  forkChoice := some .longestChain
  withState := false
  skipExecutionChecks := false

private theorem childInherents_eq {data : InherentData}
    (hentries : ProposalData longerNetwork childProviders data) :
    longerNetwork.runtime.inherentExtrinsics data
      { parentStored.state with session := childSession } = .ok childBody := by
  have hclock : longerNetwork.runtime.timestampData data = some (some 5000) :=
    getData_of_lookup hentries.timestamp
  have hinputs : longerNetwork.runtime.ariadneData data = some (some (replacedInputs 1)) :=
    getData_of_lookup hentries.ariadne
  have hcommittee : CommitteePallet.createInherent longerNetwork.runtime.selectAuthorities
      (some (some (replacedInputs 1))) childSession.committee =
        .ok (some (.set (replacedCommittee 1) 3)) := by
    have hselect : longerNetwork.runtime.selectAuthorities (replacedInputs 1) 3 =
        some (replacedCommittee 1) := replacedSelect_eq 1 3
    have hcalculated : CommitteePallet.calculateCommitteeFromInherentData
        longerNetwork.runtime.selectAuthorities (some (some (replacedInputs 1))) 3 =
          .ok (some (replacedCommittee 1)) := congrArg Except.ok hselect
    rw [CommitteePallet.createInherent, if_neg (by decide)]
    show (CommitteePallet.calculateCommitteeFromInherentData
      longerNetwork.runtime.selectAuthorities (some (some (replacedInputs 1))) 3).bind _ = _
    rw [hcalculated]
    rfl
  have hbeneficiary : longerNetwork.runtime.getBeneficiaryFromInherentData data =
      .ok (FixedBytes.replicate 32 7) := by
    rw [Runtime.getBeneficiaryFromInherentData, getData_of_lookup hentries.beneficiary]
    rfl
  have hnative : Runtime.nativeTokenInherent data = .ok (some (.transferTokens 7)) := by
    simp [Runtime.nativeTokenInherent, NativeTokenPallet.createInherent,
      NativeTokenPallet.getTransferedTokensFromInherentData, hentries.nativeToken,
      childProviders, TokenTransferData.decode_encode]
  unfold Runtime.inherentExtrinsics
  rw [hclock, hinputs, hcommittee, hbeneficiary, hnative]
  rfl

private theorem childBlock_eq :
    authorBlock longerNetwork (plainKeystore 2) parentClient (secondsSources false) lowerHex
      plainEnv plainProposer 5000 4 = .ok childBlock := by
  obtain ⟨data, hdata⟩ :
      ∃ data, childProviders.createInherentData longerNetwork = some data := ⟨_, rfl⟩
  have hentries := proposalData_of_createInherentData hdata
  have hproposal : propose plainProposer data (preDigestData longerNetwork.aura 5) =
      .ok ⟨childHeader, childBody⟩ := by
    unfold propose
    rw [fromInherentData_of_lookup hentries.mcHash]
    show plainProposer data _ = _
    unfold plainProposer
    rw [childInherents_eq hentries]
    rfl
  unfold authorBlock
  refine bind_eq_ok.mpr ⟨childProviders, by rw [childProviders_eq]; rfl, ?_⟩
  refine bind_eq_ok.mpr ⟨[1, 2], rfl, bind_eq_ok.mpr ⟨2, rfl, ?_⟩⟩
  refine bind_eq_ok.mpr ⟨data, by rw [hdata]; rfl, ?_⟩
  exact bind_eq_ok.mpr ⟨⟨childHeader, childBody⟩, mapError_eq_ok.mpr hproposal, rfl⟩

/-- A node that is further than the author, one and a half seconds later. -/
def longerVerifier : Verifier replacedConfig Unit Nat Nat ReplacedJson Unit where
  client := parentClient
  sources := secondsSources true
  now := 6500
  checkForEquivocation := true
  checkEquivocation := fun _ _ _ _ => .ok none

private theorem secondsSources_answers :
    SameAnswers longerNetwork (secondsSources false) (secondsSources true) []
      (parentClient.runtimeApi 4) 5 (secondMainchainBlock 3) where
  epoch := by
    intro ts found hfound
    have hblock : HasBlock (secondsDb true) ⟨3, FixedBytes.replicate 32 3, 1, 3, 3000⟩ :=
      ⟨secondRow 3, by decide, rfl⟩
    rw [found_of_getStableBlockFor (.nil _ _) hblock rfl hfound]
    rfl
  inputs := by
    intro forEpoch scripts hrequest
    obtain ⟨rfl, rfl⟩ : 2 = forEpoch ∧ lateScripts = scripts := by
      simpa using parentStored_request.symm.trans hrequest
    exact (secondsDb_inputs true).trans (secondsDb_inputs false).symm
  nativeToken := fun _ => rfl

/-- The verifier sees a longer main chain than the author did, and accepts. -/
theorem verify_authorBlock_longer :
    (verify longerNetwork longerVerifier [] (received childBlock)).1 =
      .ok { childBlock with postHash := some 5 } := by
  have hsound := CacheSound.nil marginSource (secondsDb true)
  have hreference : (getMcStateReference slotTimestamp marginSource (secondsDb true) [] 5
      (secondMainchainBlock 3).hash 1000).1 = .ok (secondMainchainBlock 3) :=
    secondsDb_reference hsound rfl rfl rfl (by decide) rfl (by decide) (by decide)
  have hafter : CacheSound marginSource (secondsDb true) (getMcStateReference slotTimestamp
      marginSource (secondsDb true) [] 5 (secondMainchainBlock 3).hash 1000).2 :=
    getMcStateReference_cache [] 5 1000 _ hsound
  have hverification : (newVerification longerNetwork.aura.slotTimestamp
      longerVerifier.sources.mcHash longerVerifier.sources.db [] parentStored.header.toHeader
      (some 4) childProviders.slot childProviders.mcHash.mcBlock.hash
      longerNetwork.inherentConfig.scSlotConfig.slotDuration).1 =
        .ok ⟨secondMainchainBlock 3⟩ := by
    have hdigest : valueFromDigest parentStored.header.logs =
        .ok (secondMainchainBlock 2).hash := rfl
    have hparent : (getMcStateReference slotTimestamp marginSource (secondsDb true)
        (getMcStateReference slotTimestamp marginSource (secondsDb true) [] 5
          (secondMainchainBlock 3).hash 1000).2 4 (secondMainchainBlock 2).hash 1000).1 =
        .ok (secondMainchainBlock 2) :=
      secondsDb_reference hafter rfl rfl rfl (by decide) rfl (by decide) (by decide)
    exact (newVerification_eq_parent hreference hdigest hparent).trans rfl
  rw [verify_authorBlock longerNetwork_documented (plainKeystore_documented 2)
    plainTimestamp_documented childProviders_eq childBlock_eq rfl
    (fun _ _ _ => plainProposer_builds) rfl
    (show slotFromPredigest longerNetwork.aura parentStored.header = .ok (some 4) from rfl)
    secondsSources_answers (by decide) (by decide) (fun _ _ _ _ => ⟨none, rfl⟩), hverification]
  rfl

end PartnerChains.Ports.BlockAgreement
