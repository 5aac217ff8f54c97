import PartnerChains.Ports.CandidateFilter
import PartnerChains.Ports.McReference
import PartnerChains.Ports.NativeTokenRun
import PartnerChains.Ports.NodeRuntime
import PartnerChains.Ports.UtxoText

/-!
# Proposing a block

The port of `ProposalCIDP`, `PartnerChainsProposer` and `AuraWorker`.  The
author of a block reads the slot off its clock and collects inherent data: the
time, the latest stable block of the main chain, the inputs of the committee
selection, its beneficiary and the native tokens that were locked.  The hash of
the main chain block goes from the inherent data into the digest of the header,
after the pre-digest of the slot; the block is then sealed.

The functions of `sc_consensus_aura`, the local keystore and the proposer that
is wrapped are parameters, with what is documented about them.
`authorBlock_eq_ok` says what an authored block looks like.
-/

namespace PartnerChains.Ports.BlockProposal

open PartnerChains.Ports.Domain
open PartnerChains.Ports.DbSync
open PartnerChains.Ports.UtxoText
open PartnerChains.Ports.McHash
open PartnerChains.Ports.CandidatesQuery
open PartnerChains.Ports.AriadneProvider
open PartnerChains.Ports.BlockDataSource
open PartnerChains.Ports.McReference
open PartnerChains.Ports.NativeTokenPallet (InherentIdentifier InherentData NativeTokenAmount
  TokenTransferData putData)
open PartnerChains.Ports.NativeTokenRun
open PartnerChains.Ports.NodeRuntime
open PartnerChains.Verified.Fallible

/-! ## Headers -/

/-- A header with the fields that only the hash depends on. -/
structure BlockHeader (BlockHash : Type) extends Header where
  parentHash : BlockHash
  stateRoot : BlockHash
  extrinsicsRoot : BlockHash

/-- An item is put at the end of the digest. -/
def BlockHeader.push {BlockHash : Type} (header : BlockHeader BlockHash) (item : DigestItem) :
    BlockHeader BlockHash :=
  { header with logs := header.logs ++ [item] }

/-! ## The consensus library -/

/-- `*b"aura"`. -/
def auraEngineId : FixedBytes 4 := ⟨[97, 117, 114, 97], rfl⟩

/-- The item is of Aura, and before the seal. -/
def IsAuraPreDigest : DigestItem → Prop
  | .preRuntime engine _ => engine = auraEngineId
  | _ => False

/-- `PreDigestLookupError`. -/
inductive PreDigestLookupError where
  | multipleHeaders
  | noDigestFound
deriving DecidableEq

/-- `SealVerificationError`; a header from the future is deferred. -/
inductive SealVerificationError (BlockHash : Type) where
  | deferred (header : BlockHeader BlockHash) (slot : UInt64)
  | unsealed
  | badSeal
  | badSignature
  | slotAuthorNotFound
  | invalidPreDigest (error : PreDigestLookupError)

/-- The functions of `sc_consensus_aura` and `sp_consensus_slots`. -/
structure AuraLibrary (BlockHash AuthorityId : Type) where
  slotFromTimestamp : UInt64 → UInt64 → UInt64
  slotTimestamp : UInt64 → UInt64 → Option UInt64
  findPreDigest : BlockHeader BlockHash → Except PreDigestLookupError UInt64
  preDigest : UInt64 → DigestItem
  slotAuthor : UInt64 → List AuthorityId → Option AuthorityId
  checkHeaderSlotAndSeal : UInt64 → BlockHeader BlockHash → List AuthorityId →
    Except (SealVerificationError BlockHash) (BlockHeader BlockHash × UInt64 × DigestItem)

/-- The keys of an author. -/
structure Keystore (BlockHash AuthorityId : Type) where
  claimSlot : UInt64 → List AuthorityId → Option AuthorityId
  /-- `seal`. -/
  sealHeader : BlockHash → AuthorityId → Except String DigestItem

/-- What the library documents.  `Sealed` says that an item is a seal with a
signature of the hash by the authority. -/
structure AuraLibrary.Documented {BlockHash AuthorityId : Type}
    (aura : AuraLibrary BlockHash AuthorityId) (hash : BlockHeader BlockHash → BlockHash)
    (Sealed : BlockHash → AuthorityId → DigestItem → Prop) : Prop where
  preDigest : ∀ slot, ∃ data, aura.preDigest slot = .preRuntime auraEngineId data
  findPreDigest : ∀ (header : BlockHeader BlockHash) before slot after, header.number ≠ 0 →
    header.logs = before ++ aura.preDigest slot :: after →
    (∀ item ∈ before ++ after, ¬ IsAuraPreDigest item) → aura.findPreDigest header = .ok slot
  /-- The seal is the last item; the slot is not in the future; the author of
  the slot has signed the header without the seal. -/
  checkHeader : ∀ slotNow (header pre : BlockHeader BlockHash) authorities slot item,
    aura.checkHeaderSlotAndSeal slotNow header authorities = .ok (pre, slot, item) ↔
      header = pre.push item ∧ aura.findPreDigest pre = .ok slot ∧ slot ≤ slotNow ∧
        ∃ author, aura.slotAuthor slot authorities = some author ∧ Sealed (hash pre) author item

/-- The keystore claims slots of its own authorities only, and its seals are good. -/
structure Keystore.Documented {BlockHash AuthorityId : Type}
    (keystore : Keystore BlockHash AuthorityId) (aura : AuraLibrary BlockHash AuthorityId)
    (Sealed : BlockHash → AuthorityId → DigestItem → Prop) : Prop where
  claimSlot : ∀ slot authorities author, keystore.claimSlot slot authorities = some author →
    aura.slotAuthor slot authorities = some author
  sealHeader : ∀ hash author item, keystore.sealHeader hash author = .ok item →
    Sealed hash author item

/-! ## What the nodes of a chain share, and what each has of its own -/

variable {Id Keys Account H A S BlockHash AuthorityId J E : Type}

/-- Who gets the reward of a block. -/
abbrev BeneficiaryId := FixedBytes 32

/-- `CreateInherentDataConfig`, up to the clock. -/
structure CreateInherentDataConfig where
  mcEpochConfig : MainchainEpochConfig
  scSlotConfig : ScSlotConfig

/-- What all nodes of the network have in common. -/
structure Network (config : SessionPallet.Config Id Keys Account H A)
    (S BlockHash AuthorityId : Type) where
  aura : AuraLibrary BlockHash AuthorityId
  hash : BlockHeader BlockHash → BlockHash
  runtime : Runtime config AuthoritySelectionInputs BeneficiaryId
  /-- The runtime call `authorities`. -/
  authorities : State config S → List AuthorityId
  /-- The version of `BlockBuilder`. -/
  blockBuilderVersion : State config S → Nat
  slotCodec : Codec UInt64
  inherentConfig : CreateInherentDataConfig

/-- What a client serves about a block: its header, with the seal, and the
state after it. -/
structure StoredBlock (config : SessionPallet.Config Id Keys Account H A)
    (S BlockHash : Type) where
  header : BlockHeader BlockHash
  state : State config S

/-- The blocks that a node has. -/
abbrev Client (config : SessionPallet.Config Id Keys Account H A) (S BlockHash : Type) :=
  BlockHash → Option (StoredBlock config S BlockHash)

/-- The view that a node has of the main chain. -/
structure DataSources (J E : Type) where
  mcHash : BlockDataSourceImpl
  lib : Libraries J
  db : Db J
  nativeToken : NativeTokenManagementDataSource E

/-- A runtime call on a block that the node does not have. -/
inductive ApiError where
  | unknownBlock
deriving DecidableEq

/-- What is wrong with the beneficiary in the environment. -/
inductive BeneficiaryError where
  | invalidHex
  | invalidBeneficiary (bytes : Bytes)
  | notSet (envVar : String)
deriving DecidableEq

/-- Errors of the inherent data providers. -/
inductive ProviderError (E : Type) where
  | mcHash (error : McHashInherentError)
  | ariadne (error : InherentProviderCreationError ApiError)
  | beneficiary (error : BeneficiaryError)
  | nativeToken (error : IDPCreationError E)
  | api (error : ApiError)
  | preDigest (error : PreDigestLookupError)

variable {config : SessionPallet.Config Id Keys Account H A}

/-- The runtime calls of the committee selection, on the state of a block. -/
def Client.runtimeApi (client : Client config S BlockHash) (hash : BlockHash) :
    RuntimeApi ApiError :=
  match client hash with
  | none => ⟨.error .unknownBlock, .error .unknownBlock⟩
  | some block => RuntimeApi.ofStorage block.state.session.committee

/-- The block as the provider of the native token data reads it. -/
def StoredBlock.forNativeToken (block : StoredBlock config S BlockHash) : Block S :=
  ⟨block.header.toHeader, block.state.nativeToken⟩

/-- The native token data of a block on this parent. -/
def Client.newNativeToken (client : Client config S BlockHash)
    (dataSource : NativeTokenManagementDataSource E) (mcHash : McBlockHash)
    (parentHash : BlockHash) : Except (ProviderError E) (Option NativeTokenAmount) :=
  match client parentHash with
  | none => .error (.api .unknownBlock)
  | some parent =>
      (newInherentDataProvider dataSource mcHash parent.forNativeToken).mapError .nativeToken

/-! ## Inherent data -/

/-- `from_env`. -/
def beneficiaryFromEnv (hex : HexDecoder) (env : String → Option String) (envVar : String) :
    Except BeneficiaryError BeneficiaryId :=
  match env envVar with
  | none => .error (.notSet envVar)
  | some text =>
      match hex.fromHex text.toList with
      | none => .error .invalidHex
      | some bytes =>
          match FixedBytes.tryFrom 32 bytes with
          | none => .error (.invalidBeneficiary bytes)
          | some beneficiary => .ok beneficiary

/-- `timestamp_and_slot_cidp`: the slot is that of the clock. -/
def timestampAndSlotCidp (aura : AuraLibrary BlockHash AuthorityId) (slotDuration now : UInt64) :
    UInt64 × UInt64 :=
  (aura.slotFromTimestamp now slotDuration, now)

/-- The providers of `ProposalCIDP`. -/
structure ProposalProviders where
  slot : UInt64
  timestamp : UInt64
  mcHash : McHashInherentDataProvider
  ariadne : AriadneInherentDataProvider
  beneficiary : BeneficiaryId
  nativeToken : Option NativeTokenAmount

/-- `*b"auraslot"`. -/
def auraIdentifier : InherentIdentifier :=
  ⟨[97, 117, 114, 97, 115, 108, 111, 116], rfl⟩

/-- `*b"scmchash"`. -/
def mcHashIdentifier : InherentIdentifier :=
  ⟨[115, 99, 109, 99, 104, 97, 115, 104], rfl⟩

/-- `provide_inherent_data` for the main chain hash. -/
def provideMcHash (provider : McHashInherentDataProvider) (data : InherentData) :
    Option InherentData :=
  putData data mcHashIdentifier provider.mcBlock.hash.bytes

/-- `provide_inherent_data` for the committee: nothing is put without inputs. -/
def provideAriadne (codec : Codec AuthoritySelectionInputs)
    (provider : AriadneInherentDataProvider) (data : InherentData) : Option InherentData :=
  match provider.data with
  | none => some data
  | some inputs => putData data ariadneIdentifier (codec.encode inputs)

section Providers

variable [DecidableEq J] (network : Network config S BlockHash AuthorityId)

/-- `create_inherent_data_providers` of `ProposalCIDP`, with the clock at
`now`. -/
def createProposalProviders (client : Client config S BlockHash) (sources : DataSources J E)
    (hex : HexDecoder) (env : String → Option String) (now : UInt64) (parentHash : BlockHash) :
    Except (ProviderError E) ProposalProviders := do
  let scSlotConfig := network.inherentConfig.scSlotConfig
  let (slot, timestamp) := timestampAndSlotCidp network.aura scSlotConfig.slotDuration now
  let mcHash ← (newProposal network.aura.slotTimestamp sources.mcHash sources.db slot
    scSlotConfig.slotDuration).mapError .mcHash
  let ariadne ← (AriadneInherentDataProvider.new network.aura.slotTimestamp scSlotConfig
    network.inherentConfig.mcEpochConfig sources.lib sources.db (client.runtimeApi parentHash)
    slot mcHash.mcBlock.epoch).mapError .ariadne
  let beneficiary ←
    (beneficiaryFromEnv hex env "SIDECHAIN_BLOCK_BENEFICIARY").mapError .beneficiary
  let nativeToken ← client.newNativeToken sources.nativeToken mcHash.mcBlock.hash parentHash
  .ok ⟨slot, timestamp, mcHash, ariadne, beneficiary, nativeToken⟩

/-- `create_inherent_data`: the providers put in their data one after the
other. -/
def ProposalProviders.createInherentData (providers : ProposalProviders) :
    Option InherentData := do
  let data ← putData [] auraIdentifier (network.slotCodec.encode providers.slot)
  let data ← putData data timestampIdentifier
    (network.runtime.timestampCodec.encode providers.timestamp)
  let data ← provideMcHash providers.mcHash data
  let data ← provideAriadne network.runtime.inputsCodec providers.ariadne data
  let data ← putData data beneficiaryIdentifier
    (network.runtime.beneficiaryCodec.encode providers.beneficiary)
  provideInherentData providers.nativeToken data

end Providers

/-! ## The digest -/

/-- Decoding reads as many bytes as it needs. -/
def decodeMcHash (bytes : Bytes) : Option McBlockHash :=
  FixedBytes.tryFrom 32 (bytes.take 32)

/-- `McHashInherentDigest::from_inherent_data`. -/
def fromInherentData (data : InherentData) : Except String (List DigestItem) :=
  match data.lookup mcHashIdentifier with
  | none => .error "Main chain hash missing from inherent data"
  | some bytes =>
      match decodeMcHash bytes with
      | none => .error "Failed to retrieve main chain hash from inherent data"
      | some mcHash => .ok (fromMcBlockHash mcHash)

/-- A header and a body. -/
structure Proposal (config : SessionPallet.Config Id Keys Account H A) (BlockHash : Type) where
  header : BlockHeader BlockHash
  body : List (Extrinsic config BeneficiaryId)

/-- A proposer on some parent block. -/
abbrev Proposer (config : SessionPallet.Config Id Keys Account H A) (BlockHash : Type) :=
  InherentData → List DigestItem → Except String (Proposal config BlockHash)

/-- `PartnerChainsProposer::propose`.  The first error is a panic. -/
def propose (proposer : Proposer config BlockHash) : Proposer config BlockHash :=
  fun data inherentDigests => do
    let inherentLogs ← (fromInherentData data).mapError
      ("InherentDigest can be created from inherent data: " ++ ·)
    proposer data (inherentDigests ++ inherentLogs)

/-- What is documented about the proposer that is wrapped: it builds on the
parent, it keeps the digest items it is given and puts those of the runtime
after them, and the block begins with the inherents of the runtime, created
after the hooks of the block. -/
structure Builds [DecidableEq Account] (network : Network config S BlockHash AuthorityId)
    (parentHash : BlockHash) (parent : StoredBlock config S BlockHash) (slot : UInt64)
    (data : InherentData) (logs : List DigestItem) (proposal : Proposal config BlockHash) :
    Prop where
  parentHash : proposal.header.parentHash = parentHash
  number : proposal.header.number = parent.header.number + 1
  logs : ∃ deposited, proposal.header.logs = logs ++ deposited ∧
    ∀ item ∈ deposited, ∀ engine bytes, item ≠ .preRuntime engine bytes
  body : ∃ session events inherents transactions,
    SessionPallet.initializeBlock parent.state.session slot = .ok (session, events) ∧
    network.runtime.inherentExtrinsics data { parent.state with session := session } =
      .ok inherents ∧
    proposal.body = inherents ++ transactions ∧ ∀ x ∈ transactions, x.isInherent = false

/-! ## The worker -/

/-- `ForkChoiceStrategy`. -/
inductive ForkChoiceStrategy where
  | longestChain
  | custom (isBest : Bool)
deriving DecidableEq

/-- `BlockImportParams`, as far as Aura sets or reads it. -/
structure BlockImportParams (config : SessionPallet.Config Id Keys Account H A)
    (BlockHash : Type) where
  header : BlockHeader BlockHash
  body : Option (List (Extrinsic config BeneficiaryId))
  postDigests : List DigestItem
  postHash : Option BlockHash
  forkChoice : Option ForkChoiceStrategy
  /-- `with_state()`. -/
  withState : Bool
  /-- `state_action.skip_execution_checks()`. -/
  skipExecutionChecks : Bool

/-- Why a node authors no block. -/
inductive AuthoringError (E : Type) where
  | providers (error : ProviderError E)
  /-- An identifier of the inherent data is there already. -/
  | inherentDataExists
  | invalidAuthoritiesSet
  /-- It is not this node's turn. -/
  | notOurSlot
  | proposer (message : String)
  | sealing (message : String)

/-- `pre_digest_data`: the claim of a slot is its number. -/
def preDigestData (aura : AuraLibrary BlockHash AuthorityId) (slot : UInt64) : List DigestItem :=
  [aura.preDigest slot]

/-- `block_import_params`: the header is signed, and the seal goes into the post
digests. -/
def blockImportParams (keystore : Keystore BlockHash AuthorityId)
    (header : BlockHeader BlockHash) (headerHash : BlockHash)
    (body : List (Extrinsic config BeneficiaryId)) (claim : AuthorityId) :
    Except String (BlockImportParams config BlockHash) := do
  let signatureDigestItem ← keystore.sealHeader headerHash claim
  .ok
    { header := header
      body := some body
      postDigests := [signatureDigestItem]
      postHash := none
      forkChoice := some .longestChain
      withState := false
      skipExecutionChecks := false }

/-- `authorities`, without the compatibility mode, which the node does not
use. -/
def authorities (network : Network config S BlockHash AuthorityId)
    (client : Client config S BlockHash) (parentHash : BlockHash) : Option (List AuthorityId) :=
  (client parentHash).map fun block => network.authorities block.state

/-- What the slot worker makes of the parts above, on the head of the chain. -/
def authorBlock [DecidableEq J] (network : Network config S BlockHash AuthorityId)
    (keystore : Keystore BlockHash AuthorityId) (client : Client config S BlockHash)
    (sources : DataSources J E) (hex : HexDecoder) (env : String → Option String)
    (proposer : Proposer config BlockHash) (now : UInt64) (parentHash : BlockHash) :
    Except (AuthoringError E) (BlockImportParams config BlockHash) := do
  let providers ← (createProposalProviders network client sources hex env now
    parentHash).mapError .providers
  let authorities ← okOr (authorities network client parentHash) .invalidAuthoritiesSet
  let claim ← okOr (keystore.claimSlot providers.slot authorities) .notOurSlot
  let data ← okOr (providers.createInherentData network) .inherentDataExists
  let proposal ← (propose proposer data (preDigestData network.aura providers.slot)).mapError
    .proposer
  (blockImportParams keystore proposal.header (network.hash proposal.header) proposal.body
    claim).mapError .sealing

/-- The header that peers get: the one of the block with the digests that were
added after its execution. -/
def postHeader (block : BlockImportParams config BlockHash) : BlockHeader BlockHash :=
  { block.header with logs := block.header.logs ++ block.postDigests }

/-! ## What the author puts in -/

/-- Putting data changes one entry. -/
theorem lookup_putData {data data' : InherentData} {identifier : InherentIdentifier}
    {value : Bytes} (h : putData data identifier value = some data')
    (other : InherentIdentifier) :
    data'.lookup other = if other = identifier then some value else data.lookup other := by
  unfold putData at h
  split at h
  · cases h
  · obtain rfl := Option.some.inj h
    by_cases heq : other = identifier
    · simp [heq]
    · simp [List.lookup_cons, beq_false_of_ne heq, heq]

/-- The Ariadne provider changes its own entry at most. -/
theorem lookup_provideAriadne {codec : Codec AuthoritySelectionInputs}
    {provider : AriadneInherentDataProvider} {data data' : InherentData}
    (h : provideAriadne codec provider data = some data')
    (hnone : data.lookup ariadneIdentifier = none) (other : InherentIdentifier) :
    data'.lookup other = if other = ariadneIdentifier then provider.data.map codec.encode
      else data.lookup other := by
  unfold provideAriadne at h
  cases hdata : provider.data with
  | none =>
      obtain rfl : data = data' := by simpa [hdata] using h
      by_cases heq : other = ariadneIdentifier
      · simp [heq, hnone]
      · simp [heq]
  | some inputs =>
      simp only [hdata] at h
      exact lookup_putData h other

/-- The native token provider changes its own entry at most. -/
theorem lookup_provideInherentData {amount : Option NativeTokenAmount} {data data' : InherentData}
    (h : provideInherentData amount data = some data')
    (hnone : data.lookup NativeTokenPallet.inherentIdentifier = none)
    (other : InherentIdentifier) :
    data'.lookup other = if other = NativeTokenPallet.inherentIdentifier then
        amount.map fun amount => TokenTransferData.encode ⟨amount⟩
      else data.lookup other := by
  cases amount with
  | none =>
      obtain rfl : data = data' := by simpa [provideInherentData] using h
      by_cases heq : other = NativeTokenPallet.inherentIdentifier
      · simp [heq, hnone]
      · simp [heq]
  | some amount => exact lookup_putData h other

/-- The entries for which providers of the node are responsible. -/
structure ProposalData (network : Network config S BlockHash AuthorityId)
    (providers : ProposalProviders) (data : InherentData) : Prop where
  timestamp : data.lookup timestampIdentifier =
    some (network.runtime.timestampCodec.encode providers.timestamp)
  mcHash : data.lookup mcHashIdentifier = some providers.mcHash.mcBlock.hash.bytes
  ariadne : data.lookup ariadneIdentifier =
    providers.ariadne.data.map network.runtime.inputsCodec.encode
  beneficiary : data.lookup beneficiaryIdentifier =
    some (network.runtime.beneficiaryCodec.encode providers.beneficiary)
  nativeToken : data.lookup NativeTokenPallet.inherentIdentifier =
    providers.nativeToken.map fun amount => TokenTransferData.encode ⟨amount⟩

/-- Every provider's data can be read back from the inherent data. -/
theorem proposalData_of_createInherentData {network : Network config S BlockHash AuthorityId}
    {providers : ProposalProviders} {data : InherentData}
    (h : providers.createInherentData network = some data) :
    ProposalData network providers data := by
  unfold ProposalProviders.createInherentData at h
  obtain ⟨data₁, h₁, h⟩ := Option.bind_eq_some_iff.mp h
  obtain ⟨data₂, h₂, h⟩ := Option.bind_eq_some_iff.mp h
  obtain ⟨data₃, h₃, h⟩ := Option.bind_eq_some_iff.mp h
  obtain ⟨data₄, h₄, h⟩ := Option.bind_eq_some_iff.mp h
  obtain ⟨data₅, h₅, h₆⟩ := Option.bind_eq_some_iff.mp h
  have hnone : ∀ identifier, identifier ∉ [auraIdentifier, timestampIdentifier,
      mcHashIdentifier] → data₃.lookup identifier = none := by
    intro identifier hother
    simp only [List.mem_cons, List.not_mem_nil, or_false, not_or] at hother
    rw [lookup_putData h₃, if_neg hother.2.2, lookup_putData h₂, if_neg hother.2.1,
      lookup_putData h₁, if_neg hother.1, List.lookup_nil]
  have hafter := fun identifier =>
    lookup_provideAriadne h₄ (hnone ariadneIdentifier (by decide)) identifier
  have hfinal := fun identifier => lookup_provideInherentData h₆ (by
    rw [lookup_putData h₅, if_neg (by decide), hafter, if_neg (by decide),
      hnone _ (by decide)]) identifier
  refine ⟨?_, ?_, ?_, ?_, ?_⟩
  · rw [hfinal, if_neg (by decide), lookup_putData h₅, if_neg (by decide), hafter,
      if_neg (by decide), lookup_putData h₃, if_neg (by decide), lookup_putData h₂, if_pos rfl]
  · rw [hfinal, if_neg (by decide), lookup_putData h₅, if_neg (by decide), hafter,
      if_neg (by decide), lookup_putData h₃, if_pos rfl]
  · rw [hfinal, if_neg (by decide), lookup_putData h₅, if_neg (by decide), hafter, if_pos rfl]
  · rw [hfinal, if_neg (by decide), lookup_putData h₅, if_pos rfl]
  · rw [hfinal, if_pos rfl]

/-- The digest of the author's block carries the reference. -/
theorem fromInherentData_of_lookup {data : InherentData} {mcHash : McBlockHash}
    (h : data.lookup mcHashIdentifier = some mcHash.bytes) :
    fromInherentData data = .ok (fromMcBlockHash mcHash) := by
  have hdecode : decodeMcHash mcHash.bytes = some mcHash := by
    rw [decodeMcHash, List.take_of_length_le mcHash.size_eq.le, FixedBytes.tryFrom_bytes]
  simp [fromInherentData, h, hdecode]

/-! ## Authored blocks -/

/-- What an authored block is made from. -/
structure Authored [DecidableEq J] (network : Network config S BlockHash AuthorityId)
    (keystore : Keystore BlockHash AuthorityId) (client : Client config S BlockHash)
    (sources : DataSources J E) (hex : HexDecoder) (env : String → Option String)
    (proposer : Proposer config BlockHash) (now : UInt64) (parentHash : BlockHash)
    (parent : StoredBlock config S BlockHash) (providers : ProposalProviders)
    (data : InherentData) (proposal : Proposal config BlockHash) (author : AuthorityId)
    (item : DigestItem) (block : BlockImportParams config BlockHash) : Prop where
  parent_eq : client parentHash = some parent
  providers_eq : createProposalProviders network client sources hex env now parentHash =
    .ok providers
  claim_eq : keystore.claimSlot providers.slot (network.authorities parent.state) = some author
  data_eq : providers.createInherentData network = some data
  proposal_eq : proposer data (preDigestData network.aura providers.slot ++
    fromMcBlockHash providers.mcHash.mcBlock.hash) = .ok proposal
  seal_eq : keystore.sealHeader (network.hash proposal.header) author = .ok item
  block_eq : block =
    { header := proposal.header
      body := some proposal.body
      postDigests := [item]
      postHash := none
      forkChoice := some .longestChain
      withState := false
      skipExecutionChecks := false }

/-- What an authored block consists of. -/
theorem authorBlock_eq_ok [DecidableEq J] {network : Network config S BlockHash AuthorityId}
    {keystore : Keystore BlockHash AuthorityId} {client : Client config S BlockHash}
    {sources : DataSources J E} {hex : HexDecoder} {env : String → Option String}
    {proposer : Proposer config BlockHash} {now : UInt64} {parentHash : BlockHash}
    {block : BlockImportParams config BlockHash}
    (h : authorBlock network keystore client sources hex env proposer now parentHash =
      .ok block) :
    ∃ parent providers data proposal author item,
      Authored network keystore client sources hex env proposer now parentHash parent providers
        data proposal author item block := by
  unfold authorBlock at h
  obtain ⟨providers, hproviders, h⟩ := bind_eq_ok.mp h
  obtain ⟨authorities, hauthorities, h⟩ := bind_eq_ok.mp h
  obtain ⟨author, hauthor, h⟩ := bind_eq_ok.mp h
  obtain ⟨data, hdata, h⟩ := bind_eq_ok.mp h
  obtain ⟨proposal, hproposal, h⟩ := bind_eq_ok.mp h
  obtain ⟨item, hitem, hblock⟩ := bind_eq_ok.mp (mapError_eq_ok.mp h)
  have hcreated := okOr_eq_ok.mp hdata
  obtain ⟨parent, hparent, rfl⟩ := Option.map_eq_some_iff.mp (okOr_eq_ok.mp hauthorities)
  obtain ⟨logs, hlogs, hproposed⟩ := bind_eq_ok.mp (mapError_eq_ok.mp hproposal)
  rw [mapError_eq_ok,
    fromInherentData_of_lookup (proposalData_of_createInherentData hcreated).mcHash] at hlogs
  obtain rfl := Except.ok.inj hlogs
  obtain rfl := Except.ok.inj hblock
  exact ⟨parent, providers, data, proposal, author, item, hparent, mapError_eq_ok.mp hproviders,
    okOr_eq_ok.mp hauthor, hcreated, hproposed, hitem, rfl⟩

end PartnerChains.Ports.BlockProposal
