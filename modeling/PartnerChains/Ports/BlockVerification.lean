import PartnerChains.Ports.BlockProposal

/-!
# Verifying a block

The port of `AuraVerifier` and `VerifierCIDP`.  A node that gets a block checks
the seal against the authorities in the state of the parent, reads the main
chain reference from the digest, and checks the inherents of the body with
inherent data that it collects for this reference.

`verify_eq_ok_iff` says what an accepted block is.
-/

namespace PartnerChains.Ports.BlockVerification

open PartnerChains.Ports.Domain
open PartnerChains.Ports.DbSync
open PartnerChains.Ports.UtxoText
open PartnerChains.Ports.McHash
open PartnerChains.Ports.AriadneProvider
open PartnerChains.Ports.BlockDataSource
open PartnerChains.Ports.StableProposal
open PartnerChains.Ports.McReference
open PartnerChains.Ports.NativeTokenPallet (InherentIdentifier InherentData NativeTokenAmount
  TokenTransferData putData)
open PartnerChains.Ports.NativeTokenRun (provideInherentData newInherentDataProvider)
open PartnerChains.Ports.NodeRuntime
open PartnerChains.Ports.BlockProposal
open PartnerChains.Verified.Fallible

variable {Id Keys Account H A S BlockHash AuthorityId J E : Type}
  {config : SessionPallet.Config Id Keys Account H A}

/-! ## Inherent data of the verifier -/

/-- What the verifier checks the inherents against. -/
structure VerifierProviders where
  timestamp : UInt64
  ariadne : AriadneInherentDataProvider
  nativeToken : Option NativeTokenAmount

/-- The genesis block has no slot. -/
def slotFromPredigest (aura : AuraLibrary BlockHash AuthorityId)
    (header : BlockHeader BlockHash) : Except PreDigestLookupError (Option UInt64) :=
  if header.number = 0 then .ok none else (aura.findPreDigest header).map some

/-- `create_inherent_data_providers` of `VerifierCIDP`, with the clock at `now`
and the cache of the data source before and after. -/
def createVerifierProviders [DecidableEq J] (network : Network config S BlockHash AuthorityId)
    (client : Client config S BlockHash) (sources : DataSources J E) (cache : List Block)
    (now : UInt64) (parentHash : BlockHash) (verifiedBlockSlot : UInt64) (mcHash : McBlockHash) :
    Except (ProviderError E) VerifierProviders × List Block :=
  let scSlotConfig := network.inherentConfig.scSlotConfig
  match client parentHash with
  | none => (.error (.api .unknownBlock), cache)
  | some parent =>
      match slotFromPredigest network.aura parent.header with
      | .error e => (.error (.preDigest e), cache)
      | .ok parentSlot =>
          match newVerification network.aura.slotTimestamp sources.mcHash sources.db cache
            parent.header.toHeader parentSlot verifiedBlockSlot mcHash
            scSlotConfig.slotDuration with
          | (.error e, cache) => (.error (.mcHash e), cache)
          | (.ok mcStateReference, cache) =>
              (do
                let ariadne ← (AriadneInherentDataProvider.new network.aura.slotTimestamp
                  scSlotConfig network.inherentConfig.mcEpochConfig sources.lib sources.db
                  (client.runtimeApi parentHash) verifiedBlockSlot
                  mcStateReference.mcBlock.epoch).mapError .ariadne
                let nativeToken ← client.newNativeToken sources.nativeToken mcHash parentHash
                .ok ⟨now, ariadne, nativeToken⟩, cache)

/-- `create_inherent_data`: nothing if an identifier is there already. -/
def VerifierProviders.createInherentData (network : Network config S BlockHash AuthorityId)
    (providers : VerifierProviders) : Option InherentData := do
  let data ← putData [] timestampIdentifier
    (network.runtime.timestampCodec.encode providers.timestamp)
  let data ← provideAriadne network.runtime.inputsCodec providers.ariadne data
  provideInherentData providers.nativeToken data

/-! ## The header -/

/-- `CheckedHeader`: a header from the future is put off. -/
inductive CheckedHeader (BlockHash : Type) where
  | checked (preHeader : BlockHeader BlockHash) (slot : UInt64) (item : DigestItem)
  | deferred (header : BlockHeader BlockHash) (slot : UInt64)

/-- `sc_consensus_aura::Error`. -/
inductive AuraError (BlockHash : Type) where
  | headerUnsealed (hash : BlockHash)
  | headerBadSeal (hash : BlockHash)
  | badSignature (hash : BlockHash)
  | slotAuthorNotFound
  | preDigest (error : PreDigestLookupError)
  | client (message : String)
  | inherentDataExists
  | inherent (error : InherentError)
  | unknownInherentError (identifier : InherentIdentifier)

/-- `check_equivocation`, on the storage of the node: two headers of one slot
if there are any. -/
abbrev EquivocationCheck (BlockHash AuthorityId : Type) :=
  UInt64 → UInt64 → BlockHeader BlockHash → AuthorityId →
    Except String (Option (BlockHeader BlockHash × BlockHeader BlockHash))

/-- An equivocation is logged. -/
def checkHeader (aura : AuraLibrary BlockHash AuthorityId)
    (checkEquivocation : EquivocationCheck BlockHash AuthorityId) (slotNow : UInt64)
    (header : BlockHeader BlockHash) (hash : BlockHash) (authorities : List AuthorityId)
    (checkForEquivocation : Bool) : Except (AuraError BlockHash) (CheckedHeader BlockHash) :=
  match aura.checkHeaderSlotAndSeal slotNow header authorities with
  | .ok (header, slot, item) =>
      match checkForEquivocation, aura.slotAuthor slot authorities with
      | true, some expected =>
          match checkEquivocation slotNow slot header expected with
          | .error message => .error (.client message)
          | .ok _ => .ok (.checked header slot item)
      | _, _ => .ok (.checked header slot item)
  | .error (.deferred header slot) => .ok (.deferred header slot)
  | .error .unsealed => .error (.headerUnsealed hash)
  | .error .badSeal => .error (.headerBadSeal hash)
  | .error .badSignature => .error (.badSignature hash)
  | .error .slotAuthorNotFound => .error .slotAuthorNotFound
  | .error (.invalidPreDigest e) => .error (.preDigest e)

/-! ## The verifier -/

/-- Why a block does not pass. -/
inductive VerifyError (BlockHash E : Type) where
  /-- `Could not fetch authorities at`. -/
  | authorities (parentHash : BlockHash)
  | header (error : AuraError BlockHash)
  /-- `Failed to retrieve inherent digest from header at`. -/
  | inherentDigest (parentHash : BlockHash) (error : DigestError)
  | providers (error : ProviderError E)
  | inherents (error : AuraError BlockHash)
  /-- `rejected: too far in the future`. -/
  | tooFarInFuture (hash : BlockHash)

/-- A node that verifies blocks. -/
structure Verifier (config : SessionPallet.Config Id Keys Account H A)
    (S BlockHash AuthorityId J E : Type) where
  client : Client config S BlockHash
  sources : DataSources J E
  now : UInt64
  checkForEquivocation : Bool
  checkEquivocation : EquivocationCheck BlockHash AuthorityId

/-- `try_handle_error` of the providers: each takes the errors of its own
identifier for fatal ones, and none is responsible for the beneficiary. -/
def tryHandleError : InherentError → AuraError BlockHash
  | .timestamp e => .inherent (.timestamp e)
  | .committee e => .inherent (.committee e)
  | .nativeToken e => .inherent (.nativeToken e)
  | .blockRewards => .unknownInherentError beneficiaryIdentifier

section Verify

variable [DecidableEq Id] [DecidableEq Keys] (network : Network config S BlockHash AuthorityId)

/-- `check_inherents`: the runtime checks the body against the inherent data of
the verifier. -/
def checkInherents (parent : StoredBlock config S BlockHash)
    (body : List (Extrinsic config BeneficiaryId)) (providers : VerifierProviders) :
    Except (AuraError BlockHash) Unit :=
  match providers.createInherentData network with
  | none => .error .inherentDataExists
  | some inherentData =>
      match network.runtime.checkInherents inherentData parent.state body with
      | .ok () => .ok ()
      | .error (.panic message) => .error (.client message)
      | .error (.fatal e) => .error (tryHandleError e)

variable [DecidableEq J] (verifier : Verifier config S BlockHash AuthorityId J E)

/-- `CurrentSlotProvider::slot`. -/
def Verifier.slot : UInt64 :=
  (timestampAndSlotCidp network.aura network.inherentConfig.scSlotConfig.slotDuration
    verifier.now).1

/-- The inherents are checked only if the runtime has the call. -/
def verifyBody (cache : List Block) (parentHash : BlockHash) (slot : UInt64)
    (inherentDigest : McBlockHash) (body : List (Extrinsic config BeneficiaryId)) :
    Except (VerifyError BlockHash E) Unit × List Block :=
  match createVerifierProviders network verifier.client verifier.sources cache verifier.now
    parentHash slot inherentDigest with
  | (.error e, cache) => (.error (.providers e), cache)
  | (.ok providers, cache) =>
      match verifier.client parentHash with
      | none => (.error (.providers (.api .unknownBlock)), cache)
      | some parent =>
          if 2 ≤ network.blockBuilderVersion parent.state then
            ((checkInherents network parent body providers).mapError .inherents, cache)
          else (.ok (), cache)

/-- The body is optional. -/
def verifyOptionalBody (cache : List Block) (parentHash : BlockHash) (slot : UInt64)
    (inherentDigest : McBlockHash) (body : Option (List (Extrinsic config BeneficiaryId))) :
    Except (VerifyError BlockHash E) Unit × List Block :=
  match body with
  | none => (.ok (), cache)
  | some body => verifyBody network verifier cache parentHash slot inherentDigest body

/-- The block as it is handed on: the seal has moved out of the header. -/
def imported (block : BlockImportParams config BlockHash) (preHeader : BlockHeader BlockHash)
    (item : DigestItem) : BlockImportParams config BlockHash :=
  { block with
    header := preHeader
    postDigests := block.postDigests ++ [item]
    forkChoice := some .longestChain
    postHash := some (network.hash block.header) }

/-- Execution checks are skipped when only the state of a block is imported, or
on request; otherwise a small drift of the clock is allowed for. -/
def verify (cache : List Block) (block : BlockImportParams config BlockHash) :
    Except (VerifyError BlockHash E) (BlockImportParams config BlockHash) × List Block :=
  if block.withState || block.skipExecutionChecks then
    (.ok { block with forkChoice := some (.custom block.withState) }, cache)
  else
    let hash := network.hash block.header
    let parentHash := block.header.parentHash
    match authorities network verifier.client parentHash with
    | none => (.error (.authorities parentHash), cache)
    | some authorities =>
        match checkHeader network.aura verifier.checkEquivocation (verifier.slot network + 1)
          block.header hash authorities verifier.checkForEquivocation with
        | .error e => (.error (.header e), cache)
        | .ok checkedHeader =>
            match valueFromDigest block.header.logs with
            | .error e => (.error (.inherentDigest parentHash e), cache)
            | .ok inherentDigest =>
                match checkedHeader with
                | .deferred _ _ => (.error (.tooFarInFuture hash), cache)
                | .checked preHeader slot item =>
                    match verifyOptionalBody network verifier cache parentHash slot
                      inherentDigest block.body with
                    | (.error e, cache) => (.error e, cache)
                    | (.ok (), cache) => (.ok (imported network block preHeader item), cache)

end Verify

/-! ## The verdict without the cache -/

section Verdict

variable {network : Network config S BlockHash AuthorityId} {cache : List Block}
  {parentHash : BlockHash} {slot : UInt64} {mcHash : McBlockHash}

/-- Each provider is created after the one before it succeeded. -/
theorem createVerifierProviders_fst [DecidableEq J] {client : Client config S BlockHash}
    {sources : DataSources J E} {now : UInt64} :
    (createVerifierProviders network client sources cache now parentHash slot mcHash).1 =
      (okOr (client parentHash) (.api .unknownBlock)).bind fun parent =>
      ((slotFromPredigest network.aura parent.header).mapError .preDigest).bind fun parentSlot =>
      ((newVerification network.aura.slotTimestamp sources.mcHash sources.db cache
        parent.header.toHeader parentSlot slot mcHash
        network.inherentConfig.scSlotConfig.slotDuration).1.mapError .mcHash).bind fun provider =>
      ((AriadneInherentDataProvider.new network.aura.slotTimestamp
        network.inherentConfig.scSlotConfig network.inherentConfig.mcEpochConfig sources.lib
        sources.db (client.runtimeApi parentHash) slot provider.mcBlock.epoch).mapError
          .ariadne).bind fun ariadne =>
      (client.newNativeToken sources.nativeToken mcHash parentHash).bind fun nativeToken =>
        .ok ⟨now, ariadne, nativeToken⟩ := by
  unfold createVerifierProviders
  cases client parentHash with
  | none => rfl
  | some parent =>
      simp only [okOr, Except.bind]
      cases slotFromPredigest network.aura parent.header with
      | error e => rfl
      | ok parentSlot =>
          simp only [Except.mapError]
          rcases newVerification network.aura.slotTimestamp sources.mcHash sources.db cache
            parent.header.toHeader parentSlot slot mcHash
            network.inherentConfig.scSlotConfig.slotDuration with ⟨e | provider, cache'⟩
          · rfl
          · rfl

/-- The inherents are checked against the providers, in the state of the parent. -/
theorem verifyBody_fst [DecidableEq Id] [DecidableEq Keys] [DecidableEq J]
    {verifier : Verifier config S BlockHash AuthorityId J E}
    {body : List (Extrinsic config BeneficiaryId)} :
    (verifyBody network verifier cache parentHash slot mcHash body).1 =
      ((createVerifierProviders network verifier.client verifier.sources cache verifier.now
        parentHash slot mcHash).1.mapError .providers).bind fun providers =>
      (okOr (verifier.client parentHash) (.providers (.api .unknownBlock))).bind fun parent =>
        if 2 ≤ network.blockBuilderVersion parent.state then
          (checkInherents network parent body providers).mapError .inherents
        else .ok () := by
  unfold verifyBody
  rcases createVerifierProviders network verifier.client verifier.sources cache verifier.now
    parentHash slot mcHash with ⟨e | providers, cache'⟩
  · rfl
  · cases verifier.client parentHash with
    | none => rfl
    | some parent =>
        simp only [okOr, Except.mapError, Except.bind]
        split
        · rfl
        · rfl

end Verdict

/-! ## What is accepted -/

/-- The header of an accepted block: sealed by the author of its slot among the
authorities after the parent, not from the future, and with a main chain
reference. -/
structure HeaderVerified (network : Network config S BlockHash AuthorityId)
    (Sealed : BlockHash → AuthorityId → DigestItem → Prop)
    (verifier : Verifier config S BlockHash AuthorityId J E) (header : BlockHeader BlockHash)
    (parent : StoredBlock config S BlockHash) (preHeader : BlockHeader BlockHash) (slot : UInt64)
    (item : DigestItem) (author : AuthorityId) (mcHash : McBlockHash) : Prop where
  parent_eq : verifier.client header.parentHash = some parent
  header_eq : header = preHeader.push item
  slot_eq : network.aura.findPreDigest preHeader = .ok slot
  slot_le : slot ≤ verifier.slot network + 1
  author_eq : network.aura.slotAuthor slot (network.authorities parent.state) = some author
  sealed : Sealed (network.hash preHeader) author item
  digest_eq : valueFromDigest header.logs = .ok mcHash
  /-- The equivocation check itself did not fail; what it found does not
  matter. -/
  equivocation : verifier.checkForEquivocation = true →
    ∃ found, verifier.checkEquivocation (verifier.slot network + 1) slot preHeader author =
      .ok found

section Accepted

variable {network : Network config S BlockHash AuthorityId}
  {Sealed : BlockHash → AuthorityId → DigestItem → Prop}
  {verifier : Verifier config S BlockHash AuthorityId J E}

/-- A header passes exactly if the author of its slot sealed it, the slot is not
in the future and the equivocation check itself does not fail. -/
theorem checkHeader_eq_checked_iff (haura : network.aura.Documented network.hash Sealed)
    {slotNow : UInt64} {header preHeader : BlockHeader BlockHash} {hash : BlockHash}
    {authorities : List AuthorityId} {slot : UInt64} {item : DigestItem} :
    checkHeader network.aura verifier.checkEquivocation slotNow header hash authorities
        verifier.checkForEquivocation = .ok (.checked preHeader slot item) ↔
      header = preHeader.push item ∧ network.aura.findPreDigest preHeader = .ok slot ∧
        slot ≤ slotNow ∧ ∃ author, network.aura.slotAuthor slot authorities = some author ∧
          Sealed (network.hash preHeader) author item ∧
          (verifier.checkForEquivocation = true →
            ∃ found, verifier.checkEquivocation slotNow slot preHeader author = .ok found) := by
  have hiff := haura.checkHeader slotNow header
  unfold checkHeader
  match hcheck : network.aura.checkHeaderSlotAndSeal slotNow header authorities with
  | .ok (pre, s, i) =>
      have hthis := (hiff pre authorities s i).mp hcheck
      obtain ⟨hheader, hslot, hle, author, hauthor, hsealed⟩ := hthis
      have hsame : ∀ {p : BlockHeader BlockHash} {s' : UInt64} {i' : DigestItem},
          (header = p.push i' ∧ network.aura.findPreDigest p = .ok s' ∧ s' ≤ slotNow ∧
            ∃ author, network.aura.slotAuthor s' authorities = some author ∧
              Sealed (network.hash p) author i') → pre = p ∧ s = s' ∧ i = i' := by
        intro p s' i' hp
        have := hcheck.symm.trans ((hiff p authorities s' i').mpr hp)
        simpa using this
      constructor
      · intro h
        cases hcheckFor : verifier.checkForEquivocation with
        | false =>
            simp only [hcheckFor, Except.ok.injEq, CheckedHeader.checked.injEq] at h
            obtain ⟨rfl, rfl, rfl⟩ := h
            exact ⟨hheader, hslot, hle, author, hauthor, hsealed, by simp⟩
        | true =>
            simp only [hcheckFor, hauthor] at h
            cases hfound : verifier.checkEquivocation slotNow s pre author with
            | error e => simp [hfound] at h
            | ok found =>
                simp only [hfound, Except.ok.injEq, CheckedHeader.checked.injEq] at h
                obtain ⟨rfl, rfl, rfl⟩ := h
                exact ⟨hheader, hslot, hle, author, hauthor, hsealed, fun _ => ⟨found, hfound⟩⟩
      · rintro ⟨hheader', hslot', hle', author', hauthor', hsealed', hequivocation⟩
        obtain ⟨rfl, rfl, rfl⟩ :=
          hsame ⟨hheader', hslot', hle', author', hauthor', hsealed'⟩
        cases hcheckFor : verifier.checkForEquivocation with
        | false => rfl
        | true =>
            obtain ⟨found, hfound⟩ := hequivocation hcheckFor
            simp [hauthor', hfound]
  | .error e =>
      refine iff_of_false ?_ ?_
      · cases e <;> simp
      · rintro ⟨hheader, hslot, hle, author, hauthor, hsealed, -⟩
        have := hcheck.symm.trans ((hiff preHeader authorities slot item).mpr
          ⟨hheader, hslot, hle, author, hauthor, hsealed⟩)
        cases this

variable [DecidableEq Id] [DecidableEq Keys] [DecidableEq J]

/-- What is left to do for a block with a verified header. -/
theorem verify_of_headerVerified (haura : network.aura.Documented network.hash Sealed)
    {cache : List Block} (block : BlockImportParams config BlockHash)
    (hstate : block.withState = false) (hskip : block.skipExecutionChecks = false)
    {parent : StoredBlock config S BlockHash} {preHeader : BlockHeader BlockHash} {slot : UInt64}
    {item : DigestItem} {author : AuthorityId} {mcHash : McBlockHash}
    (hheader : HeaderVerified network Sealed verifier block.header parent preHeader slot item
      author mcHash) :
    (verify network verifier cache block).1 =
      (verifyOptionalBody network verifier cache block.header.parentHash slot mcHash
        block.body).1.map fun _ => imported network block preHeader item := by
  have hchecked : checkHeader network.aura verifier.checkEquivocation (verifier.slot network + 1)
      block.header (network.hash block.header) (network.authorities parent.state)
      verifier.checkForEquivocation = .ok (.checked preHeader slot item) :=
    (checkHeader_eq_checked_iff haura).mpr ⟨hheader.header_eq, hheader.slot_eq, hheader.slot_le,
      author, hheader.author_eq, hheader.sealed, hheader.equivocation⟩
  unfold verify
  simp only [hstate, hskip, Bool.or_self, Bool.false_eq_true, if_false, authorities,
    hheader.parent_eq, Option.map_some, hchecked, hheader.digest_eq]
  match hbody : verifyOptionalBody network verifier cache block.header.parentHash slot mcHash
    block.body with
  | (.error e, cache') => rfl
  | (.ok (), cache') => rfl

/-- A block that is not imported for its state is accepted exactly if its
header is verified and its body, where there is one, passes. -/
theorem verify_eq_ok_iff (haura : network.aura.Documented network.hash Sealed)
    {cache : List Block} {block result : BlockImportParams config BlockHash}
    (hstate : block.withState = false) (hskip : block.skipExecutionChecks = false) :
    (verify network verifier cache block).1 = .ok result ↔
      ∃ parent preHeader slot item author mcHash,
        HeaderVerified network Sealed verifier block.header parent preHeader slot item author
          mcHash ∧
        (verifyOptionalBody network verifier cache block.header.parentHash slot mcHash
          block.body).1 = .ok () ∧
        result = imported network block preHeader item := by
  constructor
  · intro h
    unfold verify at h
    simp only [hstate, hskip, Bool.or_self, Bool.false_eq_true, if_false] at h
    cases hparent : verifier.client block.header.parentHash with
    | none => simp [authorities, hparent] at h
    | some parent =>
        simp only [authorities, hparent, Option.map_some] at h
        split at h
        · cases h
        · next checkedHeader hheader =>
            split at h
            · cases h
            · next mcHash hdigest =>
                split at h
                · cases h
                · next preHeader slot item =>
                    obtain ⟨hpush, hslot, hle, author, hauthor, hsealed, hequivocation⟩ :=
                      (checkHeader_eq_checked_iff haura).mp hheader
                    refine ⟨parent, preHeader, slot, item, author, mcHash,
                      ⟨hparent, hpush, hslot, hle, hauthor, hsealed, hdigest, hequivocation⟩, ?_⟩
                    split at h
                    · cases h
                    · next hbody =>
                        rw [hbody]
                        exact ⟨rfl, (Except.ok.inj h).symm⟩
  · rintro ⟨parent, preHeader, slot, item, author, mcHash, hheader, hbody, rfl⟩
    rw [verify_of_headerVerified haura block hstate hskip hheader, hbody]
    rfl

end Accepted

end PartnerChains.Ports.BlockVerification
