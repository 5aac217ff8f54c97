import PartnerChains.Ports.AriadneProvider
import PartnerChains.Ports.MainchainPrefix
import PartnerChains.Ports.TokenDatums

/-!
# The selection inputs and the main chain prefix

The inputs of the committee selection are meant to be a function of the main
chain up to the block that the new block refers to.  Everything that the
provider reads is, apart from the datums: the queries find the datum of an
output by its hash, in a table that also holds datums published later.

Over two databases with the same prefix the provider has the same outcome
exactly if the datums of the outputs that it reads say the same, output by
output (`sameOutcome_iff`).  These are the newest outputs with the two tokens and
the outputs in force at the registration address; of several outputs with a token
in the newest transaction it is the one whose row comes first.  That is so if
both databases resolve the data hashes of the prefix alike and no transaction
has two outputs with a token (`ResolvedAlike.datumsAgree`).
-/

namespace PartnerChains.Ports.PrefixOutcome

open PartnerChains.Ports.Domain
open PartnerChains.Ports.DbSync
open PartnerChains.Ports.MainchainDatums
open PartnerChains.Ports.NativeTokenQuery
open PartnerChains.Ports.CandidatesQuery
open PartnerChains.Ports.CandidatesDataSource
open PartnerChains.Ports.LedgerOutputs
open PartnerChains.Ports.RegistrationsInForce
open PartnerChains.Ports.TokenHolders
open PartnerChains.Ports.CommitteePallet
open PartnerChains.Ports.AriadneProvider
open PartnerChains.Ports.MainchainPrefix
open PartnerChains.Ports.TokenDatums

variable {J : Type}

/-! ## Datums that say the same -/

section Agreement

variable (lib : Libraries J) (db db' : Db J)

/-- What a candidate takes from a registration datum: all but the hash of the
payment key. -/
def candidateFields (d : RegisterValidatorDatum) : RegisterValidatorDatum :=
  { d with ownPkh := FixedBytes.replicate 28 0 }

/-- An output in force is the same registration, or none, in both. -/
def RegistrationsAgree (address : MainchainAddress) (epoch : Nat) : Prop :=
  ∀ r r', OutputInForce db address epoch r → OutputInForce db' address epoch r' →
    outputView r' = outputView r →
    (registrationDatum lib db r.txOut).map candidateFields =
      (registrationDatum lib db' r'.txOut).map candidateFields

/-- The datum of the newest output with the token of the D-parameter. -/
def dParameterAt (scripts : MainChainScripts) (epoch : Nat) : TokenDatum DParameter :=
  dParameterDatum lib (lastTokenDatum db (tokenAsset scripts.dParameterPolicyId) epoch)

/-- The datum of the newest output with the token of the permissioned
candidates. -/
def permissionedAt (scripts : MainChainScripts) (epoch : Nat) :
    TokenDatum (List PermissionedCandidateData) :=
  permissionedDatum lib
    (lastTokenDatum db (tokenAsset scripts.permissionedCandidatesPolicyId) epoch)

/-- One of the two datums does not convert. -/
def TokensMalformed (scripts : MainChainScripts) (epoch : Nat) : Prop :=
  (dParameterAt lib db scripts epoch).isMalformed = true ∨
    (permissionedAt lib db scripts epoch).isMalformed = true

/-- Both datums are valid. -/
structure TokensValid (scripts : MainChainScripts) (epoch : Nat) : Prop where
  dParameter : (dParameterAt lib db scripts epoch).isValid = true
  permissioned : (permissionedAt lib db scripts epoch).isValid = true

/-- The datums of the outputs read say the same, output by output, as far as the
provider gets to look at them. -/
structure DatumsAgree (scripts : MainChainScripts) (epoch : Nat) : Prop where
  malformed : TokensMalformed lib db scripts epoch ↔ TokensMalformed lib db' scripts epoch
  /-- The D-parameter has the same problem in both, or is valid in both. -/
  dParameter : ¬ TokensMalformed lib db scripts epoch →
    (dParameterAt lib db scripts epoch).problem = (dParameterAt lib db' scripts epoch).problem
  /-- If it is valid, so have the permissioned candidates. -/
  permissioned : ¬ TokensMalformed lib db scripts epoch →
    (dParameterAt lib db scripts epoch).isValid = true →
    (permissionedAt lib db scripts epoch).problem = (permissionedAt lib db' scripts epoch).problem
  /-- If both are valid, the datums at the registration address convert in both
  or in neither. -/
  converts : TokensValid lib db scripts epoch →
    (ConvertsInForce lib db scripts.committeeCandidateAddress epoch ↔
      ConvertsInForce lib db' scripts.committeeCandidateAddress epoch)
  /-- If they do and the nonce is not null, the values are the same. -/
  values : TokensValid lib db scripts epoch →
    ConvertsInForce lib db scripts.committeeCandidateAddress epoch →
    none ∉ noncesOf db epoch →
    dParameterAt lib db scripts epoch = dParameterAt lib db' scripts epoch ∧
      permissionedAt lib db scripts epoch = permissionedAt lib db' scripts epoch ∧
      RegistrationsAgree lib db db' scripts.committeeCandidateAddress epoch

end Agreement

/-- The same outcome, with registrations in any order. -/
def SameOutcome {E : Type}
    (outcome outcome' : Except (InherentProviderCreationError E) AriadneInherentDataProvider) :
    Prop :=
  outcome.map (fun provider => provider.data.map AuthoritySelectionInputs.unordered) =
    outcome'.map fun provider => provider.data.map AuthoritySelectionInputs.unordered

/-! ## The registrations of a key -/

variable {lib : Libraries J} {db db' : Db J} {R : Block} {address : MainchainAddress}
  {epoch : Nat}

/-- The registrations of a pool without the order of their inputs. -/
def unorderedRegistrations (lib : Libraries J) (db : Db J) (address : MainchainAddress)
    (epoch : Nat) (key : MainchainPublicKey) : Multiset (RegistrationData × Multiset UtxoId) :=
  (registrationsInForce lib db address epoch key).map RegistrationData.unordered

/-- The registrations of a pool are those of its outputs in force. -/
theorem mem_unorderedRegistrations (h : Ledger db) {key : MainchainPublicKey}
    {x : RegistrationData × Multiset UtxoId} :
    x ∈ unorderedRegistrations lib db address epoch key ↔
      ∃ r, OutputInForce db address epoch r ∧ ∃ d, registrationDatum lib db r.txOut = some d ∧
        d.stakeOwnership.pubKey = key ∧ (registrationOf db r d).unordered = x := by
  rw [unorderedRegistrations, Multiset.mem_coe, List.mem_map]
  constructor
  · rintro ⟨y, hy, rfl⟩
    obtain ⟨r, hr, d, hd, hkey, rfl⟩ := (mem_registrationsInForce h).mp hy
    exact ⟨r, hr, d, hd, hkey, rfl⟩
  · rintro ⟨r, hr, d, hd, hkey, rfl⟩
    exact ⟨_, (mem_registrationsInForce h).mpr ⟨r, hr, d, hd, hkey, rfl⟩, rfl⟩

private theorem outputsInForce_nodup (db : Db J) (address : MainchainAddress) (epoch : Nat) :
    (outputsInForce db address epoch).Nodup := by
  unfold outputsInForce
  cases lastBlockNo db epoch with
  | none => exact List.nodup_nil
  | some block => exact inForce_nodup db address block

/-- No output is registered twice. -/
theorem unorderedRegistrations_nodup (h : Ledger db) (key : MainchainPublicKey) :
    (unorderedRegistrations lib db address epoch key).Nodup := by
  rw [unorderedRegistrations, Multiset.coe_nodup, registrationsInForce, List.map_filterMap,
    List.Nodup, List.pairwise_filterMap]
  apply (outputsInForce_nodup db address epoch).imp_of_mem
  intro r r' hr hr' hne x hx x' hx' heq
  apply hne
  obtain ⟨y, hy, rfl⟩ := Option.map_eq_some_iff.mp hx
  obtain ⟨y', hy', rfl⟩ := Option.map_eq_some_iff.mp hx'
  simp only [Option.bind_eq_some_iff, Option.ite_none_right_eq_some, Option.some.injEq] at hy hy'
  obtain ⟨d, -, -, rfl⟩ := hy
  obtain ⟨d', -, -, rfl⟩ := hy'
  have hid := congrArg (fun x => x.1.utxoInfo.utxoId) heq
  rw [mem_outputsInForce h] at hr hr'
  exact created_eq_of_utxoId h (created_of_inForce hr) (created_of_inForce hr')
    (congrArg UtxoId.txHash hid) (congrArg UtxoId.index hid)

/-- Of one output, the datum decides the registration. -/
theorem candidateFields_eq_iff {r r' : OriginRow} (hview : outputView r' = outputView r)
    (hperm : (consumedOutputs db r.tx).Perm (consumedOutputs db' r'.tx))
    (d d' : RegisterValidatorDatum) :
    candidateFields d = candidateFields d' ↔
      d.stakeOwnership.pubKey = d'.stakeOwnership.pubKey ∧
        (registrationOf db r d).unordered = (registrationOf db' r' d').unordered := by
  have hhash : r'.tx.hash = r.tx.hash := congrArg (fun v => v.tx.hash) hview
  have hindex : r'.txOut.index = r.txOut.index := congrArg OutputView.index hview
  have hblockIndex : r'.tx.blockIndex = r.tx.blockIndex := congrArg (fun v => v.tx.blockIndex) hview
  have hblock : blockView r'.block = blockView r.block := congrArg (fun v => v.tx.block) hview
  have hepochNo : r'.block.epochNo = r.block.epochNo := congrArg BlockView.epochNo hblock
  have hslotNo : r'.block.slotNo = r.block.slotNo := congrArg BlockView.slotNo hblock
  have hblockNo : r'.block.blockNo = r.block.blockNo := congrArg BlockView.blockNo hblock
  have hinputs := Multiset.coe_eq_coe.mpr hperm
  obtain ⟨⟨pubKey, signature⟩, sidechainPubKey, sidechainSignature, consumedInput, ownPkh,
    auraPubKey, grandpaPubKey⟩ := d
  obtain ⟨⟨pubKey', signature'⟩, sidechainPubKey', sidechainSignature', consumedInput', ownPkh',
    auraPubKey', grandpaPubKey'⟩ := d'
  simp only [candidateFields, registrationOf, RegistrationData.unordered, hhash, hindex,
    hblockIndex, hepochNo, hslotNo, hblockNo, hinputs, RegisterValidatorDatum.mk.injEq,
    RegistrationData.mk.injEq, Prod.mk.injEq, AdaBasedStaking.mk.injEq]
  tauto

theorem RegistrationsAgree.symm (h : RegistrationsAgree lib db db' address epoch) :
    RegistrationsAgree lib db' db address epoch :=
  fun r r' hr hr' hview => (h r' r hr' hr hview.symm).symm

section Same

variable (hsame : SamePrefix db db' R) (h : Ledger db) (h' : Ledger db') (hlt : epoch < R.epochNo)

include hsame h h' hlt

theorem consumedOutputs_perm_of_inForce {r r' : OriginRow}
    (hr : OutputInForce db address epoch r) (hr' : OutputInForce db' address epoch r')
    (hview : outputView r' = outputView r) :
    (consumedOutputs db r.tx).Perm (consumedOutputs db' r'.tx) :=
  hsame.consumedOutputs_perm h h' (created_of_inForce hr) (created_of_inForce hr') hview
    (hsame.upTo hr.block_mem hr.numbered hr.created hlt)

private theorem RegistrationsAgree.mem_of_mem (hagree : RegistrationsAgree lib db db' address epoch)
    {key : MainchainPublicKey} {x : RegistrationData × Multiset UtxoId}
    (hx : x ∈ unorderedRegistrations lib db address epoch key) :
    x ∈ unorderedRegistrations lib db' address epoch key := by
  obtain ⟨r, hr, d, hd, hkey, rfl⟩ := (mem_unorderedRegistrations h).mp hx
  obtain ⟨r', hr', hview⟩ := hsame.outputInForce h h' hlt hr
  have hdatum := hagree r r' hr hr' hview
  rw [hd, Option.map_some, eq_comm, Option.map_eq_some_iff] at hdatum
  obtain ⟨d', hd', hfields⟩ := hdatum
  obtain ⟨hkey', hunordered⟩ := (candidateFields_eq_iff hview
    (consumedOutputs_perm_of_inForce hsame h h' hlt hr hr' hview) d d').mp hfields.symm
  exact (mem_unorderedRegistrations h').mpr
    ⟨r', hr', d', hd', hkey'.symm.trans hkey, hunordered.symm⟩

/-- A registration that is found in the other database is found at the same
output. -/
theorem registrationDatum_of_mem
    (hsub : ∀ key, ∀ x ∈ unorderedRegistrations lib db address epoch key,
      x ∈ unorderedRegistrations lib db' address epoch key)
    {r r' : OriginRow} (hr : OutputInForce db address epoch r)
    (hr' : OutputInForce db' address epoch r') (hview : outputView r' = outputView r)
    {d : RegisterValidatorDatum} (hd : registrationDatum lib db r.txOut = some d) :
    ∃ d', registrationDatum lib db' r'.txOut = some d' ∧
      candidateFields d = candidateFields d' := by
  have hx := hsub _ _ ((mem_unorderedRegistrations h).mpr ⟨r, hr, d, hd, rfl, rfl⟩)
  obtain ⟨s, hs, d', hd', hkey, hunordered⟩ := (mem_unorderedRegistrations h').mp hx
  have hid := congrArg (fun x => x.1.utxoInfo.utxoId) hunordered
  have heq : s = r' := by
    refine created_eq_of_utxoId h' (created_of_inForce hs) (created_of_inForce hr') ?_ ?_
    · exact (congrArg UtxoId.txHash hid).trans (congrArg (fun v => v.tx.hash) hview).symm
    · exact (congrArg UtxoId.index hid).trans (congrArg OutputView.index hview).symm
  subst heq
  exact ⟨d', hd', (candidateFields_eq_iff hview
    (consumedOutputs_perm_of_inForce hsame h h' hlt hr hr' hview) d d').mpr
      ⟨hkey.symm, hunordered.symm⟩⟩

/-- The registrations are the same exactly if the databases agree on each of them. -/
theorem unorderedRegistrations_eq_iff :
    (∀ key, unorderedRegistrations lib db address epoch key =
      unorderedRegistrations lib db' address epoch key) ↔
      RegistrationsAgree lib db db' address epoch := by
  constructor
  · intro heq r r' hr hr' hview
    cases hd : registrationDatum lib db r.txOut with
    | some d =>
        obtain ⟨d', hd', hfields⟩ := registrationDatum_of_mem hsame h h' hlt
          (fun key x hx => heq key ▸ hx) hr hr' hview hd
        rw [hd', Option.map_some, Option.map_some, hfields]
    | none =>
        cases hd' : registrationDatum lib db' r'.txOut with
        | none => rfl
        | some d' =>
            obtain ⟨d, hd'', -⟩ := registrationDatum_of_mem hsame.symm h' h hlt
              (fun key x hx => (heq key).symm ▸ hx) hr' hr hview.symm hd'
            rw [hd] at hd''
            cases hd''
  · intro hagree key
    refine (Multiset.Nodup.ext (unorderedRegistrations_nodup h key)
      (unorderedRegistrations_nodup h' key)).mpr fun x => ⟨?_, ?_⟩
    · exact hagree.mem_of_mem hsame h h' hlt
    · exact hagree.symm.mem_of_mem hsame.symm h' h hlt

end Same

/-! ## The candidates -/

private theorem exists_candidate_unordered {candidates candidates' : List CandidateRegistrations}
    (hc : CandidatesInForce lib db address epoch candidates)
    (hc' : CandidatesInForce lib db' address epoch candidates')
    (hstake : ∀ key, stakeInForce lib db epoch key = stakeInForce lib db' epoch key)
    (heq : ∀ key, unorderedRegistrations lib db address epoch key =
      unorderedRegistrations lib db' address epoch key)
    {c : CandidateRegistrations} (hmem : c ∈ candidates) :
    ∃ c' ∈ candidates', c'.unordered = c.unordered := by
  have hne := (hc.keys c.mainchainPubKey).mp (List.mem_map_of_mem hmem)
  have hne' : registrationsInForce lib db' address epoch c.mainchainPubKey ≠ [] := by
    intro hnil
    have hempty := heq c.mainchainPubKey
    rw [unorderedRegistrations, unorderedRegistrations, hnil, List.map_nil, Multiset.coe_nil,
      Multiset.coe_eq_zero, List.map_eq_nil_iff] at hempty
    exact hne hempty
  obtain ⟨c', hmem', hkey⟩ := List.mem_map.mp ((hc'.keys c.mainchainPubKey).mpr hne')
  refine ⟨c', hmem', ?_⟩
  rw [CandidateRegistrations.unordered, CandidateRegistrations.unordered,
    hc'.registrations c' hmem', hc.registrations c hmem, hc'.stake c' hmem', hc.stake c hmem, hkey,
    hstake]
  exact Prod.ext rfl (Prod.ext (heq _).symm rfl)

private theorem candidates_unordered_nodup {candidates : List CandidateRegistrations}
    (hc : CandidatesInForce lib db address epoch candidates) :
    (candidates.map CandidateRegistrations.unordered).Nodup := by
  apply List.Nodup.of_map Prod.fst
  rw [List.map_map]
  exact hc.keys_nodup

/-- Lists of candidates are the same up to order exactly if every key has the
same registrations. -/
theorem candidates_unordered_perm_iff {candidates candidates' : List CandidateRegistrations}
    (hc : CandidatesInForce lib db address epoch candidates)
    (hc' : CandidatesInForce lib db' address epoch candidates')
    (hstake : ∀ key, stakeInForce lib db epoch key = stakeInForce lib db' epoch key) :
    (candidates.map CandidateRegistrations.unordered).Perm
        (candidates'.map CandidateRegistrations.unordered) ↔
      ∀ key, unorderedRegistrations lib db address epoch key =
        unorderedRegistrations lib db' address epoch key := by
  constructor
  · intro hperm key
    by_cases hkey : key ∈ candidates.map CandidateRegistrations.mainchainPubKey
    · obtain ⟨c, hmem, rfl⟩ := List.mem_map.mp hkey
      obtain ⟨c', hmem', hunordered⟩ :=
        List.mem_map.mp (hperm.mem_iff.mp (List.mem_map_of_mem hmem))
      have hkey' : c'.mainchainPubKey = c.mainchainPubKey := congrArg Prod.fst hunordered
      have hregistrations := congrArg (fun x => x.2.1) hunordered
      simp only [CandidateRegistrations.unordered] at hregistrations
      rw [hc'.registrations c' hmem', hc.registrations c hmem, hkey'] at hregistrations
      exact hregistrations.symm
    · have hkey' : key ∉ candidates'.map CandidateRegistrations.mainchainPubKey := by
        intro hkey'
        obtain ⟨c', hmem', rfl⟩ := List.mem_map.mp hkey'
        obtain ⟨c, hmem, hunordered⟩ :=
          List.mem_map.mp (hperm.mem_iff.mpr (List.mem_map_of_mem hmem'))
        exact hkey (List.mem_map.mpr ⟨c, hmem, congrArg Prod.fst hunordered⟩)
      rw [hc.keys, not_not] at hkey
      rw [hc'.keys, not_not] at hkey'
      rw [unorderedRegistrations, unorderedRegistrations, hkey, hkey']
  · intro heq
    rw [List.perm_ext_iff_of_nodup (candidates_unordered_nodup hc)
      (candidates_unordered_nodup hc')]
    intro x
    constructor
    · intro hx
      obtain ⟨c, hmem, rfl⟩ := List.mem_map.mp hx
      obtain ⟨c', hmem', hunordered⟩ := exists_candidate_unordered hc hc' hstake heq hmem
      exact List.mem_map.mpr ⟨c', hmem', hunordered⟩
    · intro hx
      obtain ⟨c', hmem', rfl⟩ := List.mem_map.mp hx
      obtain ⟨c, hmem, hunordered⟩ := exists_candidate_unordered hc' hc
        (fun key => (hstake key).symm) (fun key => (heq key).symm) hmem'
      exact List.mem_map.mpr ⟨c, hmem, hunordered⟩

/-! ## Reading the inputs -/

private theorem getEpochNonceForUsage_ok_iff (hsame : SamePrefix db db' R) {forEpoch : Nat}
    (hepoch : 2 ≤ forEpoch) (hlt : forEpoch - 2 < R.epochNo) :
    (∃ nonce, getEpochNonceForUsage db forEpoch = .ok nonce) ↔
      none ∉ noncesOf db (forEpoch - 2) := by
  have hstorage : getEpochOfDataStorage forEpoch = .ok (forEpoch - 2) := if_neg (by omega)
  have hlength := hsame.one_nonce _ hlt
  simp only [getEpochNonceForUsage, hstorage, bind, Except.bind,
    MainchainPrefix.getEpochNonce_eq db (hsame.epoch_lt hlt)]
  match noncesOf db (forEpoch - 2), hlength with
  | [], _ => simp [Except.mapError]
  | [none], _ => simp [notNull, Except.map, Except.mapError]
  | [some nonce], _ => simp [notNull, Except.map, Except.mapError]

private theorem getEpochNonceForUsage_eq (hsame : SamePrefix db db' R) {forEpoch : Nat}
    (hepoch : 2 ≤ forEpoch) (hlt : forEpoch - 2 < R.epochNo) :
    getEpochNonceForUsage db forEpoch = getEpochNonceForUsage db' forEpoch := by
  have hstorage : getEpochOfDataStorage forEpoch = .ok (forEpoch - 2) := if_neg (by omega)
  simp only [getEpochNonceForUsage, hstorage, bind, Except.bind, hsame.getEpochNonce_eq hlt]

section Parameters

variable {scripts : MainChainScripts} {forEpoch : Nat}

/-- The parameters that the two datums make up. -/
def parametersAt (lib : Libraries J) (db : Db J) (scripts : MainChainScripts) (epoch : Nat) :
    Except CandidatesError AriadneParameters :=
  parametersOfDatums (dParameterAt lib db scripts epoch) (permissionedAt lib db scripts epoch)

/-- The parameters are those two epochs earlier. -/
theorem getAriadneParameters_eq_parametersAt (h : Ledger db) (hepoch : 2 ≤ forEpoch)
    (hword : forEpoch - 2 < 2 ^ 31) :
    getAriadneParameters lib db forEpoch scripts.dParameterPolicyId
        scripts.permissionedCandidatesPolicyId =
      parametersAt lib db scripts (forEpoch - 2) := by
  rw [getAriadneParameters_eq lib h _ _ hepoch hword, parametersFrom_eq]
  rfl

/-- Parameters are read exactly if both tokens have valid datums. -/
theorem parametersAt_eq_ok {parameters : AriadneParameters} :
    parametersAt lib db scripts epoch = .ok parameters ↔
      dParameterAt lib db scripts epoch = .valid parameters.dParameter ∧
        permissionedAt lib db scripts epoch = .valid parameters.permissionedCandidates :=
  parametersOfDatums_eq_ok

private theorem parametersAt_of_valid (h : TokensValid lib db scripts epoch) :
    ∃ parameters, parametersAt lib db scripts epoch = .ok parameters := by
  obtain ⟨d, hd⟩ := TokenDatum.isValid_iff.mp h.dParameter
  obtain ⟨p, hp⟩ := TokenDatum.isValid_iff.mp h.permissioned
  exact ⟨⟨d, p⟩, parametersAt_eq_ok.mpr ⟨hd, hp⟩⟩

private theorem tokensValid_of_ok {parameters : AriadneParameters}
    (h : parametersAt lib db scripts epoch = .ok parameters) :
    TokensValid lib db scripts epoch := by
  obtain ⟨hd, hp⟩ := parametersAt_eq_ok.mp h
  exact ⟨by rw [hd]; rfl, by rw [hp]; rfl⟩

/-- The errors are the same exactly if the same token has the same problem. -/
theorem parametersAt_error_iff :
    (∀ e, parametersAt lib db scripts epoch = .error e ↔
        parametersAt lib db' scripts epoch = .error e) ↔
      (TokensMalformed lib db scripts epoch ↔ TokensMalformed lib db' scripts epoch) ∧
        (¬ TokensMalformed lib db scripts epoch →
          (dParameterAt lib db scripts epoch).problem =
              (dParameterAt lib db' scripts epoch).problem ∧
            ((dParameterAt lib db scripts epoch).isValid = true →
              (permissionedAt lib db scripts epoch).problem =
                (permissionedAt lib db' scripts epoch).problem)) := by
  simp only [parametersAt, fails_iff, TokensMalformed, ← Bool.or_eq_true, ← Bool.eq_iff_iff,
    Bool.not_eq_true]

private theorem DatumsAgree.error_iff (hagree : DatumsAgree lib db db' scripts epoch)
    (e : CandidatesError) :
    parametersAt lib db scripts epoch = .error e ↔
      parametersAt lib db' scripts epoch = .error e :=
  parametersAt_error_iff.mpr ⟨hagree.malformed, fun hnot =>
    ⟨hagree.dParameter hnot, hagree.permissioned hnot⟩⟩ e

/-- Datums that fail alike agree; beyond that only valid ones have to. -/
theorem datumsAgree_of_error_iff
    (hfails : ∀ e, parametersAt lib db scripts epoch = .error e ↔
      parametersAt lib db' scripts epoch = .error e)
    (hvalid : TokensValid lib db scripts epoch →
      (ConvertsInForce lib db scripts.committeeCandidateAddress epoch ↔
        ConvertsInForce lib db' scripts.committeeCandidateAddress epoch) ∧
      (ConvertsInForce lib db scripts.committeeCandidateAddress epoch →
        none ∉ noncesOf db epoch →
        dParameterAt lib db scripts epoch = dParameterAt lib db' scripts epoch ∧
          permissionedAt lib db scripts epoch = permissionedAt lib db' scripts epoch ∧
          RegistrationsAgree lib db db' scripts.committeeCandidateAddress epoch)) :
    DatumsAgree lib db db' scripts epoch := by
  obtain ⟨hmalformed, hproblems⟩ := parametersAt_error_iff.mp hfails
  exact ⟨hmalformed, fun hnot => (hproblems hnot).1, fun hnot => (hproblems hnot).2,
    fun hvalid' => (hvalid hvalid').1, fun hvalid' => (hvalid hvalid').2⟩

end Parameters

section Inputs

variable [DecidableEq J] {scripts : MainChainScripts} {forEpoch : Nat}

private theorem fromMcData_of_error (h : Ledger db) (hepoch : 2 ≤ forEpoch)
    (hword : forEpoch - 2 < 2 ^ 31) {e : CandidatesError}
    (hp : parametersAt lib db scripts (forEpoch - 2) = .error e) :
    fromMcData lib db forEpoch scripts = .error (.ariadneParametersQuery forEpoch
      scripts.dParameterPolicyId scripts.permissionedCandidatesPolicyId e) := by
  rw [fromMcData, getAriadneParameters_eq_parametersAt h hepoch hword, hp]
  rfl

/-- With valid parameters the candidates are asked for, then the nonce. -/
theorem fromMcData_of_ok (h : Ledger db) (hepoch : 2 ≤ forEpoch)
    (hword : forEpoch - 2 < 2 ^ 31) {p : AriadneParameters}
    (hp : parametersAt lib db scripts (forEpoch - 2) = .ok p) :
    fromMcData lib db forEpoch scripts =
      ((getCandidates lib db forEpoch scripts.committeeCandidateAddress).mapError
        (.getCandidatesQuery forEpoch scripts.committeeCandidateAddress)).bind fun candidates =>
      ((getEpochNonceForUsage db forEpoch).mapError (.getEpochNonceQuery forEpoch)).map
        fun nonce => ⟨p.dParameter, p.permissionedCandidates, candidates, nonce.getD []⟩ := by
  rw [fromMcData, getAriadneParameters_eq_parametersAt h hepoch hword, hp]
  simp only [bind, Except.bind, Except.mapError]
  cases getCandidates lib db forEpoch scripts.committeeCandidateAddress with
  | error e => rfl
  | ok candidates => cases getEpochNonceForUsage db forEpoch <;> rfl

private theorem fromMcData_ne_of_ok (h : Ledger db) (hepoch : 2 ≤ forEpoch)
    (hword : forEpoch - 2 < 2 ^ 31) {p : AriadneParameters}
    (hp : parametersAt lib db scripts (forEpoch - 2) = .ok p) (e : CandidatesError) :
    (fromMcData lib db forEpoch scripts).map AuthoritySelectionInputs.unordered ≠
      .error (.ariadneParametersQuery forEpoch scripts.dParameterPolicyId
        scripts.permissionedCandidatesPolicyId e) := by
  rw [fromMcData_of_ok h hepoch hword hp]
  cases getCandidates lib db forEpoch scripts.committeeCandidateAddress with
  | error e => simp [Except.mapError, Except.bind, Except.map]
  | ok candidates =>
      cases getEpochNonceForUsage db forEpoch <;> simp [Except.mapError, Except.bind, Except.map]

/-- Where one database fails to convert a datum, the other one has to. -/
theorem fromMcData_ne_of_converts (h : Ledger db) (h' : Ledger db')
    (hordinary : OrdinaryTransactions db scripts.committeeCandidateAddress)
    (hordinary' : OrdinaryTransactions db' scripts.committeeCandidateAddress)
    (hepoch : 2 ≤ forEpoch) (hword : forEpoch - 2 < 2 ^ 31) {p p' : AriadneParameters}
    (hp : parametersAt lib db scripts (forEpoch - 2) = .ok p)
    (hp' : parametersAt lib db' scripts (forEpoch - 2) = .ok p')
    (hconvert : ConvertsInForce lib db scripts.committeeCandidateAddress (forEpoch - 2))
    (hnot : ¬ ConvertsInForce lib db' scripts.committeeCandidateAddress (forEpoch - 2)) :
    (fromMcData lib db forEpoch scripts).map AuthoritySelectionInputs.unordered ≠
      (fromMcData lib db' forEpoch scripts).map AuthoritySelectionInputs.unordered := by
  rw [fromMcData_of_ok h hepoch hword hp, fromMcData_of_ok h' hepoch hword hp',
    getCandidates_eq h hordinary hepoch hword hconvert,
    getCandidates_error h' hordinary' hepoch hword hnot]
  cases getEpochNonceForUsage db forEpoch <;> simp [Except.mapError, Except.bind, Except.map]

/-- With parameters and datums in order the inputs are compared. -/
theorem fromMcData_unordered_iff_of_converts (hsame : SamePrefix db db' R) (h : Ledger db)
    (h' : Ledger db') (hordinary : OrdinaryTransactions db scripts.committeeCandidateAddress)
    (hordinary' : OrdinaryTransactions db' scripts.committeeCandidateAddress)
    (hepoch : 2 ≤ forEpoch) (hlt : forEpoch - 2 < R.epochNo) {p p' : AriadneParameters}
    (hp : parametersAt lib db scripts (forEpoch - 2) = .ok p)
    (hp' : parametersAt lib db' scripts (forEpoch - 2) = .ok p')
    (hconvert : ConvertsInForce lib db scripts.committeeCandidateAddress (forEpoch - 2))
    (hconvert' : ConvertsInForce lib db' scripts.committeeCandidateAddress (forEpoch - 2)) :
    (fromMcData lib db forEpoch scripts).map AuthoritySelectionInputs.unordered =
        (fromMcData lib db' forEpoch scripts).map AuthoritySelectionInputs.unordered ↔
      (none ∉ noncesOf db (forEpoch - 2) → p = p' ∧
        RegistrationsAgree lib db db' scripts.committeeCandidateAddress (forEpoch - 2)) := by
  have hword := hsame.epoch_lt hlt
  obtain ⟨candidates, hok, hc⟩ := getCandidates_candidatesInForce h hordinary hepoch hword hconvert
  obtain ⟨candidates', hok', hc'⟩ :=
    getCandidates_candidatesInForce h' hordinary' hepoch hword hconvert'
  rw [fromMcData_of_ok h hepoch hword hp, fromMcData_of_ok h' hepoch hword hp', hok, hok',
    ← getEpochNonceForUsage_eq hsame hepoch hlt, ← getEpochNonceForUsage_ok_iff hsame hepoch hlt,
    ← unorderedRegistrations_eq_iff hsame h h' hlt,
    ← candidates_unordered_perm_iff hc hc' (hsame.stakeInForce_eq lib hlt)]
  cases getEpochNonceForUsage db forEpoch with
  | error e => simp [Except.mapError, Except.bind, Except.map]
  | ok nonce =>
      obtain ⟨dParameter, permissionedCandidates⟩ := p
      obtain ⟨dParameter', permissionedCandidates'⟩ := p'
      simp only [Except.mapError, Except.bind, Except.map, AuthoritySelectionInputs.unordered,
        Except.ok.injEq, Prod.mk.injEq, Multiset.coe_eq_coe, AriadneParameters.mk.injEq,
        exists_eq', forall_const]
      tauto

/-- With parameters in both databases, the registration datums decide. -/
theorem fromMcData_unordered_iff_of_ok (hsame : SamePrefix db db' R) (h : Ledger db)
    (h' : Ledger db') (hordinary : OrdinaryTransactions db scripts.committeeCandidateAddress)
    (hordinary' : OrdinaryTransactions db' scripts.committeeCandidateAddress)
    (hepoch : 2 ≤ forEpoch) (hlt : forEpoch - 2 < R.epochNo) {p p' : AriadneParameters}
    (hp : parametersAt lib db scripts (forEpoch - 2) = .ok p)
    (hp' : parametersAt lib db' scripts (forEpoch - 2) = .ok p') :
    (fromMcData lib db forEpoch scripts).map AuthoritySelectionInputs.unordered =
        (fromMcData lib db' forEpoch scripts).map AuthoritySelectionInputs.unordered ↔
      DatumsAgree lib db db' scripts (forEpoch - 2) := by
  have hword := hsame.epoch_lt hlt
  have hvalid := tokensValid_of_ok hp
  obtain ⟨hd, hl⟩ := parametersAt_eq_ok.mp hp
  obtain ⟨hd', hl'⟩ := parametersAt_eq_ok.mp hp'
  have hfails : ∀ e, parametersAt lib db scripts (forEpoch - 2) = .error e ↔
      parametersAt lib db' scripts (forEpoch - 2) = .error e := by simp [hp, hp']
  by_cases hconvert :
      ConvertsInForce lib db scripts.committeeCandidateAddress (forEpoch - 2)
  · by_cases hconvert' :
        ConvertsInForce lib db' scripts.committeeCandidateAddress (forEpoch - 2)
    · rw [fromMcData_unordered_iff_of_converts hsame h h' hordinary hordinary' hepoch hlt hp
        hp' hconvert hconvert']
      constructor
      · intro heq
        refine datumsAgree_of_error_iff hfails fun _ => ⟨iff_of_true hconvert hconvert', ?_⟩
        intro _ hnonce
        obtain ⟨rfl, hregistrations⟩ := heq hnonce
        exact ⟨hd.trans hd'.symm, hl.trans hl'.symm, hregistrations⟩
      · intro hagree hnonce
        obtain ⟨hdEq, hlEq, hregistrations⟩ := hagree.values hvalid hconvert hnonce
        rw [hd, hd', TokenDatum.valid.injEq] at hdEq
        rw [hl, hl', TokenDatum.valid.injEq] at hlEq
        exact ⟨AriadneParameters.ext hdEq hlEq, hregistrations⟩
    · apply iff_of_false
      · exact fromMcData_ne_of_converts h h' hordinary hordinary' hepoch hword hp hp' hconvert
          hconvert'
      · intro hagree
        exact hconvert' ((hagree.converts hvalid).mp hconvert)
  · by_cases hconvert' :
        ConvertsInForce lib db' scripts.committeeCandidateAddress (forEpoch - 2)
    · apply iff_of_false
      · exact (fromMcData_ne_of_converts h' h hordinary' hordinary hepoch hword hp' hp hconvert'
          hconvert).symm
      · intro hagree
        exact hconvert ((hagree.converts hvalid).mpr hconvert')
    -- neither database gets past the candidates, and both report the same error
    · apply iff_of_true
      · rw [fromMcData_of_ok h hepoch hword hp, fromMcData_of_ok h' hepoch hword hp',
          getCandidates_error h hordinary hepoch hword hconvert,
          getCandidates_error h' hordinary' hepoch hword hconvert']
        rfl
      · exact datumsAgree_of_error_iff hfails fun _ =>
          ⟨iff_of_false hconvert hconvert', fun hc => absurd hc hconvert⟩

/-- Reading the inputs from both databases. -/
theorem fromMcData_unordered_iff (hsame : SamePrefix db db' R) (h : Ledger db) (h' : Ledger db')
    (hordinary : OrdinaryTransactions db scripts.committeeCandidateAddress)
    (hordinary' : OrdinaryTransactions db' scripts.committeeCandidateAddress)
    (hepoch : 2 ≤ forEpoch) (hlt : forEpoch - 2 < R.epochNo) :
    (fromMcData lib db forEpoch scripts).map AuthoritySelectionInputs.unordered =
        (fromMcData lib db' forEpoch scripts).map AuthoritySelectionInputs.unordered ↔
      DatumsAgree lib db db' scripts (forEpoch - 2) := by
  have hword := hsame.epoch_lt hlt
  cases hp : parametersAt lib db scripts (forEpoch - 2) with
  | error e =>
      have hfails := fromMcData_of_error h hepoch hword hp
      cases hp' : parametersAt lib db' scripts (forEpoch - 2) with
      | error e' =>
          rw [hfails, fromMcData_of_error h' hepoch hword hp']
          simp only [Except.map, Except.error.injEq,
            AuthoritySelectionInputsCreationError.ariadneParametersQuery.injEq, true_and]
          constructor
          · rintro rfl
            refine datumsAgree_of_error_iff (by simp [hp, hp']) fun hvalid => ?_
            obtain ⟨parameters, hok⟩ := parametersAt_of_valid hvalid
            simp [hp] at hok
          · intro hagree
            exact (Except.error.inj (hp' ▸ (hagree.error_iff e).mp hp)).symm
      | ok p' =>
          apply iff_of_false
          · rw [hfails]
            exact (fromMcData_ne_of_ok h' hepoch hword hp' e).symm
          · intro hagree
            exact absurd (hp' ▸ (hagree.error_iff e).mp hp) (by simp)
  | ok p =>
      cases hp' : parametersAt lib db' scripts (forEpoch - 2) with
      | error e' =>
          apply iff_of_false
          · rw [fromMcData_of_error h' hepoch hword hp']
            exact fromMcData_ne_of_ok h hepoch hword hp e'
          · intro hagree
            exact absurd (hp ▸ (hagree.error_iff e').mpr hp') (by simp)
      | ok p' =>
          exact fromMcData_unordered_iff_of_ok hsame h h' hordinary hordinary' hepoch hlt hp hp'

end Inputs

/-! ## The outcome -/

section Outcome

variable [DecidableEq J] {E : Type} {timestamp : UInt64 → UInt64 → Option UInt64}
  {scSlotConfig : ScSlotConfig} {mcEpochConfig : MainchainEpochConfig}

/-- Where data is requested, the outcomes are compared by the inputs read. -/
theorem sameOutcome_iff_of_request {client : RuntimeApi E} {slot : UInt64}
    {mcReferenceEpoch forEpoch : Nat} {scripts : MainChainScripts}
    (hrequest : dataRequest timestamp scSlotConfig mcEpochConfig client slot mcReferenceEpoch =
      .ok (some (forEpoch, scripts))) :
    SameOutcome
        (AriadneInherentDataProvider.new timestamp scSlotConfig mcEpochConfig lib db client slot
          mcReferenceEpoch)
        (AriadneInherentDataProvider.new timestamp scSlotConfig mcEpochConfig lib db' client slot
          mcReferenceEpoch) ↔
      (fromMcData lib db forEpoch scripts).map AuthoritySelectionInputs.unordered =
        (fromMcData lib db' forEpoch scripts).map AuthoritySelectionInputs.unordered := by
  rw [SameOutcome, new_eq, new_eq, hrequest]
  simp only [Except.bind]
  cases fromMcData lib db forEpoch scripts <;> cases fromMcData lib db' forEpoch scripts <;>
    simp [Except.mapError, Except.map]

/-- Over two databases with the same prefix the provider has the same outcome
exactly if the datums that it reads say the same, for the request that the
parent state and the slot give rise to. -/
theorem sameOutcome_iff (hsame : SamePrefix db db' R) (h : Ledger db) (h' : Ledger db')
    (hordinary : ∀ address, OrdinaryTransactions db address)
    (hordinary' : ∀ address, OrdinaryTransactions db' address) (client : RuntimeApi E)
    (slot : UInt64) :
    SameOutcome
        (AriadneInherentDataProvider.new timestamp scSlotConfig mcEpochConfig lib db client slot
          R.epochNo)
        (AriadneInherentDataProvider.new timestamp scSlotConfig mcEpochConfig lib db' client slot
          R.epochNo) ↔
      ∀ forEpoch scripts,
        dataRequest timestamp scSlotConfig mcEpochConfig client slot R.epochNo =
          .ok (some (forEpoch, scripts)) →
        DatumsAgree lib db db' scripts (forEpoch - 2) := by
  rcases hrequest : dataRequest timestamp scSlotConfig mcEpochConfig client slot R.epochNo with
    e | (_ | ⟨forEpoch, scripts⟩)
  · simp [SameOutcome, new_eq, hrequest, Except.bind]
  · simp [SameOutcome, new_eq, hrequest, Except.bind]
  · obtain ⟨hepoch, hlt⟩ := epoch_of_dataRequest hrequest
    rw [sameOutcome_iff_of_request hrequest,
      fromMcData_unordered_iff hsame h h' (hordinary _) (hordinary' _) hepoch hlt]
    constructor
    · rintro hagree _ _ ⟨rfl, rfl⟩
      exact hagree
    · intro hall
      exact hall forEpoch scripts rfl

end Outcome

/-! ## Data hashes resolved alike -/

/-- Both databases have the same datum, or none, for an output of the prefix.
It is so if the datum was published up to the block. -/
def ResolvedAlike (db db' : Db J) (R : Block) : Prop :=
  ∀ r r', Created db r → Created db' r' → outputView r' = outputView r →
    (blockView r.block).upTo R = true → datumValue db r.txOut = datumValue db' r'.txOut

theorem ResolvedAlike.symm (h : ResolvedAlike db db' R) : ResolvedAlike db' db R := by
  intro r r' hr hr' hview hupTo
  have hblock : blockView r'.block = blockView r.block := congrArg (fun v => v.tx.block) hview
  exact (h r' r hr' hr hview.symm (hblock ▸ hupTo)).symm

/-- Databases that resolve datums alike agree on the last datum of a token. -/
theorem ResolvedAlike.lastTokenDatum_eq (halike : ResolvedAlike db db' R)
    (hsame : SamePrefix db db' R) (h : Ledger db) (h' : Ledger db') {asset : Asset}
    (huntied' : Untied db' asset epoch) (hlt : epoch < R.epochNo) :
    lastTokenDatum db asset epoch = lastTokenDatum db' asset epoch := by
  have huntied := hsame.untied h hlt huntied'
  cases hlast : lastTokenOutput db asset epoch with
  | none =>
      cases hlast' : lastTokenOutput db' asset epoch with
      | none => rw [lastTokenDatum, lastTokenDatum, hlast, hlast']; rfl
      | some r' =>
          obtain ⟨r, hr, -⟩ := hsame.symm.lastTokenOutput h' h huntied hlt hlast'
          rw [hlast] at hr
          cases hr
  | some r =>
      obtain ⟨r', hr', hview⟩ := hsame.lastTokenOutput h h' huntied' hlt hlast
      obtain ⟨hcreated, -, hepoch⟩ :=
        mem_tokenOutputs.mp (Verified.Relational.head?_orderByDesc hlast).1
      obtain ⟨hcreated', -, -⟩ :=
        mem_tokenOutputs.mp (Verified.Relational.head?_orderByDesc hr').1
      obtain ⟨n, hn⟩ := hcreated.numbered h hepoch
      have hupTo := hsame.upTo (origin_eq_some hcreated.origin_eq).2.2.1 (by simp [hn]) hepoch hlt
      rw [lastTokenDatum, lastTokenDatum, hlast, hr', Option.map_some, Option.map_some,
        halike r r' hcreated hcreated' hview hupTo]

/-- Databases that resolve datums alike agree on which convert. -/
theorem ResolvedAlike.convertsInForce (halike : ResolvedAlike db db' R)
    (hsame : SamePrefix db db' R) (h : Ledger db) (h' : Ledger db') (hlt : epoch < R.epochNo)
    (hconvert : ConvertsInForce lib db' address epoch) : ConvertsInForce lib db address epoch := by
  intro r hr value hvalue
  rw [mem_outputsInForce h] at hr
  obtain ⟨r', hr', hview⟩ := hsame.outputInForce h h' hlt hr
  have hupTo := hsame.upTo hr.block_mem hr.numbered hr.created hlt
  rw [halike r r' (created_of_inForce hr) (created_of_inForce hr') hview hupTo] at hvalue
  exact hconvert r' ((mem_outputsInForce h').mpr hr') value hvalue

/-- Databases that resolve datums alike agree on the registrations. -/
theorem ResolvedAlike.registrationsAgree (halike : ResolvedAlike db db' R)
    (hsame : SamePrefix db db' R) (lib : Libraries J) (address : MainchainAddress)
    (hlt : epoch < R.epochNo) : RegistrationsAgree lib db db' address epoch := by
  intro r r' hr hr' hview
  have hupTo := hsame.upTo hr.block_mem hr.numbered hr.created hlt
  rw [registrationDatum, registrationDatum,
    halike r r' (created_of_inForce hr) (created_of_inForce hr') hview hupTo]

/-- The candidates are the same up to order, and so is the failure to decode
one of them. -/
theorem ResolvedAlike.getCandidates_unordered [DecidableEq J] (halike : ResolvedAlike db db' R)
    (hsame : SamePrefix db db' R) (h : Ledger db) (h' : Ledger db') (lib : Libraries J)
    (hordinary : OrdinaryTransactions db address) (hordinary' : OrdinaryTransactions db' address)
    {forEpoch : Nat} (hepoch : 2 ≤ forEpoch) (hlt : forEpoch - 2 < R.epochNo) :
    (getCandidates lib db forEpoch address).map
        (fun l => Multiset.ofList (l.map CandidateRegistrations.unordered)) =
      (getCandidates lib db' forEpoch address).map
        fun l => Multiset.ofList (l.map CandidateRegistrations.unordered) := by
  have hword := hsame.epoch_lt hlt
  by_cases hconvert : ConvertsInForce lib db address (forEpoch - 2)
  · have hconvert' := halike.symm.convertsInForce hsame.symm h' h hlt hconvert
    obtain ⟨candidates, hok, hc⟩ :=
      getCandidates_candidatesInForce h hordinary hepoch hword hconvert
    obtain ⟨candidates', hok', hc'⟩ :=
      getCandidates_candidatesInForce h' hordinary' hepoch hword hconvert'
    have hperm := (candidates_unordered_perm_iff hc hc' (hsame.stakeInForce_eq lib hlt)).mpr
      ((unorderedRegistrations_eq_iff hsame h h' hlt).mpr
        (halike.registrationsAgree hsame lib address hlt))
    rw [hok, hok']
    exact congrArg Except.ok (Multiset.coe_eq_coe.mpr hperm)
  · have hconvert' : ¬ ConvertsInForce lib db' address (forEpoch - 2) :=
      fun hc => hconvert (halike.convertsInForce hsame h h' hlt hc)
    rw [getCandidates_error h hordinary hepoch hword hconvert,
      getCandidates_error h' hordinary' hepoch hword hconvert']

/-- Databases that resolve datums alike agree on the parameters. -/
theorem ResolvedAlike.getAriadneParameters_eq (halike : ResolvedAlike db db' R)
    (hsame : SamePrefix db db' R) (h : Ledger db) (h' : Ledger db') (lib : Libraries J)
    {dPolicy pPolicy : PolicyId} {forEpoch : Nat} (hepoch : 2 ≤ forEpoch)
    (hlt : forEpoch - 2 < R.epochNo) (hd' : Untied db' (tokenAsset dPolicy) (forEpoch - 2))
    (hp' : Untied db' (tokenAsset pPolicy) (forEpoch - 2)) :
    getAriadneParameters lib db forEpoch dPolicy pPolicy =
      getAriadneParameters lib db' forEpoch dPolicy pPolicy := by
  have hword := hsame.epoch_lt hlt
  rw [TokenHolders.getAriadneParameters_eq lib h dPolicy pPolicy hepoch hword,
    TokenHolders.getAriadneParameters_eq lib h' dPolicy pPolicy hepoch hword,
    halike.lastTokenDatum_eq hsame h h' hd' hlt, halike.lastTokenDatum_eq hsame h h' hp' hlt]

/-- If the data hashes of the prefix are resolved alike, and no transaction has
two outputs with a token, the datums say the same. -/
theorem ResolvedAlike.datumsAgree (halike : ResolvedAlike db db' R)
    (hsame : SamePrefix db db' R) (h : Ledger db) (h' : Ledger db') {scripts : MainChainScripts}
    (hd' : Untied db' (tokenAsset scripts.dParameterPolicyId) epoch)
    (hp' : Untied db' (tokenAsset scripts.permissionedCandidatesPolicyId) epoch)
    (hlt : epoch < R.epochNo) : DatumsAgree lib db db' scripts epoch := by
  have hd : dParameterAt lib db scripts epoch = dParameterAt lib db' scripts epoch := by
    rw [dParameterAt, dParameterAt, halike.lastTokenDatum_eq hsame h h' hd' hlt]
  have hp : permissionedAt lib db scripts epoch = permissionedAt lib db' scripts epoch := by
    rw [permissionedAt, permissionedAt, halike.lastTokenDatum_eq hsame h h' hp' hlt]
  refine datumsAgree_of_error_iff (fun e => by rw [parametersAt, parametersAt, hd, hp])
    fun _ => ⟨⟨?_, ?_⟩, fun _ _ => ⟨hd, hp, halike.registrationsAgree hsame lib _ hlt⟩⟩
  · exact halike.symm.convertsInForce hsame.symm h' h hlt
  · exact halike.convertsInForce hsame h h' hlt

/-! ## A datum that is published late

A transaction of block 2 mints the two tokens and registers a candidate with
the hash of a datum only.  Block 3, of the next epoch, is the block that is
referred to; in one of the databases a transaction of block 4 publishes the
datum. -/

/-- The three datums of the example. -/
inductive LateJson where
  | dParameter
  | candidates
  | registration
deriving DecidableEq

/-- Each datum decodes to what its name says. -/
def lateLibraries : Libraries LateJson where
  hex := UtxoText.lowerHex
  encodeJsonValueToPlutusDatum
    | .dParameter => some (dParameterToPlutusData ⟨1, 1⟩)
    | .candidates => some (permissionedCandidatesToPlutusData [])
    | .registration => some exampleRegistration.toPlutusData
  fromVkey := fun _ => examplePool

/-- The scripts the partner chain is configured with. -/
def lateScripts : MainChainScripts := ⟨"registrations", dPolicyExample, pPolicyExample⟩

/-- The first block of epoch one. -/
def referenceBlock : BlockRow := { chainBlock 3 with epochNo := some 1 }

/-- A chain where the datum of a registration becomes known only with the last
block. -/
def lateDb (published : Bool) : Db LateJson :=
  { Db.empty LateJson with
    block := [genesisBlock, chainBlock 2, referenceBlock] ++
      if published then [{ chainBlock 4 with epochNo := some 1 }] else []
    tx := [⟨0, FixedBytes.replicate 32 10, 0, 0⟩, ⟨1, FixedBytes.replicate 32 11, 2, 0⟩] ++
      if published then [⟨2, FixedBytes.replicate 32 12, 4, 0⟩] else []
    txIn := [⟨0, 1, 0, 0⟩] ++ if published then [⟨1, 2, 0, 1⟩] else []
    txOut := [⟨0, 0, 0, "wallet", none⟩, ⟨1, 0, 1, "wallet", none⟩,
      ⟨2, 1, 0, "governance", some (FixedBytes.replicate 32 20)⟩,
      ⟨3, 1, 1, "governance", some (FixedBytes.replicate 32 21)⟩,
      ⟨4, 1, 2, "registrations", some (FixedBytes.replicate 32 22)⟩] ++
      if published then [⟨5, 2, 0, "wallet", none⟩] else []
    datum := [⟨0, FixedBytes.replicate 32 20, 1, some .dParameter⟩,
      ⟨1, FixedBytes.replicate 32 21, 1, some .candidates⟩] ++
      if published then [⟨2, FixedBytes.replicate 32 22, 2, some .registration⟩] else []
    multiAsset := [⟨0, dPolicyExample, AssetName.empty⟩, ⟨1, pPolicyExample, AssetName.empty⟩]
    maTxOut := [⟨0, 1, 2, 0⟩, ⟨1, 1, 3, 1⟩]
    block_pkey := by cases published <;> decide
    block_words := by cases published <;> decide
    tx_pkey := by cases published <;> decide
    unique_tx := by cases published <;> decide
    tx_block_id_fkey := by cases published <;> decide
    tx_in_pkey := by cases published <;> decide
    tx_out_pkey := by cases published <;> decide
    multi_asset_pkey := burnedDb.multi_asset_pkey
    unique_multi_asset := burnedDb.unique_multi_asset
    ma_tx_out_pkey := burnedDb.ma_tx_out_pkey
    unique_ma_tx_out := burnedDb.unique_ma_tx_out
    ma_tx_out_ident_fkey := burnedDb.ma_tx_out_ident_fkey
    unique_block_hash := by cases published <;> decide
    numbered_complete := by cases published <;> decide
    chain := by cases published <;> decide }

theorem lateDb_ledger (published : Bool) : Ledger (lateDb published) where
  unique_txout := by cases published <;> decide
  tx_out_tx_id_fkey := by cases published <;> decide
  tx_in_tx_in_id_fkey := by cases published <;> decide
  unique_datum := by cases published <;> decide
  txindex := by cases published <;> decide
  consumes_output := by cases published <;> decide
  spent_once := by cases published <;> decide
  numbered := by cases published <;> decide
  epoch_numbered := by cases published <;> decide
  stake_lt := by
    intro epoch
    simp [lateDb, Db.empty]

theorem lateDb_ordinary (published : Bool) (address : MainchainAddress) :
    OrdinaryTransactions (lateDb published) address := by
  have hall : ∀ o ∈ (lateDb published).txOut, ∀ t ∈ (lateDb published).tx, t.id = o.txId →
      ∀ b ∈ (lateDb published).block, b.id = t.blockId → b.blockNo.isSome →
        ∃ i ∈ (lateDb published).txIn, i.txInId = o.txId := by
    cases published <;> decide
  exact fun o ho _ => hall o ho

/-- `referenceBlock` decoded. -/
def referenceView : Block := ⟨3, FixedBytes.replicate 32 3, 1, 3, 3⟩

/-- Up to the reference the two databases have the same blocks. -/
theorem lateDb_samePrefix : SamePrefix (lateDb false) (lateDb true) referenceView where
  block := by decide
  block' := by decide
  outputs := by decide
  inputs := by decide
  tokens := by decide
  stake := by
    intro epoch _
    simp [stakeOf, stakeRows, lateDb, Db.empty, Verified.Relational.innerJoin]
  nonce := by
    intro epoch _
    simp [noncesOf, lateDb, Db.empty]
  one_nonce := by
    intro epoch _
    simp [noncesOf, lateDb, Db.empty]

/-- A runtime at epoch two with `lateScripts`. -/
def lateClient : RuntimeApi Unit := ⟨.ok 2, .ok lateScripts⟩

private theorem lateDb_request :
    dataRequest slotTimestamp ⟨1, 1⟩ ⟨0, 1, 0⟩ lateClient 1 1 = .ok (some (2, lateScripts)) := rfl

/-- The registration whose datum comes late. -/
def lateRegistration : OriginRow :=
  ⟨⟨4, 1, 2, "registrations", some (FixedBytes.replicate 32 22)⟩,
    ⟨1, FixedBytes.replicate 32 11, 2, 0⟩, chainBlock 2⟩

private theorem lateRegistration_inForce (published : Bool) :
    OutputInForce (lateDb published) "registrations" 0 lateRegistration := by
  rw [← mem_outputsInForce (lateDb_ledger published)]
  cases published <;> decide

theorem lateDb_dParameter (published : Bool) :
    dParameterAt lateLibraries (lateDb published) lateScripts 0 = .valid ⟨1, 1⟩ := by
  have hdatum : lastTokenDatum (lateDb published) (tokenAsset dPolicyExample) 0 =
      some (some .dParameter) := by
    apply lastTokenDatum_of_last <;> cases published <;> decide
  rw [dParameterAt, lateScripts, hdatum]
  rfl

theorem lateDb_permissioned (published : Bool) :
    permissionedAt lateLibraries (lateDb published) lateScripts 0 = .valid [] := by
  have hdatum : lastTokenDatum (lateDb published) (tokenAsset pPolicyExample) 0 =
      some (some .candidates) := by
    apply lastTokenDatum_of_last <;> cases published <;> decide
  rw [permissionedAt, lateScripts, hdatum]
  rfl

private theorem lateDb_not_agree :
    ¬ DatumsAgree lateLibraries (lateDb false) (lateDb true) lateScripts 0 := by
  intro hagree
  have hconvert : ConvertsInForce lateLibraries (lateDb false) "registrations" 0 := by
    intro r _ value _
    cases value <;> rfl
  obtain ⟨-, -, hregistrations⟩ := hagree.values
    ⟨by rw [lateDb_dParameter]; rfl, by rw [lateDb_permissioned]; rfl⟩ hconvert
    (by simp [noncesOf, lateDb, Db.empty])
  have heq := hregistrations lateRegistration lateRegistration (lateRegistration_inForce false)
    (lateRegistration_inForce true) rfl
  rw [show registrationDatum lateLibraries (lateDb false) lateRegistration.txOut = none from rfl,
    show registrationDatum lateLibraries (lateDb true) lateRegistration.txOut =
      some exampleRegistration from rfl] at heq
  cases heq

/-- The datum that was added later changes the outcome. -/
theorem lateDb_not_sameOutcome :
    Ledger (lateDb false) ∧ Ledger (lateDb true) ∧
      SamePrefix (lateDb false) (lateDb true) referenceView ∧
      ¬ SameOutcome
        (AriadneInherentDataProvider.new slotTimestamp ⟨1, 1⟩ ⟨0, 1, 0⟩ lateLibraries
          (lateDb false) lateClient 1 referenceView.epochNo)
        (AriadneInherentDataProvider.new slotTimestamp ⟨1, 1⟩ ⟨0, 1, 0⟩ lateLibraries
          (lateDb true) lateClient 1 referenceView.epochNo) := by
  refine ⟨lateDb_ledger false, lateDb_ledger true, lateDb_samePrefix, ?_⟩
  rw [show referenceView.epochNo = 1 from rfl, sameOutcome_iff_of_request lateDb_request,
    fromMcData_unordered_iff lateDb_samePrefix (lateDb_ledger false) (lateDb_ledger true)
      (lateDb_ordinary false _) (lateDb_ordinary true _) (le_refl 2) (by decide)]
  exact lateDb_not_agree

/-- The condition for equal outcomes, on the two databases. -/
theorem sameOutcome_iff_late :
    SameOutcome
        (AriadneInherentDataProvider.new slotTimestamp ⟨1, 1⟩ ⟨0, 1, 0⟩ lateLibraries
          (lateDb false) lateClient 1 referenceView.epochNo)
        (AriadneInherentDataProvider.new slotTimestamp ⟨1, 1⟩ ⟨0, 1, 0⟩ lateLibraries
          (lateDb true) lateClient 1 referenceView.epochNo) ↔
      ∀ forEpoch scripts,
        dataRequest slotTimestamp ⟨1, 1⟩ ⟨0, 1, 0⟩ lateClient 1 referenceView.epochNo =
          .ok (some (forEpoch, scripts)) →
        DatumsAgree lateLibraries (lateDb false) (lateDb true) scripts (forEpoch - 2) :=
  sameOutcome_iff lateDb_samePrefix (lateDb_ledger false) (lateDb_ledger true)
    (lateDb_ordinary false) (lateDb_ordinary true) lateClient 1

end PartnerChains.Ports.PrefixOutcome
