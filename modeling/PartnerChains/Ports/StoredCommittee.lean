import PartnerChains.Ports.AcceptedChain
import PartnerChains.Ports.PrefixOutcome
import PartnerChains.Ports.SelectionOrder

/-!
# The stored next committee until it takes office

`set` overwrites the next committee, and nothing keeps an author from calling
it again before the rotation: `check_inherent` compares the call with the
committee selected from the data of its own block.  The provider has moved on
by then and supplies the data of the epoch after the next committee's, which
may be of another epoch of the main chain.

`Path.final_nextCommittee_iff` says which blocks leave the stored committee
alone.
-/

namespace PartnerChains.Ports.StoredCommittee

open PartnerChains.Ports.Domain
open PartnerChains.Ports.DbSync
open PartnerChains.Ports.MainchainDatums
open PartnerChains.Ports.CandidatesQuery
open PartnerChains.Ports.CandidatesDataSource
open PartnerChains.Ports.LedgerOutputs
open PartnerChains.Ports.RegistrationsInForce
open PartnerChains.Ports.TokenHolders
open PartnerChains.Ports.CandidateFilter
open PartnerChains.Ports.SelectAuthorities
open PartnerChains.Ports.SelectionOrder
open PartnerChains.Ports.CommitteePallet
open PartnerChains.Ports.SessionPallet
open PartnerChains.Ports.CommitteeRun
open PartnerChains.Ports.CommitteeInherent
open PartnerChains.Ports.AcceptedChain
open PartnerChains.Ports.AriadneProvider
open PartnerChains.Ports.PrefixOutcome

/-! ## Calls that pass the check -/

section Path

variable {Id Keys Account H A Inputs : Type} {config : Config Id Keys Account H A}
  [DecidableEq Id] [DecidableEq Keys]
  {selectAuthorities : Inputs → UInt64 → Option (BoundedVec (Id × Keys) config.maxValidators)}

/-- Without inputs the check panics. -/
theorem inputs_of_checkInherent {validators : BoundedVec (Id × Keys) config.maxValidators}
    {epoch : UInt64} {data : Option (Option Inputs)} {s : Storage Id Keys config.maxValidators}
    (h : checkInherent selectAuthorities (.set validators epoch) data s = .ok (.ok ())) :
    ∃ inputs, data = some (some inputs) ∧
      validators = (selectAuthorities inputs epoch).getD (fallback s) := by
  match data with
  | none => cases h
  | some none => cases h
  | some (some inputs) =>
      exact ⟨inputs, rfl, (checkInherent_set_iff selectAuthorities).mp h⟩

/-- The data of the block selects the committee `next`, or none at all. -/
def Reselects
    (selectAuthorities : Inputs → UInt64 → Option (BoundedVec (Id × Keys) config.maxValidators))
    (next : CommitteeInfo Id Keys config.maxValidators) (i : Import config Inputs) : Prop :=
  ∀ inputs, i.data = some (some inputs) →
    selectAuthorities inputs next.epoch = none ∨
      selectAuthorities inputs next.epoch = some next.committee

variable [DecidableEq Account]

/-- Before the rotation the current committee stays the same. -/
theorem currentCommittee_of_not_rotates {i : Import config Inputs}
    (h : i.Accepted selectAuthorities) (hnumber : i.parent.blockNumber ≠ 0)
    (hrotates : ¬ i.Rotates) :
    i.state.committee.currentCommittee = i.parent.committee.currentCommittee := by
  obtain ⟨new, hexecute⟩ := h.executed
  obtain ⟨mid, committee, hstate, hproposes, hcase⟩ := executeBlock_cases hexecute
  rcases hcase with ⟨-, rfl, -⟩ | ⟨next, hdue, -⟩
  · rw [hstate]
    show committee.currentCommittee = _
    rw [hproposes.currentCommittee]
    simp [entered, hnumber]
  · exact absurd (by simp [Import.Rotates, hdue]) hrotates

/-- One block: a `set` call keeps the next committee if its data selects it
again. -/
theorem nextCommittee_eq_iff {i : Import config Inputs} {events : List Event}
    (h : i.Accepted selectAuthorities) (hinv : Invariant i.parent events)
    (hrotates : ¬ i.Rotates) {next : CommitteeInfo Id Keys config.maxValidators}
    (hnext : i.parent.committee.nextCommittee = some next) :
    i.state.committee.nextCommittee = some next ↔
      (HasSet i.block.extrinsics → Reselects selectAuthorities next i) := by
  have hnumber : i.parent.blockNumber ≠ 0 := by
    intro hzero
    rw [hinv.unset hzero] at hnext
    cases hnext
  have hepoch : i.state.committee.currentCommittee.epoch + 1 = next.epoch := by
    rw [currentCommittee_of_not_rotates h hnumber hrotates, hinv.next_epoch next hnext]
  rcases h.nextCommittee with ⟨hnone, ⟨hrotates', -⟩ | ⟨-, hkept⟩⟩ |
      ⟨extrinsic, hmem, validators, hcall, hstored⟩
  · exact absurd hrotates' hrotates
  · simp [hkept, hnext, hnone]
  · rw [hepoch] at hcall hstored
    have hset : isInherent extrinsic.call = true := by
      rw [hcall]
      rfl
    have hchecked := h.checked extrinsic hmem hset
    rw [hcall] at hchecked
    obtain ⟨inputs, hdata, hvalidators⟩ := inputs_of_checkInherent hchecked
    have hfallback : fallback i.parent.committee = next.committee := by
      rw [fallback, hnext]
      rfl
    rw [hfallback] at hvalidators
    have hsame : i.state.committee.nextCommittee = some next ↔ validators = next.committee := by
      rw [hstored, Option.some.injEq]
      constructor
      · intro heq
        rw [← heq]
      · intro heq
        rw [heq]
    rw [hsame, hvalidators, Option.getD_eq_iff, Reselects]
    constructor
    · intro hselect _ inputs' hdata'
      obtain rfl : inputs = inputs' := by simpa using hdata.symm.trans hdata'
      rcases hselect with hselect | ⟨hselect, -⟩
      · exact Or.inr hselect
      · exact Or.inl hselect
    · intro hreselects
      rcases hreselects ⟨extrinsic, hmem, hset⟩ inputs hdata with hselect | hselect
      · exact Or.inr ⟨hselect, rfl⟩
      · exact Or.inl hselect

private theorem nextCommittee_of_path {st st' : State config}
    {imports : List (Import config Inputs)} (h : Path selectAuthorities st imports st')
    {next : Option (CommitteeInfo Id Keys config.maxValidators)}
    (hnext : st.committee.nextCommittee = next)
    (hall : ∀ i ∈ imports, i.state.committee.nextCommittee = next) :
    st'.committee.nextCommittee = next := by
  cases h with
  | nil => exact hnext
  | cons i path accepted => exact hall i List.mem_cons_self

/-- Until the rotation the stored committee is final exactly if every block
with a `set` call has data that selects it again. -/
theorem Path.final_nextCommittee_iff {genesis : Genesis config} {st st' : State config}
    {before imports : List (Import config Inputs)}
    (hchain : Chain selectAuthorities genesis before st)
    {next : CommitteeInfo Id Keys config.maxValidators}
    (hnext : st.committee.nextCommittee = some next)
    (hpath : Path selectAuthorities st imports st') (hrotates : ∀ i ∈ imports, ¬ i.Rotates) :
    (∀ i ∈ imports, i.state.committee.nextCommittee = some next) ↔
      ∀ i ∈ imports, HasSet i.block.extrinsics → Reselects selectAuthorities next i := by
  obtain ⟨events, hrun⟩ := hchain.run
  induction hpath with
  | nil => simp
  | cons i path accepted ih =>
      rw [List.forall_mem_cons] at hrotates
      obtain ⟨events', hparent⟩ := path.run hrun
      have hrest := ih hrotates.2
      have hblock := fun hsame => nextCommittee_eq_iff accepted hparent.invariant hrotates.1
        (nextCommittee_of_path path hnext hsame)
      rw [List.forall_mem_cons, List.forall_mem_cons]
      constructor
      · rintro ⟨hstate, hstates⟩
        exact ⟨(hblock hstates).mp hstate, hrest.mp hstates⟩
      · rintro ⟨hdata, hdatas⟩
        have hstates := hrest.mpr hdatas
        exact ⟨(hblock hstates).mpr hdata, hstates⟩

end Path

/-! ## A committee that is replaced before it takes office

Sidechain epochs have two slots of a millisecond, main chain epochs last four
milliseconds.  A transaction of main chain epoch 1 replaces the only
permissioned candidate.  The first block is in the first slot of epoch 4; its
data is that of main chain epoch 0.  The second block is in the other slot of
epoch 4; its data is for epoch 6, of main chain epoch 1. -/

/-- The D-parameter, and permissioned candidates told apart by a byte. -/
inductive ReplacedJson where
  | dParameter
  | candidate (byte : UInt8)
deriving DecidableEq

/-- A candidate whose keys repeat the byte. -/
def permissionedCandidate (byte : UInt8) : PermissionedCandidateData :=
  ⟨List.replicate 33 byte, List.replicate 32 byte, List.replicate 32 byte⟩

/-- Each datum decodes to what its name says. -/
def replacedLibraries : Libraries ReplacedJson where
  hex := UtxoText.lowerHex
  encodeJsonValueToPlutusDatum
    | .dParameter => some (dParameterToPlutusData ⟨1, 0⟩)
    | .candidate byte => some (permissionedCandidatesToPlutusData [permissionedCandidate byte])
  fromVkey := fun _ => examplePool

/-- The permissioned candidate is replaced between epochs. -/
def replacedDb : Db ReplacedJson :=
  { Db.empty ReplacedJson with
    block := [genesisBlock, chainBlock 2, referenceBlock, { chainBlock 4 with epochNo := some 2 }]
    tx := [⟨0, FixedBytes.replicate 32 10, 0, 0⟩, ⟨1, FixedBytes.replicate 32 11, 2, 0⟩,
      ⟨2, FixedBytes.replicate 32 12, 3, 0⟩]
    txIn := [⟨0, 1, 0, 0⟩, ⟨1, 2, 1, 1⟩]
    txOut := [⟨0, 0, 0, "wallet", none⟩,
      ⟨2, 1, 0, "governance", some (FixedBytes.replicate 32 20)⟩,
      ⟨3, 1, 1, "governance", some (FixedBytes.replicate 32 21)⟩,
      ⟨4, 2, 0, "governance", some (FixedBytes.replicate 32 22)⟩]
    datum := [⟨0, FixedBytes.replicate 32 20, 1, some .dParameter⟩,
      ⟨1, FixedBytes.replicate 32 21, 1, some (.candidate 1)⟩,
      ⟨2, FixedBytes.replicate 32 22, 2, some (.candidate 2)⟩]
    multiAsset := [⟨0, dPolicyExample, AssetName.empty⟩, ⟨1, pPolicyExample, AssetName.empty⟩]
    maTxOut := [⟨0, 1, 2, 0⟩, ⟨1, 1, 3, 1⟩, ⟨2, 1, 4, 1⟩]
    block_pkey := by decide
    block_words := by decide
    tx_pkey := by decide
    unique_tx := by decide
    tx_block_id_fkey := by decide
    tx_in_pkey := by decide
    tx_out_pkey := by decide
    multi_asset_pkey := burnedDb.multi_asset_pkey
    unique_multi_asset := burnedDb.unique_multi_asset
    ma_tx_out_pkey := by decide
    unique_ma_tx_out := by decide
    ma_tx_out_ident_fkey := by decide
    unique_block_hash := by decide
    numbered_complete := by decide
    chain := by decide }

private theorem replacedDb_ledger : Ledger replacedDb where
  unique_txout := by decide
  tx_out_tx_id_fkey := by decide
  tx_in_tx_in_id_fkey := by decide
  unique_datum := by decide
  txindex := by decide
  consumes_output := by decide
  spent_once := by decide
  numbered := by decide
  epoch_numbered := by decide
  stake_lt := by
    intro epoch
    simp [replacedDb, Db.empty]

/-- The inputs of the selection while the candidate is the one given. -/
def replacedInputs (byte : UInt8) : AuthoritySelectionInputs where
  dParameter := ⟨1, 0⟩
  permissionedCandidates := [permissionedCandidate byte]
  registeredCandidates := []
  epochNonce := []

/-- On a database with the two tokens these are the parameters. -/
theorem parametersAt_candidate {db : Db ReplacedJson} {epoch : Nat} {byte : UInt8}
    (hne : tokenOutputs db (tokenAsset dPolicyExample) epoch ≠ [])
    (hd : ∀ r ∈ tokenOutputs db (tokenAsset dPolicyExample) epoch,
      datumValue db r.txOut = some .dParameter)
    (hne' : tokenOutputs db (tokenAsset pPolicyExample) epoch ≠ [])
    (hp : ∀ r ∈ tokenOutputs db (tokenAsset pPolicyExample) epoch,
      (∀ r' ∈ tokenOutputs db (tokenAsset pPolicyExample) epoch,
        txPosition r'.tx r'.block ≤ txPosition r.tx r.block) →
      datumValue db r.txOut = some (.candidate byte)) :
    parametersAt replacedLibraries db lateScripts epoch =
      .ok ⟨⟨1, 0⟩, [permissionedCandidate byte]⟩ := by
  rw [parametersAt, dParameterAt, permissionedAt, lateScripts,
    lastTokenDatum_of_last hne fun r hr _ => hd r hr, lastTokenDatum_of_last hne' hp]
  rfl

/-- A database without registrations and nonces. -/
structure Unregistered (db : Db ReplacedJson) : Prop where
  ledger : Ledger db
  address : ∀ o ∈ db.txOut, o.address ≠ "registrations"
  nonce : db.epochParam = []

private theorem Unregistered.outputsInForce_eq {db : Db ReplacedJson} (h : Unregistered db)
    (epoch : Nat) : outputsInForce db "registrations" epoch = [] := by
  rw [List.eq_nil_iff_forall_not_mem]
  intro r hr
  rw [mem_outputsInForce h.ledger] at hr
  exact h.address r.txOut hr.txOut_mem hr.address_eq

/-- Without registrations the inputs are the parameters. -/
theorem Unregistered.fromMcData_eq {db : Db ReplacedJson} (h : Unregistered db) {forEpoch : Nat}
    (hepoch : 2 ≤ forEpoch) (hword : forEpoch - 2 < 2 ^ 31) {byte : UInt8}
    (hp : parametersAt replacedLibraries db lateScripts (forEpoch - 2) =
      .ok ⟨⟨1, 0⟩, [permissionedCandidate byte]⟩) :
    fromMcData replacedLibraries db forEpoch lateScripts = .ok (replacedInputs byte) := by
  have hordinary : OrdinaryTransactions db "registrations" :=
    fun o ho haddress => absurd haddress (h.address o ho)
  have hcandidates : getCandidates replacedLibraries db forEpoch "registrations" = .ok [] := by
    rw [getCandidates_eq h.ledger hordinary hepoch hword, h.outputsInForce_eq]
    · rfl
    · intro r hr
      rw [h.outputsInForce_eq] at hr
      cases hr
  have hnonce : getEpochNonceForUsage db forEpoch = .ok none := by
    have hstorage : getEpochOfDataStorage forEpoch = .ok (forEpoch - 2) := if_neg (by omega)
    rw [getEpochNonceForUsage, hstorage]
    simp only [bind, Except.bind, getEpochNonce, h.nonce]
    rfl
  rw [fromMcData_of_ok h.ledger hepoch hword hp, hnonce,
    show lateScripts.committeeCandidateAddress = "registrations" from rfl, hcandidates]
  rfl

private theorem replacedDb_unregistered : Unregistered replacedDb where
  ledger := replacedDb_ledger
  address := by decide
  nonce := rfl

/-! The selection of the runtime, with any seed. -/

/-- The selection with a generator that always draws zero. -/
def replacedSelect (input : AuthoritySelectionInputs) (epoch : UInt64) :
    Option (BoundedVec (Nat × Bytes) 32) :=
  match SelectAuthorities.selectAuthorities signedByOwner exampleConversions (constantGenerator 0)
      32 exampleUtxo input epoch with
  | .ok validators => validators.map (BoundedVec.truncateFrom 32)
  | .error _ => none

/-- The committee of one candidate. -/
def replacedCommittee (byte : UInt8) : BoundedVec (Nat × Bytes) 32 :=
  BoundedVec.truncateFrom 32
    [(beNat (List.replicate 33 byte), List.replicate 32 byte ++ List.replicate 32 byte)]

theorem replacedSelect_eq (byte : UInt8) (epoch : UInt64) :
    replacedSelect (replacedInputs byte) epoch = some (replacedCommittee byte) := by
  have hsorted : sortedCandidates signedByOwner exampleConversions exampleUtxo
      (replacedInputs byte) =
      [(⟨beNat (List.replicate 33 byte), List.replicate 32 byte ++ List.replicate 32 byte⟩, 1)] :=
    List.mergeSort_singleton _
  have hselect : SelectAuthorities.selectAuthorities signedByOwner exampleConversions
      (constantGenerator 0) 32 exampleUtxo (replacedInputs byte) epoch =
      .ok (some [(beNat (List.replicate 33 byte),
        List.replicate 32 byte ++ List.replicate 32 byte)]) := by
    rw [selectAuthorities_eq, hsorted,
      weightedSelection_const (r := 0) _ _ (Nat.one_lt_two_pow (by decide)) rfl]
    rfl
  rw [replacedSelect, hselect]
  rfl

/-- The pallets with at most 32 validators. -/
def replacedConfig : Config Nat Bytes Nat Unit Unit where
  maxValidators := 32
  into := fun id => id
  sessionHandler := ⟨fun _ h => h, fun h => h, fun _ _ _ h => h⟩
  accountReferences := ⟨fun _ a => a, fun _ a => some a⟩
  polkadotJsCompat := true

/-- The genesis of the partner chain. -/
def replacedGenesis : Genesis replacedConfig := ⟨(), (), 2, ⟨[(1, [])], lateScripts⟩, 0, []⟩

/-- Before the first block. -/
def replacedState₀ : State replacedConfig where
  blockNumber := 0
  accounts := ()
  currentSlot := 0
  handlerState := ()
  slotsPerEpoch := 2
  epochNumber := none
  committee := replacedGenesis.committee.build 32
  palletSessionIndex := 0
  session := ⟨[1], [(1, [])], 0, []⟩

/-- After a block of epoch 4 that stores the committee of epoch 5. -/
def replacedState (blockNumber : Nat) (slot : UInt64) (byte : UInt8) : State replacedConfig :=
  { replacedState₀ with
    blockNumber := blockNumber
    currentSlot := slot
    epochNumber := some 4
    committee :=
      { replacedState₀.committee with
        currentCommittee := { replacedState₀.committee.currentCommittee with epoch := 4 }
        nextCommittee := some ⟨5, replacedCommittee byte⟩ } }

/-- What the provider supplies for a block on the parent, with a main chain
block of epoch 2 to refer to. -/
def providedData (parent : State replacedConfig) (slot : UInt64) :
    Option (Option AuthoritySelectionInputs) :=
  match AriadneInherentDataProvider.new slotTimestamp ⟨2, 1⟩ ⟨0, 4, 0⟩ replacedLibraries replacedDb
      (RuntimeApi.ofStorage parent.committee : RuntimeApi Unit) slot 2 with
  | .ok provider => some provider.data
  | .error _ => none

/-- The import of a block that sets the committee of epoch five. -/
def replacedImport (parent : State replacedConfig) (blockNumber : Nat) (slot : UInt64)
    (byte : UInt8) : Import replacedConfig AuthoritySelectionInputs where
  parent := parent
  block := ⟨slot, [⟨.none, .set (replacedCommittee byte) 5⟩]⟩
  data := providedData parent slot
  state := replacedState blockNumber slot byte

/-- What the provider of the example gives to a block. -/
theorem providedData_eq {parent : State replacedConfig} {slot : UInt64} {forEpoch : Nat}
    {byte : UInt8}
    (hrequest : dataRequest slotTimestamp ⟨2, 1⟩ ⟨0, 4, 0⟩
      (RuntimeApi.ofStorage parent.committee : RuntimeApi Unit) slot 2 =
        .ok (some (forEpoch, lateScripts)))
    (hp : parametersAt replacedLibraries replacedDb lateScripts (forEpoch - 2) =
      .ok ⟨⟨1, 0⟩, [permissionedCandidate byte]⟩) :
    providedData parent slot = some (some (replacedInputs byte)) := by
  obtain ⟨hepoch, hlt⟩ := epoch_of_dataRequest hrequest
  rw [providedData, new_eq, hrequest]
  simp only [Except.bind, replacedDb_unregistered.fromMcData_eq hepoch (by omega) hp]
  rfl

private theorem providedData_first :
    providedData replacedState₀ 8 = some (some (replacedInputs 1)) := by
  have hrequest : dataRequest slotTimestamp ⟨2, 1⟩ ⟨0, 4, 0⟩
      (RuntimeApi.ofStorage replacedState₀.committee : RuntimeApi Unit) 8 2 =
        .ok (some (2, lateScripts)) := rfl
  apply providedData_eq hrequest
  apply parametersAt_candidate <;> decide

/-- The provider looks ahead by one epoch more. -/
theorem providedData_second :
    providedData (replacedState 1 8 1) 9 = some (some (replacedInputs 2)) := by
  have hrequest : dataRequest slotTimestamp ⟨2, 1⟩ ⟨0, 4, 0⟩
      (RuntimeApi.ofStorage (replacedState 1 8 1).committee : RuntimeApi Unit) 9 2 =
        .ok (some (3, lateScripts)) := rfl
  apply providedData_eq hrequest
  apply parametersAt_candidate <;> decide

/-- An import of the example is accepted when its data is what was provided. -/
theorem replacedImport_accepted {parent : State replacedConfig} {blockNumber : Nat}
    {slot : UInt64} {byte : UInt8}
    (hdata : providedData parent slot = some (some (replacedInputs byte)))
    (hslot : parent.blockNumber ≠ 0 → parent.currentSlot < slot)
    (hexecute : executeBlock parent ⟨slot, [⟨.none, .set (replacedCommittee byte) 5⟩]⟩ =
      .ok (replacedState blockNumber slot byte, [])) :
    (replacedImport parent blockNumber slot byte).Accepted replacedSelect := by
  refine ⟨?_, fun _ => ⟨_, List.mem_cons_self, rfl⟩, hslot, [], hexecute⟩
  intro extrinsic hextrinsic _
  rw [List.mem_singleton.mp hextrinsic]
  show checkInherent replacedSelect (.set (replacedCommittee byte) 5)
    (providedData parent slot) parent.committee = .ok (.ok ())
  rw [hdata]
  exact (checkInherent_set_iff replacedSelect).mpr (by rw [replacedSelect_eq]; rfl)

/-- The first committee for epoch five is accepted. -/
theorem replacedChain :
    Chain replacedSelect replacedGenesis [replacedImport replacedState₀ 1 8 1]
      (replacedState 1 8 1) := by
  refine ⟨replacedState₀, rfl, Path.cons (replacedImport replacedState₀ 1 8 1) Path.nil ?_⟩
  exact replacedImport_accepted providedData_first (fun h => absurd rfl h) rfl

/-- The second committee for epoch five is accepted as well. -/
theorem replacedPath :
    Path replacedSelect (replacedState 1 8 1) [replacedImport (replacedState 1 8 1) 2 9 2]
      (replacedState 2 9 2) := by
  apply Path.cons (replacedImport (replacedState 1 8 1) 2 9 2) Path.nil
  exact replacedImport_accepted providedData_second (fun _ => by decide) rfl

/-- A committee that is stored for epoch five is replaced before the epoch starts. -/
theorem replaced_nextCommittee :
    Chain replacedSelect replacedGenesis [replacedImport replacedState₀ 1 8 1]
        (replacedState 1 8 1) ∧
      (replacedState 1 8 1).committee.nextCommittee = some ⟨5, replacedCommittee 1⟩ ∧
      Path replacedSelect (replacedState 1 8 1) [replacedImport (replacedState 1 8 1) 2 9 2]
        (replacedState 2 9 2) ∧
      ¬ (replacedImport (replacedState 1 8 1) 2 9 2).Rotates ∧
      (replacedState 2 9 2).committee.nextCommittee = some ⟨5, replacedCommittee 2⟩ ∧
      replacedCommittee 2 ≠ replacedCommittee 1 :=
  ⟨replacedChain, rfl, replacedPath, by decide, rfl, by decide⟩

/-- The condition on the two blocks of the example. -/
theorem final_nextCommittee_iff_replaced :
    (∀ i ∈ [replacedImport (replacedState 1 8 1) 2 9 2],
        i.state.committee.nextCommittee = some ⟨5, replacedCommittee 1⟩) ↔
      ∀ i ∈ [replacedImport (replacedState 1 8 1) 2 9 2], HasSet i.block.extrinsics →
        Reselects replacedSelect ⟨5, replacedCommittee 1⟩ i := by
  apply Path.final_nextCommittee_iff replacedChain rfl replacedPath
  intro i hi
  rw [List.mem_singleton.mp hi]
  decide

end PartnerChains.Ports.StoredCommittee
