import PartnerChains.Ports.SelectionEpoch
import PartnerChains.Ports.MainchainEpoch

/-!
# Whether a selection has its data

The runtime selects a committee whenever none is stored after the hooks of a
block, and takes for granted that the inherent data has the inputs.  The
provider reads them only if they are older than the main chain block that the
new block refers to: the data epoch, two before the main chain epoch in which
the selected committee takes office, has to be before that of the block.

`hasData_iff` says when this is so.  The first block always has its data.
Later the committee has to take office before the end of the main chain epoch
after that of the reference; this is so on every chain whose epochs are shorter
than a main chain epoch by the age that the reference may have.  With longer
epochs it is not, and creating the inherent panics (`longEpochs_noData`).
-/

namespace PartnerChains.Ports.SelectionData

open PartnerChains.Ports.Domain
open PartnerChains.Ports.DbSync
open PartnerChains.Ports.CandidatesQuery
open PartnerChains.Ports.CandidatesDataSource
open PartnerChains.Ports.CommitteePallet
open PartnerChains.Ports.SessionPallet
open PartnerChains.Ports.CommitteeRun
open PartnerChains.Ports.CommitteeInherent
open PartnerChains.Ports.AcceptedChain
open PartnerChains.Ports.AriadneProvider
open PartnerChains.Ports.SelectionEpoch
open PartnerChains.Ports.BlockDataSource
open PartnerChains.Ports.MainchainEpoch
open PartnerChains.Verified.Fallible

/-! ## Clocks -/

/-- When a sidechain epoch starts, in milliseconds. -/
def scEpochStart (config : ScSlotConfig) (epoch : UInt64) : Nat :=
  (firstSlotNumber epoch config.slotsPerEpoch).toNat * config.slotDuration.toNat

/-- The main chain has epochs of `10 * k / f` slots of one second; the bounds
of the age of a reference are `k / f`, rounded, and three times that. -/
structure CardanoEpochs (source : BlockDataSourceImpl) (slots : Nat) : Prop where
  epochDuration : source.mainchainEpochConfig.epochDurationMillis.toNat = 1000 * slots
  minSlotBoundary : source.minSlotBoundaryAsSeconds = 1000 * ((slots + 5) / 10 : Nat)
  maxSlotBoundary : source.maxSlotBoundaryAsSeconds = 3 * source.minSlotBoundaryAsSeconds

/-- A main chain block that a block made at the time may refer to. -/
structure ReferenceBlock (source : BlockDataSourceImpl) (timestamp : UInt64) (R : Block) :
    Prop where
  inWindow : source.isBlockTimeValid R timestamp.toNat = true
  word31 : R.epochNo < 2 ^ 31
  started : mcEpochStart source.mainchainEpochConfig.toMainchainEpochConfig R.epochNo ≤ R.time
  not_ended :
    R.time < mcEpochStart source.mainchainEpochConfig.toMainchainEpochConfig (R.epochNo + 1)

/-! ## Main chain epochs of times -/

/-- The data of an epoch is older than the reference if the time is before the
second epoch from it. -/
theorem dataEpoch_lt_iff {E : Type} {config : MainchainEpochConfig} {t : UInt64} {n r : Nat}
    (h : config.timestampToMainchainEpoch t =
      (.ok n : Except (InherentProviderCreationError E) Nat)) (hn : 2 ≤ n) (hr : r < 2 ^ 31) :
    n - 2 < r ↔ (t.toNat : Int) < mcEpochStart config (r + 2) := by
  obtain ⟨hle, hpos, -, hepoch⟩ := elapsedEpochs_of_ok h
  have hreached := le_elapsedEpochs_iff hpos (UInt64.le_iff_toNat_le.mp hle) (r + 2)
  omega

private theorem scEpochToMcEpoch_eq_ok {E : Type} {timestamp : UInt64 → UInt64 → Option UInt64}
    (htimestamp : ∀ s d, timestamp s d = slotTimestamp s d) {scSlotConfig : ScSlotConfig}
    {mcEpochConfig : MainchainEpochConfig} {scEpoch : UInt64} {n : Nat}
    (h : scEpochToMcEpoch timestamp scSlotConfig mcEpochConfig scEpoch =
      (.ok n : Except (InherentProviderCreationError E) Nat)) :
    ∃ t : UInt64, t.toNat = scEpochStart scSlotConfig scEpoch ∧
      mcEpochConfig.timestampToMainchainEpoch t =
        (.ok n : Except (InherentProviderCreationError E) Nat) := by
  unfold scEpochToMcEpoch at h
  cases hstart : scSlotConfig.epochStartTime timestamp scEpoch with
  | none => simp [hstart] at h
  | some t =>
      rw [hstart] at h
      rw [ScSlotConfig.epochStartTime, htimestamp] at hstart
      exact ⟨t, slotTimestamp_eq_some hstart, h⟩

/-! ## The provider -/

/-- The provider has inputs exactly if the data epoch is before that of the
reference. -/
theorem isSome_of_new {E J : Type} [DecidableEq J] {lib : Libraries J} {db : Db J}
    {timestamp : UInt64 → UInt64 → Option UInt64} {scSlotConfig : ScSlotConfig}
    {mcEpochConfig : MainchainEpochConfig} {client : RuntimeApi E} {slot : UInt64}
    {mcReferenceEpoch : Nat} {provider : AriadneInherentDataProvider}
    (h : AriadneInherentDataProvider.new timestamp scSlotConfig mcEpochConfig lib db client slot
      mcReferenceEpoch = .ok provider) :
    ∃ forMcEpoch, mcEpochForNextAriadneCidp timestamp scSlotConfig mcEpochConfig client slot =
        .ok forMcEpoch ∧ dataEpoch forMcEpoch = .ok (forMcEpoch - 2) ∧ 2 ≤ forMcEpoch ∧
      (provider.data.isSome ↔ forMcEpoch - 2 < mcReferenceEpoch) := by
  obtain ⟨forMcEpoch, hfor, h⟩ := bind_eq_ok.mp h
  obtain ⟨epoch, hepoch, h⟩ := bind_eq_ok.mp h
  obtain ⟨scripts, -, h⟩ := bind_eq_ok.mp h
  have hdata := mapError_eq_ok.mp hepoch
  obtain ⟨hge, rfl⟩ := dataEpoch_eq_ok hdata
  refine ⟨forMcEpoch, hfor, hdata, hge, ?_⟩
  by_cases hlt : forMcEpoch - 2 < mcReferenceEpoch
  · rw [if_pos hlt] at h
    obtain ⟨inputs, -, h⟩ := bind_eq_ok.mp h
    cases h
    simp [hlt]
  · rw [if_neg hlt] at h
    cases h
    simp [hlt]

/-- Without a next committee, creating the inherent panics exactly if there are
no inputs. -/
theorem createInherent_ok_iff {Id Keys Inputs : Type} {maxValidators : Nat}
    {selectAuthorities : Inputs → UInt64 → Option (BoundedVec (Id × Keys) maxValidators)}
    {s : Storage Id Keys maxValidators} (hempty : s.nextCommittee = none)
    (data : Option Inputs) :
    (∃ call, createInherent selectAuthorities (some data) s = .ok call) ↔ data.isSome := by
  constructor
  · rintro ⟨call, h⟩
    obtain ⟨inputs, hdata⟩ := inputs_of_createInherent selectAuthorities hempty h
    rw [Option.some.inj hdata]
    rfl
  · intro h
    obtain ⟨inputs, rfl⟩ := Option.isSome_iff_exists.mp h
    exact ⟨_, createInherent_of_none selectAuthorities hempty inputs⟩

/-! ## The epoch of the selected committee -/

section Selection

variable {Id Keys Account H A E : Type} {config : Config Id Keys Account H A}
  {selectAuthorities : AuthoritySelectionInputs → UInt64 →
    Option (BoundedVec (Id × Keys) config.maxValidators)}
  {genesis : Genesis config} {imports : List (Import config AuthoritySelectionInputs)}
  {st st' : State config} {slot : UInt64} {events : List Event}

/-- After the hooks the committee is not ahead of the slot. -/
theorem epoch_le_of_initializeBlock [DecidableEq Id] [DecidableEq Keys] [DecidableEq Account]
    (hchain : Chain selectAuthorities genesis imports st)
    (hslot : st.blockNumber ≠ 0 → st.currentSlot < slot)
    (hinit : initializeBlock st slot = .ok (st', events)) :
    st'.committee.currentCommittee.epoch.toNat ≤ slot.toNat / st.slotsPerEpoch.toNat := by
  obtain ⟨before, hrun⟩ := hchain.run
  have hinv := hrun.invariant
  have hexecute : executeBlock st ⟨slot, []⟩ = .ok (st', events) := by
    rw [executeBlock_of_initializeBlock ⟨slot, []⟩ hinit]
    rfl
  have hle := (hinv.block hslot hexecute).epoch_le
  have hsame : st'.currentSlot = slot ∧ st'.slotsPerEpoch = st.slotsPerEpoch := by
    rcases initializeBlock_eq_ok hinit with ⟨-, rfl, -⟩ | ⟨next, -, rfl, -⟩
    · exact ⟨rfl, rfl⟩
    · exact ⟨rfl, rfl⟩
  rw [hsame.1, hsame.2, UInt64.le_iff_toNat_le, UInt64.toNat_div, UInt32.toNat_toUInt64] at hle
  exact hle

/-- An epoch that is at most some epochs ahead of that of a slot starts at most
that long after it. -/
theorem scEpochStart_le (scSlotConfig : ScSlotConfig) {epoch : UInt64} {slot : Nat} (ahead : Nat)
    (h : epoch.toNat ≤ slot / scSlotConfig.slotsPerEpoch.toNat + ahead) :
    scEpochStart scSlotConfig epoch ≤ slot * scSlotConfig.slotDuration.toNat +
      ahead * (scSlotConfig.slotsPerEpoch.toNat * scSlotConfig.slotDuration.toNat) := by
  have hfirst : (firstSlotNumber epoch scSlotConfig.slotsPerEpoch).toNat ≤
      epoch.toNat * scSlotConfig.slotsPerEpoch.toNat := by
    rw [firstSlotNumber, UInt64.toNat_mul, UInt32.toNat_toUInt64]
    exact Nat.mod_le _ _
  have hslot : epoch.toNat * scSlotConfig.slotsPerEpoch.toNat ≤
      slot + ahead * scSlotConfig.slotsPerEpoch.toNat := by
    calc epoch.toNat * scSlotConfig.slotsPerEpoch.toNat
        ≤ (slot / scSlotConfig.slotsPerEpoch.toNat + ahead) *
            scSlotConfig.slotsPerEpoch.toNat := Nat.mul_le_mul_right _ h
      _ = slot / scSlotConfig.slotsPerEpoch.toNat * scSlotConfig.slotsPerEpoch.toNat +
            ahead * scSlotConfig.slotsPerEpoch.toNat := Nat.add_mul _ _ _
      _ ≤ slot + ahead * scSlotConfig.slotsPerEpoch.toNat :=
          Nat.add_le_add_right (Nat.div_mul_le_self _ _) _
  calc scEpochStart scSlotConfig epoch
      ≤ (slot + ahead * scSlotConfig.slotsPerEpoch.toNat) *
          scSlotConfig.slotDuration.toNat := Nat.mul_le_mul_right _ (hfirst.trans hslot)
    _ = _ := by rw [Nat.add_mul, Nat.mul_assoc]

/-- A time that is not more than a main chain epoch after the reference is
before the second epoch from it. -/
theorem ReferenceBlock.lt_mcEpochStart {source : BlockDataSourceImpl} {timestamp : UInt64}
    {R : Block} (h : ReferenceBlock source timestamp R) {t : Int}
    (ht : t ≤ R.time + source.mainchainEpochConfig.epochDurationMillis.toNat) :
    t < mcEpochStart source.mainchainEpochConfig.toMainchainEpochConfig (R.epochNo + 2) := by
  have hlast := h.not_ended
  rw [show R.epochNo + 2 = R.epochNo + 1 + 1 from rfl, mcEpochStart_succ]
  linarith

/-- The reference is not older than the upper bound. -/
theorem ReferenceBlock.time_ge {source : BlockDataSourceImpl} {timestamp : UInt64} {R : Block}
    (h : ReferenceBlock source timestamp R) :
    (timestamp.toNat : Int) ≤ R.time + source.maxSlotBoundaryAsSeconds := by
  have hmin := (isBlockTimeValid_iff.mp h.inWindow).1
  rw [BlockDataSourceImpl.minBlockAllowedTime] at hmin
  linarith

/-- An epoch that is at most some epochs ahead of the slot starts in time if
these epochs and the greatest age of a reference fit into a main chain epoch. -/
theorem ReferenceBlock.scEpochStart_lt {source : BlockDataSourceImpl}
    {slot ts : UInt64} {R : Block} (h : ReferenceBlock source ts R) (scSlotConfig : ScSlotConfig)
    (hts : slotTimestamp slot scSlotConfig.slotDuration = some ts) {epoch : UInt64} (ahead : Nat)
    (hepoch : epoch.toNat ≤ slot.toNat / scSlotConfig.slotsPerEpoch.toNat + ahead)
    (hfit : ahead * (scSlotConfig.slotsPerEpoch.toNat * scSlotConfig.slotDuration.toNat : Int) +
      source.maxSlotBoundaryAsSeconds ≤ source.mainchainEpochConfig.epochDurationMillis.toNat) :
    (scEpochStart scSlotConfig epoch : Int) <
      mcEpochStart source.mainchainEpochConfig.toMainchainEpochConfig (R.epochNo + 2) := by
  apply h.lt_mcEpochStart
  have hstart := scEpochStart_le scSlotConfig ahead hepoch
  rw [← slotTimestamp_eq_some hts] at hstart
  zify at hstart
  have hage := h.time_ge
  linarith

private theorem CardanoEpochs.maxSlotBoundary_le {source : BlockDataSourceImpl} {slots : Nat}
    (h : CardanoEpochs source slots) :
    source.maxSlotBoundaryAsSeconds ≤
      source.mainchainEpochConfig.epochDurationMillis.toNat := by
  rw [h.maxSlotBoundary, h.minSlotBoundary, h.epochDuration]
  push_cast
  omega

/-! ## The result -/

/-- The selection has its data: the data epoch is before that of the reference,
the inputs are provided, and the inherent is created without a panic. -/
structure HasData (timestamp : UInt64 → UInt64 → Option UInt64) (scSlotConfig : ScSlotConfig)
    (mcEpochConfig : MainchainEpochConfig) (client : RuntimeApi E) (slot : UInt64)
    (selectAuthorities : AuthoritySelectionInputs → UInt64 →
      Option (BoundedVec (Id × Keys) config.maxValidators))
    (st' : State config) (R : Block) (provider : AriadneInherentDataProvider) : Prop where
  dataEpoch_lt : ∃ forMcEpoch epoch,
    mcEpochForNextAriadneCidp timestamp scSlotConfig mcEpochConfig client slot =
        .ok forMcEpoch ∧ dataEpoch forMcEpoch = .ok epoch ∧ epoch < R.epochNo
  inputs : provider.data.isSome
  created : ∃ call, createInherent selectAuthorities (some provider.data) st'.committee = .ok call

section Result

variable {J : Type} [DecidableEq J] {lib : Libraries J} {db : Db J}
  {timestamp : UInt64 → UInt64 → Option UInt64} {source : BlockDataSourceImpl}
  {slotDuration ts : UInt64} {R : Block} {provider : AriadneInherentDataProvider}

/-- With a successful provider the three parts are one condition. -/
theorem hasData_iff_dataEpoch_lt {scSlotConfig : ScSlotConfig}
    {mcEpochConfig : MainchainEpochConfig} {client : RuntimeApi E} {forMcEpoch : Nat}
    (hempty : st'.committee.nextCommittee = none)
    (hfor : mcEpochForNextAriadneCidp timestamp scSlotConfig mcEpochConfig client slot =
      .ok forMcEpoch)
    (hdata : dataEpoch forMcEpoch = .ok (forMcEpoch - 2))
    (hsome : provider.data.isSome ↔ forMcEpoch - 2 < R.epochNo) :
    HasData timestamp scSlotConfig mcEpochConfig client slot selectAuthorities st' R provider ↔
      forMcEpoch - 2 < R.epochNo := by
  constructor
  · intro h
    exact hsome.mp h.inputs
  · intro hlt
    have hinputs := hsome.mpr hlt
    exact ⟨⟨forMcEpoch, _, hfor, hdata, hlt⟩, hinputs,
      (createInherent_ok_iff hempty provider.data).mpr hinputs⟩

/-- A needed selection has its data exactly if it is that of the first block,
or the committee takes office before the second main chain epoch from that of
the reference; so it always has if an epoch and the greatest age of a reference
fit into a main chain epoch. -/
theorem hasData_iff [DecidableEq Id] [DecidableEq Keys] [DecidableEq Account]
    (htimestamp : ∀ s d, timestamp s d = slotTimestamp s d) {slots : Nat}
    (hcardano : CardanoEpochs source slots)
    (hchain : Chain selectAuthorities genesis imports st)
    (hslot : st.blockNumber ≠ 0 → st.currentSlot < slot)
    (hinit : initializeBlock st slot = .ok (st', events))
    (hempty : st'.committee.nextCommittee = none) (hts : timestamp slot slotDuration = some ts)
    (hR : ReferenceBlock source ts R)
    (hnew : AriadneInherentDataProvider.new timestamp ⟨st.slotsPerEpoch, slotDuration⟩
      source.mainchainEpochConfig.toMainchainEpochConfig lib db
      (RuntimeApi.ofStorage st.committee : RuntimeApi E) slot R.epochNo = .ok provider) :
    (HasData timestamp ⟨st.slotsPerEpoch, slotDuration⟩
        source.mainchainEpochConfig.toMainchainEpochConfig
        (RuntimeApi.ofStorage st.committee : RuntimeApi E) slot selectAuthorities st' R
        provider ↔
      st.blockNumber = 0 ∨
        (scEpochStart ⟨st.slotsPerEpoch, slotDuration⟩
            (getNextUnsetEpochNumber st.committee) : Int) <
          mcEpochStart source.mainchainEpochConfig.toMainchainEpochConfig (R.epochNo + 2)) ∧
      ((st.slotsPerEpoch.toNat * slotDuration.toNat : Int) + source.maxSlotBoundaryAsSeconds ≤
          source.mainchainEpochConfig.epochDurationMillis.toNat →
        HasData timestamp ⟨st.slotsPerEpoch, slotDuration⟩
          source.mainchainEpochConfig.toMainchainEpochConfig
          (RuntimeApi.ofStorage st.committee : RuntimeApi E) slot selectAuthorities st' R
          provider) := by
  obtain ⟨forMcEpoch, hfor, hdata, hge, hsome⟩ := isSome_of_new hnew
  rw [hasData_iff_dataEpoch_lt hempty hfor hdata hsome]
  rw [mcEpochForNextAriadneCidp_eq,
    forScEpochNumber_eq (E := E) hchain hslot hinit hempty slotDuration] at hfor
  obtain ⟨t, ht, hepoch⟩ := scEpochToMcEpoch_eq_ok htimestamp hfor
  rw [dataEpoch_lt_iff hepoch hge hR.word31, ht]
  have hle := epoch_le_of_initializeBlock hchain hslot hinit
  rw [htimestamp] at hts
  by_cases hnumber : st.blockNumber = 0
  · -- the provider takes the epoch of the slot itself, which has started
    rw [if_pos hnumber, UInt64.add_sub_cancel]
    have hmax := hcardano.maxSlotBoundary_le
    have hlt := hR.scEpochStart_lt ⟨st.slotsPerEpoch, slotDuration⟩ hts 0 hle
      (by simpa using hmax)
    exact ⟨iff_of_true hlt (Or.inl hnumber), fun _ => hlt⟩
  · obtain ⟨hunset, -⟩ := Chain.getNextUnsetEpochNumber_eq hchain hslot hinit hempty hnumber
    have hnext : (getNextUnsetEpochNumber st.committee).toNat ≤
        slot.toNat / st.slotsPerEpoch.toNat + 1 := by
      rw [hunset, UInt64.toNat_add]
      exact (Nat.mod_le _ _).trans (Nat.add_le_add_right hle 1)
    rw [if_neg hnumber, ← hunset, or_iff_right hnumber]
    exact ⟨Iff.rfl, fun hshort => hR.scEpochStart_lt _ hts 1 hnext (by simpa using hshort)⟩

end Result

end Selection

/-! ## Epochs as long as those of the main chain

Both are of ten seconds, the sidechain epochs in five slots, and a reference is
one to three seconds old.  After the first block of `CommitteeRun` a block at
30 seconds is the first one of epoch 3, and a committee for epoch 4 has to be
selected, which starts at 40 seconds, in main chain epoch 4.  Its data is that
of epoch 2, in which the reference still is. -/

/-- A source with epochs of ten seconds. -/
def longEpochs : BlockDataSourceImpl where
  securityParameter := 1
  minSlotBoundaryAsSeconds := 1000
  maxSlotBoundaryAsSeconds := 3000
  mainchainEpochConfig := ⟨⟨0, 10000, 0⟩, 0⟩
  blockStabilityMargin := 0
  cacheSize := 100
  latestDateTime := 2 ^ 60

/-- The epochs of the source are whole seconds. -/
theorem longEpochs_cardano : CardanoEpochs longEpochs 10 := ⟨rfl, rfl, rfl⟩

/-- The last block of epoch two. -/
def longReference : Block := ⟨29, FixedBytes.replicate 32 29, 2, 29, 29000⟩

/-- The reference is a block that a proposal may use. -/
theorem longReference_inWindow : ReferenceBlock longEpochs 30000 longReference :=
  ⟨by decide, by decide, by decide, by decide⟩

/-- Libraries that decode no datum. -/
def noLibraries : Libraries Unit :=
  ⟨UtxoText.lowerHex, fun _ => none, fun _ => FixedBytes.replicate 28 0⟩

/-- As `selectThird`. -/
def selectFromInputs : AuthoritySelectionInputs → UInt64 →
    Option (BoundedVec (Nat × Unit) exampleConfig.maxValidators) :=
  fun _ => selectThird ()

/-- An import with a D-parameter and no candidate. -/
def inputsImport : Import exampleConfig AuthoritySelectionInputs :=
  ⟨genesisState, firstBlock, some (some ⟨⟨1, 0⟩, [], [], []⟩), firstState⟩

/-- The import of the example is an accepted chain. -/
theorem inputsImport_chain :
    Chain selectFromInputs exampleGenesis [inputsImport] firstState := by
  refine ⟨genesisState, rfl, Path.cons inputsImport Path.nil ?_⟩
  refine ⟨?_, fun _ => ⟨_, List.mem_cons_self, rfl⟩, fun h => absurd rfl h, [], rfl⟩
  intro extrinsic hextrinsic _
  rw [List.mem_singleton.mp hextrinsic]
  rfl

/-- The provider has no data, since the epoch of the data has not ended. -/
theorem longEpochs_new :
    AriadneInherentDataProvider.new slotTimestamp ⟨5, 2000⟩
      longEpochs.mainchainEpochConfig.toMainchainEpochConfig noLibraries (Db.empty Unit)
      (RuntimeApi.ofStorage firstState.committee : RuntimeApi Unit) 15 longReference.epochNo =
    .ok ⟨none⟩ := rfl

/-- A block that needs a committee gets no data to select one. -/
theorem longEpochs_noData :
    CardanoEpochs longEpochs 10 ∧ Chain selectFromInputs exampleGenesis [inputsImport] firstState ∧
      initializeBlock firstState 15 = .ok (rotatedState, [.newSession 1]) ∧
      rotatedState.committee.nextCommittee = none ∧ slotTimestamp 15 2000 = some 30000 ∧
      ReferenceBlock longEpochs 30000 longReference ∧
      AriadneInherentDataProvider.new slotTimestamp ⟨5, 2000⟩
          longEpochs.mainchainEpochConfig.toMainchainEpochConfig noLibraries (Db.empty Unit)
          (RuntimeApi.ofStorage firstState.committee : RuntimeApi Unit) 15
          longReference.epochNo = .ok ⟨none⟩ ∧
      createInherent selectFromInputs (some none) rotatedState.committee =
        .error "Validator inherent data must be provided" :=
  ⟨longEpochs_cardano, inputsImport_chain, rfl, rfl, rfl, longReference_inWindow,
    longEpochs_new, rfl⟩

/-- The condition on the source with long epochs. -/
theorem hasData_iff_longEpochs :
    HasData slotTimestamp ⟨5, 2000⟩ longEpochs.mainchainEpochConfig.toMainchainEpochConfig
        (RuntimeApi.ofStorage firstState.committee : RuntimeApi Unit) 15 selectFromInputs
        rotatedState longReference ⟨none⟩ ↔
      firstState.blockNumber = 0 ∨
        (scEpochStart ⟨5, 2000⟩ (getNextUnsetEpochNumber firstState.committee) : Int) <
          mcEpochStart longEpochs.mainchainEpochConfig.toMainchainEpochConfig 4 :=
  (hasData_iff (fun _ _ => rfl) longEpochs_cardano inputsImport_chain (fun _ => by decide)
    (show initializeBlock firstState 15 = .ok (rotatedState, [.newSession 1]) from rfl) rfl
    (show slotTimestamp 15 2000 = some 30000 from rfl) longReference_inWindow
    longEpochs_new).1

end PartnerChains.Ports.SelectionData
