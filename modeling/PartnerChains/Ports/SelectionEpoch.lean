import PartnerChains.Ports.AcceptedChain
import PartnerChains.Ports.AriadneProvider

/-!
# The epoch that the provider reads data for

The provider asks the parent state for the next unset epoch, before the hooks
of the new block; the runtime decides after them for which epoch it selects.
`forScEpochNumber_of_createInherent` relates the two on every chain of accepted
blocks.  They are the same epoch, except for the first block: the provider
takes the epoch of its slot, the runtime the one after that.
-/

namespace PartnerChains.Ports.SelectionEpoch

open PartnerChains.Ports.CommitteePallet
open PartnerChains.Ports.SessionPallet
open PartnerChains.Ports.CommitteeRun
open PartnerChains.Ports.CommitteeInherent
open PartnerChains.Ports.AcceptedChain
open PartnerChains.Ports.AriadneProvider

/-- The sidechain epoch from which `mc_epoch_for_next_ariadne_cidp` derives the
main chain epoch. -/
def forScEpochNumber {E : Type} (scSlotConfig : ScSlotConfig) (client : RuntimeApi E)
    (slot : UInt64) : Except (InherentProviderCreationError E) UInt64 := do
  let nextUnsetEpoch ← client.getNextUnsetEpochNumber.mapError .apiError
  if nextUnsetEpoch = 1 then scSlotConfig.epochNumber slot else .ok nextUnsetEpoch

theorem mcEpochForNextAriadneCidp_eq {E : Type} (timestamp : UInt64 → UInt64 → Option UInt64)
    (scSlotConfig : ScSlotConfig) (mcEpochConfig : MainchainEpochConfig) (client : RuntimeApi E)
    (slot : UInt64) :
    mcEpochForNextAriadneCidp timestamp scSlotConfig mcEpochConfig client slot =
      (forScEpochNumber scSlotConfig client slot).bind
        (scEpochToMcEpoch timestamp scSlotConfig mcEpochConfig) := by
  unfold mcEpochForNextAriadneCidp forScEpochNumber
  cases client.getNextUnsetEpochNumber with
  | error e => rfl
  | ok nextUnsetEpoch =>
      by_cases hfirst : nextUnsetEpoch = 1
      · simp [hfirst, Except.mapError, bind, Except.bind]
      · simp [hfirst, Except.mapError, bind, Except.bind]

/-- `createInherent` proposes for the epoch after the current one, and only if
there is no next committee. -/
theorem createInherent_eq_set {Id Keys Inputs : Type} {maxValidators : Nat}
    {selectAuthorities : Inputs → UInt64 → Option (BoundedVec (Id × Keys) maxValidators)}
    {data : Option (Option Inputs)} {s : Storage Id Keys maxValidators}
    {validators : BoundedVec (Id × Keys) maxValidators} {epoch : UInt64}
    (h : createInherent selectAuthorities data s = .ok (some (.set validators epoch))) :
    s.nextCommittee = none ∧ epoch = s.currentCommittee.epoch + 1 := by
  cases hnext : s.nextCommittee with
  | some next => simp [createInherent, hnext] at h
  | none =>
      obtain ⟨inputs, rfl⟩ := inputs_of_createInherent selectAuthorities hnext h
      rw [createInherent_of_none selectAuthorities hnext] at h
      simp only [Except.ok.injEq, Option.some.injEq, Call.set.injEq] at h
      exact ⟨rfl, h.2.symm⟩

variable {Id Keys Account H A Inputs E : Type} {config : Config Id Keys Account H A}

/-! ## States without a next committee -/

section Accepted

variable [DecidableEq Account] [DecidableEq Id] [DecidableEq Keys]
  {selectAuthorities : Inputs → UInt64 → Option (BoundedVec (Id × Keys) config.maxValidators)}

/-- An accepted block leaves no next committee only if it rotates, and then the
committee in charge is not that of epoch 0. -/
theorem epoch_ne_zero_of_accepted {i : Import config Inputs} {events : List Event}
    (h : i.Accepted selectAuthorities) (hinv : Invariant i.parent events)
    (hnone : i.state.committee.nextCommittee = none) :
    i.state.committee.currentCommittee.epoch ≠ 0 := by
  have hrotates : i.Rotates := by
    by_contra hrotates
    have hsome := h.nextCommittee_isSome_iff.mpr fun hr => absurd hr hrotates
    simp [hnone] at hsome
  obtain ⟨next, hdue⟩ := Option.isSome_iff_exists.mp hrotates
  have hepoch := (hinv.enter h.increasing).toNat_epoch hdue
  obtain ⟨new, hexecute⟩ := h.executed
  obtain ⟨mid, committee, hstate, hproposes, hcase⟩ := executeBlock_cases hexecute
  rcases hcase with ⟨hno, -⟩ | ⟨next', hdue', rfl, -⟩
  · rw [hdue] at hno
    cases hno
  · obtain rfl : next = next' := Option.some.inj (hdue.symm.trans hdue')
    rw [hstate]
    show committee.currentCommittee.epoch ≠ 0
    rw [hproposes.currentCommittee]
    show next.epoch ≠ 0
    intro hzero
    rw [hzero] at hepoch
    cases hepoch

/-- After the first block, a state without a next committee is past epoch 0. -/
theorem Chain.epoch_ne_zero {genesis : Genesis config} {st : State config}
    {imports : List (Import config Inputs)} (h : Chain selectAuthorities genesis imports st)
    (hnumber : st.blockNumber ≠ 0) (hnone : st.committee.nextCommittee = none) :
    st.committee.currentCommittee.epoch ≠ 0 := by
  obtain ⟨st₀, hbuilt, hpath⟩ := h
  cases hpath with
  | nil =>
      obtain ⟨-, hzero, -⟩ := build_eq_ok hbuilt
      exact absurd hzero hnumber
  | cons i path accepted =>
      obtain ⟨events, hrun⟩ := path.run (Run.start hbuilt)
      exact epoch_ne_zero_of_accepted accepted hrun.invariant hnone

private theorem Chain.epoch_eq_zero {genesis : Genesis config} {st : State config}
    {imports : List (Import config Inputs)} (h : Chain selectAuthorities genesis imports st)
    (hnumber : st.blockNumber = 0) : st.committee.currentCommittee.epoch = 0 := by
  obtain ⟨st₀, hbuilt, hpath⟩ := h
  cases hpath with
  | nil =>
      obtain ⟨-, -, hcommittee, -⟩ := build_eq_ok hbuilt
      rw [hcommittee]
      rfl
  | cons i path accepted =>
      obtain ⟨events, hrun⟩ := path.run (Run.start hbuilt)
      obtain ⟨new, hexecute⟩ := accepted.executed
      rw [executeBlock_blockNumber hexecute] at hnumber
      cases hnumber

/-! ## The two epochs -/

/-- After the first block, the next unset epoch of the parent is the one after
the committee in charge behind the hooks, and it is not epoch 1. -/
theorem Chain.getNextUnsetEpochNumber_eq {genesis : Genesis config}
    {imports : List (Import config Inputs)} {st st' : State config}
    (hchain : Chain selectAuthorities genesis imports st) {slot : UInt64} {events : List Event}
    (hslot : st.blockNumber ≠ 0 → st.currentSlot < slot)
    (hinit : initializeBlock st slot = .ok (st', events))
    (hempty : st'.committee.nextCommittee = none) (hnumber : st.blockNumber ≠ 0) :
    getNextUnsetEpochNumber st.committee = st'.committee.currentCommittee.epoch + 1 ∧
      st'.committee.currentCommittee.epoch + 1 ≠ 1 := by
  obtain ⟨before, hrun⟩ := hchain.run
  have hinv := hrun.invariant
  rcases initializeBlock_eq_ok hinit with ⟨-, rfl, -⟩ | ⟨next, hdue, rfl, -⟩
  · rw [entered_nextCommittee] at hempty
    have hcurrent : (entered st slot).committee.currentCommittee =
        st.committee.currentCommittee := by simp [entered, hnumber]
    rw [hcurrent]
    refine ⟨by simp [getNextUnsetEpochNumber, hempty], ?_⟩
    have hne := Chain.epoch_ne_zero hchain hnumber hempty
    simpa using hne
  · have hnat := (hinv.enter hslot).toNat_epoch hdue
    obtain ⟨hsome, -⟩ := due_eq_some hdue
    rw [entered_nextCommittee] at hsome
    refine ⟨by simp [getNextUnsetEpochNumber, hsome, rotated], ?_⟩
    have hne : next.epoch ≠ 0 := by
      intro hzero
      rw [hzero] at hnat
      cases hnat
    simpa [rotated] using hne

/-- The data is for the epoch whose committee is to be set, except that the first
block asks for the epoch before. -/
theorem forScEpochNumber_eq {genesis : Genesis config}
    {imports : List (Import config Inputs)} {st st' : State config}
    (hchain : Chain selectAuthorities genesis imports st) {slot : UInt64} {events : List Event}
    (hslot : st.blockNumber ≠ 0 → st.currentSlot < slot)
    (hinit : initializeBlock st slot = .ok (st', events))
    (hempty : st'.committee.nextCommittee = none) (slotDuration : UInt64) :
    forScEpochNumber ⟨st.slotsPerEpoch, slotDuration⟩
        (RuntimeApi.ofStorage st.committee : RuntimeApi E) slot =
      .ok (if st.blockNumber = 0 then st'.committee.currentCommittee.epoch + 1 - 1
        else st'.committee.currentCommittee.epoch + 1) := by
  by_cases hnumber : st.blockNumber = 0
  · obtain ⟨before, hrun⟩ := hchain.run
    have hinv := hrun.invariant
    have hnone := hinv.unset hnumber
    rcases initializeBlock_eq_ok hinit with ⟨-, rfl, -⟩ | ⟨next, hdue, -⟩
    · have hunset : getNextUnsetEpochNumber st.committee = 1 := by
        simp [getNextUnsetEpochNumber, hnone, Chain.epoch_eq_zero hchain hnumber]
      have hentered : (entered st slot).committee.currentCommittee.epoch =
          slot / st.slotsPerEpoch.toUInt64 := by
        simp [entered, hnumber]
      rw [if_pos hnumber, hentered]
      simp [forScEpochNumber, RuntimeApi.ofStorage, hunset, ScSlotConfig.epochNumber,
        Domain.epochNumber, hinv.slots, Except.mapError, bind, Except.bind]
    · obtain ⟨hsome, -⟩ := due_eq_some hdue
      rw [entered_nextCommittee, hnone] at hsome
      cases hsome
  · obtain ⟨hunset, hne⟩ :=
      Chain.getNextUnsetEpochNumber_eq hchain hslot hinit hempty hnumber
    rw [if_neg hnumber]
    simp [forScEpochNumber, RuntimeApi.ofStorage, hunset, hne, Except.mapError, bind,
      Except.bind]

/-- On every chain the provider reads data for the epoch that the runtime
selects for; for the first block, for the epoch before. -/
theorem forScEpochNumber_of_createInherent {genesis : Genesis config}
    {imports : List (Import config Inputs)} {st st' : State config}
    (hchain : Chain selectAuthorities genesis imports st) {slot : UInt64} {events : List Event}
    (hslot : st.blockNumber ≠ 0 → st.currentSlot < slot)
    (hinit : initializeBlock st slot = .ok (st', events)) {data : Option (Option Inputs)}
    {validators : BoundedVec (Id × Keys) config.maxValidators} {epoch : UInt64}
    (hcreate : createInherent selectAuthorities data st'.committee =
      .ok (some (.set validators epoch)))
    (timestamp : UInt64 → UInt64 → Option UInt64) (slotDuration : UInt64)
    (mcEpochConfig : MainchainEpochConfig) :
    ∃ scEpoch,
      forScEpochNumber ⟨st.slotsPerEpoch, slotDuration⟩
          (RuntimeApi.ofStorage st.committee : RuntimeApi E) slot = .ok scEpoch ∧
        mcEpochForNextAriadneCidp timestamp ⟨st.slotsPerEpoch, slotDuration⟩ mcEpochConfig
            (RuntimeApi.ofStorage st.committee : RuntimeApi E) slot =
          scEpochToMcEpoch timestamp ⟨st.slotsPerEpoch, slotDuration⟩ mcEpochConfig scEpoch ∧
        scEpoch = if st.blockNumber = 0 then epoch - 1 else epoch := by
  obtain ⟨hempty, hepoch⟩ := createInherent_eq_set hcreate
  have hsc := forScEpochNumber_eq (E := E) hchain hslot hinit hempty slotDuration
  refine ⟨_, hsc, ?_, by rw [hepoch]⟩
  rw [mcEpochForNextAriadneCidp_eq, hsc]
  rfl

end Accepted

/-! ## The first block

In the example of `CommitteeRun` the first block is in epoch 2. -/

/-- The first block sets the committee of epoch three with the data for epoch two. -/
theorem forScEpochNumber_first :
    Chain selectThird exampleGenesis [] genesisState ∧
      ∃ st', initializeBlock genesisState 11 = .ok (st', []) ∧
        createInherent selectThird (some (some ())) st'.committee =
          .ok (some (.set (BoundedVec.truncateFrom 32 [(3, ())]) 3)) ∧
        forScEpochNumber ⟨5, 6000⟩
          (RuntimeApi.ofStorage genesisState.committee : RuntimeApi Unit) 11 = .ok 2 :=
  ⟨⟨genesisState, rfl, Path.nil⟩, _, rfl, rfl, rfl⟩

/-- A later block asks for the epoch whose committee it sets. -/
theorem forScEpochNumber_second :
    ∃ scEpoch,
      forScEpochNumber ⟨5, 6000⟩
          (RuntimeApi.ofStorage firstState.committee : RuntimeApi Unit) 15 = .ok scEpoch ∧
        mcEpochForNextAriadneCidp (fun _ _ => none) ⟨5, 6000⟩ ⟨0, 1, 0⟩
            (RuntimeApi.ofStorage firstState.committee : RuntimeApi Unit) 15 =
          scEpochToMcEpoch (fun _ _ => none) ⟨5, 6000⟩ ⟨0, 1, 0⟩ scEpoch ∧ scEpoch = 4 := by
  have hchain : Chain selectThird exampleGenesis [firstImport] firstState :=
    ⟨genesisState, rfl, firstImport_path⟩
  have hinit : initializeBlock firstState 15 = .ok (rotatedState, [.newSession 1]) := rfl
  have hcreate : createInherent selectThird (some (some ())) rotatedState.committee =
      .ok (some (.set (BoundedVec.truncateFrom 32 [(3, ())]) 4)) := rfl
  exact forScEpochNumber_of_createInherent hchain (fun _ => by decide) hinit hcreate
    (fun _ _ => none) 6000 ⟨0, 1, 0⟩

end PartnerChains.Ports.SelectionEpoch
