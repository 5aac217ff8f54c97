import PartnerChains.Ports.SessionPallet
import PartnerChains.Verified.Fallible

/-!
# The committee along a run of the chain

A run starts from genesis and executes blocks with increasing slots, each with
any extrinsics.  `initializeBlock_eq` says what the hooks of a block do: they
rotate the committee, or they leave it alone.  `Invariant` is what every block
preserves, and `Run.afterBlock` the result: the next committee is that of the
following epoch, the committee never serves ahead of its epoch and moves on by
one epoch at a time, the session pallet has the same committee, and both
session indices count the rotations.
-/

namespace PartnerChains.Ports.CommitteeRun

open PartnerChains.Ports.Domain
open PartnerChains.Ports.CommitteePallet
open PartnerChains.Ports.SessionPallet
open PartnerChains.Verified.Fallible

variable {Id Keys Account H A : Type} {config : Config Id Keys Account H A}

/-! ## Runs -/

/-- The states after any number of blocks, with the events of all blocks. -/
inductive Run [DecidableEq Account] (genesis : Genesis config) :
    State config → List Event → Prop where
  | start {st : State config} (built : genesis.build = .ok st) : Run genesis st []
  | block {st st' : State config} {events new : List Event} (block : Block config)
      (run : Run genesis st events)
      (increasing : st.blockNumber ≠ 0 → st.currentSlot < block.slot)
      (executed : executeBlock st block = .ok (st', new)) : Run genesis st' (events ++ new)

/-- The members of a committee as accounts. -/
def accountsOf (config : Config Id Keys Account H A)
    (info : CommitteeInfo Id Keys config.maxValidators) : List (Account × Keys) :=
  info.committee.items.map fun (id, keys) => (config.into id, keys)

/-- Every rotation deposits one event. -/
def rotations (events : List Event) : Nat := events.length

/-- What holds after a block that was executed in the state `st`. -/
structure AfterBlock (st st' : State config) (events : List Event) : Prop where
  next_epoch : ∀ next, st'.committee.nextCommittee = some next →
    next.epoch = st'.committee.currentCommittee.epoch + 1
  epoch_le : ∃ epoch, currentEpochNumber st' = .ok epoch ∧
    st'.committee.currentCommittee.epoch ≤ epoch
  first : st.blockNumber = 0 →
    currentEpochNumber st' = .ok st'.committee.currentCommittee.epoch
  raises : st.blockNumber ≠ 0 →
    st'.committee.currentCommittee.epoch = st.committee.currentCommittee.epoch ∨
      st'.committee.currentCommittee.epoch.toNat =
        st.committee.currentCommittee.epoch.toNat + 1
  validators : st'.session.validatorsAndKeys = accountsOf config st'.committee.currentCommittee
  index : st'.session.currentIndex = UInt32.ofNat (rotations events)
  stub : rotations events ≠ 0 → st'.palletSessionIndex = st'.session.currentIndex

/-! ## The hooks -/

theorem currentEpochNumber_eq {st : State config} (hslots : st.slotsPerEpoch ≠ 0) :
    currentEpochNumber st = .ok (st.currentSlot / st.slotsPerEpoch.toUInt64) := by
  simp [currentEpochNumber, Domain.epochNumber, hslots]

theorem startSession_eq {st : State config} (hslots : st.slotsPerEpoch ≠ 0) :
    startSession st = .ok () := by
  rw [startSession, currentEpochNumber_eq hslots]
  rfl

private theorem onInitializeSidechain_eq {st : State config} (hslots : st.slotsPerEpoch ≠ 0) :
    onInitializeSidechain st =
      .ok { st with epochNumber := some (st.currentSlot / st.slotsPerEpoch.toUInt64) } := by
  simp only [onInitializeSidechain, currentEpochNumber_eq hslots, bind, Except.bind]
  cases hsaved : st.epochNumber with
  | none => rfl
  | some savedEpoch =>
      by_cases heq : savedEpoch = st.currentSlot / st.slotsPerEpoch.toUInt64
      · show (if savedEpoch ≠ _ then _ else Except.ok st) = _
        rw [if_neg (not_not.mpr heq), ← heq, ← hsaved]
      · simp [heq]

private theorem onInitializeCommittee_eq {st : State config} (hslots : st.slotsPerEpoch ≠ 0) :
    onInitializeCommittee st =
      .ok { st with
        committee :=
          if st.blockNumber = 1 then
            { st.committee with currentCommittee := { st.committee.currentCommittee with
                epoch := st.currentSlot / st.slotsPerEpoch.toUInt64 } }
          else st.committee } := by
  simp only [onInitializeCommittee, onInitialize, currentEpochNumber_eq hslots]
  by_cases hfirst : st.blockNumber = 1 <;> simp [hfirst, bind, Except.bind]

/-- The committee of the next epoch, if it is its turn. -/
def due (st : State config) : Option (CommitteeInfo Id Keys config.maxValidators) :=
  if st.committee.currentCommittee.epoch < st.currentSlot / st.slotsPerEpoch.toUInt64 then
    st.committee.nextCommittee
  else none

/-- The state in which the session pallet finds the block: the first block
makes the genesis committee that of its epoch. -/
def entered (st : State config) (slot : UInt64) : State config :=
  let epoch := slot / st.slotsPerEpoch.toUInt64
  { st with
    blockNumber := st.blockNumber + 1
    currentSlot := slot
    epochNumber := some epoch
    committee :=
      if st.blockNumber = 0 then
        { st.committee with currentCommittee := { st.committee.currentCommittee with
            epoch := epoch } }
      else st.committee }

/-- The validators after they have been replaced. -/
def replacedValidators (config : Config Id Keys Account H A)
    (newValidators : List (Account × Keys)) (session : SessionStorage Account Keys) :
    SessionStorage Account Keys where
  validators := if config.polkadotJsCompat then newValidators.map Prod.fst else session.validators
  validatorsAndKeys := newValidators
  currentIndex := session.currentIndex
  disabledValidators := []

/-- The state after a rotation to the committee `next`. -/
def rotated (st : State config) (next : CommitteeInfo Id Keys config.maxValidators) :
    State config :=
  { st with
    committee := { st.committee with currentCommittee := next, nextCommittee := none }
    palletSessionIndex := st.session.currentIndex + 1
    session := replacedValidators config (accountsOf config next)
      { st.session with currentIndex := st.session.currentIndex + 1 }
    handlerState := config.sessionHandler.onNewSession (st.session.currentIndex + 1) true
      (accountsOf config next) (config.sessionHandler.onBeforeSessionEnding st.handlerState) }

/-! ## The extrinsics -/

/-- No extrinsic changes more than the stored committee. -/
theorem applyExtrinsic_proposes {st st' : State config} {extrinsic : Extrinsic config}
    (h : applyExtrinsic st extrinsic = .ok st') :
    ∃ committee, st' = { st with committee := committee } ∧ Proposes st.committee committee := by
  unfold applyExtrinsic at h
  cases hdispatch : dispatch extrinsic.origin extrinsic.call st.committee with
  | ok committee =>
      rw [hdispatch] at h
      exact ⟨committee, (Except.ok.inj h).symm, dispatch_proposes hdispatch⟩
  | error e =>
      rw [hdispatch] at h
      cases hclass : extrinsic.call.dispatchClass with
      | mandatory => simp [hclass] at h
      | normal =>
          simp only [hclass, Except.ok.injEq] at h
          exact ⟨st.committee, h.symm, Proposes.refl _⟩

theorem applyExtrinsics_cons_eq_ok {st st' : State config} {extrinsic : Extrinsic config}
    {rest : List (Extrinsic config)} :
    applyExtrinsics st (extrinsic :: rest) = .ok st' ↔
      ∃ mid, applyExtrinsic st extrinsic = .ok mid ∧ applyExtrinsics mid rest = .ok st' :=
  bind_eq_ok

/-- The extrinsics leave everything but the next committee and the scripts
alone. -/
theorem applyExtrinsics_proposes {st st' : State config} {extrinsics : List (Extrinsic config)}
    (h : applyExtrinsics st extrinsics = .ok st') :
    ∃ committee, st' = { st with committee := committee } ∧ Proposes st.committee committee := by
  induction extrinsics generalizing st with
  | nil => exact ⟨st.committee, (Except.ok.inj h).symm, Proposes.refl _⟩
  | cons extrinsic rest ih =>
      obtain ⟨mid, happly, h⟩ := applyExtrinsics_cons_eq_ok.mp h
      obtain ⟨first, rfl, hfirst⟩ := applyExtrinsic_proposes happly
      obtain ⟨committee, rfl, hrest⟩ := ih h
      exact ⟨committee, rfl, hfirst.trans hrest⟩

private theorem applyExtrinsic_error {st : State config} {extrinsic : Extrinsic config}
    {e : BlockError}
    (h : applyExtrinsic st extrinsic = .error e) : ∃ error, e = .badMandatory error := by
  unfold applyExtrinsic at h
  split at h
  · cases h
  · next error _ =>
      split at h
      · exact ⟨error, (Except.error.inj h).symm⟩
      · cases h

/-- Calls fail with dispatch errors only. -/
theorem applyExtrinsics_not_panic (st : State config) (extrinsics : List (Extrinsic config))
    (panic : Panic) : applyExtrinsics st extrinsics ≠ .error (.panic panic) := by
  induction extrinsics generalizing st with
  | nil => simp [applyExtrinsics]
  | cons extrinsic rest ih =>
      cases happly : applyExtrinsic st extrinsic with
      | ok st₁ =>
          simp only [applyExtrinsics, happly, bind, Except.bind]
          exact ih st₁
      | error e =>
          obtain ⟨error, rfl⟩ := applyExtrinsic_error happly
          simp [applyExtrinsics, happly, bind, Except.bind]

/-! ## The invariant -/

/-- What holds after every block of a run, in terms of the events so far. -/
structure Invariant (st : State config) (events : List Event) : Prop where
  slots : st.slotsPerEpoch ≠ 0
  unset : st.blockNumber = 0 → st.committee.nextCommittee = none
  next_epoch : ∀ next, st.committee.nextCommittee = some next →
    next.epoch = st.committee.currentCommittee.epoch + 1
  epoch_le : st.committee.currentCommittee.epoch ≤
    st.currentSlot / st.slotsPerEpoch.toUInt64
  validators : st.session.validatorsAndKeys = accountsOf config st.committee.currentCommittee
  index : st.session.currentIndex = UInt32.ofNat (rotations events)
  stub : rotations events ≠ 0 → st.palletSessionIndex = st.session.currentIndex

/-- In a block the epoch may have moved on. -/
theorem Invariant.enter {st : State config} {events : List Event} (h : Invariant st events)
    {slot : UInt64} (hslot : st.blockNumber ≠ 0 → st.currentSlot < slot) :
    Invariant (entered st slot) events := by
  by_cases hfirst : st.blockNumber = 0
  · refine ⟨h.slots, by simp [entered], ?_, ?_, ?_, h.index, h.stub⟩
    · simp [entered, hfirst, h.unset hfirst]
    · simp [entered, hfirst]
    · simpa [entered, hfirst, accountsOf] using h.validators
  · have hmono : st.currentSlot / st.slotsPerEpoch.toUInt64 ≤
        slot / st.slotsPerEpoch.toUInt64 := by
      rw [UInt64.le_iff_toNat_le, UInt64.toNat_div, UInt64.toNat_div]
      exact Nat.div_le_div_right (UInt64.le_iff_toNat_le.mp (UInt64.le_of_lt (hslot hfirst)))
    refine ⟨h.slots, by simp [entered], ?_, ?_, ?_, h.index, h.stub⟩
    · simpa [entered, hfirst] using h.next_epoch
    · simpa [entered, hfirst] using UInt64.le_trans h.epoch_le hmono
    · simpa [entered, hfirst] using h.validators

/-- A committee that is due is stored, and the current one is late. -/
theorem due_eq_some {st : State config} {next : CommitteeInfo Id Keys config.maxValidators}
    (h : due st = some next) :
    st.committee.nextCommittee = some next ∧
      st.committee.currentCommittee.epoch < st.currentSlot / st.slotsPerEpoch.toUInt64 := by
  unfold due at h
  split at h
  · next hepoch => exact ⟨h, hepoch⟩
  · cases h

/-- A committee whose turn it is follows the current one without overflow. -/
theorem Invariant.toNat_epoch {st : State config} {events : List Event} (h : Invariant st events)
    {next : CommitteeInfo Id Keys config.maxValidators} (hdue : due st = some next) :
    next.epoch.toNat = st.committee.currentCommittee.epoch.toNat + 1 := by
  obtain ⟨hnext, hlt⟩ := due_eq_some hdue
  have hlt' := UInt64.lt_iff_toNat_lt.mp hlt
  have hbound := UInt64.toNat_lt (st.currentSlot / st.slotsPerEpoch.toUInt64)
  rw [h.next_epoch next hnext, UInt64.toNat_add]
  simp only [UInt64.reduceToNat]
  omega

/-- A rotation keeps the invariant. -/
theorem Invariant.rotate {st : State config} {events : List Event} (h : Invariant st events)
    (hnumber : st.blockNumber ≠ 0) {next : CommitteeInfo Id Keys config.maxValidators}
    (hdue : due st = some next) :
    Invariant (rotated st next) (events ++ [.newSession (st.session.currentIndex + 1)]) := by
  obtain ⟨-, hlt⟩ := due_eq_some hdue
  have hepoch := h.toNat_epoch hdue
  refine ⟨h.slots, fun hzero => absurd hzero hnumber, by simp [rotated], ?_, rfl, ?_, fun _ => rfl⟩
  · show next.epoch ≤ _
    rw [UInt64.le_iff_toNat_le, hepoch]
    exact UInt64.lt_iff_toNat_lt.mp hlt
  · show st.session.currentIndex + 1 = _
    rw [h.index, rotations, rotations, List.length_append, UInt32.ofNat_add]
    rfl

/-- A stored committee keeps the invariant. -/
theorem Invariant.propose {st : State config} {events : List Event} (h : Invariant st events)
    (hnumber : st.blockNumber ≠ 0) {committee : Storage Id Keys config.maxValidators}
    (hproposes : Proposes st.committee committee) :
    Invariant { st with committee := committee } events := by
  refine ⟨h.slots, fun hzero => absurd hzero hnumber, ?_, ?_, ?_, h.index, h.stub⟩
  · intro next hnext
    show next.epoch = committee.currentCommittee.epoch + 1
    rw [hproposes.currentCommittee]
    rcases hproposes.nextCommittee with hsame | ⟨next', hnext', hepoch⟩
    · exact h.next_epoch next (hsame.symm.trans hnext)
    · rw [show next = next' from Option.some.inj (hnext.symm.trans hnext')]
      exact hepoch
  · show committee.currentCommittee.epoch ≤ _
    rw [hproposes.currentCommittee]
    exact h.epoch_le
  · show st.session.validatorsAndKeys = accountsOf config committee.currentCommittee
    rw [hproposes.currentCommittee]
    exact h.validators

/-! ## Executing a block -/

variable [DecidableEq Account]

/-- The references of the accounts stay as they are: by the time they are
compared, the validators have been replaced. -/
theorem changeAccountProviders_self (references : AccountReferences A Account)
    (ids : List Account) (accounts : A) :
    changeAccountProviders references ids ids accounts = some accounts := by
  have hnone : (ids.dedup.filter fun account => decide (account ∉ ids)) = [] := by
    rw [List.filter_eq_nil_iff]
    intro account haccount
    simpa using List.mem_dedup.mp haccount
  simp only [changeAccountProviders, hnone, List.foldl_nil, List.foldlM_nil]
  rfl

theorem rotateValidators_eq (newValidators : List (Account × Keys)) (st : State config) :
    rotateValidators newValidators st =
      .ok { st with session := replacedValidators config newValidators st.session } := by
  unfold rotateValidators replacedValidators
  cases config.polkadotJsCompat <;> simp [changeAccountProviders_self]

/-- A rotation always succeeds, with one event. -/
theorem rotateSession_eq {st : State config} (hslots : st.slotsPerEpoch ≠ 0)
    {next : CommitteeInfo Id Keys config.maxValidators}
    (hnext : st.committee.nextCommittee = some next) :
    rotateSession st =
      .ok (rotated st next, [.newSession (st.session.currentIndex + 1)]) := by
  simp only [rotateSession, newSession, rotateCommitteeToNextEpoch, hnext, Option.map_some,
    rotateValidators_eq, bind, Except.bind]
  rw [startSession_eq]
  · rfl
  · exact hslots

private theorem onInitializeSession_eq {st : State config} (hslots : st.slotsPerEpoch ≠ 0) :
    onInitializeSession st =
      match due st with
      | some next => .ok (rotated st next, [.newSession (st.session.currentIndex + 1)])
      | none => .ok (st, []) := by
  simp only [onInitializeSession, shouldEndSession, currentEpochNumber_eq hslots, bind,
    Except.bind, nextCommittee, Option.isSome_map, due]
  by_cases hepoch :
      st.committee.currentCommittee.epoch < st.currentSlot / st.slotsPerEpoch.toUInt64
  · cases hnext : st.committee.nextCommittee with
    | none => simp [hepoch]
    | some next => simp [hepoch, rotateSession_eq hslots hnext]
  · simp [hepoch]

/-- The hooks of a block never panic. -/
theorem initializeBlock_eq {st : State config} (hslots : st.slotsPerEpoch ≠ 0) (slot : UInt64) :
    initializeBlock st slot =
      match due (entered st slot) with
      | some next =>
          .ok (rotated (entered st slot) next, [.newSession (st.session.currentIndex + 1)])
      | none => .ok (entered st slot, []) := by
  have hentered : (do
      let st ← onInitializeSidechain
        { st with blockNumber := st.blockNumber + 1, currentSlot := slot }
      onInitializeCommittee st) = .ok (entered st slot) := by
    rw [onInitializeSidechain_eq]
    · show onInitializeCommittee _ = _
      rw [onInitializeCommittee_eq]
      · simp [entered]
      · exact hslots
    · exact hslots
  have hsession : initializeBlock st slot =
      (do
        let st ← onInitializeSidechain
          { st with blockNumber := st.blockNumber + 1, currentSlot := slot }
        onInitializeCommittee st).bind onInitializeSession := by
    rw [initializeBlock]
    simp only [bind, Except.bind]
    cases onInitializeSidechain _ <;> rfl
  rw [hsession, hentered]
  exact onInitializeSession_eq hslots

/-- What the hooks leave to the extrinsics: the state as entered, or rotated
if the turn of the next committee has come. -/
theorem initializeBlock_cases {st : State config} (hslots : st.slotsPerEpoch ≠ 0)
    (slot : UInt64) :
    ∃ mid new, initializeBlock st slot = .ok (mid, new) ∧
      (due (entered st slot) = none ∧ mid = entered st slot ∧ new = [] ∨
        ∃ next, due (entered st slot) = some next ∧ mid = rotated (entered st slot) next ∧
          new = [.newSession (st.session.currentIndex + 1)]) := by
  rw [initializeBlock_eq hslots]
  cases hdue : due (entered st slot) with
  | none => exact ⟨_, _, rfl, Or.inl ⟨rfl, rfl, rfl⟩⟩
  | some next => exact ⟨_, _, rfl, Or.inr ⟨next, rfl, rfl, rfl⟩⟩

/-- With epochs of no slots the hooks panic. -/
theorem slotsPerEpoch_ne_zero {st : State config} {slot : UInt64}
    {result : State config × List Event} (h : initializeBlock st slot = .ok result) :
    st.slotsPerEpoch ≠ 0 := by
  intro hzero
  simp [initializeBlock, onInitializeSidechain, SessionPallet.currentEpochNumber,
    Domain.epochNumber, hzero, bind, Except.bind] at h

/-- What the hooks leave, if they do not panic. -/
theorem initializeBlock_eq_ok {st mid : State config} {slot : UInt64} {new : List Event}
    (h : initializeBlock st slot = .ok (mid, new)) :
    due (entered st slot) = none ∧ mid = entered st slot ∧ new = [] ∨
      ∃ next, due (entered st slot) = some next ∧ mid = rotated (entered st slot) next ∧
        new = [.newSession (st.session.currentIndex + 1)] := by
  obtain ⟨mid', new', hmid, hcase⟩ := initializeBlock_cases (slotsPerEpoch_ne_zero h) slot
  cases h.symm.trans hmid
  exact hcase

theorem executeBlock_of_initializeBlock {st mid : State config} (block : Block config)
    {new : List Event} (h : initializeBlock st block.slot = .ok (mid, new)) :
    executeBlock st block =
      (applyExtrinsics mid block.extrinsics).map fun st' => (st', new) := by
  simp only [executeBlock, h, Except.mapError, bind, Except.bind]
  cases applyExtrinsics mid block.extrinsics <;> rfl

/-- A block is its hooks and then its extrinsics. -/
theorem executeBlock_eq_ok {st st' : State config} {block : Block config} {new : List Event}
    (h : executeBlock st block = .ok (st', new)) :
    ∃ mid, initializeBlock st block.slot = .ok (mid, new) ∧
      applyExtrinsics mid block.extrinsics = .ok st' := by
  cases hinit : initializeBlock st block.slot with
  | error panic => simp [executeBlock, hinit, Except.mapError, bind, Except.bind] at h
  | ok result =>
      obtain ⟨mid, events⟩ := result
      rw [executeBlock_of_initializeBlock block hinit] at h
      cases happly : applyExtrinsics mid block.extrinsics with
      | error e => simp [happly, Except.map] at h
      | ok result =>
          simp only [happly, Except.map, Except.ok.injEq, Prod.mk.injEq] at h
          obtain ⟨rfl, rfl⟩ := h
          exact ⟨mid, rfl, happly⟩

/-- A block rotates if a committee is due, and may then store another one. -/
theorem executeBlock_cases {st st' : State config} {block : Block config} {new : List Event}
    (h : executeBlock st block = .ok (st', new)) :
    ∃ mid committee, st' = { mid with committee := committee } ∧
      Proposes mid.committee committee ∧
      (due (entered st block.slot) = none ∧ mid = entered st block.slot ∧ new = [] ∨
        ∃ next, due (entered st block.slot) = some next ∧
          mid = rotated (entered st block.slot) next ∧
          new = [.newSession (st.session.currentIndex + 1)]) := by
  obtain ⟨mid, hinit, happly⟩ := executeBlock_eq_ok h
  obtain ⟨committee, hst', hproposes⟩ := applyExtrinsics_proposes happly
  exact ⟨mid, committee, hst', hproposes, initializeBlock_eq_ok hinit⟩

theorem executeBlock_blockNumber {st st' : State config} {block : Block config}
    {new : List Event} (h : executeBlock st block = .ok (st', new)) :
    st'.blockNumber = st.blockNumber + 1 := by
  obtain ⟨mid, committee, rfl, -, hcase⟩ := executeBlock_cases h
  rcases hcase with ⟨-, rfl, -⟩ | ⟨next, -, rfl, -⟩
  · rfl
  · rfl

theorem executeBlock_slot {st st' : State config} {block : Block config}
    {new : List Event} (h : executeBlock st block = .ok (st', new)) :
    st'.currentSlot = block.slot ∧ st'.slotsPerEpoch = st.slotsPerEpoch := by
  obtain ⟨mid, committee, rfl, -, hcase⟩ := executeBlock_cases h
  rcases hcase with ⟨-, rfl, -⟩ | ⟨next, -, rfl, -⟩
  · exact ⟨rfl, rfl⟩
  · exact ⟨rfl, rfl⟩

/-- A block fails because of its extrinsics only. -/
theorem executeBlock_not_panic {st : State config} (hslots : st.slotsPerEpoch ≠ 0)
    (block : Block config) (panic : Panic) :
    executeBlock st block ≠ .error (.panic panic) := by
  obtain ⟨mid, events, hinit, -⟩ := initializeBlock_cases hslots block.slot
  rw [executeBlock_of_initializeBlock block hinit]
  intro hpanic
  apply applyExtrinsics_not_panic mid block.extrinsics panic
  cases happly : applyExtrinsics mid block.extrinsics with
  | error e => simpa [happly, Except.map] using hpanic
  | ok result => simp [happly, Except.map] at hpanic

/-- The state at genesis: the first committee is in office from the start. -/
theorem build_state {genesis : Genesis config} {st : State config}
    (h : genesis.build = .ok st) :
    genesis.slotsPerEpoch ≠ 0 ∧ ∃ handlerState, st =
      { blockNumber := 0
        accounts := genesis.accounts
        currentSlot := 0
        handlerState := handlerState
        slotsPerEpoch := genesis.slotsPerEpoch
        epochNumber := none
        committee := genesis.committee.build config.maxValidators
        palletSessionIndex := genesis.palletSessionIndex
        session := replacedValidators config
          (accountsOf config (genesis.committee.build config.maxValidators).currentCommittee)
          ⟨[], [], 0, []⟩ } := by
  by_cases hslots : genesis.slotsPerEpoch = 0
  · simp [Genesis.build, rotateValidators_eq, startSession, currentEpochNumber,
      Domain.epochNumber, hslots, bind, Except.bind] at h
  · simp only [Genesis.build, newSessionGenesis, Option.getD_some, rotateValidators_eq, bind,
      Except.bind] at h
    rw [startSession_eq] at h
    · cases h
      exact ⟨hslots, _, rfl⟩
    · exact hslots

/-- What the genesis builds. -/
theorem build_eq_ok {genesis : Genesis config} {st : State config}
    (h : genesis.build = .ok st) :
    st.slotsPerEpoch ≠ 0 ∧ st.blockNumber = 0 ∧
      st.committee = genesis.committee.build config.maxValidators ∧
      st.session.validatorsAndKeys = accountsOf config st.committee.currentCommittee ∧
      st.session.currentIndex = 0 ∧ st.accounts = genesis.accounts := by
  obtain ⟨hslots, _, rfl⟩ := build_state h
  exact ⟨hslots, rfl, rfl, rfl, rfl, rfl⟩

/-- The storage of Aura and of the sidechain pallet at genesis. -/
theorem build_sidechain {genesis : Genesis config} {st : State config}
    (h : genesis.build = .ok st) :
    st.currentSlot = 0 ∧ st.epochNumber = none ∧ st.slotsPerEpoch = genesis.slotsPerEpoch := by
  obtain ⟨-, _, rfl⟩ := build_state h
  exact ⟨rfl, rfl, rfl⟩

/-- The genesis has the invariant. -/
theorem Invariant.start {genesis : Genesis config} {st : State config}
    (h : genesis.build = .ok st) : Invariant st [] := by
  obtain ⟨hslots, -, hcommittee, hvalidators, hindex, -⟩ := build_eq_ok h
  refine ⟨hslots, ?_, ?_, ?_, hvalidators, hindex, by simp [rotations]⟩
  · intro _
    rw [hcommittee]
    rfl
  · rw [hcommittee]
    simp [GenesisConfig.build]
  · rw [hcommittee]
    exact UInt64.le_iff_toNat_le.mpr (Nat.zero_le _)

/-- A block keeps the invariant. -/
theorem Invariant.block {st st' : State config} {events new : List Event}
    (h : Invariant st events) {block : Block config}
    (hslot : st.blockNumber ≠ 0 → st.currentSlot < block.slot)
    (hexecute : executeBlock st block = .ok (st', new)) : Invariant st' (events ++ new) := by
  have hentered := h.enter hslot
  have hnumber : (entered st block.slot).blockNumber ≠ 0 := Nat.succ_ne_zero _
  obtain ⟨mid, committee, rfl, hproposes, hcase⟩ := executeBlock_cases hexecute
  rcases hcase with ⟨-, rfl, rfl⟩ | ⟨next, hdue, rfl, rfl⟩
  · rw [List.append_nil]
    exact hentered.propose hnumber hproposes
  · exact (hentered.rotate hnumber hdue).propose hnumber hproposes

/-- The invariant holds at every point of a run. -/
theorem Run.invariant {genesis : Genesis config} {st : State config} {events : List Event}
    (h : Run genesis st events) : Invariant st events := by
  induction h with
  | start built => exact Invariant.start built
  | block block run increasing executed ih => exact ih.block increasing executed

/-- How far a block raises the epoch of the committee. -/
theorem Invariant.raises {st st' : State config} {events new : List Event}
    (h : Invariant st events) {block : Block config}
    (hslot : st.blockNumber ≠ 0 → st.currentSlot < block.slot)
    (hexecute : executeBlock st block = .ok (st', new)) (hnumber : st.blockNumber ≠ 0) :
    st'.committee.currentCommittee.epoch = st.committee.currentCommittee.epoch ∨
      st'.committee.currentCommittee.epoch.toNat =
        st.committee.currentCommittee.epoch.toNat + 1 := by
  have hcommittee : (entered st block.slot).committee = st.committee := if_neg hnumber
  obtain ⟨mid, committee, rfl, hproposes, hcase⟩ := executeBlock_cases hexecute
  show committee.currentCommittee.epoch = _ ∨ committee.currentCommittee.epoch.toNat = _
  rw [hproposes.currentCommittee]
  rcases hcase with ⟨-, rfl, rfl⟩ | ⟨next, hdue, rfl, rfl⟩
  · rw [hcommittee]
    exact Or.inl rfl
  · have hepoch := (h.enter hslot).toNat_epoch hdue
    rw [hcommittee] at hepoch
    exact Or.inr hepoch

/-- The first block does not rotate, it sets the epoch. -/
theorem Invariant.first {st st' : State config} {events new : List Event}
    (h : Invariant st events) {block : Block config}
    (hexecute : executeBlock st block = .ok (st', new)) (hnumber : st.blockNumber = 0) :
    currentEpochNumber st' = .ok st'.committee.currentCommittee.epoch := by
  obtain ⟨mid, committee, rfl, hproposes, hcase⟩ := executeBlock_cases hexecute
  rcases hcase with ⟨-, rfl, rfl⟩ | ⟨next, hdue, rfl, rfl⟩
  · rw [currentEpochNumber_eq]
    · show Except.ok _ = Except.ok committee.currentCommittee.epoch
      rw [hproposes.currentCommittee]
      simp [entered, hnumber]
    · exact h.slots
  · obtain ⟨hnext, -⟩ := due_eq_some hdue
    simp [entered, hnumber, h.unset hnumber] at hnext

/-- Along every run, no block ends a session without a next committee, and
after every block the committees, the session pallet and the stub are in
step. -/
theorem Run.afterBlock {genesis : Genesis config} {st : State config} {events : List Event}
    (h : Run genesis st events) (block : Block config)
    (hslot : st.blockNumber ≠ 0 → st.currentSlot < block.slot) :
    executeBlock st block ≠ .error (.panic .noNextCommittee) ∧
      ∀ st' new, executeBlock st block = .ok (st', new) → AfterBlock st st' (events ++ new) := by
  have hinv := h.invariant
  constructor
  · exact executeBlock_not_panic hinv.slots block _
  · intro st' new hexecute
    have hinv' := hinv.block hslot hexecute
    exact ⟨hinv'.next_epoch, ⟨_, currentEpochNumber_eq hinv'.slots, hinv'.epoch_le⟩,
      hinv.first hexecute, hinv.raises hslot hexecute, hinv'.validators, hinv'.index, hinv'.stub⟩

/-! ## A rotation

Epochs have five slots.  The first block is in epoch 2 and stores the committee
of epoch 3, the second block is the first one of epoch 3. -/

/-- Accounts are numbers, and the handlers and references do nothing. -/
def exampleConfig : Config Nat Unit Nat Unit Unit where
  maxValidators := 32
  into := fun id => id + 100
  sessionHandler := ⟨fun _ h => h, fun h => h, fun _ _ _ h => h⟩
  accountReferences := ⟨fun _ a => a, fun _ a => some a⟩
  polkadotJsCompat := true

/-- Some scripts, which no block changes. -/
def exampleScripts : MainChainScripts :=
  ⟨"registrations", FixedBytes.replicate 28 1, FixedBytes.replicate 28 2⟩

/-- Two members, and epochs of five slots. -/
def exampleGenesis : Genesis exampleConfig :=
  ⟨(), (), 5, ⟨[(1, ()), (2, ())], exampleScripts⟩, 0, []⟩

/-- A block of epoch 2 with the committee of epoch 3. -/
def firstBlock : Block exampleConfig :=
  ⟨11, [⟨.none, .set (BoundedVec.truncateFrom 32 [(3, ())]) 3⟩]⟩

/-- The first block of epoch 3, without extrinsics. -/
def secondBlock : Block exampleConfig := ⟨15, []⟩

/-- The state after the first block. -/
def firstState : State exampleConfig where
  blockNumber := 1
  accounts := ()
  currentSlot := 11
  handlerState := ()
  slotsPerEpoch := 5
  epochNumber := some 2
  committee :=
    { currentCommittee := ⟨2, BoundedVec.truncateFrom 32 [(1, ()), (2, ())]⟩
      nextCommittee := some ⟨3, BoundedVec.truncateFrom 32 [(3, ())]⟩
      mainChainScriptsConfiguration := exampleScripts }
  palletSessionIndex := 0
  session := ⟨[101, 102], [(101, ()), (102, ())], 0, []⟩

/-- The state before the first block. -/
def genesisState : State exampleConfig :=
  { firstState with
    blockNumber := 0
    currentSlot := 0
    epochNumber := none
    committee := exampleGenesis.committee.build 32 }

theorem firstState_run : Run exampleGenesis firstState [] :=
  Run.block firstBlock (Run.start rfl) (by decide) rfl

/-- A block of the example that rotates. -/
theorem afterBlock_rotation :
    ∃ st', executeBlock firstState secondBlock = .ok (st', [.newSession 1]) ∧
      AfterBlock firstState st' [.newSession 1] :=
  ⟨_, rfl, (Run.afterBlock firstState_run secondBlock (by decide)).2 _ _ rfl⟩

end PartnerChains.Ports.CommitteeRun
