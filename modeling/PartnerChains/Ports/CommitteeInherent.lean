import PartnerChains.Ports.CommitteeRun

/-!
# Authoring and checking the committee inherent

The author of a block creates its `set` call after the hooks of the block, in
the state `s'`; the nodes that import the block check the call in the state `s`
of the parent, before these hooks.  Without a selected committee both fall back
to a stored one: the author to the current committee of `s'`, the importing
node to the next committee of `s`, or to the current one if there is none.

`fallback_initializeBlock` says that these are the same committee whenever `s'`
has no next committee, and `checkInherent_iff_createInherent` that the check
then accepts exactly the call of the author.
-/

namespace PartnerChains.Ports.CommitteeInherent

open PartnerChains.Ports.CommitteePallet
open PartnerChains.Ports.SessionPallet
open PartnerChains.Ports.CommitteeRun

/-! ## The pallet -/

section Pallet

variable {Id Keys Inputs : Type} {maxValidators : Nat}
  (selectAuthorities : Inputs → UInt64 → Option (BoundedVec (Id × Keys) maxValidators))

/-- The committee that `check_inherent` expects if none can be selected. -/
def fallback (s : Storage Id Keys maxValidators) : BoundedVec (Id × Keys) maxValidators :=
  (s.nextCommittee.getD s.currentCommittee).committee

/-- Without a stored committee the next one is selected, and the current one stays
when the selection fails. -/
theorem createInherent_of_none {s : Storage Id Keys maxValidators}
    (hnext : s.nextCommittee = none) (inputs : Inputs) :
    createInherent selectAuthorities (some (some inputs)) s =
      .ok (some (.set
        ((selectAuthorities inputs (s.currentCommittee.epoch + 1)).getD
          s.currentCommittee.committee)
        (s.currentCommittee.epoch + 1))) := by
  simp only [createInherent, hnext, Option.isSome_none, Bool.false_eq_true, if_false,
    calculateCommitteeFromInherentData, inherentDataToAuthoritySelectionInputs, bind, Except.bind]
  cases selectAuthorities inputs (s.currentCommittee.epoch + 1) with
  | some validators => rfl
  | none => rfl

/-- Without inputs, and with a committee to select, creating the inherent
panics. -/
theorem inputs_of_createInherent {s : Storage Id Keys maxValidators}
    (hnext : s.nextCommittee = none) {data : Option (Option Inputs)}
    {call : Option (Call Id Keys maxValidators)}
    (h : createInherent selectAuthorities data s = .ok call) :
    ∃ inputs, data = some (some inputs) := by
  rcases data with _ | _ | inputs
  · simp [createInherent, hnext, calculateCommitteeFromInherentData,
      inherentDataToAuthoritySelectionInputs, bind, Except.bind] at h
  · simp [createInherent, hnext, calculateCommitteeFromInherentData,
      inherentDataToAuthoritySelectionInputs, bind, Except.bind] at h
  · exact ⟨inputs, rfl⟩

/-- A call passes exactly if it sets what the selection gives. -/
theorem checkInherent_set_iff [DecidableEq Id] [DecidableEq Keys]
    {s : Storage Id Keys maxValidators} {inputs : Inputs}
    {validators : BoundedVec (Id × Keys) maxValidators} {epoch : UInt64} :
    checkInherent selectAuthorities (.set validators epoch) (some (some inputs)) s =
        .ok (.ok ()) ↔
      validators = (selectAuthorities inputs epoch).getD (fallback s) := by
  simp only [checkInherent, calculateCommitteeFromInherentData,
    inherentDataToAuthoritySelectionInputs, bind, Except.bind, fallback]
  by_cases heq : validators = (selectAuthorities inputs epoch).getD
      (s.nextCommittee.getD s.currentCommittee).committee
  · simp [heq]
  · simp [heq]

private theorem dispatch_set {s : Storage Id Keys maxValidators}
    (validators : BoundedVec (Id × Keys) maxValidators) :
    dispatch .none (.set validators (s.currentCommittee.epoch + 1)) s =
      .ok { s with nextCommittee := some ⟨s.currentCommittee.epoch + 1, validators⟩ } := by
  simp [dispatch, CommitteePallet.set]

end Pallet

/-! ## The hooks between the two states -/

variable {Id Keys Account H A : Type} {config : Config Id Keys Account H A}

theorem entered_nextCommittee (st : State config) (slot : UInt64) :
    (entered st slot).committee.nextCommittee = st.committee.nextCommittee := by
  by_cases hfirst : st.blockNumber = 0
  · simp [entered, hfirst]
  · simp [entered, hfirst]

/-- The first block changes the epoch of the current committee only. -/
theorem entered_committee (st : State config) (slot : UInt64) :
    (entered st slot).committee.currentCommittee.committee =
      st.committee.currentCommittee.committee := by
  by_cases hfirst : st.blockNumber = 0
  · simp [entered, hfirst]
  · simp [entered, hfirst]

variable [DecidableEq Account]

/-- If the hooks leave no next committee, the committee in charge after them is
the one that the check falls back to before them. -/
theorem fallback_initializeBlock {st st' : State config} {slot : UInt64} {events : List Event}
    (hinit : initializeBlock st slot = .ok (st', events))
    (hnext : st'.committee.nextCommittee = none) :
    fallback st.committee = st'.committee.currentCommittee.committee := by
  rcases initializeBlock_eq_ok hinit with ⟨-, rfl, -⟩ | ⟨next, hdue, rfl, -⟩
  -- no rotation: there was no next committee before the hooks either
  · rw [entered_nextCommittee] at hnext
    rw [fallback, hnext, entered_committee]
    rfl
  -- a rotation: the next committee has become the current one
  · obtain ⟨hsome, -⟩ := due_eq_some hdue
    rw [entered_nextCommittee] at hsome
    rw [fallback, hsome]
    rfl

/-- The author's call is dispatched and stores the next committee, and among
the calls for the epoch that is due the check on the parent accepts this one
only. -/
theorem checkInherent_iff_createInherent [DecidableEq Id] [DecidableEq Keys] {Inputs : Type}
    (selectAuthorities : Inputs → UInt64 → Option (BoundedVec (Id × Keys) config.maxValidators))
    {st st' : State config} {slot : UInt64} {events : List Event}
    (hinit : initializeBlock st slot = .ok (st', events))
    (hnext : st'.committee.nextCommittee = none) (inputs : Inputs) :
    (∃ validators epoch,
      createInherent selectAuthorities (some (some inputs)) st'.committee =
          .ok (some (.set validators epoch)) ∧
        dispatch .none (.set validators epoch) st'.committee =
          .ok { st'.committee with nextCommittee := some ⟨epoch, validators⟩ }) ∧
      ∀ validators epoch stored,
        dispatch .none (.set validators epoch) st'.committee = .ok stored →
        (checkInherent selectAuthorities (.set validators epoch) (some (some inputs))
            st.committee = .ok (.ok ()) ↔
          createInherent selectAuthorities (some (some inputs)) st'.committee =
            .ok (some (.set validators epoch))) := by
  have hcreate := createInherent_of_none selectAuthorities hnext inputs
  constructor
  · exact ⟨_, _, hcreate, dispatch_set _⟩
  · intro validators epoch stored hdispatch
    obtain ⟨rfl, -⟩ := set_eq_ok hdispatch
    rw [checkInherent_set_iff, hcreate, fallback_initializeBlock hinit hnext]
    simp only [Except.ok.injEq, Option.some.injEq, Call.set.injEq, and_true]
    exact eq_comm

/-! ## A rotation without a selected committee -/

/-- A selection that never succeeds. -/
def selectNothing : Unit → UInt64 → Option (BoundedVec (Nat × Unit) exampleConfig.maxValidators) :=
  fun _ _ => none

/-- The block keeps the committee that takes office with it. -/
theorem checkInherent_iff_createInherent_rotation :
    ∃ st' events, initializeBlock firstState 15 = .ok (st', events) ∧
      ∀ validators epoch stored,
        dispatch .none (.set validators epoch) st'.committee = .ok stored →
        (checkInherent selectNothing (.set validators epoch) (some (some ()))
            firstState.committee = .ok (.ok ()) ↔
          createInherent selectNothing (some (some ())) st'.committee =
            .ok (some (.set validators epoch))) := by
  have hinit : initializeBlock firstState 15 =
      .ok (rotated (entered firstState 15) ⟨3, BoundedVec.truncateFrom 32 [(3, ())]⟩,
        [.newSession 1]) := rfl
  exact ⟨_, _, hinit, (checkInherent_iff_createInherent selectNothing hinit rfl ()).2⟩

end PartnerChains.Ports.CommitteeInherent
