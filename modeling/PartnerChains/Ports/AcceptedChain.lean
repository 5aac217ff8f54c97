import PartnerChains.Ports.CommitteeInherent

/-!
# Chains of accepted blocks

A node accepts a block if its `set` calls pass `check_inherent` and, where
`is_inherent_required` asks for one, there is a `set` call; both are evaluated
in the state of the parent.  The author is free in everything else: which
inherents to include, how many, and where.

`Import.Accepted.nextCommittee` says which next committee such a block leaves.
A block whose hooks rotate the committee is not required to bring the following
one (`Chain.always_nextCommittee_iff`).
-/

namespace PartnerChains.Ports.AcceptedChain

open PartnerChains.Ports.CommitteePallet
open PartnerChains.Ports.SessionPallet
open PartnerChains.Ports.CommitteeRun
open PartnerChains.Ports.CommitteeInherent

variable {Id Keys Account H A Inputs : Type} {config : Config Id Keys Account H A}

/-! ## Accepted blocks -/

/-- A block with the state it is executed in, the inherent data that the
importing node has for it, and the state after it. -/
structure Import (config : Config Id Keys Account H A) (Inputs : Type) where
  parent : State config
  block : Block config
  data : Option (Option Inputs)
  state : State config

/-- The extrinsics contain a `set` call. -/
def HasSet (extrinsics : List (Extrinsic config)) : Prop :=
  ∃ extrinsic ∈ extrinsics, isInherent extrinsic.call = true

/-- The hooks of the block rotate the committee. -/
def Import.Rotates (i : Import config Inputs) : Prop :=
  (due (entered i.parent i.block.slot)).isSome

instance (i : Import config Inputs) : Decidable i.Rotates :=
  inferInstanceAs (Decidable (_ = true))

section Accepted

variable [DecidableEq Id] [DecidableEq Keys] [DecidableEq Account]
  (selectAuthorities : Inputs → UInt64 → Option (BoundedVec (Id × Keys) config.maxValidators))

/-- The importing node has checked the inherents against its own data and has
executed the block. -/
structure Import.Accepted (i : Import config Inputs) : Prop where
  checked : ∀ extrinsic ∈ i.block.extrinsics, isInherent extrinsic.call = true →
    checkInherent selectAuthorities extrinsic.call i.data i.parent.committee = .ok (.ok ())
  required : (isInherentRequired i.parent.committee).isSome → HasSet i.block.extrinsics
  increasing : i.parent.blockNumber ≠ 0 → i.parent.currentSlot < i.block.slot
  executed : ∃ events, executeBlock i.parent i.block = .ok (i.state, events)

/-- From one state to another by accepted blocks, the newest one first. -/
inductive Path (st : State config) : List (Import config Inputs) → State config → Prop where
  | nil : Path st [] st
  | cons {imports : List (Import config Inputs)} (i : Import config Inputs)
      (path : Path st imports i.parent) (accepted : i.Accepted selectAuthorities) :
      Path st (i :: imports) i.state

/-- From genesis by accepted blocks. -/
def Chain (genesis : Genesis config) (imports : List (Import config Inputs))
    (st : State config) : Prop :=
  ∃ st₀, genesis.build = .ok st₀ ∧ Path selectAuthorities st₀ imports st

end Accepted

/-! ## What the extrinsics leave -/

private theorem applyExtrinsic_nextCommittee {st st' : State config} {extrinsic : Extrinsic config}
    (h : applyExtrinsic st extrinsic = .ok st') :
    isInherent extrinsic.call = false ∧
        st'.committee.nextCommittee = st.committee.nextCommittee ∨
      ∃ validators,
        extrinsic.call = .set validators (st.committee.currentCommittee.epoch + 1) ∧
        st'.committee.nextCommittee =
          some ⟨st.committee.currentCommittee.epoch + 1, validators⟩ := by
  unfold applyExtrinsic at h
  cases hcall : extrinsic.call with
  | set validators epoch =>
      cases hdispatch : dispatch extrinsic.origin extrinsic.call st.committee with
      | error e =>
          rw [hdispatch, hcall] at h
          cases h
      | ok committee =>
          rw [hdispatch] at h
          obtain rfl := Except.ok.inj h
          rw [hcall] at hdispatch
          obtain ⟨rfl, rfl⟩ := set_eq_ok hdispatch
          exact Or.inr ⟨validators, rfl, rfl⟩
  | setMainChainScripts address dParameter permissionedCandidates =>
      refine Or.inl ⟨rfl, ?_⟩
      cases hdispatch : dispatch extrinsic.origin extrinsic.call st.committee with
      | error e =>
          rw [hdispatch, hcall] at h
          obtain rfl := Except.ok.inj h
          rfl
      | ok committee =>
          rw [hdispatch] at h
          obtain rfl := Except.ok.inj h
          simp only [hcall, dispatch, setMainChainScripts] at hdispatch
          split at hdispatch
          · cases hdispatch
          · cases hdispatch
            rfl

/-- The last `set` call decides about the next committee; without one it is
left alone. -/
theorem applyExtrinsics_nextCommittee {st st' : State config}
    {extrinsics : List (Extrinsic config)} (h : applyExtrinsics st extrinsics = .ok st') :
    ¬ HasSet extrinsics ∧ st'.committee.nextCommittee = st.committee.nextCommittee ∨
      ∃ extrinsic ∈ extrinsics, ∃ validators,
        extrinsic.call = .set validators (st.committee.currentCommittee.epoch + 1) ∧
        st'.committee.nextCommittee =
          some ⟨st.committee.currentCommittee.epoch + 1, validators⟩ := by
  induction extrinsics generalizing st with
  | nil =>
      obtain rfl := Except.ok.inj h
      exact Or.inl ⟨by simp [HasSet], rfl⟩
  | cons extrinsic rest ih =>
      obtain ⟨mid, happly, h⟩ := applyExtrinsics_cons_eq_ok.mp h
      obtain ⟨committee, rfl, hproposes⟩ := applyExtrinsic_proposes happly
      have hcurrent := hproposes.currentCommittee
      rcases ih h with ⟨hnone, hsame⟩ | ⟨later, hmem, validators, hcall, hlast⟩
      · rcases applyExtrinsic_nextCommittee happly with ⟨hcall, hkept⟩ |
            ⟨validators, hcall, hstored⟩
        · refine Or.inl ⟨?_, hsame.trans hkept⟩
          rintro ⟨x, hx, hset⟩
          rcases List.mem_cons.mp hx with rfl | hx
          · rw [hcall] at hset
            cases hset
          · exact hnone ⟨x, hx, hset⟩
        · exact Or.inr ⟨extrinsic, List.mem_cons_self, validators, hcall,
            hsame.trans hstored⟩
      · simp only [hcurrent] at hcall hlast
        exact Or.inr ⟨later, List.mem_cons_of_mem _ hmem, validators, hcall, hlast⟩

/-! ## What an accepted block leaves -/

section Accepted

variable [DecidableEq Id] [DecidableEq Keys] [DecidableEq Account]
  {selectAuthorities : Inputs → UInt64 → Option (BoundedVec (Id × Keys) config.maxValidators)}

/-- The hooks of a block empty the place of the next committee if they rotate,
and the `set` calls of the block fill it. -/
theorem Import.Accepted.nextCommittee {i : Import config Inputs}
    (h : i.Accepted selectAuthorities) :
    (¬ HasSet i.block.extrinsics ∧
        (i.Rotates ∧ i.state.committee.nextCommittee = none ∨
          ¬ i.Rotates ∧
            i.state.committee.nextCommittee = i.parent.committee.nextCommittee)) ∨
      ∃ extrinsic ∈ i.block.extrinsics, ∃ validators,
        extrinsic.call = .set validators (i.state.committee.currentCommittee.epoch + 1) ∧
        i.state.committee.nextCommittee =
          some ⟨i.state.committee.currentCommittee.epoch + 1, validators⟩ := by
  obtain ⟨events, hexecute⟩ := h.executed
  obtain ⟨mid, hinit, happly⟩ := executeBlock_eq_ok hexecute
  obtain ⟨committee, hstate, hproposes⟩ := applyExtrinsics_proposes happly
  have hcurrent : i.state.committee.currentCommittee = mid.committee.currentCommittee := by
    rw [hstate]
    exact hproposes.currentCommittee
  rw [hcurrent]
  rcases applyExtrinsics_nextCommittee happly with ⟨hnone, hkept⟩ | hset
  · refine Or.inl ⟨hnone, ?_⟩
    rw [hkept]
    rcases initializeBlock_eq_ok hinit with ⟨hdue, rfl, -⟩ | ⟨next, hdue, rfl, -⟩
    · exact Or.inr ⟨by simp [Import.Rotates, hdue], entered_nextCommittee _ _⟩
    · exact Or.inl ⟨by simp [Import.Rotates, hdue], rfl⟩
  · exact Or.inr hset

/-- A next committee is required only of a block whose parent has none, so a
block that rotates may leave none. -/
theorem Import.Accepted.nextCommittee_isSome_iff {i : Import config Inputs}
    (h : i.Accepted selectAuthorities) :
    i.state.committee.nextCommittee.isSome ↔ (i.Rotates → HasSet i.block.extrinsics) := by
  rcases h.nextCommittee with ⟨hnone, ⟨hrotates, hempty⟩ | ⟨hrotates, hkept⟩⟩ |
      ⟨extrinsic, hmem, validators, hcall, hstored⟩
  · simp [hempty, hrotates, hnone]
  · have hparent : i.parent.committee.nextCommittee.isSome := by
      cases hnext : i.parent.committee.nextCommittee with
      | some next => rfl
      | none => exact absurd (h.required (by simp [isInherentRequired, hnext])) hnone
    simp [hkept, hparent, hrotates]
  · have hset : HasSet i.block.extrinsics := ⟨extrinsic, hmem, by rw [hcall]; rfl⟩
    simp [hstored, hset]

/-! ## Along a chain -/

/-- Accepted imports are blocks that execute, so a run goes on along them. -/
theorem Path.run {genesis : Genesis config} {st st' : State config} {events : List Event}
    {imports : List (Import config Inputs)} (hrun : Run genesis st events)
    (h : Path selectAuthorities st imports st') : ∃ events', Run genesis st' events' := by
  induction h with
  | nil => exact ⟨events, hrun⟩
  | cons i path accepted ih =>
      obtain ⟨before, hbefore⟩ := ih
      obtain ⟨new, hexecute⟩ := accepted.executed
      exact ⟨before ++ new, Run.block i.block hbefore accepted.increasing hexecute⟩

private theorem Path.accepted_of_mem {st st' : State config} {imports : List (Import config Inputs)}
    (h : Path selectAuthorities st imports st') {i : Import config Inputs} (hi : i ∈ imports) :
    i.Accepted selectAuthorities := by
  induction h with
  | nil => cases hi
  | cons j path accepted ih =>
      rcases List.mem_cons.mp hi with rfl | hi
      · exact accepted
      · exact ih hi

/-- Every accepted chain is a run of the pallets. -/
theorem Chain.run {genesis : Genesis config} {st : State config}
    {imports : List (Import config Inputs)}
    (h : Chain selectAuthorities genesis imports st) : ∃ events, Run genesis st events := by
  obtain ⟨st₀, hbuilt, hpath⟩ := h
  exact hpath.run (Run.start hbuilt)

/-- The blocks after which a next committee is stored are those that rotate
only with a `set` call. -/
theorem Chain.always_nextCommittee_iff {genesis : Genesis config} {st : State config}
    {imports : List (Import config Inputs)}
    (h : Chain selectAuthorities genesis imports st) :
    (∀ i ∈ imports, i.state.committee.nextCommittee.isSome) ↔
      ∀ i ∈ imports, i.Rotates → HasSet i.block.extrinsics := by
  obtain ⟨st₀, hbuilt, hpath⟩ := h
  have hblock : ∀ i ∈ imports, (i.state.committee.nextCommittee.isSome ↔
      (i.Rotates → HasSet i.block.extrinsics)) := by
    intro i hi
    exact (hpath.accepted_of_mem hi).nextCommittee_isSome_iff
  exact forall₂_congr hblock

end Accepted

/-! ## A rotation that brings no committee

The first block of `CommitteeRun`, and a block that is the first one of
epoch 3. -/

/-- The selection always gives the one member 3. -/
def selectThird : Unit → UInt64 → Option (BoundedVec (Nat × Unit) exampleConfig.maxValidators) :=
  fun _ _ => some (BoundedVec.truncateFrom 32 [(3, ())])

/-- The first block of `CommitteeRun`, on the genesis state. -/
def firstImport : Import exampleConfig Unit :=
  ⟨genesisState, firstBlock, some (some ()), firstState⟩

theorem firstImport_path : Path selectThird genesisState [firstImport] firstState := by
  apply Path.cons firstImport Path.nil
  refine ⟨?_, fun _ => ⟨_, List.mem_cons_self, rfl⟩, fun h => absurd rfl h, [], rfl⟩
  intro extrinsic hextrinsic _
  rw [List.mem_singleton.mp hextrinsic]
  rfl

/-- The committee of epoch 3 has taken office. -/
def rotatedState : State exampleConfig :=
  rotated (entered firstState 15) ⟨3, BoundedVec.truncateFrom 32 [(3, ())]⟩

/-- The first block of epoch 3, without an inherent. -/
def bareImport : Import exampleConfig Unit :=
  ⟨firstState, ⟨15, []⟩, some (some ()), rotatedState⟩

/-- The first block of epoch 3, with a committee that is stored right after the
rotation. -/
def setImport : Import exampleConfig Unit where
  parent := firstState
  block := ⟨15, [⟨.none, .set (BoundedVec.truncateFrom 32 [(3, ())]) 4⟩]⟩
  data := some (some ())
  state :=
    { rotatedState with
      committee :=
        { rotatedState.committee with
          nextCommittee := some ⟨4, BoundedVec.truncateFrom 32 [(3, ())]⟩ } }

/-- The parent has a next committee, so nothing is required of the block that
puts it in charge. -/
theorem bareImport_nextCommittee :
    Chain selectThird exampleGenesis [bareImport, firstImport] rotatedState ∧
      bareImport.state.committee.nextCommittee = none := by
  refine ⟨⟨genesisState, rfl, Path.cons bareImport firstImport_path ?_⟩, rfl⟩
  exact ⟨fun _ h => absurd h List.not_mem_nil, fun h => absurd h (by decide),
    fun _ => by decide, [.newSession 1], rfl⟩

/-- Every block of the example stores a committee, and the last one rotates. -/
theorem setImport_nextCommittee :
    setImport.Rotates ∧
      ∀ i ∈ [setImport, firstImport], i.state.committee.nextCommittee.isSome := by
  have hchain : Chain selectThird exampleGenesis [setImport, firstImport] setImport.state := by
    refine ⟨genesisState, rfl, Path.cons setImport firstImport_path ?_⟩
    refine ⟨?_, fun _ => ⟨_, List.mem_cons_self, rfl⟩, fun _ => by decide, [.newSession 1], rfl⟩
    intro extrinsic hextrinsic _
    rw [List.mem_singleton.mp hextrinsic]
    rfl
  refine ⟨rfl, hchain.always_nextCommittee_iff.mpr ?_⟩
  intro i hi _
  rcases List.mem_pair.mp hi with rfl | rfl
  · exact ⟨_, List.mem_cons_self, rfl⟩
  · exact ⟨_, List.mem_cons_self, rfl⟩

end PartnerChains.Ports.AcceptedChain
