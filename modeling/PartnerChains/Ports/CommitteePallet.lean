import PartnerChains.Ports.Domain

/-!
# The committee pallet

The port of `pallet-session-validator-management`.  The pallet stores the
current committee with the epoch it serves in and, once it is known, the
committee of the following epoch.  Committees are proposed as an inherent of
the block, computed from the main chain by `select_authorities`.

Identifiers and keys of authorities, the inputs of the selection and the
selection itself are parameters.  The `u64` epoch numbers wrap, as in a release
build of the runtime.
-/

namespace PartnerChains.Ports.CommitteePallet

open PartnerChains.Ports.Domain

/-- `BoundedVec<T, S>`. -/
@[ext]
structure BoundedVec (α : Type) (bound : Nat) where
  items : List α
  length_le : items.length ≤ bound
deriving DecidableEq

/-- `BoundedVec::truncate_from`: what exceeds the bound is dropped. -/
def BoundedVec.truncateFrom {α : Type} (bound : Nat) (items : List α) : BoundedVec α bound :=
  ⟨items.take bound, List.length_take_le bound items⟩

/-- Where the main chain has the data for the committee selection. -/
structure MainChainScripts where
  committeeCandidateAddress : MainchainAddress
  dParameterPolicyId : PolicyId
  permissionedCandidatesPolicyId : PolicyId
deriving DecidableEq

/-- A committee and the epoch it is for. -/
structure CommitteeInfo (Id Keys : Type) (maxValidators : Nat) where
  epoch : UInt64
  committee : BoundedVec (Id × Keys) maxValidators
deriving DecidableEq

/-- The storage of the pallet. -/
structure Storage (Id Keys : Type) (maxValidators : Nat) where
  currentCommittee : CommitteeInfo Id Keys maxValidators
  nextCommittee : Option (CommitteeInfo Id Keys maxValidators)
  mainChainScriptsConfiguration : MainChainScripts

/-- The genesis of the pallet. -/
structure GenesisConfig (Id Keys : Type) where
  initialAuthorities : List (Id × Keys)
  mainChainScripts : MainChainScripts

/-- The calls of the pallet: the inherent, and the one that only root may make. -/
inductive Call (Id Keys : Type) (maxValidators : Nat) where
  | set (validators : BoundedVec (Id × Keys) maxValidators) (forEpochNumber : UInt64)
  | setMainChainScripts (committeeCandidateAddress : MainchainAddress)
      (dParameterPolicyId permissionedCandidatesPolicyId : PolicyId)

/-- Inherents have no origin. -/
inductive Origin where
  | none
  | signed
  | root
deriving DecidableEq

/-- How a call of the pallet fails. -/
inductive DispatchError where
  | badOrigin
  | invalidEpoch
deriving DecidableEq

/-- A mandatory extrinsic that fails makes the block invalid. -/
inductive DispatchClass where
  | normal
  | mandatory
deriving DecidableEq

/-- Why the inherent of a block is refused. -/
inductive InherentError where
  | invalidValidators
  | committeeNeedsToBeStoredOneEpochInAdvance
deriving DecidableEq

variable {Id Keys : Type} {maxValidators : Nat}

/-- The weight attributes of the calls. -/
def Call.dispatchClass : Call Id Keys maxValidators → DispatchClass
  | .set .. => .mandatory
  | .setMainChainScripts .. => .normal

/-- The genesis committee is that of epoch 0, and none is chosen for epoch 1. -/
def GenesisConfig.build (maxValidators : Nat) (config : GenesisConfig Id Keys) :
    Storage Id Keys maxValidators where
  currentCommittee :=
    { epoch := 0, committee := BoundedVec.truncateFrom maxValidators config.initialAuthorities }
  nextCommittee := none
  mainChainScriptsConfiguration := config.mainChainScripts

/-! ## Hooks and calls -/

/-- The first block makes the genesis committee that of its own epoch.  Asking
for the epoch can panic. -/
def onInitialize {P : Type} (currentEpochNumber : Except P UInt64) (blockNr : Nat)
    (s : Storage Id Keys maxValidators) : Except P (Storage Id Keys maxValidators) :=
  if blockNr = 1 then do
    let epoch ← currentEpochNumber
    .ok { s with currentCommittee := { s.currentCommittee with epoch := epoch } }
  else .ok s

/-- `set`: the next committee is stored, for the epoch after the one of the
current committee. -/
def set (origin : Origin) (validators : BoundedVec (Id × Keys) maxValidators)
    (forEpochNumber : UInt64) (s : Storage Id Keys maxValidators) :
    Except DispatchError (Storage Id Keys maxValidators) :=
  if origin ≠ .none then .error .badOrigin
  else
    let expectedEpochNumber := s.currentCommittee.epoch + 1
    if forEpochNumber = expectedEpochNumber then
      .ok { s with nextCommittee := some { epoch := forEpochNumber, committee := validators } }
    else .error .invalidEpoch

/-- `set_main_chain_scripts`: for root only, and at any time. -/
def setMainChainScripts (origin : Origin) (committeeCandidateAddress : MainchainAddress)
    (dParameterPolicyId permissionedCandidatesPolicyId : PolicyId)
    (s : Storage Id Keys maxValidators) :
    Except DispatchError (Storage Id Keys maxValidators) :=
  if origin ≠ .root then .error .badOrigin
  else
    .ok { s with
      mainChainScriptsConfiguration :=
        ⟨committeeCandidateAddress, dParameterPolicyId, permissionedCandidatesPolicyId⟩ }

/-- A call reaches its function. -/
def dispatch (origin : Origin) (call : Call Id Keys maxValidators)
    (s : Storage Id Keys maxValidators) :
    Except DispatchError (Storage Id Keys maxValidators) :=
  match call with
  | .set validators forEpochNumber => set origin validators forEpochNumber s
  | .setMainChainScripts address dParameter permissionedCandidates =>
      setMainChainScripts origin address dParameter permissionedCandidates s

/-! ## Queries and rotation -/

/-- `get_next_unset_epoch_number`: the first epoch without a committee. -/
def getNextUnsetEpochNumber (s : Storage Id Keys maxValidators) : UInt64 :=
  match s.nextCommittee with
  | some nextCommittee => nextCommittee.epoch + 1
  | none => s.currentCommittee.epoch + 1

/-- `next_committee`: the accounts of the next committee. -/
def nextCommittee (s : Storage Id Keys maxValidators) : Option (BoundedVec Id maxValidators) :=
  s.nextCommittee.map fun info =>
    BoundedVec.truncateFrom maxValidators (info.committee.items.map Prod.fst)

/-- `into` is the conversion of authority identifiers to accounts. -/
def rotateCommitteeToNextEpoch {Account : Type} (into : Id → Account)
    (s : Storage Id Keys maxValidators) :
    Option (List (Account × Keys) × Storage Id Keys maxValidators) :=
  s.nextCommittee.map fun nextCommittee =>
    (nextCommittee.committee.items.map fun (pubKey, keys) => (into pubKey, keys),
      { s with currentCommittee := nextCommittee, nextCommittee := none })

/-! ## The inherent -/

section Inherent

variable {Inputs : Type}
  (selectAuthorities : Inputs → UInt64 → Option (BoundedVec (Id × Keys) maxValidators))

/-- `data` is the entry of the inherent data, `none` if it does not decode.
Errors are panics. -/
def inherentDataToAuthoritySelectionInputs (data : Option (Option Inputs)) :
    Except String Inputs :=
  match data with
  | none => .error "Validator inherent data not correctly encoded"
  | some none => .error "Validator inherent data must be provided"
  | some (some inputs) => .ok inputs

/-- The selection is run on what the inherent data has. -/
def calculateCommitteeFromInherentData (data : Option (Option Inputs)) (epochNumber : UInt64) :
    Except String (Option (BoundedVec (Id × Keys) maxValidators)) := do
  let authoritySelectionInputs ← inherentDataToAuthoritySelectionInputs data
  .ok (selectAuthorities authoritySelectionInputs epochNumber)

/-- `create_inherent`: nothing if a committee is stored already; the current
committee if none can be selected. -/
def createInherent (data : Option (Option Inputs)) (s : Storage Id Keys maxValidators) :
    Except String (Option (Call Id Keys maxValidators)) :=
  if s.nextCommittee.isSome then .ok none
  else do
    let forEpochNumber := s.currentCommittee.epoch + 1
    match ← calculateCommitteeFromInherentData selectAuthorities data forEpochNumber with
    | some validators => .ok (some (.set validators forEpochNumber))
    | none => .ok (some (.set s.currentCommittee.committee forEpochNumber))

/-- Without a new committee the block has to keep the one that is in force
when it is executed: the next committee, or the genesis committee in the first
block. -/
def checkInherent [DecidableEq Id] [DecidableEq Keys] (call : Call Id Keys maxValidators)
    (data : Option (Option Inputs)) (s : Storage Id Keys maxValidators) :
    Except String (Except InherentError Unit) :=
  match call with
  | .set validatorsParam forEpochNumberParam => do
      let calculated ←
        calculateCommitteeFromInherentData selectAuthorities data forEpochNumberParam
      let validators := calculated.getD (s.nextCommittee.getD s.currentCommittee).committee
      if validatorsParam ≠ validators then .ok (.error .invalidValidators) else .ok (.ok ())
  | _ => .ok (.ok ())

/-- `is_inherent`. -/
def isInherent : Call Id Keys maxValidators → Bool
  | .set .. => true
  | .setMainChainScripts .. => false

/-- `is_inherent_required`: as long as no next committee is stored. -/
def isInherentRequired (s : Storage Id Keys maxValidators) : Option InherentError :=
  if s.nextCommittee.isNone then some .committeeNeedsToBeStoredOneEpochInAdvance else none

/-! ## What the calls do -/

/-- `set` stores the committee for the following epoch and nothing else. -/
theorem set_eq_ok {origin : Origin} {validators : BoundedVec (Id × Keys) maxValidators}
    {forEpochNumber : UInt64} {s s' : Storage Id Keys maxValidators}
    (h : set origin validators forEpochNumber s = .ok s') :
    forEpochNumber = s.currentCommittee.epoch + 1 ∧
      s' = { s with nextCommittee := some ⟨forEpochNumber, validators⟩ } := by
  unfold set at h
  split at h
  · cases h
  · by_cases hepoch : forEpochNumber = s.currentCommittee.epoch + 1
    · simp only [hepoch, if_true, Except.ok.injEq] at h
      exact ⟨hepoch, by rw [← h, hepoch]⟩
    · simp [hepoch] at h

/-- The current committee is the same, and the next committee is the same or
that of the following epoch. -/
structure Proposes (s s' : Storage Id Keys maxValidators) : Prop where
  currentCommittee : s'.currentCommittee = s.currentCommittee
  nextCommittee : s'.nextCommittee = s.nextCommittee ∨
    ∃ next, s'.nextCommittee = some next ∧ next.epoch = s.currentCommittee.epoch + 1

theorem Proposes.refl (s : Storage Id Keys maxValidators) : Proposes s s :=
  ⟨rfl, Or.inl rfl⟩

theorem Proposes.trans {s s' s'' : Storage Id Keys maxValidators} (h : Proposes s s')
    (h' : Proposes s' s'') : Proposes s s'' := by
  refine ⟨h'.currentCommittee.trans h.currentCommittee, ?_⟩
  rcases h'.nextCommittee with hnext | ⟨next, hnext, hepoch⟩
  · rw [hnext]
    exact h.nextCommittee
  · exact Or.inr ⟨next, hnext, by rw [hepoch, h.currentCommittee]⟩

/-- No call changes the current committee. -/
theorem dispatch_proposes {origin : Origin} {call : Call Id Keys maxValidators}
    {s s' : Storage Id Keys maxValidators} (h : dispatch origin call s = .ok s') :
    Proposes s s' := by
  cases call with
  | set validators forEpochNumber =>
      obtain ⟨hepoch, rfl⟩ := set_eq_ok h
      exact ⟨rfl, Or.inr ⟨_, rfl, hepoch⟩⟩
  | setMainChainScripts address dParameter permissionedCandidates =>
      simp only [dispatch, setMainChainScripts] at h
      split at h
      · cases h
      · cases h
        exact ⟨rfl, Or.inl rfl⟩

/-- The call that the block author creates is accepted, and there is a next
committee then. -/
theorem createInherent_dispatches {data : Option (Option Inputs)}
    {s : Storage Id Keys maxValidators} {call : Call Id Keys maxValidators}
    (h : createInherent selectAuthorities data s = .ok (some call)) :
    ∃ s', dispatch .none call s = .ok s' ∧ isInherentRequired s' = none := by
  have hset : ∀ validators, ∃ s', dispatch .none
      (.set validators (s.currentCommittee.epoch + 1)) s = .ok s' ∧
      isInherentRequired s' = none := by
    intro validators
    exact ⟨{ s with nextCommittee := some ⟨s.currentCommittee.epoch + 1, validators⟩ },
      by simp [dispatch, set], rfl⟩
  unfold createInherent at h
  split at h
  · cases h
  · cases hdata : calculateCommitteeFromInherentData selectAuthorities data
        (s.currentCommittee.epoch + 1) with
    | error message => simp [hdata, bind, Except.bind] at h
    | ok validators =>
        cases validators with
        | some validators =>
            simp only [hdata, bind, Except.bind, Except.ok.injEq, Option.some.injEq] at h
            exact h ▸ hset validators
        | none =>
            simp only [hdata, bind, Except.bind, Except.ok.injEq, Option.some.injEq] at h
            exact h ▸ hset s.currentCommittee.committee

end Inherent

end PartnerChains.Ports.CommitteePallet
