import PartnerChains.Ports.CommitteePallet

/-!
# The session pallet and the blocks of the runtime

The port of `pallet-partner-chains-session` with
`ValidatorManagementSessionManager` as its session manager, and the execution
of blocks in the pallet order of the runtime.  At the beginning of a block the
session ends if the epoch of the slot is past that of the committee and the
next committee is known; the committee pallet then rotates, and the session
pallet takes the new committee over.

The stub of `pallet_session` is there for its session index only, which the
session manager writes and Grandpa reads.

The session handlers of Aura and Grandpa and the account references of the
system pallet are parameters, over a state of their own.
-/

namespace PartnerChains.Ports.SessionPallet

open PartnerChains.Ports.Domain
open PartnerChains.Ports.CommitteePallet

/-! ## The runtime -/

/-- What Aura and Grandpa do when sessions change. -/
structure SessionHandler (H Account Keys : Type) where
  onGenesisSession : List (Account × Keys) → H → H
  onBeforeSessionEnding : H → H
  /-- Gets the session index of `pallet_session` to read, too. -/
  onNewSession : UInt32 → Bool → List (Account × Keys) → H → H

/-- `inc_providers` and `dec_providers` of the system pallet. -/
structure AccountReferences (A Account : Type) where
  incProviders : Account → A → A
  decProviders : Account → A → Option A

/-- The types and traits that the runtime is configured with. -/
structure Config (Id Keys Account H A : Type) where
  maxValidators : Nat
  into : Id → Account
  sessionHandler : SessionHandler H Account Keys
  accountReferences : AccountReferences A Account
  /-- The feature `polkadot-js-compat`. -/
  polkadotJsCompat : Bool

/-- The storage of the session pallet. -/
structure SessionStorage (Account Keys : Type) where
  validators : List Account
  validatorsAndKeys : List (Account × Keys)
  currentIndex : UInt32
  disabledValidators : List UInt32

variable {Id Keys Account H A : Type}

/-- The storage of the runtime, pallet by pallet. -/
structure State (config : Config Id Keys Account H A) where
  /-- System. -/
  blockNumber : Nat
  accounts : A
  /-- Aura. -/
  currentSlot : UInt64
  /-- Aura and Grandpa, as far as sessions go. -/
  handlerState : H
  /-- Sidechain. -/
  slotsPerEpoch : UInt32
  epochNumber : Option UInt64
  /-- SessionCommitteeManagement. -/
  committee : Storage Id Keys config.maxValidators
  /-- PalletSession. -/
  palletSessionIndex : UInt32
  /-- Session. -/
  session : SessionStorage Account Keys

/-- The `expect`s and divisions that a block can run into. -/
inductive Panic where
  /-- `attempt to divide by zero`. -/
  | divideByZero
  /-- `Session should never end without current epoch validators defined`. -/
  | noNextCommittee
  /-- `We always match dec_providers with corresponding inc_providers`. -/
  | decProviders
deriving DecidableEq

/-- The events of the session pallet. -/
inductive Event where
  | newSession (sessionIndex : UInt32)
deriving DecidableEq

variable {config : Config Id Keys Account H A}

/-- `current_epoch_number` of the sidechain pallet. -/
def currentEpochNumber (st : State config) : Except Panic UInt64 :=
  match Domain.epochNumber st.currentSlot st.slotsPerEpoch with
  | some epoch => .ok epoch
  | none => .error .divideByZero

/-! ## The session manager -/

/-- `new_session_genesis`: the genesis committee, as accounts. -/
def newSessionGenesis (st : State config) : Option (List (Account × Keys)) :=
  some (st.committee.currentCommittee.committee.items.map fun (id, keys) => (config.into id, keys))

/-- `new_session`: the session manager rotates the committee, and `pallet_session`
gets the index. -/
def newSession (newIndex : UInt32) (st : State config) :
    Except Panic (Option (List (Account × Keys)) × State config) :=
  let st := { st with palletSessionIndex := newIndex }
  match rotateCommitteeToNextEpoch config.into st.committee with
  | some (validators, committee) => .ok (some validators, { st with committee := committee })
  | none => .error .noNextCommittee

/-- Logs the epoch. -/
def startSession (st : State config) : Except Panic Unit := do
  let _ ← currentEpochNumber st
  .ok ()

/-- `should_end_session`: the epoch of the current committee is over, and there is
a next one. -/
def shouldEndSession (st : State config) : Except Panic Bool := do
  let currentEpochNumber ← currentEpochNumber st
  .ok (decide (st.committee.currentCommittee.epoch < currentEpochNumber) &&
    (nextCommittee st.committee).isSome)

/-! ## The session pallet -/

section Pallet

variable [DecidableEq Account]

/-- `none` is the panic of `expect`. -/
def changeAccountProviders (references : AccountReferences A Account) (newIds oldIds : List Account)
    (accounts : A) : Option A :=
  let toInc := newIds.dedup.filter fun account => decide (account ∉ oldIds)
  let toDec := oldIds.dedup.filter fun account => decide (account ∉ newIds)
  toDec.foldlM (fun accounts account => references.decProviders account accounts)
    (toInc.foldl (fun accounts account => references.incProviders account accounts) accounts)

/-- The references are changed after the validators have been replaced. -/
def rotateValidators (newValidators : List (Account × Keys)) (st : State config) :
    Except Panic (State config) :=
  let session := { st.session with validatorsAndKeys := newValidators }
  let session :=
    if config.polkadotJsCompat then { session with validators := newValidators.map Prod.fst }
    else session
  match changeAccountProviders config.accountReferences (newValidators.map Prod.fst)
      (session.validatorsAndKeys.map Prod.fst) st.accounts with
  | some accounts =>
      .ok { st with session := { session with disabledValidators := [] }, accounts := accounts }
  | none => .error .decProviders

/-- `rotate_session`: the validators are replaced and the new session starts. -/
def rotateSession (st : State config) : Except Panic (State config × List Event) := do
  let sessionIndex := st.session.currentIndex
  let st := { st with handlerState := config.sessionHandler.onBeforeSessionEnding st.handlerState }
  let sessionIndex := sessionIndex + 1
  let st := { st with session := { st.session with currentIndex := sessionIndex } }
  let (newValidators, st) ← newSession sessionIndex st
  let (validators, changed, st) ← match newValidators with
    | some validators => do
        let st ← rotateValidators validators st
        .ok (validators, true, st)
    | none => .ok (st.session.validatorsAndKeys, false, st)
  startSession st
  .ok ({ st with
      handlerState := config.sessionHandler.onNewSession st.palletSessionIndex changed validators
        st.handlerState }, [.newSession sessionIndex])

/-- `on_initialize` of the session pallet. -/
def onInitializeSession (st : State config) : Except Panic (State config × List Event) := do
  if ← shouldEndSession st then rotateSession st else .ok (st, [])

/-! ## Genesis -/

/-- `palletSessionIndex` is what the genesis of `pallet_session` leaves. -/
structure Genesis (config : Config Id Keys Account H A) where
  accounts : A
  handlerState : H
  slotsPerEpoch : UInt32
  committee : GenesisConfig Id Keys
  palletSessionIndex : UInt32
  initialValidators : List (Account × Keys)

/-- The genesis state, with the first session started. -/
def Genesis.build (genesis : Genesis config) : Except Panic (State config) := do
  let st : State config :=
    { blockNumber := 0
      accounts := genesis.accounts
      currentSlot := 0
      handlerState := genesis.handlerState
      slotsPerEpoch := genesis.slotsPerEpoch
      epochNumber := none
      committee := genesis.committee.build config.maxValidators
      palletSessionIndex := genesis.palletSessionIndex
      session :=
        { validators := [], validatorsAndKeys := [], currentIndex := 0,
          disabledValidators := [] } }
  let initialValidators := (newSessionGenesis st).getD genesis.initialValidators
  let st ← rotateValidators initialValidators st
  let st :=
    { st with
      handlerState := config.sessionHandler.onGenesisSession initialValidators st.handlerState }
  startSession st
  .ok st

/-! ## Blocks -/

/-- Why a block cannot be executed. -/
inductive BlockError where
  | panic (panic : Panic)
  | badMandatory (error : DispatchError)
deriving DecidableEq

/-- An extrinsic with the origin its call is dispatched with.  Calls of other
pallets do not touch the storage modelled here. -/
structure Extrinsic (config : Config Id Keys Account H A) where
  origin : Origin
  call : Call Id Keys config.maxValidators

/-- A block as far as committees are concerned. -/
structure Block (config : Config Id Keys Account H A) where
  slot : UInt64
  extrinsics : List (Extrinsic config)

/-- `on_initialize` of the sidechain pallet. -/
def onInitializeSidechain (st : State config) : Except Panic (State config) := do
  let realEpoch ← currentEpochNumber st
  match st.epochNumber with
  | some savedEpoch =>
      if savedEpoch ≠ realEpoch then .ok { st with epochNumber := some realEpoch } else .ok st
  | none => .ok { st with epochNumber := some realEpoch }

/-- `on_initialize` of the committee pallet. -/
def onInitializeCommittee (st : State config) : Except Panic (State config) := do
  let committee ← onInitialize (currentEpochNumber st) st.blockNumber st.committee
  .ok { st with committee := committee }

/-- Aura sets the slot; then the hooks run in the order of the pallets. -/
def initializeBlock (st : State config) (slot : UInt64) :
    Except Panic (State config × List Event) := do
  let st := { st with blockNumber := st.blockNumber + 1, currentSlot := slot }
  let st ← onInitializeSidechain st
  let st ← onInitializeCommittee st
  onInitializeSession st

/-- An extrinsic that fails changes nothing, unless it is mandatory: then there is
no block. -/
def applyExtrinsic (st : State config) (extrinsic : Extrinsic config) :
    Except BlockError (State config) :=
  match dispatch extrinsic.origin extrinsic.call st.committee with
  | .ok committee => .ok { st with committee := committee }
  | .error error =>
      match extrinsic.call.dispatchClass with
      | .mandatory => .error (.badMandatory error)
      | .normal => .ok st

/-- The extrinsics of a block in their order. -/
def applyExtrinsics (st : State config) : List (Extrinsic config) →
    Except BlockError (State config)
  | [] => .ok st
  | extrinsic :: rest => do
      let st ← applyExtrinsic st extrinsic
      applyExtrinsics st rest

/-- The pallets are initialized, then the extrinsics are applied. -/
def executeBlock (st : State config) (block : Block config) :
    Except BlockError (State config × List Event) := do
  let (st, events) ← (initializeBlock st block.slot).mapError .panic
  let st ← applyExtrinsics st block.extrinsics
  .ok (st, events)

end Pallet

end PartnerChains.Ports.SessionPallet
