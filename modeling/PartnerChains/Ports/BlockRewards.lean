import Mathlib.Data.UInt
import PartnerChains.Ports.CommitteeRun
import PartnerChains.Verified.Fallible
import PartnerChains.Verified.Tally

/-!
# Block rewards

The port of `pallet-block-rewards`, and of the hook `on_new_epoch` by which the
runtime hands the rewards out.  Every block sets its beneficiary by an inherent
and credits it at its end.  When the sidechain pallet finds at the beginning of
a block that the epoch has changed, the pending rewards are drained.

`Run.rewards_conserved` says what is handed out along a run: at each change of the epoch,
a tally of the beneficiaries of the blocks of the epoch that has ended.
-/

namespace PartnerChains.Ports.BlockRewards

open PartnerChains.Ports.CommitteePallet (Origin)
open PartnerChains.Ports.CommitteeRun
open PartnerChains.Verified.Fallible
open PartnerChains.Verified.Tally

/-! ## The pallet -/

/-- The storage of the pallet. -/
structure Storage (BeneficiaryId BlockRewardPoints : Type) where
  currentBlockBeneficiary : Option BeneficiaryId
  pendingRewards : AList fun _ : BeneficiaryId => BlockRewardPoints

/-- `on_finalize` needs a beneficiary. -/
inductive Panic where
  /-- `Block beneficiary is set before on_finalize; qed`. -/
  | noBeneficiary
deriving DecidableEq

section Pallet

variable {BeneficiaryId BlockRewardPoints : Type}

/-- `set_current_block_beneficiary`: an inherent, and the last one of a block
counts. -/
def setCurrentBlockBeneficiary (origin : Origin) (beneficiary : BeneficiaryId)
    (s : Storage BeneficiaryId BlockRewardPoints) :
    Except CommitteePallet.DispatchError (Storage BeneficiaryId BlockRewardPoints) :=
  match origin with
  | .none => .ok { s with currentBlockBeneficiary := some beneficiary }
  | _ => .error .badOrigin

/-- `on_finalize`: the beneficiary gets the reward of the block. -/
def onFinalize [DecidableEq BeneficiaryId] [Add BlockRewardPoints]
    (getBlockReward : BlockRewardPoints) (s : Storage BeneficiaryId BlockRewardPoints) :
    Except Panic (Storage BeneficiaryId BlockRewardPoints) :=
  match s.currentBlockBeneficiary with
  | none => .error .noBeneficiary
  | some beneficiary => .ok
      { currentBlockBeneficiary := none
        pendingRewards := s.pendingRewards.insert beneficiary
          (match s.pendingRewards.lookup beneficiary with
          | none => getBlockReward
          | some oldReward => oldReward + getBlockReward) }

/-- The map is drained in the order of the hashed keys. -/
def getRewardsAndClear (hashedLe : BeneficiaryId → BeneficiaryId → Bool)
    (s : Storage BeneficiaryId BlockRewardPoints) :
    List (BeneficiaryId × BlockRewardPoints) × Storage BeneficiaryId BlockRewardPoints :=
  ((s.pendingRewards.entries.map fun entry => (entry.1, entry.2)).insertionSort
      fun x y => hashedLe x.1 y.1 = true,
    { s with pendingRewards := ∅ })

/-- The strategy `SimpleBlockCount`. -/
def simpleBlockCount [One BlockRewardPoints] : BlockRewardPoints := 1

end Pallet

/-! ## The runtime with block rewards -/

variable {Id Keys Account H A BeneficiaryId : Type}

/-- The state of the committee pallets and of the rewards. -/
structure State (config : SessionPallet.Config Id Keys Account H A) (BeneficiaryId : Type) where
  runtime : SessionPallet.State config
  rewards : Storage BeneficiaryId UInt32

/-- What `on_new_epoch` logs. -/
structure Payout (BeneficiaryId : Type) where
  oldEpoch : UInt64
  rewards : List (BeneficiaryId × UInt32)

/-- The extrinsics of a block: those of the rewards and of the committee. -/
inductive Extrinsic (config : SessionPallet.Config Id Keys Account H A) (BeneficiaryId : Type) where
  | setCurrentBlockBeneficiary (origin : Origin) (beneficiary : BeneficiaryId)
  | committee (extrinsic : SessionPallet.Extrinsic config)

/-- A block with its slot. -/
structure Block (config : SessionPallet.Config Id Keys Account H A) (BeneficiaryId : Type) where
  slot : UInt64
  extrinsics : List (Extrinsic config BeneficiaryId)

/-- Why a block cannot be executed. -/
inductive BlockError where
  | runtime (error : SessionPallet.BlockError)
  | panic (panic : Panic)
deriving DecidableEq

variable {config : SessionPallet.Config Id Keys Account H A}

section Runtime

variable (hashedLe : BeneficiaryId → BeneficiaryId → Bool)

/-- `LogBeneficiaries`. -/
def onNewEpoch (oldEpoch : UInt64) (st : State config BeneficiaryId) :
    Payout BeneficiaryId × State config BeneficiaryId :=
  let (rewards, storage) := getRewardsAndClear hashedLe st.rewards
  (⟨oldEpoch, rewards⟩, { st with rewards := storage })

/-- The sidechain pallet remembers the epoch. -/
def State.putEpochNumber (st : State config BeneficiaryId) (epoch : UInt64) :
    State config BeneficiaryId :=
  { st with runtime := { st.runtime with epochNumber := some epoch } }

/-- `on_initialize` of the sidechain pallet. -/
def onInitializeSidechain (st : State config BeneficiaryId) :
    Except SessionPallet.Panic (Option (Payout BeneficiaryId) × State config BeneficiaryId) := do
  let realEpoch ← SessionPallet.currentEpochNumber st.runtime
  match st.runtime.epochNumber with
  | some savedEpoch =>
      if savedEpoch ≠ realEpoch then
        let (payout, st) := onNewEpoch hashedLe savedEpoch (st.putEpochNumber realEpoch)
        .ok (some payout, st)
      else .ok (none, st)
  | none => .ok (none, st.putEpochNumber realEpoch)

/-- `SessionPallet.initializeBlock` with block rewards. -/
def initializeBlock (st : State config BeneficiaryId) (slot : UInt64) [DecidableEq Account] :
    Except SessionPallet.Panic
      (Option (Payout BeneficiaryId) × State config BeneficiaryId × List SessionPallet.Event) := do
  let st := { st with runtime := { st.runtime with
    blockNumber := st.runtime.blockNumber + 1, currentSlot := slot } }
  let (payout, st) ← onInitializeSidechain hashedLe st
  let runtime ← SessionPallet.onInitializeCommittee st.runtime
  let (runtime, events) ← SessionPallet.onInitializeSession runtime
  .ok (payout, { st with runtime := runtime }, events)

/-- The inherent is mandatory; other extrinsics are as in the session pallet. -/
def applyExtrinsic (st : State config BeneficiaryId) :
    Extrinsic config BeneficiaryId → Except BlockError (State config BeneficiaryId)
  | .setCurrentBlockBeneficiary origin beneficiary =>
      match setCurrentBlockBeneficiary origin beneficiary st.rewards with
      | .ok rewards => .ok { st with rewards := rewards }
      | .error error => .error (.runtime (.badMandatory error))
  | .committee extrinsic =>
      match SessionPallet.applyExtrinsic st.runtime extrinsic with
      | .ok runtime => .ok { st with runtime := runtime }
      | .error error => .error (.runtime error)

/-- The extrinsics of a block in their order. -/
def applyExtrinsics (st : State config BeneficiaryId) :
    List (Extrinsic config BeneficiaryId) → Except BlockError (State config BeneficiaryId)
  | [] => .ok st
  | extrinsic :: rest => do
      let st ← applyExtrinsic st extrinsic
      applyExtrinsics st rest

/-- The rewards pallet finalizes the block. -/
def finalizeBlock [DecidableEq BeneficiaryId] (st : State config BeneficiaryId) :
    Except BlockError (State config BeneficiaryId) := do
  let rewards ← (onFinalize simpleBlockCount st.rewards).mapError .panic
  .ok { st with rewards := rewards }

/-- A block is initialized, its extrinsics are applied and it is finalized; the
payout is that of a new epoch. -/
def executeBlock [DecidableEq Account] [DecidableEq BeneficiaryId]
    (st : State config BeneficiaryId) (block : Block config BeneficiaryId) :
    Except BlockError
      (Option (Payout BeneficiaryId) × State config BeneficiaryId × List SessionPallet.Event) := do
  let (payout, st, events) ←
    (initializeBlock hashedLe st block.slot).mapError fun e => .runtime (.panic e)
  let st ← applyExtrinsics st block.extrinsics
  let st ← finalizeBlock st
  .ok (payout, st, events)

end Runtime

/-! ## What a block does -/

/-- The beneficiary that a call sets. -/
def Extrinsic.beneficiary? : Extrinsic config BeneficiaryId → Option BeneficiaryId
  | .setCurrentBlockBeneficiary _ beneficiary => some beneficiary
  | .committee _ => none

/-- The extrinsic of the session model. -/
def Extrinsic.committee? :
    Extrinsic config BeneficiaryId → Option (SessionPallet.Extrinsic config)
  | .setCurrentBlockBeneficiary _ _ => none
  | .committee extrinsic => some extrinsic

/-- The beneficiaries that a block names, the last of which counts. -/
def Block.beneficiaries (block : Block config BeneficiaryId) : List BeneficiaryId :=
  block.extrinsics.filterMap Extrinsic.beneficiary?

/-- The block without the calls of the rewards pallet. -/
def Block.runtime (block : Block config BeneficiaryId) : SessionPallet.Block config :=
  ⟨block.slot, block.extrinsics.filterMap Extrinsic.committee?⟩

private theorem applyExtrinsics_eq_ok {st st' : State config BeneficiaryId}
    {extrinsics : List (Extrinsic config BeneficiaryId)}
    (h : applyExtrinsics st extrinsics = .ok st') :
    SessionPallet.applyExtrinsics st.runtime (extrinsics.filterMap Extrinsic.committee?) =
        .ok st'.runtime ∧
      st'.rewards.pendingRewards = st.rewards.pendingRewards ∧
      st'.rewards.currentBlockBeneficiary =
        (extrinsics.filterMap Extrinsic.beneficiary?).getLast?.or
          st.rewards.currentBlockBeneficiary := by
  induction extrinsics generalizing st with
  | nil =>
      obtain rfl := Except.ok.inj h
      exact ⟨rfl, rfl, rfl⟩
  | cons extrinsic rest ih =>
      obtain ⟨mid, hmid, hrest⟩ := bind_eq_ok.mp h
      obtain ⟨hruntime, hpending, hbeneficiary⟩ := ih hrest
      rw [hpending, hbeneficiary]
      cases extrinsic with
      | setCurrentBlockBeneficiary origin beneficiary =>
          cases origin with
          | none =>
              obtain rfl := Except.ok.inj hmid
              refine ⟨hruntime, rfl, ?_⟩
              simp only [List.filterMap_cons, Extrinsic.beneficiary?, List.getLast?_cons]
              cases (rest.filterMap Extrinsic.beneficiary?).getLast? <;> rfl
          | signed => cases hmid
          | root => cases hmid
      | committee extrinsic =>
          cases happly : SessionPallet.applyExtrinsic st.runtime extrinsic with
          | error e => simp [applyExtrinsic, happly] at hmid
          | ok runtime =>
              obtain rfl : { st with runtime := runtime } = mid := by
                simpa [applyExtrinsic, happly] using hmid
              refine ⟨?_, rfl, rfl⟩
              exact bind_eq_ok.mpr ⟨runtime, happly, hruntime⟩

private theorem onFinalize_eq_ok [DecidableEq BeneficiaryId] {s s' : Storage BeneficiaryId UInt32}
    (h : onFinalize simpleBlockCount s = .ok s') :
    ∃ beneficiary, s.currentBlockBeneficiary = some beneficiary ∧
      s' = ⟨none, raise beneficiary s.pendingRewards⟩ := by
  unfold onFinalize at h
  cases hbeneficiary : s.currentBlockBeneficiary with
  | none => simp [hbeneficiary] at h
  | some beneficiary =>
      rw [hbeneficiary] at h
      refine ⟨beneficiary, rfl, (Except.ok.inj h).symm.trans ?_⟩
      rw [raise]
      cases s.pendingRewards.lookup beneficiary <;> rfl

/-- The rewards are paid out at the beginning of a block if the epoch saved by
the previous one is another. -/
inductive PaysOut (hashedLe : BeneficiaryId → BeneficiaryId → Bool) (epoch : UInt64)
    (s : Storage BeneficiaryId UInt32) :
    Option UInt64 → Option (Payout BeneficiaryId) → Storage BeneficiaryId UInt32 → Prop where
  | first : PaysOut hashedLe epoch s none none s
  | same : PaysOut hashedLe epoch s (some epoch) none s
  | changed {savedEpoch : UInt64} (ne : savedEpoch ≠ epoch) :
      PaysOut hashedLe epoch s (some savedEpoch)
        (some ⟨savedEpoch, (getRewardsAndClear hashedLe s).1⟩) { s with pendingRewards := ∅ }

/-- A payout does not touch the beneficiary of the block. -/
theorem PaysOut.currentBlockBeneficiary {hashedLe : BeneficiaryId → BeneficiaryId → Bool}
    {epoch : UInt64} {s kept : Storage BeneficiaryId UInt32} {saved : Option UInt64}
    {payout : Option (Payout BeneficiaryId)} (h : PaysOut hashedLe epoch s saved payout kept) :
    kept.currentBlockBeneficiary = s.currentBlockBeneficiary := by
  cases h with
  | first => rfl
  | same => rfl
  | changed ne => rfl

section Blocks

variable {hashedLe : BeneficiaryId → BeneficiaryId → Bool} {st st' : State config BeneficiaryId}
  {payout : Option (Payout BeneficiaryId)}

private theorem onInitializeSidechain_eq_ok
    (h : onInitializeSidechain hashedLe st = .ok (payout, st')) :
    SessionPallet.onInitializeSidechain st.runtime = .ok st'.runtime ∧
      PaysOut hashedLe (st.runtime.currentSlot / st.runtime.slotsPerEpoch.toUInt64) st.rewards
        st.runtime.epochNumber payout st'.rewards := by
  obtain ⟨epoch, hepoch, h⟩ := bind_eq_ok.mp h
  have hslots : st.runtime.slotsPerEpoch ≠ 0 := by
    intro hzero
    simp [SessionPallet.currentEpochNumber, Domain.epochNumber, hzero] at hepoch
  rw [currentEpochNumber_eq hslots] at hepoch
  obtain rfl := Except.ok.inj hepoch
  rw [SessionPallet.onInitializeSidechain, currentEpochNumber_eq hslots]
  cases hsaved : st.runtime.epochNumber with
  | none =>
      simp only [hsaved, Except.ok.injEq, Prod.mk.injEq] at h
      obtain ⟨rfl, rfl⟩ := h
      exact ⟨rfl, .first⟩
  | some savedEpoch =>
      simp only [hsaved] at h
      split at h
      next hne =>
        simp only [onNewEpoch, Except.ok.injEq, Prod.mk.injEq] at h
        obtain ⟨rfl, rfl⟩ := h
        refine ⟨?_, .changed hne⟩
        simp [bind, Except.bind, hne, State.putEpochNumber]
      next heq =>
        simp only [Except.ok.injEq, Prod.mk.injEq] at h
        obtain ⟨rfl, rfl⟩ := h
        rw [not_not] at heq
        subst heq
        refine ⟨?_, .same⟩
        simp [bind, Except.bind]

variable [DecidableEq Account] {events : List SessionPallet.Event}

/-- What the hooks of a block do to the rewards. -/
theorem initializeBlock_eq_ok {slot : UInt64}
    (h : initializeBlock hashedLe st slot = .ok (payout, st', events)) :
    SessionPallet.initializeBlock st.runtime slot = .ok (st'.runtime, events) ∧
      PaysOut hashedLe (slot / st.runtime.slotsPerEpoch.toUInt64) st.rewards
        st.runtime.epochNumber payout st'.rewards := by
  obtain ⟨⟨paid, mid⟩, hsidechain, h⟩ := bind_eq_ok.mp h
  obtain ⟨committee, hcommittee, h⟩ := bind_eq_ok.mp h
  obtain ⟨⟨session, new⟩, hsession, h⟩ := bind_eq_ok.mp h
  simp only [Except.ok.injEq, Prod.mk.injEq] at h
  obtain ⟨rfl, rfl, rfl⟩ := h
  obtain ⟨hruntime, hpays⟩ := onInitializeSidechain_eq_ok hsidechain
  constructor
  · exact bind_eq_ok.mpr ⟨_, hruntime, bind_eq_ok.mpr ⟨_, hcommittee, hsession⟩⟩
  · exact hpays

variable [DecidableEq BeneficiaryId]

/-- A block does to the rest of the runtime what it does without rewards.  The
rewards are paid out or kept, and the beneficiary that was set last gets one
more. -/
theorem executeBlock_eq_ok {block : Block config BeneficiaryId}
    (h : executeBlock hashedLe st block = .ok (payout, st', events)) :
    SessionPallet.executeBlock st.runtime block.runtime = .ok (st'.runtime, events) ∧
      ∃ kept beneficiary,
        PaysOut hashedLe (block.slot / st.runtime.slotsPerEpoch.toUInt64) st.rewards
          st.runtime.epochNumber payout kept ∧
        block.beneficiaries.getLast?.or kept.currentBlockBeneficiary = some beneficiary ∧
        st'.rewards = ⟨none, raise beneficiary kept.pendingRewards⟩ := by
  obtain ⟨⟨paid, mid, new⟩, hinit, h⟩ := bind_eq_ok.mp h
  obtain ⟨applied, happly, h⟩ := bind_eq_ok.mp h
  obtain ⟨final, hfinal, h⟩ := bind_eq_ok.mp h
  simp only [Except.ok.injEq, Prod.mk.injEq] at h
  obtain ⟨rfl, rfl, rfl⟩ := h
  obtain ⟨hruntime, hpays⟩ := initializeBlock_eq_ok (mapError_eq_ok.mp hinit)
  obtain ⟨hextrinsics, hpending, hbeneficiary⟩ := applyExtrinsics_eq_ok happly
  obtain ⟨rewards, hrewards, hfinal⟩ := bind_eq_ok.mp hfinal
  obtain rfl := Except.ok.inj hfinal
  obtain ⟨beneficiary, hset, rfl⟩ := onFinalize_eq_ok (mapError_eq_ok.mp hrewards)
  constructor
  · rw [executeBlock_of_initializeBlock block.runtime hruntime]
    exact congrArg (Except.map _) hextrinsics
  · exact ⟨mid.rewards, beneficiary, hpays, hbeneficiary.symm.trans hset, by rw [hpending]⟩

/-! ## Runs -/

/-- A block with the beneficiary that it set last, and what was paid out at its
beginning. -/
structure Finalized (config : SessionPallet.Config Id Keys Account H A)
    (BeneficiaryId : Type) where
  block : Block config BeneficiaryId
  beneficiary : BeneficiaryId
  set_last : block.beneficiaries.getLast? = some beneficiary
  payout : Option (Payout BeneficiaryId)

/-- The states after any number of blocks, with the blocks, newest first. -/
inductive Run (hashedLe : BeneficiaryId → BeneficiaryId → Bool)
    (genesis : SessionPallet.Genesis config) :
    State config BeneficiaryId → List (Finalized config BeneficiaryId) → Prop where
  | start {runtime : SessionPallet.State config} (built : genesis.build = .ok runtime) :
      Run hashedLe genesis ⟨runtime, ⟨none, ∅⟩⟩ []
  | block {st st' : State config BeneficiaryId} {history : List (Finalized config BeneficiaryId)}
      {events : List SessionPallet.Event} (run : Run hashedLe genesis st history)
      (new : Finalized config BeneficiaryId)
      (increasing : st.runtime.blockNumber ≠ 0 → st.runtime.currentSlot < new.block.slot)
      (executed : executeBlock hashedLe st new.block = .ok (new.payout, st', events)) :
      Run hashedLe genesis st' (new :: history)

end Blocks

/-- The blocks since the last payout, that of the payout included. -/
def sincePayout : List (Finalized config BeneficiaryId) → List (Finalized config BeneficiaryId)
  | [] => []
  | last :: older => if last.payout.isSome then [last] else last :: sincePayout older

/-- The epoch of a block. -/
def Finalized.epoch (slotsPerEpoch : UInt32) (x : Finalized config BeneficiaryId) : UInt64 :=
  x.block.slot / slotsPerEpoch.toUInt64

/-- The counters of the beneficiaries do not overflow. -/
def CountsFit [DecidableEq BeneficiaryId] (history : List (Finalized config BeneficiaryId)) :
    Prop :=
  ∀ part, part <:+ history →
    ∀ beneficiary, ((sincePayout part).map Finalized.beneficiary).count beneficiary < 2 ^ 32

private theorem length_sincePayout_le (history : List (Finalized config BeneficiaryId)) :
    (sincePayout history).length ≤ history.length := by
  induction history with
  | nil => exact Nat.le_refl 0
  | cons last older ih =>
      rw [sincePayout]
      split
      · exact Nat.succ_le_succ (Nat.zero_le _)
      · exact Nat.succ_le_succ ih

/-- They do not in the first `2 ^ 32 - 1` blocks. -/
theorem countsFit_of_length [DecidableEq BeneficiaryId]
    {history : List (Finalized config BeneficiaryId)} (h : history.length < 2 ^ 32) :
    CountsFit history := by
  intro part hpart beneficiary
  calc ((sincePayout part).map Finalized.beneficiary).count beneficiary
      ≤ ((sincePayout part).map Finalized.beneficiary).length := List.count_le_length
    _ = (sincePayout part).length := List.length_map _
    _ ≤ part.length := length_sincePayout_le part
    _ ≤ history.length := hpart.length_le
    _ < 2 ^ 32 := h

/-- What was paid out in all blocks. -/
def paidOut : List (Finalized config BeneficiaryId) → Nat
  | [] => 0
  | last :: older =>
      (last.payout.elim 0 fun payout => (payout.rewards.map fun reward => reward.2.toNat).sum) +
        paidOut older

/-- The points that are pending, over all beneficiaries. -/
def State.pending (st : State config BeneficiaryId) : Nat :=
  (st.rewards.pendingRewards.entries.map fun entry => entry.2.toNat).sum

/-- What is right about the payout of a block, `older` being the blocks before
it. -/
structure RightPayout [DecidableEq BeneficiaryId] (slotsPerEpoch : UInt32)
    (new : Finalized config BeneficiaryId) (older : List (Finalized config BeneficiaryId)) :
    Prop where
  /-- There is one exactly if the epoch is not that of the previous block. -/
  isSome : new.payout.isSome ↔
    ∃ previous, older.head? = some previous ∧
      previous.epoch slotsPerEpoch ≠ new.epoch slotsPerEpoch
  /-- It has one entry for each beneficiary of a block since the payout before. -/
  tally : ∀ payout, new.payout = some payout →
    IsTally (payout.rewards.map fun reward => (reward.1, reward.2.toNat))
      ((sincePayout older).map Finalized.beneficiary)
  /-- These are the blocks of the epoch that it is logged for. -/
  epoch : ∀ payout, new.payout = some payout →
    sincePayout older = older.filter fun x => x.epoch slotsPerEpoch = payout.oldEpoch

/-! ## The invariant -/

/-- The pending rewards are those of the blocks since the last payout, and these
are the blocks of the epoch. -/
structure Invariant [DecidableEq BeneficiaryId] (st : State config BeneficiaryId)
    (history : List (Finalized config BeneficiaryId)) : Prop where
  epochNumber : st.runtime.epochNumber =
    history.head?.map (Finalized.epoch st.runtime.slotsPerEpoch)
  slot : ∀ last, history.head? = some last →
    st.runtime.blockNumber ≠ 0 ∧ st.runtime.currentSlot = last.block.slot
  beneficiary : st.rewards.currentBlockBeneficiary = none
  counts : Counts st.rewards.pendingRewards ((sincePayout history).map Finalized.beneficiary)
  /-- The blocks since the last payout are those of the epoch, which is the latest. -/
  window : ∀ last, history.head? = some last →
    (sincePayout history = history.filter fun x =>
      x.epoch st.runtime.slotsPerEpoch = last.epoch st.runtime.slotsPerEpoch) ∧
    ∀ x ∈ history, x.epoch st.runtime.slotsPerEpoch ≤ last.epoch st.runtime.slotsPerEpoch

/-- Before the first block nothing is counted. -/
theorem Invariant.start [DecidableEq BeneficiaryId] (runtime : SessionPallet.State config)
    (hepoch : runtime.epochNumber = none) :
    Invariant (⟨runtime, ⟨none, ∅⟩⟩ : State config BeneficiaryId) [] where
  epochNumber := hepoch
  slot := fun _ h => nomatch h
  beneficiary := rfl
  counts := counts_empty
  window := fun _ h => nomatch h

private theorem getRewardsAndClear_isTally [DecidableEq BeneficiaryId]
    (hashedLe : BeneficiaryId → BeneficiaryId → Bool) {s : Storage BeneficiaryId UInt32}
    {l : List BeneficiaryId} (hcounts : Counts s.pendingRewards l)
    (hfit : ∀ beneficiary, l.count beneficiary < 2 ^ 32) :
    IsTally ((getRewardsAndClear hashedLe s).1.map fun reward => (reward.1, reward.2.toNat))
      l := by
  refine (hcounts.isTally hfit).perm ?_
  have hperm := (List.perm_insertionSort (fun x y => hashedLe x.1 y.1 = true)
    (s.pendingRewards.entries.map fun entry => (entry.1, entry.2))).map
      fun reward => (reward.1, reward.2.toNat)
  rw [List.map_map] at hperm
  exact hperm.symm

section Step

variable [DecidableEq BeneficiaryId]
  {hashedLe : BeneficiaryId → BeneficiaryId → Bool} {st st' : State config BeneficiaryId}
  {history : List (Finalized config BeneficiaryId)} {new : Finalized config BeneficiaryId}
  {events : List SessionPallet.Event}

/-- The epochs of the blocks do not decrease. -/
theorem Invariant.epoch_le (hinv : Invariant st history)
    (increasing : st.runtime.blockNumber ≠ 0 → st.runtime.currentSlot < new.block.slot)
    {x : Finalized config BeneficiaryId} (hx : x ∈ history) :
    x.epoch st.runtime.slotsPerEpoch ≤ new.epoch st.runtime.slotsPerEpoch := by
  cases hhead : history.head? with
  | none =>
      rw [List.head?_eq_none_iff.mp hhead] at hx
      cases hx
  | some last =>
      obtain ⟨hnumber, hslot⟩ := hinv.slot last hhead
      have hlt := increasing hnumber
      rw [hslot] at hlt
      refine UInt64.le_trans ((hinv.window last hhead).2 x hx) ?_
      rw [Finalized.epoch, Finalized.epoch, UInt64.le_iff_toNat_le, UInt64.toNat_div,
        UInt64.toNat_div]
      exact Nat.div_le_div_right (Nat.le_of_lt (UInt64.lt_iff_toNat_lt.mp hlt))

variable [DecidableEq Account]

private theorem executeBlock_epochNumber {st st' : SessionPallet.State config}
    {block : SessionPallet.Block config} {events : List SessionPallet.Event}
    (h : SessionPallet.executeBlock st block = .ok (st', events)) :
    st'.epochNumber = some (block.slot / st.slotsPerEpoch.toUInt64) := by
  obtain ⟨mid, committee, rfl, -, hcase⟩ := executeBlock_cases h
  rcases hcase with ⟨-, rfl, -⟩ | ⟨next, -, rfl, -⟩
  · rfl
  · rfl

/-- The two things that a block of a run can do with the pending rewards. -/
theorem Invariant.executeBlock_cases (hinv : Invariant st history)
    (executed : executeBlock hashedLe st new.block = .ok (new.payout, st', events)) :
    (new.payout = none ∧
        (∀ previous, history.head? = some previous →
          previous.epoch st.runtime.slotsPerEpoch = new.epoch st.runtime.slotsPerEpoch) ∧
        st'.rewards = ⟨none, raise new.beneficiary st.rewards.pendingRewards⟩) ∨
      ∃ previous, history.head? = some previous ∧
        previous.epoch st.runtime.slotsPerEpoch ≠ new.epoch st.runtime.slotsPerEpoch ∧
        new.payout = some ⟨previous.epoch st.runtime.slotsPerEpoch,
          (getRewardsAndClear hashedLe st.rewards).1⟩ ∧
        st'.rewards = ⟨none, raise new.beneficiary ∅⟩ := by
  obtain ⟨-, kept, beneficiary, hpays, hset, hrewards⟩ := executeBlock_eq_ok executed
  obtain rfl : new.beneficiary = beneficiary := by
    rw [new.set_last] at hset
    exact Option.some.inj hset
  rw [hrewards]
  rw [hinv.epochNumber] at hpays
  change PaysOut hashedLe (new.epoch st.runtime.slotsPerEpoch) _ _ _ _ at hpays
  cases hhead : history.head? with
  | none =>
      rw [hhead] at hpays
      generalize hpayout : new.payout = payout at hpays
      cases hpays with
      | first => exact .inl ⟨rfl, fun _ h => (nomatch h), rfl⟩
  | some previous =>
      rw [hhead, Option.map_some] at hpays
      generalize hpayout : new.payout = payout at hpays
      generalize hsaved : previous.epoch st.runtime.slotsPerEpoch = saved at hpays
      cases hpays with
      | same =>
          refine .inl ⟨rfl, ?_, rfl⟩
          intro other hother
          rw [← Option.some.inj hother, hsaved]
      | changed ne => exact .inr ⟨previous, rfl, by rwa [hsaved], by rw [hsaved], rfl⟩

/-- If no count overflows, a block pays out what the history says. -/
theorem Invariant.rightPayout (hinv : Invariant st history)
    (hfit : ∀ beneficiary,
      ((sincePayout history).map Finalized.beneficiary).count beneficiary < 2 ^ 32)
    (executed : executeBlock hashedLe st new.block = .ok (new.payout, st', events)) :
    RightPayout st.runtime.slotsPerEpoch new history := by
  rcases hinv.executeBlock_cases executed with ⟨hnone, hsame, -⟩ | ⟨previous, hhead, hne, hsome, -⟩
  · refine ⟨?_, ?_, ?_⟩
    · rw [hnone]
      refine iff_of_false Bool.false_ne_true ?_
      rintro ⟨previous, hhead, hne⟩
      exact hne (hsame previous hhead)
    · rw [hnone]
      exact fun _ h => nomatch h
    · rw [hnone]
      exact fun _ h => nomatch h
  · refine ⟨iff_of_true (by rw [hsome]; rfl) ⟨previous, hhead, hne⟩, ?_, ?_⟩
    · intro payout hpayout
      obtain rfl := Option.some.inj (hsome.symm.trans hpayout)
      exact getRewardsAndClear_isTally hashedLe hinv.counts hfit
    · intro payout hpayout
      obtain rfl := Option.some.inj (hsome.symm.trans hpayout)
      exact (hinv.window previous hhead).1

/-- The blocks since the last payout are still those of the last block's
epoch. -/
theorem Invariant.sincePayout_block (hinv : Invariant st history)
    (increasing : st.runtime.blockNumber ≠ 0 → st.runtime.currentSlot < new.block.slot)
    (executed : executeBlock hashedLe st new.block = .ok (new.payout, st', events)) :
    sincePayout (new :: history) = (new :: history).filter fun x =>
      x.epoch st.runtime.slotsPerEpoch = new.epoch st.runtime.slotsPerEpoch := by
  rw [List.filter_cons_of_pos (by simp)]
  rcases hinv.executeBlock_cases executed with ⟨hnone, hsame, -⟩ | ⟨previous, hhead, hne, hsome, -⟩
  · -- no payout, the epoch goes on
    rw [sincePayout, hnone]
    refine congrArg (new :: ·) ?_
    cases hhead : history.head? with
    | none =>
        rw [List.head?_eq_none_iff.mp hhead]
        rfl
    | some previous =>
        rw [(hinv.window previous hhead).1, hsame previous hhead]
  · -- a payout, no earlier block is of the epoch
    rw [sincePayout, hsome]
    refine congrArg (new :: ·) (List.filter_eq_nil_iff.mpr ?_).symm
    intro x hx hepoch
    rw [decide_eq_true_eq] at hepoch
    have hprevious : previous.epoch st.runtime.slotsPerEpoch ≤
        new.epoch st.runtime.slotsPerEpoch :=
      hinv.epoch_le increasing (List.mem_of_head? hhead)
    have hxle := (hinv.window previous hhead).2 x hx
    rw [hepoch] at hxle
    exact hne (UInt64.le_antisymm hprevious hxle)

/-- A block is added to the history it is counted in. -/
theorem Invariant.block (hinv : Invariant st history)
    (increasing : st.runtime.blockNumber ≠ 0 → st.runtime.currentSlot < new.block.slot)
    (executed : executeBlock hashedLe st new.block = .ok (new.payout, st', events)) :
    Invariant st' (new :: history) := by
  obtain ⟨hruntime, -⟩ := executeBlock_eq_ok executed
  obtain ⟨hslot, hslots⟩ := executeBlock_slot hruntime
  have hle : ∀ x ∈ new :: history,
      x.epoch st.runtime.slotsPerEpoch ≤ new.epoch st.runtime.slotsPerEpoch := by
    intro x hx
    rcases List.mem_cons.mp hx with rfl | hx
    · exact UInt64.le_refl _
    · exact hinv.epoch_le increasing hx
  have hcase := hinv.executeBlock_cases executed
  refine ⟨?_, ?_, ?_, ?_, ?_⟩
  · rw [executeBlock_epochNumber hruntime, hslots]
    rfl
  · intro last hlast
    obtain rfl := Option.some.inj hlast
    exact ⟨by rw [executeBlock_blockNumber hruntime]; exact Nat.succ_ne_zero _, hslot⟩
  · rcases hcase with ⟨-, -, hrewards⟩ | ⟨previous, -, -, -, hrewards⟩
    · rw [hrewards]
    · rw [hrewards]
  · rcases hcase with ⟨hnone, -, hrewards⟩ | ⟨previous, -, -, hsome, hrewards⟩
    · rw [hrewards, sincePayout, hnone]
      exact hinv.counts.raise new.beneficiary
    · rw [hrewards, sincePayout, hsome]
      exact counts_empty.raise new.beneficiary
  · intro last hlast
    obtain rfl := Option.some.inj hlast
    rw [hslots]
    exact ⟨hinv.sincePayout_block increasing executed, hle⟩

end Step

/-! ## The result -/

private theorem length_eq_paidOut_add [DecidableEq BeneficiaryId]
    {history : List (Finalized config BeneficiaryId)} {slotsPerEpoch : UInt32}
    (hright : ∀ new older, (new :: older) <:+ history → RightPayout slotsPerEpoch new older) :
    paidOut history + (sincePayout history).length = history.length := by
  induction history with
  | nil => rfl
  | cons new older ih =>
      have hrest := ih fun x y h => hright x y (h.trans (List.suffix_cons _ _))
      have htally := (hright new older List.suffix_rfl).tally
      cases hpayout : new.payout with
      | none =>
          simp only [paidOut, sincePayout, hpayout, Option.elim_none, Option.isSome_none,
            Bool.false_eq_true, if_false, List.length_cons]
          omega
      | some payout =>
          have htotal := (htally payout hpayout).total
          rw [List.map_map, List.length_map] at htotal
          simp only [paidOut, sincePayout, hpayout, Option.elim_some, Option.isSome_some, if_true,
            List.length_cons, List.length_nil]
          change (payout.rewards.map fun reward => reward.2.toNat).sum = _ at htotal
          omega

section Result

variable [DecidableEq Account] [DecidableEq BeneficiaryId]
  {hashedLe : BeneficiaryId → BeneficiaryId → Bool} {genesis : SessionPallet.Genesis config}
  {st st' : State config BeneficiaryId} {history : List (Finalized config BeneficiaryId)}

/-- The counts are those of the history at every point of a run. -/
theorem Run.invariant (h : Run hashedLe genesis st history) :
    Invariant st history ∧ st.runtime.slotsPerEpoch = genesis.slotsPerEpoch := by
  induction h with
  | start built =>
      obtain ⟨-, hepoch, hslots⟩ := build_sidechain built
      exact ⟨Invariant.start _ hepoch, hslots⟩
  | block run new increasing executed ih =>
      obtain ⟨hruntime, -⟩ := executeBlock_eq_ok executed
      exact ⟨ih.1.block increasing executed, (executeBlock_slot hruntime).2.trans ih.2⟩

/-- The rest of the runtime runs as it does without rewards. -/
theorem Run.runtime (h : Run hashedLe genesis st history) :
    ∃ events, CommitteeRun.Run genesis st.runtime events := by
  induction h with
  | start built => exact ⟨_, .start built⟩
  | block run new increasing executed ih =>
      obtain ⟨events, hrun⟩ := ih
      exact ⟨_, hrun.block new.block.runtime increasing (executeBlock_eq_ok executed).1⟩

/-- Only blocks that set their beneficiary can be executed. -/
theorem Run.exists_beneficiary (h : Run hashedLe genesis st history)
    {block : Block config BeneficiaryId} {payout : Option (Payout BeneficiaryId)}
    {events : List SessionPallet.Event}
    (executed : executeBlock hashedLe st block = .ok (payout, st', events)) :
    ∃ beneficiary, block.beneficiaries.getLast? = some beneficiary := by
  obtain ⟨-, kept, beneficiary, hpays, hset, -⟩ := executeBlock_eq_ok executed
  rw [hpays.currentBlockBeneficiary, h.invariant.1.beneficiary, Option.or_none] at hset
  exact ⟨beneficiary, hset⟩

/-- Every payout of a run is right. -/
theorem Run.rightPayout (h : Run hashedLe genesis st history) (hfit : CountsFit history)
    {new : Finalized config BeneficiaryId} {older : List (Finalized config BeneficiaryId)}
    (hpart : (new :: older) <:+ history) : RightPayout genesis.slotsPerEpoch new older := by
  induction h with
  | start built => exact absurd (List.suffix_nil.mp hpart) (List.cons_ne_nil _ _)
  | @block st st' history events run last increasing executed ih =>
      rcases List.suffix_cons_iff.mp hpart with heq | hpart
      · obtain ⟨rfl, rfl⟩ := List.cons.inj heq
        rw [← run.invariant.2]
        exact run.invariant.1.rightPayout (hfit _ (List.suffix_cons _ _)) executed
      · exact ih (fun part h => hfit part (h.trans (List.suffix_cons _ _))) hpart

private theorem Run.pending_eq (h : Run hashedLe genesis st history) (hfit : CountsFit history) :
    st.pending = (sincePayout history).length := by
  have htotal := (h.invariant.1.counts.isTally (hfit history List.suffix_rfl)).total
  rw [List.map_map, List.length_map] at htotal
  exact htotal

/-- Along every run the rewards are paid out in the blocks that change the
epoch, to the beneficiaries of the blocks before, and none are lost. -/
theorem Run.rewards_conserved (h : Run hashedLe genesis st history) (hfit : CountsFit history) :
    (∀ new older, (new :: older) <:+ history → RightPayout genesis.slotsPerEpoch new older) ∧
      paidOut history + st.pending = history.length := by
  have hright : ∀ new older, (new :: older) <:+ history →
      RightPayout genesis.slotsPerEpoch new older := fun _ _ hpart => h.rightPayout hfit hpart
  refine ⟨hright, ?_⟩
  rw [h.pending_eq hfit]
  exact length_eq_paidOut_add hright

end Result

/-! ## Three blocks

The first block, in epoch 2, sets its beneficiary twice.  There are no blocks
in epoch 3. -/

/-- The inherent of a block. -/
def setBeneficiary (beneficiary : Nat) : Extrinsic exampleConfig Nat :=
  .setCurrentBlockBeneficiary .none beneficiary

/-- Two blocks of epoch 2 and the first block of epoch 4, which pays out. -/
def exampleHistory : List (Finalized exampleConfig Nat) :=
  [{ block := ⟨20, [setBeneficiary 7]⟩
     beneficiary := 7
     set_last := rfl
     payout := some ⟨2, [(7, 1), (8, 1)]⟩ },
   { block := ⟨12, [setBeneficiary 7]⟩, beneficiary := 7, set_last := rfl, payout := none },
   { block := ⟨11, [setBeneficiary 9, setBeneficiary 8]⟩
     beneficiary := 8
     set_last := rfl
     payout := none }]

private theorem exampleHistory_run :
    ∃ st, Run (fun x y => decide (x ≤ y)) exampleGenesis st exampleHistory :=
  ⟨_, .block (.block (.block (.start rfl) _ (by decide) rfl) _ (by decide) rfl) _ (by decide) rfl⟩

/-- Three blocks, of which two are paid out. -/
theorem rewards_conserved_exampleHistory :
    ∃ st, Run (fun x y => decide (x ≤ y)) exampleGenesis st exampleHistory ∧
      (∀ new older, (new :: older) <:+ exampleHistory → RightPayout 5 new older) ∧
      paidOut exampleHistory + st.pending = 3 := by
  obtain ⟨st, hrun⟩ := exampleHistory_run
  exact ⟨st, hrun, Run.rewards_conserved hrun (countsFit_of_length (by decide))⟩

end PartnerChains.Ports.BlockRewards
