import PartnerChains.Ports.BlockSearch
import PartnerChains.Ports.CommitteeRun
import PartnerChains.Verified.Fallible

/-!
# The committee of an epoch over RPC

The port of `get_epoch_committee`.  The query looks for any block of the epoch
and returns the committee that is current there, or the next committee of the
best block for the epoch after it; the epoch that is stored with the committee
is dropped.

A committee stays in charge when epochs pass without blocks, or when the next
one has not been stored, so a block may have a committee of an earlier epoch.
`getEpochCommittee_stored` says that nothing else can go wrong: as long as every
block keeps up with its epoch, all blocks of an epoch have the committee that
was stored for it.
-/

namespace PartnerChains.Ports.EpochCommittee

open PartnerChains.Ports.CommitteePallet
open PartnerChains.Ports.SessionPallet
open PartnerChains.Ports.CommitteeRun
open PartnerChains.Ports.BlockSearch
open PartnerChains.Verified.Fallible

variable {Id Keys Account H A : Type} {config : Config Id Keys Account H A}

/-! ## The runtime API -/

/-- `get_current_committee` of the runtime: the epoch and the members without
their keys. -/
def getCurrentCommittee {maxValidators : Nat} (s : Storage Id Keys maxValidators) :
    UInt64 × List Id :=
  (s.currentCommittee.epoch, s.currentCommittee.committee.items.map Prod.fst)

/-- `get_next_committee` of the runtime. -/
def getNextCommittee {maxValidators : Nat} (s : Storage Id Keys maxValidators) :
    Option (UInt64 × List Id) :=
  s.nextCommittee.map fun info => (info.epoch, info.committee.items.map Prod.fst)

/-- The epoch of `get_sidechain_status`. -/
def getSidechainStatusEpoch (st : State config) : Except ApiError UInt64 :=
  (currentEpochNumber st).mapError fun _ => .runtime

/-! ## The query -/

/-- A member as the query shows it. -/
structure CommitteeMember where
  sidechainPubKey : String
deriving DecidableEq

/-- The epoch and the members, as the query returns them. -/
structure GetCommitteeResponse where
  sidechainEpoch : UInt64
  committee : List CommitteeMember
deriving DecidableEq

/-- `GetCommitteeResponse::new`, with the conversion of a key to hexadecimal text. -/
def GetCommitteeResponse.new (toHex : Id → String) (sidechainEpoch : UInt64)
    (committee : List Id) : GetCommitteeResponse :=
  ⟨sidechainEpoch, committee.map fun id => ⟨toHex id⟩⟩

/-- An error returned to the caller, or a panic of the query. -/
inductive QueryFailure where
  | error (message : String)
  | panic (message : String)
deriving DecidableEq

/-- The chain as the client has it: the state after every block, best block
first. -/
structure Client (config : Config Id Keys Account H A) where
  best : State config
  older : List (State config)

/-- The state at `client.hash(number)`. -/
def Client.stateAt (client : Client config) (number : Nat) : Option (State config) :=
  (client.best :: client.older).find? fun st => decide (st.blockNumber = number)

/-- `get_epoch_of_block` of the block search. -/
def Client.getEpochOfBlock (client : Client config) (number : Nat) : Except ApiError UInt64 :=
  match client.stateAt number with
  | some st => getSidechainStatusEpoch st
  | none => .error (.unknownBlock ("Block Number " ++ toString number ++ " does not exist"))

/-- `find_block` with `AnyBlockInEpoch`, up to the hash. -/
def Client.findBlock (client : Client config) (epoch : UInt64) : Except ApiError Nat :=
  (findBlockNumber (UInt32.ofNat client.best.blockNumber)
    (anyBlockInEpoch (fun number => client.getEpochOfBlock number.toNat) epoch)).map
      fun number => number.toNat

section Query

variable (errDebug : ApiError → String) (toHex : Id → String)

/-- `map_err(err_debug)`. -/
def mapErr {α : Type} (result : Except ApiError α) : Except QueryFailure α :=
  result.mapError fun e => .error (errDebug e)

/-- The pair of which the query returns the second component, for a way
`find` to look for a block of the epoch. -/
def queriedCommittee (client : Client config) (find : UInt64 → Except ApiError Nat)
    (epochNumber : UInt64) : Except QueryFailure (UInt64 × List Id) := do
  let secondBlock ← okOr (client.stateAt 1)
    (.error "Only the Genesis Block exists at the moment!")
  let firstEpoch ← mapErr errDebug (getSidechainStatusEpoch secondBlock)
  if epochNumber < firstEpoch then
    .error (.error ("Epoch " ++ toString epochNumber ++ " is earlier than the Initial Epoch!"))
  else do
    let epochOfLatestBlock ← mapErr errDebug (client.getEpochOfBlock client.best.blockNumber)
    if epochNumber > epochOfLatestBlock + 1 then
      .error (.error ("Committee is unknown for epoch " ++ toString epochNumber))
    else if epochNumber = epochOfLatestBlock + 1 then
      okOr (getNextCommittee client.best.committee)
        (.error ("Committee is unknown for the next epoch: " ++ toString epochNumber))
    else do
      let number ← mapErr errDebug (find epochNumber)
      let st ← okOr (client.stateAt number)
        (.panic "Block with given number exists, so its hash should exists as well")
      .ok (getCurrentCommittee st.committee)

/-- `get_epoch_committee`: the genesis committee answers for epoch zero. -/
def getEpochCommittee (client : Client config) (find : UInt64 → Except ApiError Nat)
    (epochNumber : UInt64) : Except QueryFailure GetCommitteeResponse :=
  if epochNumber = 0 then do
    let genesis ← okOr (client.stateAt 0) (.error (errDebug .runtime))
    .ok (.new toHex epochNumber (getCurrentCommittee genesis.committee).2)
  else do
    let (_, committee) ← queriedCommittee errDebug client find epochNumber
    .ok (.new toHex epochNumber committee)

end Query

/-! ## Chains -/

/-- The states of the blocks of a chain, the best one first. -/
inductive Blocks [DecidableEq Account] (genesis : Genesis config) :
    State config → List (State config) → Prop where
  | start {st : State config} (built : genesis.build = .ok st) : Blocks genesis st []
  | block {st st' : State config} {older : List (State config)} {new : List Event}
      (chain : Blocks genesis st older) (block : Block config)
      (increasing : st.blockNumber ≠ 0 → st.currentSlot < block.slot)
      (executed : executeBlock st block = .ok (st', new)) : Blocks genesis st' (st :: older)

/-- The epoch of the block after which the state is. -/
def epochOf (st : State config) : UInt64 := st.currentSlot / st.slotsPerEpoch.toUInt64

/-- The block enters the epoch of its parent, or the following one if the
committee for it is stored.  The first block is free. -/
def KeepsUp (parent st : State config) : Prop :=
  parent.blockNumber ≠ 0 → epochOf st = epochOf parent ∨
    (epochOf st).toNat = (epochOf parent).toNat + 1 ∧ parent.committee.nextCommittee.isSome

/-- Every block of a chain keeps up. -/
def AllKeepUp : State config → List (State config) → Prop
  | _, [] => True
  | st, parent :: older => KeepsUp parent st ∧ AllKeepUp parent older

/-- After a block the current committee is that of the epoch. -/
def InStep (st : State config) : Prop :=
  st.blockNumber ≠ 0 → st.committee.currentCommittee.epoch = epochOf st

/-- The way to look for a block finds blocks of the epoch only. -/
def Finds (client : Client config) (find : UInt64 → Except ApiError Nat) : Prop :=
  ∀ epoch number, find epoch = .ok number → client.getEpochOfBlock number = .ok epoch

/-- What `find_block` finds is a block of the epoch. -/
theorem finds_findBlock (client : Client config) : Finds client client.findBlock := by
  intro epoch number h
  unfold Client.findBlock at h
  cases hfind : findBlockNumber (UInt32.ofNat client.best.blockNumber)
      (anyBlockInEpoch (fun number => client.getEpochOfBlock number.toNat) epoch) with
  | error e => simp [hfind, Except.map] at h
  | ok found =>
      obtain rfl : found.toNat = number := by simpa [hfind, Except.map] using h
      exact anyBlockInEpoch_eq (findBlockNumber_eq_ok hfind)

/-- Newer states have higher numbers and slots, and the same or a later
committee. -/
structure Newer (newer older : State config) : Prop where
  number : older.blockNumber < newer.blockNumber
  slot : older.blockNumber ≠ 0 → older.currentSlot < newer.currentSlot
  slots : older.slotsPerEpoch = newer.slotsPerEpoch
  committee : older.committee.currentCommittee = newer.committee.currentCommittee ∨
    older.committee.currentCommittee.epoch < newer.committee.currentCommittee.epoch

/-- Being newer is transitive. -/
theorem Newer.trans {newest newer older : State config} (h : Newer newest newer)
    (h' : Newer newer older) : Newer newest older where
  number := Nat.lt_trans h'.number h.number
  slot hnumber := UInt64.lt_trans (h'.slot hnumber) (h.slot (Nat.ne_zero_of_lt h'.number))
  slots := h'.slots.trans h.slots
  committee := by
    rcases h'.committee with heq | hlt
    · rw [heq]
      exact h.committee
    · refine .inr ?_
      rcases h.committee with heq | hlt'
      · rwa [← heq]
      · exact UInt64.lt_trans hlt hlt'

section Chain

variable [DecidableEq Account]

/-- A chain of blocks is a run. -/
theorem Blocks.run {genesis : Genesis config} {st : State config} {older : List (State config)}
    (h : Blocks genesis st older) : ∃ events, Run genesis st events := by
  induction h with
  | start built => exact ⟨_, .start built⟩
  | block chain block increasing executed ih =>
      obtain ⟨events, hrun⟩ := ih
      exact ⟨_, hrun.block block increasing executed⟩

/-- Each block of a chain is the end of a run. -/
theorem Blocks.exists_run_of_mem {genesis : Genesis config} {best : State config}
    {older : List (State config)} (h : Blocks genesis best older) {st : State config}
    (hst : st ∈ best :: older) : ∃ events, Run genesis st events := by
  induction h with
  | start built =>
      obtain rfl := List.mem_singleton.mp hst
      exact ⟨_, .start built⟩
  | block chain block increasing executed ih =>
      rcases List.mem_cons.mp hst with rfl | hst
      · exact (Blocks.block chain block increasing executed).run
      · exact ih hst

/-- The genesis block is counted to epoch zero. -/
theorem Run.epochOf_genesis {genesis : Genesis config} {st : State config}
    {events : List Event} (h : Run genesis st events) (hnumber : st.blockNumber = 0) :
    epochOf st = 0 := by
  cases h with
  | start built => simp [epochOf, (build_sidechain built).1]
  | block block run increasing executed =>
      rw [executeBlock_blockNumber executed] at hnumber
      cases hnumber

private theorem Run.epoch_genesis {genesis : Genesis config} {st : State config}
    {events : List Event} (h : Run genesis st events) (hnumber : st.blockNumber = 0) :
    st.committee.currentCommittee.epoch = 0 := by
  have hle := h.invariant.epoch_le
  change _ ≤ epochOf st at hle
  rw [Run.epochOf_genesis h hnumber] at hle
  exact UInt64.le_zero_iff.mp hle

private theorem entered_epoch {st st' : State config} {block : Block config} {new : List Event}
    (executed : executeBlock st block = .ok (st', new)) :
    (entered st block.slot).currentSlot / (entered st block.slot).slotsPerEpoch.toUInt64 =
      epochOf st' := by
  obtain ⟨hslot, hslots⟩ := executeBlock_slot executed
  rw [epochOf, hslot, hslots]
  rfl

/-- The first block starts the epoch of the genesis committee. -/
theorem inStep_of_first {genesis : Genesis config} {st st' : State config}
    {events new : List Event} (hrun : Run genesis st events) {block : Block config}
    (executed : executeBlock st block = .ok (st', new)) (hfirst : st.blockNumber = 0) :
    InStep st' := by
  intro _
  have hepoch := hrun.invariant.first executed hfirst
  rw [currentEpochNumber_eq (by rw [(executeBlock_slot executed).2]; exact hrun.invariant.slots)]
    at hepoch
  exact (Except.ok.inj hepoch).symm

/-- After the first block a committee is in step if it is of the same epoch, or
of the next one and there is a next committee to rotate to. -/
theorem epoch_eq_epochOf_iff {genesis : Genesis config} {st st' : State config}
    {events new : List Event} (hrun : Run genesis st events) {block : Block config}
    (increasing : st.blockNumber ≠ 0 → st.currentSlot < block.slot)
    (executed : executeBlock st block = .ok (st', new)) (hfirst : st.blockNumber ≠ 0)
    (hcurrent : st.committee.currentCommittee.epoch = epochOf st) :
    st'.committee.currentCommittee.epoch = epochOf st' ↔ epochOf st' = epochOf st ∨
      (epochOf st').toNat = (epochOf st).toNat + 1 ∧ st.committee.nextCommittee.isSome := by
  have hcommittee : (entered st block.slot).committee = st.committee := if_neg hfirst
  have hentered := entered_epoch executed
  obtain ⟨mid, committee, hst', hproposes, hcase⟩ := executeBlock_cases executed
  have hsame : st'.committee.currentCommittee = mid.committee.currentCommittee := by
    rw [hst']
    exact hproposes.currentCommittee
  rw [hsame]
  rcases hcase with ⟨hdue, rfl, -⟩ | ⟨next, hdue, rfl, -⟩
  · -- no rotation: the committee of the parent stays
    rw [hcommittee, hcurrent]
    constructor
    · intro h
      exact .inl h.symm
    · rintro (h | ⟨hnext, hsome⟩)
      · exact h.symm
      · have hlt : epochOf st < epochOf st' := by
          rw [UInt64.lt_iff_toNat_lt]
          omega
        rw [due, hcommittee, hentered, hcurrent, if_pos hlt] at hdue
        rw [hdue] at hsome
        cases hsome
  · -- a rotation: the epoch of the committee is one higher
    have htoNat := (hrun.invariant.enter increasing).toNat_epoch hdue
    obtain ⟨hnext, hlt⟩ := due_eq_some hdue
    rw [hcommittee] at hnext htoNat hlt
    rw [hcurrent] at htoNat hlt
    rw [hentered] at hlt
    have hlt' := UInt64.lt_iff_toNat_lt.mp hlt
    show next.epoch = epochOf st' ↔ _
    constructor
    · intro h
      exact .inr ⟨by rw [← h, htoNat], by rw [hnext]; rfl⟩
    · rintro (h | ⟨h, -⟩)
      · rw [h] at hlt'
        omega
      · exact UInt64.toNat_inj.mp (by rw [htoNat, h])

/-- One block keeps the committee in step exactly if it keeps up. -/
theorem inStep_iff_keepsUp {genesis : Genesis config} {st st' : State config}
    {events new : List Event} (hrun : Run genesis st events) {block : Block config}
    (increasing : st.blockNumber ≠ 0 → st.currentSlot < block.slot)
    (executed : executeBlock st block = .ok (st', new)) (hstep : InStep st) :
    InStep st' ↔ KeepsUp st st' := by
  by_cases hfirst : st.blockNumber = 0
  · exact iff_of_true (inStep_of_first hrun executed hfirst) fun h => absurd hfirst h
  · have hInStep : InStep st' ↔ st'.committee.currentCommittee.epoch = epochOf st' := by
      rw [InStep, executeBlock_blockNumber executed]
      simp
    have hKeepsUp : KeepsUp st st' ↔ epochOf st' = epochOf st ∨
        (epochOf st').toNat = (epochOf st).toNat + 1 ∧ st.committee.nextCommittee.isSome := by
      rw [KeepsUp]
      simp [hfirst]
    rw [hInStep, hKeepsUp]
    exact epoch_eq_epochOf_iff hrun increasing executed hfirst (hstep hfirst)

/-- A chain is in step all along exactly if every block keeps up. -/
theorem Blocks.inStep_iff {genesis : Genesis config} {best : State config}
    {older : List (State config)} (h : Blocks genesis best older) :
    (∀ st ∈ best :: older, InStep st) ↔ AllKeepUp best older := by
  induction h with
  | start built =>
      refine iff_of_true ?_ trivial
      intro st hst hnumber
      obtain rfl := List.mem_singleton.mp hst
      obtain ⟨-, hzero, -⟩ := build_eq_ok built
      exact absurd hzero hnumber
  | @block st st' older new chain block increasing executed ih =>
      obtain ⟨events, hrun⟩ := chain.run
      rw [AllKeepUp, ← ih, List.forall_mem_cons]
      constructor
      · rintro ⟨hst', hall⟩
        have hst := hall st List.mem_cons_self
        exact ⟨(inStep_iff_keepsUp hrun increasing executed hst).mp hst', hall⟩
      · rintro ⟨hkeeps, hall⟩
        have hst := hall st List.mem_cons_self
        exact ⟨(inStep_iff_keepsUp hrun increasing executed hst).mpr hkeeps, hall⟩

/-! ## Looking up blocks -/

private theorem newer_of_executeBlock {genesis : Genesis config} {st st' : State config}
    {events new : List Event} (hrun : Run genesis st events) {block : Block config}
    (increasing : st.blockNumber ≠ 0 → st.currentSlot < block.slot)
    (executed : executeBlock st block = .ok (st', new)) : Newer st' st := by
  obtain ⟨hslot, hslots⟩ := executeBlock_slot executed
  have hnumber := executeBlock_blockNumber executed
  refine ⟨by omega, fun h => by rw [hslot]; exact increasing h, hslots.symm, ?_⟩
  obtain ⟨mid, committee, rfl, hproposes, hcase⟩ := executeBlock_cases executed
  show _ = committee.currentCommittee ∨ _ < committee.currentCommittee.epoch
  rw [hproposes.currentCommittee]
  -- the first block may raise the epoch of the genesis committee
  have hentered : st.committee.currentCommittee =
        (entered st block.slot).committee.currentCommittee ∨
      st.committee.currentCommittee.epoch <
        (entered st block.slot).committee.currentCommittee.epoch := by
    by_cases hfirst : st.blockNumber = 0
    · have hzero := Run.epoch_genesis hrun hfirst
      by_cases hepoch : block.slot / st.slotsPerEpoch.toUInt64 = 0
      · refine .inl ?_
        simp only [entered, if_pos hfirst, hepoch]
        rw [← hzero]
      · refine .inr ?_
        simp only [entered, if_pos hfirst, hzero]
        exact UInt64.pos_iff_ne_zero.mpr hepoch
    · simp [entered, hfirst]
  rcases hcase with ⟨-, rfl, -⟩ | ⟨next, hdue, rfl, -⟩
  · exact hentered
  · have hepoch := (hrun.invariant.enter increasing).toNat_epoch hdue
    have hlt : (entered st block.slot).committee.currentCommittee.epoch < next.epoch := by
      rw [UInt64.lt_iff_toNat_lt]
      omega
    refine .inr ?_
    rcases hentered with heq | hlt'
    · rwa [heq]
    · exact UInt64.lt_trans hlt' hlt

/-- The blocks of a chain are in order. -/
theorem Blocks.pairwise {genesis : Genesis config} {best : State config}
    {older : List (State config)} (h : Blocks genesis best older) :
    (best :: older).Pairwise Newer := by
  induction h with
  | start built => exact List.pairwise_singleton _ _
  | @block st st' older new chain block increasing executed ih =>
      obtain ⟨events, hrun⟩ := chain.run
      have hst := newer_of_executeBlock hrun increasing executed
      refine List.pairwise_cons.mpr ⟨?_, ih⟩
      intro x hx
      rcases List.mem_cons.mp hx with rfl | hx
      · exact hst
      · exact hst.trans ((List.pairwise_cons.mp ih).1 x hx)

/-- Of two blocks one is newer. -/
theorem Blocks.trichotomy {genesis : Genesis config} {best : State config}
    {older : List (State config)} (h : Blocks genesis best older) {x y : State config}
    (hx : x ∈ best :: older) (hy : y ∈ best :: older) : x = y ∨ Newer x y ∨ Newer y x := by
  have hpairwise := h.pairwise
  refine List.Pairwise.forall_of_forall_of_flip
    (R := fun a b => a = b ∨ Newer a b ∨ Newer b a) ?_ ?_ ?_ hx hy
  · exact fun a _ => .inl rfl
  · exact hpairwise.imp fun hab => .inr (.inl hab)
  · exact hpairwise.imp fun hab => .inr (.inr hab)

/-- All numbers up to the best one are there. -/
theorem Blocks.exists_number {genesis : Genesis config} {best : State config}
    {older : List (State config)} (h : Blocks genesis best older) {number : Nat}
    (hnumber : number ≤ best.blockNumber) : ∃ st ∈ best :: older, st.blockNumber = number := by
  induction h with
  | @start st built =>
      obtain ⟨-, hzero, -⟩ := build_eq_ok built
      exact ⟨st, List.mem_singleton_self st, by omega⟩
  | @block st st' older new chain block increasing executed ih =>
      rw [executeBlock_blockNumber executed] at hnumber
      rcases Nat.lt_or_eq_of_le hnumber with hlt | heq
      · obtain ⟨x, hx, hxn⟩ := ih (by omega)
        exact ⟨x, List.mem_cons_of_mem _ hx, hxn⟩
      · exact ⟨st', List.mem_cons_self, by rw [executeBlock_blockNumber executed, heq]⟩

/-- A block of the chain is found under its number. -/
theorem stateAt_of_mem {genesis : Genesis config} {client : Client config}
    (h : Blocks genesis client.best client.older) {st : State config}
    (hst : st ∈ client.best :: client.older) : client.stateAt st.blockNumber = some st := by
  cases hfind : client.stateAt st.blockNumber with
  | none =>
      have hnone := List.find?_eq_none.mp hfind st hst
      simp at hnone
  | some x =>
      have hx := List.mem_of_find?_eq_some hfind
      have hnumber : x.blockNumber = st.blockNumber := by
        simpa using List.find?_some hfind
      rcases h.trichotomy hst hx with rfl | hnew | hnew
      · rfl
      · exact absurd hnumber (Nat.ne_of_lt hnew.number)
      · exact absurd hnumber (Nat.ne_of_gt hnew.number)

/-- The runtime reports the epoch of its slot. -/
theorem getSidechainStatusEpoch_eq {genesis : Genesis config} {st : State config}
    {events : List Event} (h : Run genesis st events) :
    getSidechainStatusEpoch st = .ok (epochOf st) := by
  rw [getSidechainStatusEpoch, currentEpochNumber_eq h.invariant.slots]
  rfl

/-- A reported epoch is one of a block of the chain. -/
theorem getEpochOfBlock_eq_ok {genesis : Genesis config} {client : Client config}
    (h : Blocks genesis client.best client.older) {number : Nat} {epoch : UInt64}
    (hepoch : client.getEpochOfBlock number = .ok epoch) :
    ∃ st ∈ client.best :: client.older, client.stateAt number = some st ∧ epochOf st = epoch := by
  unfold Client.getEpochOfBlock at hepoch
  cases hst : client.stateAt number with
  | none => simp [hst] at hepoch
  | some st =>
      have hmem := List.mem_of_find?_eq_some hst
      obtain ⟨events, hrun⟩ := h.exists_run_of_mem hmem
      rw [hst] at hepoch
      simp only [getSidechainStatusEpoch_eq hrun] at hepoch
      exact ⟨st, hmem, rfl, Except.ok.inj hepoch⟩

theorem getEpochOfBlock_of_mem {genesis : Genesis config} {client : Client config}
    (h : Blocks genesis client.best client.older) {st : State config}
    (hst : st ∈ client.best :: client.older) :
    client.getEpochOfBlock st.blockNumber = .ok (epochOf st) := by
  obtain ⟨events, hrun⟩ := h.exists_run_of_mem hst
  rw [Client.getEpochOfBlock, stateAt_of_mem h hst]
  exact getSidechainStatusEpoch_eq hrun

/-! ## The result -/

/-- The following epoch is later, unless the number overflows. -/
theorem lt_add_one_of_le {a b : UInt64} (hle : a ≤ b) (hoverflow : b + 1 ≠ 0) : a < b + 1 := by
  rw [UInt64.le_iff_toNat_le] at hle
  rw [UInt64.lt_iff_toNat_lt]
  have hne : (b + 1).toNat ≠ 0 := fun h => hoverflow (UInt64.toNat_inj.mp h)
  rw [UInt64.toNat_add, UInt64.toNat_one] at hne ⊢
  have := b.toNat_lt
  omega

private theorem epochOf_le {genesis : Genesis config} {client : Client config}
    (h : Blocks genesis client.best client.older) {x y : State config}
    (hx : x ∈ client.best :: client.older) (hy : y ∈ client.best :: client.older)
    (hzero : x.blockNumber ≠ 0) (hnumber : x.blockNumber ≤ y.blockNumber) :
    epochOf x ≤ epochOf y := by
  rcases h.trichotomy hx hy with rfl | hnew | hnew
  · exact UInt64.le_refl _
  · exact absurd hnew.number (Nat.not_lt.mpr hnumber)
  · rw [epochOf, epochOf, hnew.slots, UInt64.le_iff_toNat_le, UInt64.toNat_div,
      UInt64.toNat_div]
    exact Nat.div_le_div_right (Nat.le_of_lt (UInt64.lt_iff_toNat_lt.mp (hnew.slot hzero)))

/-- What an answer comes from. -/
theorem queriedCommittee_eq_ok {genesis : Genesis config} {client : Client config}
    (h : Blocks genesis client.best client.older) {errDebug : ApiError → String}
    {find : UInt64 → Except ApiError Nat} (hfind : Finds client find) {epochNumber : UInt64}
    {pair : UInt64 × List Id}
    (hok : queriedCommittee errDebug client find epochNumber = .ok pair) :
    (epochNumber = epochOf client.best + 1 ∧
        getNextCommittee client.best.committee = some pair) ∨
      ∃ st ∈ client.best :: client.older, epochOf st = epochNumber ∧
        pair = getCurrentCommittee st.committee := by
  unfold queriedCommittee at hok
  obtain ⟨second, -, hok⟩ := bind_eq_ok.mp hok
  obtain ⟨firstEpoch, -, hok⟩ := bind_eq_ok.mp hok
  split at hok
  · cases hok
  · obtain ⟨latest, hlatest, hok⟩ := bind_eq_ok.mp hok
    rw [getEpochOfBlock_of_mem h List.mem_cons_self] at hlatest
    obtain rfl : epochOf client.best = latest := Except.ok.inj hlatest
    split at hok
    · cases hok
    split at hok
    next hnext => exact .inl ⟨hnext, okOr_eq_ok.mp hok⟩
    next =>
      obtain ⟨number, hnumber, hok⟩ := bind_eq_ok.mp hok
      obtain ⟨st, hst, hok⟩ := bind_eq_ok.mp hok
      have hepoch := hfind _ _ (mapError_eq_ok.mp hnumber)
      obtain ⟨st', hmem, hst', hepoch'⟩ := getEpochOfBlock_eq_ok h hepoch
      obtain rfl : st' = st := Option.some.inj (hst'.symm.trans (okOr_eq_ok.mp hst))
      exact .inr ⟨st', hmem, hepoch', (Except.ok.inj hok).symm⟩

/-- The answer for an epoch that has blocks, if the search hits one. -/
theorem queriedCommittee_of_mem {genesis : Genesis config} {client : Client config}
    (h : Blocks genesis client.best client.older) (errDebug : ApiError → String)
    {find : UInt64 → Except ApiError Nat} {st : State config}
    (hst : st ∈ client.best :: client.older) (hnumber : st.blockNumber ≠ 0)
    (hfind : find (epochOf st) = .ok st.blockNumber)
    (hoverflow : epochOf client.best + 1 ≠ 0) :
    queriedCommittee errDebug client find (epochOf st) =
      .ok (getCurrentCommittee st.committee) := by
  have hle : st.blockNumber ≤ client.best.blockNumber := by
    rcases List.mem_cons.mp hst with rfl | holder
    · exact Nat.le_refl _
    · exact Nat.le_of_lt ((List.pairwise_cons.mp h.pairwise).1 st holder).number
  obtain ⟨second, hmem, hsecond⟩ := h.exists_number
    (show 1 ≤ client.best.blockNumber by omega)
  have hfirst : epochOf second ≤ epochOf st :=
    epochOf_le h hmem hst (by omega) (by omega)
  have hlatest : epochOf st ≤ epochOf client.best :=
    epochOf_le h hst List.mem_cons_self hnumber hle
  have hlt := lt_add_one_of_le hlatest hoverflow
  have hone : client.stateAt 1 = some second := by
    rw [← hsecond]
    exact stateAt_of_mem h hmem
  obtain ⟨events, hrun⟩ := h.exists_run_of_mem hmem
  simp only [queriedCommittee, hone, okOr, mapErr, getSidechainStatusEpoch_eq hrun,
    getEpochOfBlock_of_mem h List.mem_cons_self, hfind, stateAt_of_mem h hst, Except.mapError,
    bind, Except.bind]
  rw [if_neg (UInt64.not_lt.mpr hfirst), if_neg (UInt64.not_lt.mpr (UInt64.le_of_lt hlt)),
    if_neg (UInt64.ne_of_lt hlt)]

/-- The committee that the chain stored for an epoch: a block has it as the
current committee, or the best block as the next one. -/
def StoredFor (client : Client config) (epoch : UInt64)
    (info : CommitteeInfo Id Keys config.maxValidators) : Prop :=
  info.epoch = epoch ∧ (client.best.committee.nextCommittee = some info ∨
    ∃ st ∈ client.best :: client.older, st.committee.currentCommittee = info)

private theorem epoch_le_best {genesis : Genesis config} {client : Client config}
    (h : Blocks genesis client.best client.older) {st : State config}
    (hst : st ∈ client.best :: client.older) :
    st.committee.currentCommittee.epoch ≤ client.best.committee.currentCommittee.epoch := by
  rcases List.mem_cons.mp hst with rfl | holder
  · exact UInt64.le_refl _
  · rcases ((List.pairwise_cons.mp h.pairwise).1 st holder).committee with heq | hlt
    · rw [heq]
      exact UInt64.le_refl _
    · exact UInt64.le_of_lt hlt

/-- At most one committee is stored for an epoch. -/
theorem StoredFor.unique {genesis : Genesis config} {client : Client config}
    (h : Blocks genesis client.best client.older) {epoch : UInt64} (hepoch : epoch ≠ 0)
    {info other : CommitteeInfo Id Keys config.maxValidators}
    (hinfo : StoredFor client epoch info) (hother : StoredFor client epoch other) :
    other = info := by
  -- the next committee is later than all current ones
  have hlater : ∀ next, client.best.committee.nextCommittee = some next → next.epoch ≠ 0 →
      ∀ st ∈ client.best :: client.older, st.committee.currentCommittee.epoch ≠ next.epoch := by
    intro next hnext hzero st hst heq
    obtain ⟨events, hrun⟩ := h.run
    have hnextEpoch := hrun.invariant.next_epoch next hnext
    rw [hnextEpoch] at heq hzero
    exact UInt64.ne_of_lt (lt_add_one_of_le (epoch_le_best h hst) hzero) heq
  obtain ⟨rfl, hnext | ⟨x, hx, rfl⟩⟩ := hinfo
  · obtain ⟨hsame, hnext' | ⟨y, hy, rfl⟩⟩ := hother
    · exact Option.some.inj (hnext'.symm.trans hnext)
    · exact absurd hsame (hlater info hnext hepoch y hy)
  · obtain ⟨hsame, hnext' | ⟨y, hy, rfl⟩⟩ := hother
    · exact absurd hsame.symm (hlater other hnext' (by rwa [hsame]) x hx)
    · -- of two blocks the newer one has the same committee or one of a later epoch
      rcases h.trichotomy hx hy with rfl | hnew | hnew
      · rfl
      · exact hnew.committee.resolve_right fun hlt => UInt64.ne_of_lt hlt hsame
      · exact (hnew.committee.resolve_right fun hlt => UInt64.ne_of_lt hlt hsame.symm).symm

/-- Every answer is the committee that was stored for the epoch. -/
def ReportsStored (errDebug : ApiError → String) (toHex : Id → String) (client : Client config)
    (find : UInt64 → Except ApiError Nat) (epoch : UInt64) : Prop :=
  ∀ response, getEpochCommittee errDebug toHex client find epoch = .ok response →
    ∃ info, StoredFor client epoch info ∧ (∀ other, StoredFor client epoch other → other = info) ∧
      response = .new toHex epoch (info.committee.items.map Prod.fst)

private theorem reportsStored_of_inStep {genesis : Genesis config} {client : Client config}
    (h : Blocks genesis client.best client.older)
    (hstep : ∀ st ∈ client.best :: client.older, InStep st) (errDebug : ApiError → String)
    (toHex : Id → String) {find : UInt64 → Except ApiError Nat} (hfind : Finds client find)
    {epoch : UInt64} (hepoch : epoch ≠ 0) : ReportsStored errDebug toHex client find epoch := by
  intro response hresponse
  rw [getEpochCommittee, if_neg hepoch] at hresponse
  obtain ⟨pair, hpair, hresponse⟩ := bind_eq_ok.mp hresponse
  obtain rfl : GetCommitteeResponse.new toHex epoch pair.2 = response := Except.ok.inj hresponse
  suffices hstored : ∃ info, StoredFor client epoch info ∧
      pair.2 = info.committee.items.map Prod.fst by
    obtain ⟨info, hinfo, heq⟩ := hstored
    exact ⟨info, hinfo, fun other hother => hinfo.unique h hepoch hother, by rw [heq]⟩
  rcases queriedCommittee_eq_ok h hfind hpair with ⟨rfl, hnext⟩ | ⟨st, hst, rfl, rfl⟩
  · obtain ⟨info, hinfo, rfl⟩ := Option.map_eq_some_iff.mp hnext
    obtain ⟨events, hrun⟩ := h.run
    have hnumber : client.best.blockNumber ≠ 0 := by
      intro hzero
      rw [hrun.invariant.unset hzero] at hinfo
      cases hinfo
    refine ⟨info, ⟨?_, .inl hinfo⟩, rfl⟩
    rw [hrun.invariant.next_epoch info hinfo, hstep _ List.mem_cons_self hnumber]
  · obtain ⟨events, hrun⟩ := h.exists_run_of_mem hst
    have hnumber : st.blockNumber ≠ 0 := fun hzero => hepoch (Run.epochOf_genesis hrun hzero)
    exact ⟨st.committee.currentCommittee, ⟨hstep st hst hnumber, .inr ⟨st, hst, rfl⟩⟩, rfl⟩

/-- A block that is not in step can be hit. -/
theorem inStep_of_queriedCommittee {genesis : Genesis config} {client : Client config}
    (h : Blocks genesis client.best client.older) (hoverflow : epochOf client.best + 1 ≠ 0)
    {errDebug : ApiError → String}
    (hquery : ∀ find, Finds client find → ∀ epoch, epoch ≠ 0 → ∀ stored committee,
      queriedCommittee errDebug client find epoch = .ok (stored, committee) → stored = epoch)
    {st : State config} (hst : st ∈ client.best :: client.older) : InStep st := by
  intro hnumber
  obtain ⟨events, hrun⟩ := h.exists_run_of_mem hst
  have hle : st.committee.currentCommittee.epoch ≤ epochOf st := hrun.invariant.epoch_le
  by_cases hzero : epochOf st = 0
  · rw [hzero] at hle ⊢
    exact UInt64.le_zero_iff.mp hle
  · let find : UInt64 → Except ApiError Nat := fun epoch =>
      if epoch = epochOf st then .ok st.blockNumber else .error .runtime
    have hfind : Finds client find := by
      intro epoch number hok
      simp only [find] at hok
      split at hok
      next heq =>
        obtain rfl := Except.ok.inj hok
        rw [heq]
        exact getEpochOfBlock_of_mem h hst
      next => cases hok
    exact hquery find hfind (epochOf st) hzero _ _
      (queriedCommittee_of_mem h errDebug hst hnumber (if_pos rfl) hoverflow)

/-- If every block keeps up, the query returns the one committee that the chain
stored for the epoch, whichever block of the epoch the search hits.  If some
block does not, the search may hit one with the committee of another epoch. -/
theorem getEpochCommittee_stored {genesis : Genesis config} {client : Client config}
    (h : Blocks genesis client.best client.older) (errDebug : ApiError → String)
    (toHex : Id → String) :
    (AllKeepUp client.best client.older → ∀ find, Finds client find → ∀ epoch, epoch ≠ 0 →
        ReportsStored errDebug toHex client find epoch) ∧
      (epochOf client.best + 1 ≠ 0 →
        (∀ find, Finds client find → ∀ epoch, epoch ≠ 0 → ∀ stored committee,
          queriedCommittee errDebug client find epoch = .ok (stored, committee) →
            stored = epoch) →
        AllKeepUp client.best client.older) := by
  constructor
  · intro hkeeps find hfind epoch hepoch
    exact reportsStored_of_inStep h (h.inStep_iff.mpr hkeeps) errDebug toHex hfind hepoch
  · intro hoverflow hquery
    exact h.inStep_iff.mp fun st hst => inStep_of_queriedCommittee h hoverflow hquery hst

end Chain

/-! ## An epoch without blocks

After the first block of `CommitteeRun` the chain stops until epoch 4.  The
committee of epoch 3 is in charge of that block, which stores the one of
epoch 4. -/

theorem firstState_blocks : Blocks exampleGenesis firstState [genesisState] :=
  Blocks.block (Blocks.start rfl) firstBlock (by decide) rfl

/-- The block that enters epoch four with the committee for it. -/
def lateBlock : Block exampleConfig :=
  ⟨20, [⟨.none, .set (BoundedVec.truncateFrom 32 [(4, ())]) 4⟩]⟩

/-- A chain of three blocks with an epoch left out. -/
def lateClient : Client exampleConfig where
  best :=
    { rotated (entered firstState 20) ⟨3, BoundedVec.truncateFrom 32 [(3, ())]⟩ with
      committee :=
        { currentCommittee := ⟨3, BoundedVec.truncateFrom 32 [(3, ())]⟩
          nextCommittee := some ⟨4, BoundedVec.truncateFrom 32 [(4, ())]⟩
          mainChainScriptsConfiguration := exampleScripts } }
  older := [firstState, genesisState]

/-- Two digits for a small identifier. -/
def exampleHex (id : Nat) : String := String.ofList ['0', Nat.digitChar id]

/-- An epoch was left out, and the committee of the one before is reported for it. -/
theorem getEpochCommittee_late :
    Blocks exampleGenesis lateClient.best lateClient.older ∧
      getEpochCommittee (fun _ => "") exampleHex lateClient lateClient.findBlock 4 =
        .ok ⟨4, [⟨"03"⟩]⟩ ∧
      StoredFor lateClient 4 ⟨4, BoundedVec.truncateFrom 32 [(4, ())]⟩ ∧
      ¬ ReportsStored (fun _ => "") exampleHex lateClient lateClient.findBlock 4 := by
  have hblocks : Blocks exampleGenesis lateClient.best lateClient.older :=
    Blocks.block firstState_blocks lateBlock (by decide) rfl
  have hanswer : getEpochCommittee (fun _ => "") exampleHex lateClient lateClient.findBlock 4 =
      .ok ⟨4, [⟨"03"⟩]⟩ := by decide +kernel
  have hstored : StoredFor lateClient 4 ⟨4, BoundedVec.truncateFrom 32 [(4, ())]⟩ :=
    ⟨rfl, .inl rfl⟩
  refine ⟨hblocks, hanswer, hstored, ?_⟩
  intro hreports
  obtain ⟨info, -, hunique, hresponse⟩ := hreports _ hanswer
  rw [← hunique _ hstored] at hresponse
  exact absurd hresponse (by decide +kernel)

/-- With the second block of `CommitteeRun` instead, the committee of epoch 3
is returned for its block. -/
def promptClient : Client exampleConfig :=
  ⟨rotated (entered firstState 15) ⟨3, BoundedVec.truncateFrom 32 [(3, ())]⟩,
    [firstState, genesisState]⟩

/-- With a block in every epoch the stored committee is reported. -/
theorem getEpochCommittee_stored_prompt :
    ReportsStored (fun _ => "") exampleHex promptClient promptClient.findBlock 3 ∧
      getEpochCommittee (fun _ => "") exampleHex promptClient promptClient.findBlock 3 =
        .ok ⟨3, [⟨"03"⟩]⟩ := by
  have hblocks : Blocks exampleGenesis promptClient.best promptClient.older :=
    Blocks.block firstState_blocks secondBlock (by decide) rfl
  have hkeeps : AllKeepUp promptClient.best promptClient.older :=
    ⟨fun _ => .inr (by decide), fun h => absurd rfl h, trivial⟩
  refine ⟨?_, by decide +kernel⟩
  exact (getEpochCommittee_stored hblocks (fun _ => "") exampleHex).1 hkeeps _
    (finds_findBlock promptClient) 3 (by decide)

end PartnerChains.Ports.EpochCommittee
