import PartnerChains.Ports.AcceptedChain

/-!
# Catching up after missed epochs

When epochs pass without blocks, the committee stays behind.  An honest author
includes the call that `create_inherent` yields, so every block that rotates
the committee also brings the following one, and the next block can rotate
again.

`HonestBlock.step` says what one honest block does, and `HonestBlocks.caughtUp`
what any number of them do in one epoch: the committee moves on by one epoch
with every block until it has reached the epoch, and every committee that was
stored for one of these epochs takes office.
-/

namespace PartnerChains.Ports.CatchUp

open PartnerChains.Ports.CommitteePallet
open PartnerChains.Ports.SessionPallet
open PartnerChains.Ports.CommitteeRun
open PartnerChains.Ports.CommitteeInherent
open PartnerChains.Ports.AcceptedChain

variable {Id Keys Account H A Inputs : Type} {config : Config Id Keys Account H A}

/-! ## Honest blocks -/

section Honest

variable [DecidableEq Account]
  (selectAuthorities : Inputs → UInt64 → Option (BoundedVec (Id × Keys) config.maxValidators))

/-- After the hooks of the block the author has inputs for the selection, puts
the inherent that is created from them first, and adds no `set` call. -/
def HonestBlock (st : State config) (block : Block config) : Prop :=
  ∃ mid events inputs call rest, initializeBlock st block.slot = .ok (mid, events) ∧
    createInherent selectAuthorities (some (some inputs)) mid.committee = .ok call ∧
    block.extrinsics = call.toList.map (fun call => ⟨.none, call⟩) ++ rest ∧ ¬ HasSet rest

/-- From `st` by honest blocks of the epoch `E` to a state.  The list has the
states before each of the blocks, the newest one first. -/
inductive HonestBlocks (E : UInt64) (st : State config) :
    State config → List (State config) → List Event → Prop where
  | nil : HonestBlocks E st st [] []
  | cons {mid st' : State config} {older : List (State config)} {events new : List Event}
      (blocks : HonestBlocks E st mid older events) (block : Block config)
      (increasing : mid.currentSlot < block.slot)
      (epoch : block.slot / mid.slotsPerEpoch.toUInt64 = E)
      (honest : HonestBlock selectAuthorities mid block)
      (executed : executeBlock mid block = .ok (st', new)) :
      HonestBlocks E st st' (mid :: older) (events ++ new)

end Honest

/-! ## What they lead to -/

/-- If the committee is behind, the one that was stored takes office for the
following epoch; otherwise both stay. -/
structure TakesOver (E : UInt64) (parent st : State config) : Prop where
  behind : parent.committee.currentCommittee.epoch < E →
    parent.committee.nextCommittee = some st.committee.currentCommittee ∧
      st.committee.currentCommittee.epoch.toNat =
        parent.committee.currentCommittee.epoch.toNat + 1
  there : ¬ parent.committee.currentCommittee.epoch < E →
    st.committee.currentCommittee = parent.committee.currentCommittee ∧
      st.committee.nextCommittee = parent.committee.nextCommittee
  validators : st.session.validatorsAndKeys = accountsOf config st.committee.currentCommittee

/-- Every block takes over from the one before it. -/
def Succession (E : UInt64) : State config → List (State config) → Prop
  | _, [] => True
  | st, parent :: older => TakesOver E parent st ∧ Succession E parent older

/-- The committee has moved on by one epoch with every block until it reached `E`,
with one session for each of them, and its successor is stored. -/
structure CaughtUp (E : UInt64) (st st' : State config) (older : List (State config))
    (events : List Event) : Prop where
  epoch : st'.committee.currentCommittee.epoch.toNat =
    min (st.committee.currentCommittee.epoch.toNat + older.length) E.toNat
  next : ∃ next, st'.committee.nextCommittee = some next ∧
    next.epoch = st'.committee.currentCommittee.epoch + 1
  sessions : rotations events =
    min older.length (E.toNat - st.committee.currentCommittee.epoch.toNat)
  succession : Succession E st' older

/-! ## One block -/

/-- Without `set` calls nothing can fail. -/
theorem applyExtrinsics_of_not_hasSet (st : State config) {extrinsics : List (Extrinsic config)}
    (h : ¬ HasSet extrinsics) : ∃ st', applyExtrinsics st extrinsics = .ok st' := by
  induction extrinsics generalizing st with
  | nil => exact ⟨st, rfl⟩
  | cons extrinsic rest ih =>
      have hcall : isInherent extrinsic.call = false := by
        by_contra hset
        exact h ⟨extrinsic, List.mem_cons_self, by simpa using hset⟩
      have hrest : ¬ HasSet rest := fun ⟨x, hx, hset⟩ => h ⟨x, List.mem_cons_of_mem _ hx, hset⟩
      have happly : ∃ st₁, applyExtrinsic st extrinsic = .ok st₁ := by
        cases hsome : extrinsic.call with
        | set validators epoch =>
            rw [hsome] at hcall
            cases hcall
        | setMainChainScripts address dParameter permissionedCandidates =>
            unfold applyExtrinsic
            rw [hsome]
            cases dispatch extrinsic.origin
                (.setMainChainScripts address dParameter permissionedCandidates) st.committee with
            | ok committee => exact ⟨_, rfl⟩
            | error e => exact ⟨_, rfl⟩
      obtain ⟨st₁, happly⟩ := happly
      obtain ⟨st', hst'⟩ := ih st₁ hrest
      exact ⟨st', applyExtrinsics_cons_eq_ok.mpr ⟨st₁, happly, hst'⟩⟩

section Step

variable [DecidableEq Account]
  {selectAuthorities : Inputs → UInt64 → Option (BoundedVec (Id × Keys) config.maxValidators)}
  {st st' : State config} {block : Block config} {events new : List Event}

/-- An honest block can be executed. -/
theorem HonestBlock.executes (h : HonestBlock selectAuthorities st block) :
    ∃ st' new, executeBlock st block = .ok (st', new) := by
  obtain ⟨mid, events, inputs, call, rest, hinit, hcreate, hextrinsics, hrest⟩ := h
  have happly : ∃ st', applyExtrinsics mid block.extrinsics = .ok st' := by
    rw [hextrinsics]
    cases call with
    | none => exact applyExtrinsics_of_not_hasSet mid hrest
    | some call =>
        obtain ⟨committee, hdispatch, -⟩ := createInherent_dispatches selectAuthorities hcreate
        obtain ⟨st', hst'⟩ := applyExtrinsics_of_not_hasSet
          ({ mid with committee := committee } : State config) hrest
        refine ⟨st', applyExtrinsics_cons_eq_ok.mpr ⟨_, ?_, hst'⟩⟩
        simp only [applyExtrinsic, hdispatch]
  obtain ⟨st', hst'⟩ := happly
  refine ⟨st', events, ?_⟩
  rw [executeBlock_of_initializeBlock block hinit, hst']
  rfl

/-- The place of the next committee is filled by an honest block. -/
theorem HonestBlock.nextCommittee (h : HonestBlock selectAuthorities st block)
    {mid : State config} (hinit : initializeBlock st block.slot = .ok (mid, new))
    (happly : applyExtrinsics mid block.extrinsics = .ok st') :
    (mid.committee.nextCommittee.isSome ∧
        st'.committee.nextCommittee = mid.committee.nextCommittee) ∨
      (mid.committee.nextCommittee = none ∧ st'.committee.nextCommittee.isSome) := by
  obtain ⟨mid', events, inputs, call, rest, hinit', hcreate, hextrinsics, hrest⟩ := h
  obtain ⟨rfl, rfl⟩ := Prod.mk.inj (Except.ok.inj (hinit'.symm.trans hinit))
  cases hnext : mid'.committee.nextCommittee with
  | some next =>
      -- nothing is created, so the block has no `set` call
      obtain rfl : call = none := by
        simp only [createInherent, hnext, Option.isSome_some, if_true, Except.ok.injEq] at hcreate
        exact hcreate.symm
      rw [Option.toList_none, List.map_nil, List.nil_append] at hextrinsics
      rcases applyExtrinsics_nextCommittee happly with ⟨-, hkept⟩ |
          ⟨extrinsic, hmem, validators, hcall, -⟩
      · exact .inl ⟨rfl, hkept.trans hnext⟩
      · rw [hextrinsics] at hmem
        exact absurd ⟨extrinsic, hmem, by rw [hcall]; rfl⟩ hrest
  | none =>
      -- a `set` call is created, and it is the only one
      refine .inr ⟨rfl, ?_⟩
      obtain rfl := Except.ok.inj
        (hcreate.symm.trans (createInherent_of_none selectAuthorities hnext inputs))
      have hset : HasSet block.extrinsics := by
        rw [hextrinsics]
        exact ⟨_, List.mem_cons_self, rfl⟩
      rcases applyExtrinsics_nextCommittee happly with ⟨hnone, -⟩ |
          ⟨extrinsic, hmem, validators, hcall, hstored⟩
      · exact absurd hset hnone
      · rw [hstored]
        rfl

/-- One honest block while the next committee is stored. -/
theorem HonestBlock.step (h : HonestBlock selectAuthorities st block)
    (hnumber : st.blockNumber ≠ 0) {next : CommitteeInfo Id Keys config.maxValidators}
    (hnext : st.committee.nextCommittee = some next)
    (hexecute : executeBlock st block = .ok (st', new)) :
    (st.committee.currentCommittee.epoch < block.slot / st.slotsPerEpoch.toUInt64 ∧
        st'.committee.currentCommittee = next ∧ st'.committee.nextCommittee.isSome ∧
        rotations new = 1) ∨
      (¬ st.committee.currentCommittee.epoch < block.slot / st.slotsPerEpoch.toUInt64 ∧
        st'.committee.currentCommittee = st.committee.currentCommittee ∧
        st'.committee.nextCommittee = st.committee.nextCommittee ∧ rotations new = 0) := by
  obtain ⟨mid, hinit, happly⟩ := executeBlock_eq_ok hexecute
  obtain ⟨committee, hst', hproposes⟩ := applyExtrinsics_proposes happly
  have hcurrent : st'.committee.currentCommittee = mid.committee.currentCommittee := by
    rw [hst']
    exact hproposes.currentCommittee
  have hcommittee : (entered st block.slot).committee = st.committee := if_neg hnumber
  have hfilled := h.nextCommittee hinit happly
  rw [hcurrent]
  rcases initializeBlock_eq_ok hinit with ⟨hdue, rfl, rfl⟩ | ⟨next', hdue, rfl, rfl⟩
  · rw [due, hcommittee, hnext] at hdue
    refine .inr ⟨?_, by rw [hcommittee], ?_, rfl⟩
    · intro hlt
      have hentered : st.committee.currentCommittee.epoch <
          (entered st block.slot).currentSlot /
            (entered st block.slot).slotsPerEpoch.toUInt64 := hlt
      rw [if_pos hentered] at hdue
      cases hdue
    · rw [hcommittee] at hfilled
      rcases hfilled with ⟨-, hkept⟩ | ⟨hnone, -⟩
      · exact hkept
      · rw [hnext] at hnone
        cases hnone
  · obtain ⟨hsome, hlt⟩ := due_eq_some hdue
    rw [hcommittee] at hsome hlt
    obtain rfl : next = next' := Option.some.inj (hnext.symm.trans hsome)
    refine .inl ⟨hlt, rfl, ?_, rfl⟩
    rcases hfilled with ⟨hsome, -⟩ | ⟨-, hstored⟩
    · cases hsome
    · exact hstored

/-! ## Any number of blocks -/

variable {E : UInt64} {older : List (State config)} {genesis : Genesis config}

private theorem toNat_add_one_of_lt {a b : UInt64} (h : a < b) : (a + 1).toNat = a.toNat + 1 := by
  have hlt := UInt64.lt_iff_toNat_lt.mp h
  have hbound := b.toNat_lt
  rw [UInt64.toNat_add]
  simp only [UInt64.reduceToNat]
  omega

/-- The committee has caught up by one more epoch, or had reached it before. -/
theorem CaughtUp.cons {mid : State config} {before after : List Event}
    (h : CaughtUp E st mid older before) (hrun : Run genesis mid events)
    (increasing : mid.currentSlot < block.slot)
    (hepoch : block.slot / mid.slotsPerEpoch.toUInt64 = E)
    (honest : HonestBlock selectAuthorities mid block)
    (hexecute : executeBlock mid block = .ok (st', after))
    (hle : st.committee.currentCommittee.epoch.toNat ≤ E.toNat) :
    CaughtUp E st st' (mid :: older) (before ++ after) := by
  obtain ⟨next, hnext, hfollows⟩ := h.next
  have hnumber : mid.blockNumber ≠ 0 := by
    intro hzero
    rw [hrun.invariant.unset hzero] at hnext
    cases hnext
  have hinv := (Run.block block hrun (fun _ => increasing) hexecute).invariant
  have hreached := h.epoch
  have hsessions := h.sessions
  have hstep := honest.step hnumber hnext hexecute
  rw [hepoch] at hstep
  have hcount : rotations (before ++ after) = rotations before + rotations after :=
    List.length_append
  rcases hstep with ⟨hlt, hcurrent, hstored, hone⟩ | ⟨hnot, hcurrent, hkept, hzero⟩
  · -- the committee is behind: the next one takes office
    have hraise : st'.committee.currentCommittee.epoch.toNat =
        mid.committee.currentCommittee.epoch.toNat + 1 := by
      rw [hcurrent, hfollows, toNat_add_one_of_lt hlt]
    have hlt' := UInt64.lt_iff_toNat_lt.mp hlt
    obtain ⟨following, hfollowing⟩ := Option.isSome_iff_exists.mp hstored
    refine ⟨?_, ⟨following, hfollowing, hinv.next_epoch following hfollowing⟩, ?_, ⟨?_, ?_, ?_⟩,
      h.succession⟩
    · rw [hraise, List.length_cons]
      omega
    · rw [hcount, hone, List.length_cons]
      omega
    · exact fun _ => ⟨by rw [hnext, hcurrent], hraise⟩
    · exact fun hnot => absurd hlt hnot
    · exact hinv.validators
  · -- the committee is that of the epoch: everything stays
    have hge := Nat.not_lt.mp (mt UInt64.lt_iff_toNat_lt.mpr hnot)
    refine ⟨?_, ⟨next, hkept.trans hnext, ?_⟩, ?_, ⟨?_, ?_, ?_⟩, h.succession⟩
    · rw [hcurrent, List.length_cons]
      omega
    · rw [hcurrent]
      exact hfollows
    · rw [hcount, hzero, List.length_cons]
      omega
    · exact fun hlt => absurd hlt hnot
    · exact fun _ => ⟨hcurrent, hkept⟩
    · exact hinv.validators

/-- From every reachable state with a next committee, honest blocks of one epoch
catch up by one epoch each, and the next one can always be executed. -/
theorem HonestBlocks.caughtUp (hrun : Run genesis st events)
    (hstored : st.committee.nextCommittee.isSome)
    (hbehind : st.committee.currentCommittee.epoch < E)
    (h : HonestBlocks selectAuthorities E st st' older new) :
    CaughtUp E st st' older new ∧
      ∀ block, HonestBlock selectAuthorities st' block →
        ∃ st'' after, executeBlock st' block = .ok (st'', after) := by
  have hle := Nat.le_of_lt (UInt64.lt_iff_toNat_lt.mp hbehind)
  refine ⟨?_, fun block honest => honest.executes⟩
  suffices hall : (∃ events, Run genesis st' events) ∧ CaughtUp E st st' older new from hall.2
  induction h with
  | nil =>
      obtain ⟨next, hnext⟩ := Option.isSome_iff_exists.mp hstored
      refine ⟨⟨events, hrun⟩, ?_, ⟨next, hnext, hrun.invariant.next_epoch next hnext⟩, ?_, trivial⟩
      · rw [List.length_nil]
        omega
      · rw [List.length_nil, Nat.zero_min]
        rfl
  | cons blocks block increasing epoch honest executed ih =>
      obtain ⟨⟨before, hmid⟩, hcaught⟩ := ih
      exact ⟨⟨_, Run.block block hmid (fun _ => increasing) executed⟩,
        hcaught.cons hmid increasing epoch honest executed hle⟩

end Step

/-! ## Three missed epochs

The committee of epoch 3 is stored in epoch 2, and the next block is in epoch
5. -/

/-- A selection that names the epoch it was made for. -/
def selectEpoch : Unit → UInt64 → Option (BoundedVec (Nat × Unit) exampleConfig.maxValidators) :=
  fun _ epoch => some (BoundedVec.truncateFrom 32 [(epoch.toNat, ())])

/-- A block whose inherent sets the committee selected for the epoch. -/
def lateBlock (slot epoch : UInt64) : Block exampleConfig :=
  ⟨slot, [⟨.none, .set (BoundedVec.truncateFrom 32 [(epoch.toNat, ())]) epoch⟩]⟩

/-- The state after late blocks up to a slot, with the committee of an epoch in
office. -/
def lateState (st : State exampleConfig) (slot : UInt64)
    (current next : CommitteeInfo Nat Unit exampleConfig.maxValidators) : State exampleConfig :=
  let mid := rotated (entered st slot) current
  { mid with committee := { mid.committee with nextCommittee := some next } }

/-- A committee of one member. -/
def committeeOf (epoch : UInt64) (id : Nat) :
    CommitteeInfo Nat Unit exampleConfig.maxValidators :=
  ⟨epoch, BoundedVec.truncateFrom 32 [(id, ())]⟩

/-- Two blocks move the committee from epoch two to four. -/
theorem caughtUp_late : ∃ st' older new,
    HonestBlocks selectEpoch 5 firstState st' older new ∧ older.length = 2 ∧
      st'.committee.currentCommittee.epoch.toNat = 4 ∧ rotations new = 2 := by
  have hfirst : HonestBlocks selectEpoch 5 firstState
      (lateState firstState 25 (committeeOf 3 3) (committeeOf 4 4)) [firstState]
      [.newSession 1] := by
    refine HonestBlocks.cons .nil (lateBlock 25 4) (by decide) (by decide) ?_ rfl
    exact ⟨_, _, (), _, [], rfl, rfl, rfl, by simp [HasSet]⟩
  have hsecond := HonestBlocks.cons hfirst (lateBlock 26 5) (by decide) (by decide)
    ⟨_, _, (), _, [], rfl, rfl, rfl, by simp [HasSet]⟩ rfl
  have hcaught := (HonestBlocks.caughtUp firstState_run rfl (by decide) hsecond).1
  exact ⟨_, _, _, hsecond, rfl, hcaught.epoch, hcaught.sessions⟩

end PartnerChains.Ports.CatchUp
