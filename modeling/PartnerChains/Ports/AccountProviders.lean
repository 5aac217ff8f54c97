import PartnerChains.Ports.CommitteeRun

/-!
# Account providers of the session pallet

The session pallet is to hold one provider reference on the account of every
validator, and `change_account_providers` is to be given the validators before and
after the rotation.  `rotate_validators` stores the new validators first and then
reads the old ones from storage, so both lists are the new one and no reference is
ever added or removed (`Run.accounts_eq`).
-/

namespace PartnerChains.Ports.AccountProviders

open PartnerChains.Ports.CommitteePallet
open PartnerChains.Ports.SessionPallet
open PartnerChains.Ports.CommitteeRun

variable {Id Keys Account H A : Type} [DecidableEq Account]

/-- Numbers of provider references.  `dec_providers` fails without one. -/
def providerCounts : AccountReferences (Account → Nat) Account where
  incProviders account counts := Function.update counts account (counts account + 1)
  decProviders account counts :=
    if counts account = 0 then none
    else some (Function.update counts account (counts account - 1))

/-- The configuration, with the references counted. -/
def counting (config : Config Id Keys Account H A) : Config Id Keys Account H (Account → Nat) where
  maxValidators := config.maxValidators
  into := config.into
  sessionHandler := config.sessionHandler
  accountReferences := providerCounts
  polkadotJsCompat := config.polkadotJsCompat

/-- One reference for each account of the list, on top of `base`. -/
def Holds (base counts : Account → Nat) (ids : List Account) : Prop :=
  ∀ account, counts account = base account + if account ∈ ids then 1 else 0

/-! ## Along a run -/

/-- No block changes the references. -/
theorem Run.accounts_eq {config : Config Id Keys Account H A} {genesis : Genesis config}
    {st : State config} {events : List Event} (h : Run genesis st events) :
    st.accounts = genesis.accounts := by
  induction h with
  | start built =>
      obtain ⟨-, -, -, -, -, haccounts⟩ := build_eq_ok built
      exact haccounts
  | block block run increasing executed ih =>
      obtain ⟨mid, committee, rfl, -, hcase⟩ := executeBlock_cases executed
      rw [← ih]
      rcases hcase with ⟨-, rfl, -⟩ | ⟨next, -, rfl, -⟩
      · rfl
      · rfl

/-- Nothing is decremented at genesis. -/
theorem build_ne_decProviders {config : Config Id Keys Account H A} (genesis : Genesis config) :
    genesis.build ≠ .error .decProviders := by
  by_cases hslots : genesis.slotsPerEpoch = 0
  · simp [Genesis.build, rotateValidators_eq, startSession, currentEpochNumber,
      Domain.epochNumber, hslots, bind, Except.bind]
  · simp only [Genesis.build, rotateValidators_eq, bind, Except.bind]
    rw [startSession_eq]
    · simp
    · exact hslots

/-- Along every run no `dec_providers` fails, and the references are those of
the validators exactly while there are no validators. -/
theorem Run.providers_iff {config : Config Id Keys Account H A}
    {genesis : Genesis (counting config)} {st : State (counting config)} {events : List Event}
    (h : Run genesis st events) :
    (Holds genesis.accounts st.accounts (st.session.validatorsAndKeys.map Prod.fst) ↔
        st.session.validatorsAndKeys = []) ∧
      genesis.build ≠ .error .decProviders ∧
      ∀ block, executeBlock st block ≠ .error (.panic .decProviders) := by
  refine ⟨?_, build_ne_decProviders genesis, ?_⟩
  · rw [Run.accounts_eq h]
    constructor
    · intro hholds
      cases hvalidators : st.session.validatorsAndKeys with
      | nil => rfl
      | cons validator rest =>
          have hcount := hholds validator.1
          simp [hvalidators] at hcount
    · intro hempty account
      simp [hempty]
  · intro block
    exact executeBlock_not_panic h.invariant.slots block _

/-! ## A committee of one, and a rotation -/

/-- One member is in the genesis committee. -/
def oneMember : Genesis (counting exampleConfig) :=
  ⟨fun _ => 0, (), 5, ⟨[(1, ())], exampleScripts⟩, 0, []⟩

/-- The member of the genesis committee gets no reference. -/
theorem oneMember_accounts :
    ∃ st, oneMember.build = .ok st ∧ st.session.validatorsAndKeys = [(101, ())] ∧
      ¬ Holds oneMember.accounts st.accounts (st.session.validatorsAndKeys.map Prod.fst) := by
  refine ⟨_, rfl, rfl, ?_⟩
  intro hholds
  cases hholds 101

/-- Two members are in the genesis committee. -/
def twoMembers : Genesis (counting exampleConfig) :=
  ⟨fun _ => 0, (), 5, ⟨[(1, ()), (2, ())], exampleScripts⟩, 0, []⟩

/-- The committee of epoch 3 is stored in epoch 2 and takes over in epoch 3. -/
theorem providers_iff_rotation :
    ∃ st events, Run twoMembers st events ∧ rotations events = 1 ∧
      st.session.validatorsAndKeys = [(103, ())] ∧
      (Holds twoMembers.accounts st.accounts (st.session.validatorsAndKeys.map Prod.fst) ↔
        st.session.validatorsAndKeys = []) := by
  have hfirst : Run twoMembers _ _ :=
    Run.block ⟨11, [⟨.none, .set (BoundedVec.truncateFrom 32 [(3, ())]) 3⟩]⟩ (Run.start rfl)
      (by decide) rfl
  have hsecond := Run.block ⟨15, []⟩ hfirst (by decide) rfl
  exact ⟨_, _, hsecond, rfl, rfl, (Run.providers_iff hsecond).1⟩

end PartnerChains.Ports.AccountProviders
