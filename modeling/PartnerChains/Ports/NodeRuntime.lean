import PartnerChains.Ports.CommitteeInherent
import PartnerChains.Ports.NativeTokenPallet

/-!
# The inherents of the node's runtime

Four pallets of the runtime have inherents: Timestamp,
SessionCommitteeManagement, BlockRewards and NativeTokenManagement, in this
order.  The author of a block creates their calls with `inherent_extrinsics`
after the hooks of the block; a node that imports it calls `check_inherents`
in the state of the parent, with inherent data of its own.

How the framework goes through pallets and extrinsics is as it documents it:
the unsigned inherent calls at the front of the block are checked, then each
pallet is asked whether it requires a call.  All errors of these pallets are
fatal, so the first one decides.  `pallet_timestamp` and the codecs of the
inherent data are libraries; they are parameters.

`checkInherents_inherentExtrinsics` says that the two nodes agree on a block
without further inherents, as soon as they agree on the data of the main chain.
-/

namespace PartnerChains.Ports.NodeRuntime

open PartnerChains.Ports.Domain
open PartnerChains.Ports.CommitteePallet (BoundedVec)
open PartnerChains.Ports.CommitteeInherent
open PartnerChains.Ports.NativeTokenPallet (InherentIdentifier InherentData)
open PartnerChains.Verified.Fallible

/-! ## Inherent data -/

/-- A SCALE codec. -/
structure Codec (α : Type) where
  encode : α → Bytes
  decode : Bytes → Option α
  decode_encode : ∀ a, decode (encode a) = some a

/-- `get_data`: `none` if the entry does not decode, `some none` if there is
none. -/
def getData {α : Type} (codec : Codec α) (data : InherentData)
    (identifier : InherentIdentifier) : Option (Option α) :=
  match data.lookup identifier with
  | none => some none
  | some bytes => (codec.decode bytes).map some

/-- An encoded entry is read back. -/
theorem getData_of_lookup {α : Type} {codec : Codec α} {data : InherentData}
    {identifier : InherentIdentifier} {value : α}
    (h : data.lookup identifier = some (codec.encode value)) :
    getData codec data identifier = some (some value) := by
  rw [getData, h]
  exact congrArg (Option.map some) (codec.decode_encode value)

/-- `*b"timstap0"`. -/
def timestampIdentifier : InherentIdentifier :=
  ⟨[116, 105, 109, 115, 116, 97, 112, 48], rfl⟩

/-- `*b"/ariadne"`. -/
def ariadneIdentifier : InherentIdentifier :=
  ⟨[47, 97, 114, 105, 97, 100, 110, 101], rfl⟩

/-- `*b"beneficr"`. -/
def beneficiaryIdentifier : InherentIdentifier :=
  ⟨[98, 101, 110, 101, 102, 105, 99, 114], rfl⟩

/-! ## The timestamp pallet -/

/-- Why the timestamp pallet refuses a moment. -/
inductive TimestampError where
  | tooEarly
  | tooFarInFuture
deriving DecidableEq

/-- `pallet_timestamp`, over the entry of the inherent data and the moment in
its storage. -/
structure TimestampPallet where
  createInherent : Option (Option UInt64) → UInt64 → Except String UInt64
  checkInherent : UInt64 → Option (Option UInt64) → UInt64 →
    Except String (Except TimestampError Unit)

/-- `SLOT_DURATION`, in milliseconds. -/
def slotDuration : UInt64 := 6000

/-- `MinimumPeriod` of the runtime. -/
def minimumPeriod : UInt64 := slotDuration / 2

/-- How far ahead of the node's clock the timestamp pallet accepts a moment. -/
def maxTimestampDriftMillis : UInt64 := 30000

/-- The moment of a block that is authored at `clock` after one at `now`. -/
def nextMoment (clock now : UInt64) : UInt64 :=
  if now + minimumPeriod ≤ clock then clock else now + minimumPeriod

private theorem le_nextMoment (clock now : UInt64) :
    now + minimumPeriod ≤ nextMoment clock now := by
  unfold nextMoment
  split
  · assumption
  · exact UInt64.le_refl _

/-- What the library documents: the moment of a block is that of the author's
clock, at least a period after the last one; it may be ahead of the checking
node's clock by the drift. -/
structure TimestampPallet.Documented (pallet : TimestampPallet) : Prop where
  create : ∀ clock now, pallet.createInherent (some (some clock)) now =
    .ok (nextMoment clock now)
  check : ∀ moment clock now, moment ≤ clock + maxTimestampDriftMillis →
    now + minimumPeriod ≤ moment → pallet.checkInherent moment (some (some clock)) now =
      .ok (.ok ())

/-! ## The runtime -/

variable {Id Keys Account H A Inputs BeneficiaryId S : Type}

/-- The storage that the inherents read. -/
structure State (config : SessionPallet.Config Id Keys Account H A) (S : Type) where
  /-- Timestamp. -/
  now : UInt64
  /-- System to Session. -/
  session : SessionPallet.State config
  nativeToken : NativeTokenPallet.Storage S

/-- The calls of the runtime, as far as inherents are concerned. -/
inductive RuntimeCall (config : SessionPallet.Config Id Keys Account H A)
    (BeneficiaryId : Type) where
  | timestamp (now : UInt64)
  | committee (call : CommitteePallet.Call Id Keys config.maxValidators)
  /-- `set_current_block_beneficiary`. -/
  | blockRewards (beneficiary : BeneficiaryId)
  | nativeToken (call : NativeTokenPallet.Call)
  /-- A call of a pallet without inherents. -/
  | other

/-- An inherent is an extrinsic that is not signed. -/
structure Extrinsic (config : SessionPallet.Config Id Keys Account H A)
    (BeneficiaryId : Type) where
  isSigned : Bool
  call : RuntimeCall config BeneficiaryId

/-- What the runtime is configured with. -/
structure Runtime (config : SessionPallet.Config Id Keys Account H A)
    (Inputs BeneficiaryId : Type) where
  selectAuthorities : Inputs → UInt64 → Option (BoundedVec (Id × Keys) config.maxValidators)
  timestamp : TimestampPallet
  timestampCodec : Codec UInt64
  inputsCodec : Codec Inputs
  beneficiaryCodec : Codec BeneficiaryId

/-- The error of the pallet whose inherent is wrong. -/
inductive InherentError where
  | timestamp (error : TimestampError)
  | committee (error : CommitteePallet.InherentError)
  /-- Block beneficiary inherent must be produced every block. -/
  | blockRewards
  | nativeToken (error : NativeTokenPallet.InherentError)
deriving DecidableEq

/-- Why `check_inherents` does not succeed. -/
inductive Rejection where
  | panic (message : String)
  | fatal (error : InherentError)
deriving DecidableEq

variable {config : SessionPallet.Config Id Keys Account H A}

/-- `is_inherent` of the pallet the call belongs to. -/
def RuntimeCall.isInherent : RuntimeCall config BeneficiaryId → Bool
  | .timestamp _ => true
  | .committee call => CommitteePallet.isInherent call
  | .blockRewards _ => true
  | .nativeToken call => NativeTokenPallet.isInherent call
  | .other => false

/-- The framework takes a signed extrinsic for no inherent. -/
def Extrinsic.isInherent (x : Extrinsic config BeneficiaryId) : Bool :=
  !x.isSigned && x.call.isInherent

namespace Runtime

variable (runtime : Runtime config Inputs BeneficiaryId)

/-- The moment the inherent data names; the outer `none` is data that does not
decode. -/
def timestampData (data : InherentData) : Option (Option UInt64) :=
  getData runtime.timestampCodec data timestampIdentifier

/-- The inputs of the selection the inherent data holds. -/
def ariadneData (data : InherentData) : Option (Option Inputs) :=
  getData runtime.inputsCodec data ariadneIdentifier

/-! ## Creating the inherents -/

/-- `get_beneficiary_from_inherent_data`; an error is a panic of the runtime. -/
def getBeneficiaryFromInherentData (data : InherentData) : Except String BeneficiaryId :=
  match getData runtime.beneficiaryCodec data beneficiaryIdentifier with
  | none => .error "❌ Block beneficiary inherent data is missing"
  | some none =>
      .error "❌ Block beneficiary inherent data is missing or invalid: \x7berr:?\x7d"
  | some (some beneficiary) => .ok beneficiary

/-- `create_inherent` of the native token pallet, where an error is its panic. -/
def nativeTokenInherent (data : InherentData) :
    Except String (Option NativeTokenPallet.Call) :=
  match NativeTokenPallet.createInherent data with
  | none => .error "Token transfer data is not encoded correctly"
  | some call => .ok call

/-- Errors are panics. -/
def inherentExtrinsics (data : InherentData) (st : State config S) :
    Except String (List (Extrinsic config BeneficiaryId)) := do
  let now ← runtime.timestamp.createInherent (runtime.timestampData data) st.now
  let committee ← CommitteePallet.createInherent runtime.selectAuthorities
    (runtime.ariadneData data) st.session.committee
  let beneficiary ← runtime.getBeneficiaryFromInherentData data
  let nativeToken ← nativeTokenInherent data
  let calls := [RuntimeCall.timestamp now] ++ committee.toList.map RuntimeCall.committee ++
    [RuntimeCall.blockRewards beneficiary] ++ nativeToken.toList.map RuntimeCall.nativeToken
  .ok (calls.map fun call => ⟨false, call⟩)

/-! ## Checking them -/

variable [DecidableEq Id] [DecidableEq Keys]

/-- `check_inherent` of the pallet of the call.  The beneficiary is always
trusted. -/
def checkInherent (data : InherentData) (st : State config S) :
    RuntimeCall config BeneficiaryId → Except Rejection Unit
  | .timestamp now =>
      match runtime.timestamp.checkInherent now (runtime.timestampData data) st.now with
      | .error message => .error (.panic message)
      | .ok (.error e) => .error (.fatal (.timestamp e))
      | .ok (.ok ()) => .ok ()
  | .committee call =>
      match CommitteePallet.checkInherent runtime.selectAuthorities call
        (runtime.ariadneData data) st.session.committee with
      | .error message => .error (.panic message)
      | .ok (.error e) => .error (.fatal (.committee e))
      | .ok (.ok ()) => .ok ()
  | .blockRewards _ => .ok ()
  | .nativeToken call =>
      match NativeTokenPallet.checkInherent call data with
      | none => .error (.panic "Token transfer data is not encoded correctly")
      | some (.error e) => .error (.fatal (.nativeToken e))
      | some (.ok ()) => .ok ()
  | .other => .ok ()

/-- The inherents are at the front of the block. -/
def checkCalls (data : InherentData) (st : State config S) :
    List (Extrinsic config BeneficiaryId) → Except Rejection Unit
  | [] => .ok ()
  | x :: rest =>
      if x.isInherent then do
        runtime.checkInherent data st x.call
        checkCalls data st rest
      else .ok ()

end Runtime

/-- The block has an inherent call of this kind. -/
def HasInherent (kind : RuntimeCall config BeneficiaryId → Bool)
    (body : List (Extrinsic config BeneficiaryId)) : Bool :=
  body.any fun x => !x.isSigned && kind x.call

/-- The inherents of the session validator management pallet. -/
def isCommitteeInherent : RuntimeCall config BeneficiaryId → Bool
  | .committee call => CommitteePallet.isInherent call
  | _ => false

/-- The inherents of the block rewards pallet. -/
def isBlockRewardsInherent : RuntimeCall config BeneficiaryId → Bool
  | .blockRewards _ => true
  | _ => false

/-- The inherents of the native token pallet. -/
def isNativeTokenInherent : RuntimeCall config BeneficiaryId → Bool
  | .nativeToken call => NativeTokenPallet.isInherent call
  | _ => false

/-- A pallet that requires an inherent finds one in the block. -/
def requireInherent (error : Option InherentError)
    (kind : RuntimeCall config BeneficiaryId → Bool)
    (body : List (Extrinsic config BeneficiaryId)) : Except Rejection Unit :=
  match error with
  | none => .ok ()
  | some e => if HasInherent kind body then .ok () else .error (.fatal e)

/-- `is_inherent_required`, pallet by pallet. -/
def checkRequired (data : InherentData) (st : State config S)
    (body : List (Extrinsic config BeneficiaryId)) : Except Rejection Unit := do
  requireInherent ((CommitteePallet.isInherentRequired st.session.committee).map .committee)
    isCommitteeInherent body
  requireInherent (some .blockRewards) isBlockRewardsInherent body
  match NativeTokenPallet.isInherentRequired data with
  | none => .error (.panic "Token transfer data is not encoded correctly")
  | some e => requireInherent (e.map .nativeToken) isNativeTokenInherent body

/-- `check_inherents`: the calls that are there are checked before those that have
to be. -/
def Runtime.checkInherents [DecidableEq Id] [DecidableEq Keys]
    (runtime : Runtime config Inputs BeneficiaryId) (data : InherentData) (st : State config S)
    (body : List (Extrinsic config BeneficiaryId)) : Except Rejection Unit := do
  runtime.checkCalls data st body
  checkRequired data st body

/-! ## What the check says about a block -/

/-- The framework executes a block only if no inherent follows another
extrinsic. -/
def InherentsFirst (body : List (Extrinsic config BeneficiaryId)) : Prop :=
  ∃ inherents others, body = inherents ++ others ∧
    (∀ x ∈ inherents, x.isInherent = true) ∧ ∀ x ∈ others, x.isInherent = false

section Checked

variable [DecidableEq Id] [DecidableEq Keys]
  {runtime : Runtime config Inputs BeneficiaryId} {data : InherentData} {st : State config S}
  {body : List (Extrinsic config BeneficiaryId)}

/-- Extrinsics that are no inherents end the check of the calls. -/
theorem checkCalls_of_others {others : List (Extrinsic config BeneficiaryId)}
    (h : ∀ x ∈ others, x.isInherent = false) : runtime.checkCalls data st others = .ok () := by
  cases others with
  | nil => rfl
  | cons x rest => simp [Runtime.checkCalls, h x List.mem_cons_self]

private theorem checkCalls_append_iff {inherents others : List (Extrinsic config BeneficiaryId)}
    (hinherents : ∀ x ∈ inherents, x.isInherent = true)
    (hothers : ∀ x ∈ others, x.isInherent = false) :
    runtime.checkCalls data st (inherents ++ others) = .ok () ↔
      ∀ x ∈ inherents, runtime.checkInherent data st x.call = .ok () := by
  induction inherents with
  | nil => simp [checkCalls_of_others hothers]
  | cons x rest ih =>
      have ih := ih fun y hy => hinherents y (List.mem_cons_of_mem _ hy)
      have hx := hinherents x List.mem_cons_self
      simp only [List.cons_append, Runtime.checkCalls, hx, if_true, List.forall_mem_cons, ← ih]
      constructor
      · intro h
        obtain ⟨⟨⟩, hcheck, hrest⟩ := bind_eq_ok.mp h
        exact ⟨hcheck, hrest⟩
      · rintro ⟨hcheck, hrest⟩
        exact bind_eq_ok.mpr ⟨(), hcheck, hrest⟩

/-- What `is_inherent_required` makes of a block. -/
structure RequiredPresent (data : InherentData) (st : State config S)
    (body : List (Extrinsic config BeneficiaryId)) : Prop where
  committee : st.session.committee.nextCommittee = none →
    HasInherent isCommitteeInherent body = true
  blockRewards : HasInherent isBlockRewardsInherent body = true
  decodes : NativeTokenPallet.isInherentRequired data ≠ none
  nativeToken : ∀ e, NativeTokenPallet.isInherentRequired data = some (some e) →
    HasInherent isNativeTokenInherent body = true

omit [DecidableEq Id] [DecidableEq Keys] in
private theorem requireInherent_iff {error : Option InherentError}
    {kind : RuntimeCall config BeneficiaryId → Bool} :
    requireInherent error kind body = .ok () ↔ (error.isSome → HasInherent kind body = true) := by
  cases error with
  | none => simp [requireInherent]
  | some e => simp [requireInherent]

omit [DecidableEq Id] [DecidableEq Keys] in
private theorem checkRequired_iff :
    checkRequired data st body = .ok () ↔ RequiredPresent data st body := by
  have hcommittee : ((CommitteePallet.isInherentRequired st.session.committee).map
      InherentError.committee).isSome ↔ st.session.committee.nextCommittee = none := by
    simp [CommitteePallet.isInherentRequired]
  constructor
  · intro h
    obtain ⟨⟨⟩, hfirst, h⟩ := bind_eq_ok.mp h
    obtain ⟨⟨⟩, hsecond, hthird⟩ := bind_eq_ok.mp h
    refine ⟨fun hnone => requireInherent_iff.mp hfirst (hcommittee.mpr hnone),
      requireInherent_iff.mp hsecond rfl, ?_, ?_⟩
    · intro hnone
      simp [hnone] at hthird
    · intro e he
      rw [he] at hthird
      exact requireInherent_iff.mp hthird rfl
  · intro h
    refine bind_eq_ok.mpr ⟨(), requireInherent_iff.mpr fun hsome =>
      h.committee (hcommittee.mp hsome), bind_eq_ok.mpr ⟨(), requireInherent_iff.mpr fun _ =>
        h.blockRewards, ?_⟩⟩
    cases he : NativeTokenPallet.isInherentRequired data with
    | none => exact absurd he h.decodes
    | some required =>
        rw [requireInherent_iff]
        intro hsome
        obtain ⟨e, rfl⟩ := Option.isSome_iff_exists.mp (by simpa using hsome)
        exact h.nativeToken e he

/-- A block whose inherents come first passes exactly if each of them passes
the check of its pallet and none is missing. -/
theorem checkInherents_iff {inherents others : List (Extrinsic config BeneficiaryId)}
    (hinherents : ∀ x ∈ inherents, x.isInherent = true)
    (hothers : ∀ x ∈ others, x.isInherent = false) :
    runtime.checkInherents data st (inherents ++ others) = .ok () ↔
      (∀ x ∈ inherents, runtime.checkInherent data st x.call = .ok ()) ∧
        RequiredPresent data st (inherents ++ others) := by
  rw [← checkCalls_append_iff hinherents hothers, ← checkRequired_iff]
  constructor
  · intro h
    obtain ⟨⟨⟩, hcalls, hrequired⟩ := bind_eq_ok.mp h
    exact ⟨hcalls, hrequired⟩
  · rintro ⟨hcalls, hrequired⟩
    exact bind_eq_ok.mpr ⟨(), hcalls, hrequired⟩

end Checked

/-! ## The author and the importing node -/

section Committee

variable [DecidableEq Id] [DecidableEq Keys] [DecidableEq Account]
  {selectAuthorities : Inputs → UInt64 → Option (BoundedVec (Id × Keys) config.maxValidators)}
  {st mid : SessionPallet.State config} {slot : UInt64} {events : List SessionPallet.Event}
  {data : Option (Option Inputs)}
  {call : Option (CommitteePallet.Call Id Keys config.maxValidators)}

omit [DecidableEq Id] [DecidableEq Keys] in
/-- A next committee after the hooks has been there before them. -/
theorem nextCommittee_of_initializeBlock
    (hinit : SessionPallet.initializeBlock st slot = .ok (mid, events))
    (hnone : st.committee.nextCommittee = none) : mid.committee.nextCommittee = none := by
  rcases CommitteeRun.initializeBlock_eq_ok hinit with ⟨-, rfl, -⟩ | ⟨next, -, rfl, -⟩
  · rw [entered_nextCommittee, hnone]
  · rfl

omit [DecidableEq Id] [DecidableEq Keys] in
/-- Where the parent has no next committee, the author brings one. -/
theorem createInherent_isSome
    (hinit : SessionPallet.initializeBlock st slot = .ok (mid, events))
    (hcreate : CommitteePallet.createInherent selectAuthorities data mid.committee = .ok call)
    (hnone : st.committee.nextCommittee = none) :
    ∃ c ∈ call, CommitteePallet.isInherent c = true := by
  have hmid := nextCommittee_of_initializeBlock hinit hnone
  obtain ⟨inputs, rfl⟩ := inputs_of_createInherent selectAuthorities hmid hcreate
  rw [createInherent_of_none selectAuthorities hmid] at hcreate
  obtain rfl := Except.ok.inj hcreate
  exact ⟨_, rfl, rfl⟩

/-- The call that is created after the hooks passes the check before them. -/
theorem checkInherent_of_createInherent
    (hinit : SessionPallet.initializeBlock st slot = .ok (mid, events))
    (hcreate : CommitteePallet.createInherent selectAuthorities data mid.committee = .ok call)
    {c : CommitteePallet.Call Id Keys config.maxValidators} (hc : c ∈ call) :
    CommitteePallet.isInherent c = true ∧
      CommitteePallet.checkInherent selectAuthorities c data st.committee = .ok (.ok ()) := by
  cases hnext : mid.committee.nextCommittee with
  | some next =>
      simp only [CommitteePallet.createInherent, hnext, Option.isSome_some, if_true,
        Except.ok.injEq] at hcreate
      subst hcreate
      cases hc
  | none =>
      obtain ⟨inputs, rfl⟩ := inputs_of_createInherent selectAuthorities hnext hcreate
      rw [createInherent_of_none selectAuthorities hnext] at hcreate
      obtain rfl := Except.ok.inj hcreate
      obtain rfl := Option.some.inj hc
      exact ⟨rfl, (checkInherent_set_iff selectAuthorities).mpr
        (by rw [fallback_initializeBlock hinit hnext])⟩

end Committee

section NativeToken

open PartnerChains.Ports.NativeTokenPallet

/-- The check and the author read the same entry. -/
theorem nativeToken_of_createInherent {author verifier : InherentData} {call : Option Call}
    (hsame : verifier.lookup inherentIdentifier = author.lookup inherentIdentifier)
    (hcreate : createInherent author = some call) :
    (∀ c ∈ call, isInherent c = true ∧ checkInherent c verifier = some (.ok ())) ∧
      isInherentRequired verifier ≠ none ∧
      ∀ e, isInherentRequired verifier = some (some e) → ∃ c ∈ call, isInherent c = true := by
  have hread : getTransferedTokensFromInherentData verifier =
      getTransferedTokensFromInherentData author := by
    unfold getTransferedTokensFromInherentData
    rw [hsame]
  unfold createInherent at hcreate
  match hdata : getTransferedTokensFromInherentData author with
  | none => simp [hdata] at hcreate
  | some none =>
      simp only [hdata, Option.map_some, Option.filter_none, Option.map_none,
        Option.some.injEq] at hcreate
      subst hcreate
      simp [isInherentRequired, hread, hdata]
  | some (some transfer) =>
      by_cases hpos : transfer.tokenAmount > 0
      · simp only [hdata, Option.map_some, Option.filter_some, hpos, decide_true, if_true,
          Option.some.injEq] at hcreate
        subst hcreate
        refine ⟨?_, by simp [isInherentRequired, hread, hdata], fun _ _ => ⟨_, rfl, rfl⟩⟩
        intro c hc
        obtain rfl := Option.some.inj hc
        exact ⟨rfl, by simp [checkInherent, hread, hdata]⟩
      · simp only [hdata, Option.map_some, Option.filter_some, hpos, decide_false,
          Bool.false_eq_true, if_false, Option.map_none, Option.some.injEq] at hcreate
        subst hcreate
        have hzero : transfer.tokenAmount = 0 :=
          by_contra fun hne => hpos (NativeTokenAmount.pos_iff.mpr hne)
        simp [isInherentRequired, hread, hdata, hzero]

end NativeToken

/-- The importing node has the same data of the main chain as the author. -/
structure SameMainChainData (author verifier : InherentData) : Prop where
  ariadne : verifier.lookup ariadneIdentifier = author.lookup ariadneIdentifier
  nativeToken : verifier.lookup NativeTokenPallet.inherentIdentifier =
    author.lookup NativeTokenPallet.inherentIdentifier

section Agreement

variable {runtime : Runtime config Inputs BeneficiaryId} {st : State config S}
  {mid : SessionPallet.State config} {slot clock verifierClock : UInt64}
  {events : List SessionPallet.Event} {author verifier : InherentData}
  {inherents : List (Extrinsic config BeneficiaryId)}

/-- The calls that the author creates, taken apart. -/
theorem inherentExtrinsics_eq_ok (h : runtime.inherentExtrinsics author st = .ok inherents) :
    ∃ now committee beneficiary nativeToken,
      runtime.timestamp.createInherent (runtime.timestampData author) st.now = .ok now ∧
      CommitteePallet.createInherent runtime.selectAuthorities (runtime.ariadneData author)
        st.session.committee = .ok committee ∧
      NativeTokenPallet.createInherent author = some nativeToken ∧
      inherents = ([RuntimeCall.timestamp now] ++ committee.toList.map RuntimeCall.committee ++
        [RuntimeCall.blockRewards beneficiary] ++
          nativeToken.toList.map RuntimeCall.nativeToken).map fun call => ⟨false, call⟩ := by
  obtain ⟨now, hnow, h⟩ := bind_eq_ok.mp h
  obtain ⟨committee, hcommittee, h⟩ := bind_eq_ok.mp h
  obtain ⟨beneficiary, -, h⟩ := bind_eq_ok.mp h
  obtain ⟨nativeToken, hnativeToken, h⟩ := bind_eq_ok.mp h
  refine ⟨now, committee, beneficiary, nativeToken, hnow, hcommittee, ?_,
    (Except.ok.inj h).symm⟩
  unfold Runtime.nativeTokenInherent at hnativeToken
  cases hcreate : NativeTokenPallet.createInherent author with
  | none => simp [hcreate] at hnativeToken
  | some call =>
      rw [hcreate] at hnativeToken
      rw [Except.ok.inj hnativeToken]

variable [DecidableEq Id] [DecidableEq Keys] [DecidableEq Account]

/-- The inherents that the author creates after the hooks of the block pass the
check of a node in the state of the parent, if that node has the same data of
the main chain and its clock is not too far behind. -/
theorem checkInherents_inherentExtrinsics (htimestamp : runtime.timestamp.Documented)
    (hinit : SessionPallet.initializeBlock st.session slot = .ok (mid, events))
    (hcreate : runtime.inherentExtrinsics author { st with session := mid } = .ok inherents)
    (hsame : SameMainChainData author verifier)
    (hclock : runtime.timestampData author = some (some clock))
    (hverifierClock : runtime.timestampData verifier = some (some verifierClock))
    (hdrift : nextMoment clock st.now ≤ verifierClock + maxTimestampDriftMillis)
    {transactions : List (Extrinsic config BeneficiaryId)}
    (htransactions : ∀ x ∈ transactions, x.isInherent = false) :
    runtime.checkInherents verifier st (inherents ++ transactions) = .ok () := by
  obtain ⟨now, committee, beneficiary, nativeToken, hnow, hcommittee, hnative, rfl⟩ :=
    inherentExtrinsics_eq_ok hcreate
  have hmoment : now = nextMoment clock st.now := by
    rw [hclock, htimestamp.create] at hnow
    exact (Except.ok.inj hnow).symm
  have hariadne : runtime.ariadneData verifier = runtime.ariadneData author := by
    simp only [Runtime.ariadneData, getData, hsame.ariadne]
  have hcommitteeCalls := fun c => checkInherent_of_createInherent (c := c) hinit hcommittee
  obtain ⟨hnativeCalls, hdecodes, hrequired⟩ :=
    nativeToken_of_createInherent hsame.nativeToken hnative
  rw [checkInherents_iff ?inherents htransactions]
  case inherents =>
    intro x hx
    obtain ⟨call, hcall, rfl⟩ := List.mem_map.mp hx
    simp only [List.append_assoc, List.cons_append, List.nil_append, List.mem_cons,
      List.mem_append, List.mem_map, Option.mem_toList] at hcall
    rcases hcall with rfl | ⟨c, hc, rfl⟩ | rfl | ⟨c, hc, rfl⟩
    · rfl
    · exact (hcommitteeCalls c hc).1
    · rfl
    · exact (hnativeCalls c hc).1
  refine ⟨?_, ?_, ?_, hdecodes, ?_⟩
  · intro x hx
    obtain ⟨call, hcall, rfl⟩ := List.mem_map.mp hx
    simp only [List.append_assoc, List.cons_append, List.nil_append, List.mem_cons,
      List.mem_append, List.mem_map, Option.mem_toList] at hcall
    rcases hcall with rfl | ⟨c, hc, rfl⟩ | rfl | ⟨c, hc, rfl⟩
    · have hcheck := htimestamp.check now verifierClock st.now (hmoment ▸ hdrift)
        (hmoment ▸ le_nextMoment clock st.now)
      simp [Runtime.checkInherent, hverifierClock, hcheck]
    · simp [Runtime.checkInherent, hariadne, (hcommitteeCalls c hc).2]
    · rfl
    · simp [Runtime.checkInherent, (hnativeCalls c hc).2]
  · intro hnone
    obtain ⟨c, hc, hset⟩ := createInherent_isSome hinit hcommittee hnone
    obtain rfl : committee = some c := hc
    simp [HasInherent, isCommitteeInherent, hset]
  · simp [HasInherent, isBlockRewardsInherent]
  · intro e he
    obtain ⟨c, hc, htransfer⟩ := hrequired e he
    obtain rfl : nativeToken = some c := hc
    simp [HasInherent, isNativeTokenInherent, htransfer]

end Agreement

end PartnerChains.Ports.NodeRuntime
