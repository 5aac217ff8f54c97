import Mathlib.Algebra.BigOperators.Group.List.Basic
import PartnerChains.Ports.Domain

/-!
# The native token management pallet

The port of `native-token-management`: the inherent that reports how many
native tokens were locked on the main chain, its checks, and the dispatch of
`transfer_tokens`.  The handler that releases the tokens is supplied by the
partner chain; it enters as a state with a fallible update, and
`recording` keeps the list of amounts it was called with.

A block is executed as the runtime does it: a failed dispatch leaves the
storage unchanged, a failed dispatch of class `Mandatory` or a panic makes the
block invalid.

`executeBlock_recording` says which amounts reach the handler in a valid
block: those of all `transfer_tokens` calls, in order.
-/

namespace PartnerChains.Ports.NativeTokenPallet

open PartnerChains.Ports.Domain

/-- `u128`. -/
abbrev NativeTokenAmount := BitVec 128

theorem NativeTokenAmount.pos_iff {amount : NativeTokenAmount} : amount > 0 ↔ amount ≠ 0 := by
  bv_omega

/-- Values identifying the on-chain entities of the native token management
system on the main chain. -/
structure MainChainScripts where
  nativeTokenPolicyId : PolicyId
  nativeTokenAssetName : AssetName
  illiquidSupplyValidatorAddress : MainchainAddress
deriving DecidableEq

/-! ## Inherent data -/

/-- `InherentIdentifier` of Substrate. -/
abbrev InherentIdentifier := FixedBytes 8

/-- The entries of the inherent data, one per identifier. -/
abbrev InherentData := List (InherentIdentifier × Bytes)

/-- `InherentData::put_data` refuses an identifier that is already there. -/
def putData (data : InherentData) (identifier : InherentIdentifier) (value : Bytes) :
    Option InherentData :=
  if identifier ∈ data.map Prod.fst then none else some ((identifier, value) :: data)

/-- Little-endian bytes of the SCALE encoding. -/
def leBytes : Nat → Nat → Bytes
  | _, 0 => []
  | n, len + 1 => UInt8.ofNat n :: leBytes (n / 256) len

/-- A little-endian number. -/
def leNat : Bytes → Nat
  | [] => 0
  | b :: rest => b.toNat + 256 * leNat rest

/-- `TokenTransferData`, what the inherent data holds. -/
structure TokenTransferData where
  tokenAmount : NativeTokenAmount
deriving DecidableEq

/-- SCALE encodes a `u128` in sixteen bytes, the lowest first. -/
def TokenTransferData.encode (data : TokenTransferData) : Bytes :=
  leBytes data.tokenAmount.toNat 16

/-- `decode` of SCALE, which ignores further bytes. -/
def TokenTransferData.decode (bytes : Bytes) : Option TokenTransferData :=
  if 16 ≤ bytes.length then
    some ⟨BitVec.ofNat 128 (leNat (bytes.take 16))⟩
  else none

private theorem length_leBytes (len : Nat) : ∀ n : Nat, (leBytes n len).length = len := by
  induction len with
  | zero => intro n; rfl
  | succ len ih => intro n; simp [leBytes, ih]

private theorem leNat_leBytes (len : Nat) : ∀ n : Nat, leNat (leBytes n len) = n % 256 ^ len := by
  induction len with
  | zero => intro n; simp [leBytes, leNat, Nat.mod_one]
  | succ len ih =>
      intro n
      have hbyte : (UInt8.ofNat n).toNat = n % 256 := UInt8.toNat_ofNat'
      rw [leBytes, leNat, ih, hbyte, Nat.pow_succ', Nat.mod_mul]

/-- The inherent data is read back. -/
theorem TokenTransferData.decode_encode (data : TokenTransferData) :
    TokenTransferData.decode data.encode = some data := by
  obtain ⟨amount⟩ := data
  have hlength : (leBytes amount.toNat 16).length = 16 := length_leBytes 16 _
  have hlt : amount.toNat < 256 ^ 16 := by
    have := amount.isLt
    norm_num at this ⊢
    exact this
  simp only [TokenTransferData.decode, TokenTransferData.encode, hlength, le_refl, if_true]
  rw [List.take_of_length_le hlength.le, leNat_leBytes, Nat.mod_eq_of_lt hlt,
    BitVec.ofNat_toNat, BitVec.setWidth_eq]

/-- `*b"nattoken"`. -/
def inherentIdentifier : InherentIdentifier :=
  ⟨[110, 97, 116, 116, 111, 107, 101, 110], rfl⟩

/-! ## The pallet -/

/-- The errors of a call that the runtime tells apart here. -/
inductive DispatchError where
  | badOrigin
  | other (message : String)
deriving DecidableEq

/-- How a call does not succeed: by a panic or by an error. -/
inductive Failure where
  | panic (message : String)
  | dispatch (error : DispatchError)
deriving DecidableEq

/-- `InherentError`. -/
inductive InherentError where
  | tokenTransferNotHandled (amount : NativeTokenAmount)
  | incorrectTokenNumberTransfered (expected actual : NativeTokenAmount)
  | unexpectedTokenTransferInherent (amount : NativeTokenAmount)
deriving DecidableEq

/-- `TokenTransferHandler`, over the storage it works on. -/
abbrev TokenTransferHandler (S : Type) := NativeTokenAmount → S → Except DispatchError S

/-- The pallet's storage, with the state of whatever handles a transfer. -/
structure Storage (S : Type) where
  mainChainScriptsConfiguration : Option MainChainScripts
  initialized : Bool
  handlerState : S

/-- The calls of the pallet. -/
inductive Call where
  | transferTokens (tokenAmount : NativeTokenAmount)
  | setMainChainScripts (nativeTokenPolicyId : PolicyId) (nativeTokenAssetName : AssetName)
      (illiquidSupplyValidatorAddress : MainchainAddress)
deriving DecidableEq

/-- Who a call comes from; inherents come from no one. -/
inductive Origin where
  | none
  | signed
  | root
deriving DecidableEq

/-- The class of an extrinsic; an error of a mandatory one fails the block. -/
inductive DispatchClass where
  | normal
  | mandatory
deriving DecidableEq

/-- The classes the pallet declares for its calls. -/
def Call.dispatchClass : Call → DispatchClass
  | .transferTokens _ => .mandatory
  | .setMainChainScripts .. => .normal

/-- `none` is the panic of `expect("Token transfer data is not encoded
correctly")`. -/
def getTransferedTokensFromInherentData (data : InherentData) :
    Option (Option TokenTransferData) :=
  match data.lookup inherentIdentifier with
  | none => some none
  | some bytes => (TokenTransferData.decode bytes).map some

/-- `create_inherent`: no call when nothing was transferred; the outer `none` is
the panic on data that does not decode. -/
def createInherent (data : InherentData) : Option (Option Call) :=
  (getTransferedTokensFromInherentData data).map fun transfer =>
    (transfer.filter fun data => data.tokenAmount > 0).map fun data =>
      .transferTokens data.tokenAmount

/-- `none` is a panic. -/
def checkInherent (call : Call) (data : InherentData) : Option (Except InherentError Unit) :=
  match call with
  | .transferTokens actualTransfer =>
      (getTransferedTokensFromInherentData data).map fun transfer =>
        match transfer with
        | some data =>
            if data.tokenAmount ≠ actualTransfer then
              .error (.incorrectTokenNumberTransfered data.tokenAmount actualTransfer)
            else .ok ()
        | none => .error (.unexpectedTokenTransferInherent actualTransfer)
  | _ => some (.ok ())

/-- `is_inherent`: setting the scripts is not one. -/
def isInherent : Call → Bool
  | .transferTokens _ => true
  | _ => false

/-- `none` is a panic, `some none` means that no call is required. -/
def isInherentRequired (data : InherentData) : Option (Option InherentError) :=
  (getTransferedTokensFromInherentData data).map fun transfer =>
    (transfer.filter fun data => data.tokenAmount > 0).map fun data =>
      .tokenTransferNotHandled data.tokenAmount

section Dispatch

variable {S : Type} (handler : TokenTransferHandler S)

/-- `transfer_tokens`: the pallet is initialized once a transfer was handled. -/
def transferTokens (origin : Origin) (tokenAmount : NativeTokenAmount) (s : Storage S) :
    Except Failure (Storage S) :=
  if origin ≠ .none then .error (.dispatch .badOrigin)
  else if s.mainChainScriptsConfiguration.isNone then
    .error (.panic
      "BUG: Inherent should not be run unless the main chain scripts are set.")
  else
    match handler tokenAmount s.handlerState with
    | .ok handlerState => .ok { s with initialized := true, handlerState := handlerState }
    | .error error => .error (.dispatch error)

/-- `set_main_chain_scripts`: only for root. -/
def setMainChainScripts (origin : Origin) (nativeTokenPolicyId : PolicyId)
    (nativeTokenAssetName : AssetName) (illiquidSupplyValidatorAddress : MainchainAddress)
    (s : Storage S) : Except Failure (Storage S) :=
  if origin ≠ .root then .error (.dispatch .badOrigin)
  else
    .ok { s with
      mainChainScriptsConfiguration :=
        some ⟨nativeTokenPolicyId, nativeTokenAssetName, illiquidSupplyValidatorAddress⟩ }

/-- A call of the pallet runs. -/
def dispatch (origin : Origin) (call : Call) (s : Storage S) : Except Failure (Storage S) :=
  match call with
  | .transferTokens tokenAmount => transferTokens handler origin tokenAmount s
  | .setMainChainScripts policyId assetName address =>
      setMainChainScripts origin policyId assetName address s

/-- An extrinsic with the origin its call is dispatched with. -/
structure Extrinsic where
  origin : Origin
  call : Call
deriving DecidableEq

/-- What makes a block invalid. -/
inductive BlockError where
  | panic (message : String)
  | badMandatory (error : DispatchError)
deriving DecidableEq

/-- `apply_extrinsic`: a normal call that fails leaves the storage as it was. -/
def applyExtrinsic (s : Storage S) (extrinsic : Extrinsic) : Except BlockError (Storage S) :=
  match dispatch handler extrinsic.origin extrinsic.call s with
  | .ok s' => .ok s'
  | .error (.panic message) => .error (.panic message)
  | .error (.dispatch error) =>
      match extrinsic.call.dispatchClass with
      | .mandatory => .error (.badMandatory error)
      | .normal => .ok s

/-- The extrinsics of a block, one after the other. -/
def executeBlock (s : Storage S) : List Extrinsic → Except BlockError (Storage S)
  | [] => .ok s
  | extrinsic :: rest => do
      let s ← applyExtrinsic handler s extrinsic
      executeBlock s rest

end Dispatch

/-! ## The amounts that reach the handler -/

/-- The handler together with the list of amounts it accepted so far. -/
def recording {S : Type} (handler : TokenTransferHandler S) :
    TokenTransferHandler (S × List NativeTokenAmount) :=
  fun amount s => do
    let handlerState ← handler amount s.1
    .ok (handlerState, s.2 ++ [amount])

/-- The storage with nothing recorded yet. -/
def Storage.startRecording {S : Type} (s : Storage S) :
    Storage (S × List NativeTokenAmount) :=
  { mainChainScriptsConfiguration := s.mainChainScriptsConfiguration
    initialized := s.initialized
    handlerState := (s.handlerState, []) }

/-- The amount of a transfer. -/
def Call.transferAmount : Call → Option NativeTokenAmount
  | .transferTokens amount => some amount
  | .setMainChainScripts .. => none

/-- The amounts of the `transfer_tokens` calls of a block. -/
def transferAmounts (body : List Extrinsic) : List NativeTokenAmount :=
  body.filterMap fun extrinsic => extrinsic.call.transferAmount

/-- The sum of amounts, beyond `u128`. -/
def sumAmounts (amounts : List NativeTokenAmount) : Nat :=
  (amounts.map BitVec.toNat).sum

section Recording

variable {S : Type} (handler : TokenTransferHandler S)

/-- All a valid extrinsic can do: a bare `transfer_tokens` runs the handler
once and sets the flag, a root `set_main_chain_scripts` replaces the scripts,
and without root it changes nothing. -/
theorem applyExtrinsic_cases {s s' : Storage (S × List NativeTokenAmount)}
    {extrinsic : Extrinsic} (h : applyExtrinsic (recording handler) s extrinsic = .ok s') :
    (∃ amount handlerState, extrinsic = ⟨.none, .transferTokens amount⟩ ∧
      s.mainChainScriptsConfiguration.isSome ∧
      handler amount s.handlerState.1 = .ok handlerState ∧
      s' = { s with
        initialized := true, handlerState := (handlerState, s.handlerState.2 ++ [amount]) }) ∨
    (∃ policyId assetName address,
      extrinsic.call = .setMainChainScripts policyId assetName address ∧
      (extrinsic.origin = .root ∧
          s' = { s with
            mainChainScriptsConfiguration := some ⟨policyId, assetName, address⟩ } ∨
        extrinsic.origin ≠ .root ∧ s' = s)) := by
  obtain ⟨origin, call⟩ := extrinsic
  cases call with
  | transferTokens amount =>
      left
      simp only [applyExtrinsic, dispatch, transferTokens, recording,
        Call.dispatchClass] at h
      by_cases horigin : origin = .none
      · subst horigin
        cases hscripts : s.mainChainScriptsConfiguration with
        | none => simp [hscripts] at h
        | some scripts =>
            cases hhandler : handler amount s.handlerState.1 with
            | error e => simp [hscripts, hhandler, bind, Except.bind] at h
            | ok handlerState =>
                simp only [ne_eq, not_true_eq_false, if_false, hscripts, Option.isNone_some,
                  Bool.false_eq_true, hhandler, bind, Except.bind, Except.ok.injEq] at h
                exact ⟨amount, handlerState, rfl, rfl, hhandler, hscripts ▸ h.symm⟩
      · simp [horigin] at h
  | setMainChainScripts policyId assetName address =>
      right
      refine ⟨policyId, assetName, address, rfl, ?_⟩
      simp only [applyExtrinsic, dispatch, setMainChainScripts, Call.dispatchClass] at h
      by_cases horigin : origin = .root
      · simp only [horigin, ne_eq, not_true_eq_false, if_false, Except.ok.injEq] at h
        exact Or.inl ⟨horigin, h.symm⟩
      · simp only [ne_eq, horigin, not_false_eq_true, if_true, Except.ok.injEq] at h
        exact Or.inr ⟨horigin, h.symm⟩

theorem executeBlock_cons {s s' : Storage S} {extrinsic : Extrinsic} {rest : List Extrinsic} :
    executeBlock handler s (extrinsic :: rest) = .ok s' ↔
      ∃ mid, applyExtrinsic handler s extrinsic = .ok mid ∧
        executeBlock handler mid rest = .ok s' := by
  simp only [executeBlock, bind, Except.bind]
  cases applyExtrinsic handler s extrinsic with
  | error e => simp
  | ok mid => simp

/-- In a valid block the handler sees the amounts of all `transfer_tokens`
calls, in the order of the block; the flag is set as soon as there is one. -/
theorem executeBlock_recording (body : List Extrinsic) :
    ∀ {s s' : Storage (S × List NativeTokenAmount)},
      executeBlock (recording handler) s body = .ok s' →
        s'.handlerState.2 = s.handlerState.2 ++ transferAmounts body ∧
        s'.initialized = (s.initialized || !(transferAmounts body).isEmpty) := by
  induction body with
  | nil =>
      intro s s' h
      obtain rfl : s = s' := by simpa [executeBlock] using h
      simp [transferAmounts]
  | cons extrinsic rest ih =>
      intro s s' h
      obtain ⟨mid, hfirst, hrest⟩ := (executeBlock_cons (recording handler)).mp h
      obtain ⟨hlog, hflag⟩ := ih hrest
      rcases applyExtrinsic_cases handler hfirst with
        ⟨amount, handlerState, rfl, -, -, rfl⟩ | ⟨policyId, assetName, address, hcall, hmid⟩
      · have hamounts : transferAmounts (⟨.none, .transferTokens amount⟩ :: rest) =
            amount :: transferAmounts rest := rfl
        rw [hamounts, hlog, hflag]
        simp
      · have hamounts : transferAmounts (extrinsic :: rest) = transferAmounts rest := by
          simp [transferAmounts, hcall, Call.transferAmount]
        rw [hamounts, hlog, hflag]
        rcases hmid with ⟨-, rfl⟩ | ⟨-, rfl⟩
        · exact ⟨rfl, rfl⟩
        · exact ⟨rfl, rfl⟩

end Recording

/-! ## What the inherent checks guarantee -/

/-- The amount the inherent data reports, zero if it reports none. -/
def observedAmount (data : InherentData) : NativeTokenAmount :=
  match getTransferedTokensFromInherentData data with
  | some (some transfer) => transfer.tokenAmount
  | _ => 0

/-- What the runtime checks of a block body: every `transfer_tokens` call
passes `check_inherent`, and there is one if `is_inherent_required` asks for
it. -/
structure InherentsChecked (data : InherentData) (body : List Extrinsic) : Prop where
  checked : ∀ extrinsic ∈ body, isInherent extrinsic.call = true →
    checkInherent extrinsic.call data = some (.ok ())
  required : ∀ error, isInherentRequired data = some (some error) →
    ∃ extrinsic ∈ body, isInherent extrinsic.call = true

private theorem checkInherent_transferTokens {data : InherentData} {amount : NativeTokenAmount}
    (h : checkInherent (.transferTokens amount) data = some (.ok ())) :
    getTransferedTokensFromInherentData data = some (some ⟨amount⟩) := by
  cases hdata : getTransferedTokensFromInherentData data with
  | none => simp [checkInherent, hdata] at h
  | some transfer =>
      cases transfer with
      | none => simp [checkInherent, hdata] at h
      | some transfer =>
          obtain ⟨expected⟩ := transfer
          by_cases heq : expected = amount
          · rw [heq]
          · simp [checkInherent, hdata, heq] at h

private theorem Call.transferAmount_eq_some {call : Call} {amount : NativeTokenAmount} :
    call.transferAmount = some amount ↔ call = .transferTokens amount := by
  cases call <;> simp [Call.transferAmount]

/-- Every transfer of a checked block has the observed amount. -/
theorem transferAmounts_eq_replicate {data : InherentData} {body : List Extrinsic}
    (h : InherentsChecked data body) :
    transferAmounts body =
      List.replicate (transferAmounts body).length (observedAmount data) := by
  rw [List.eq_replicate_iff]
  refine ⟨rfl, ?_⟩
  intro amount hamount
  obtain ⟨extrinsic, hmem, hcall⟩ := List.mem_filterMap.mp hamount
  rw [Call.transferAmount_eq_some] at hcall
  have hchecked := h.checked extrinsic hmem (by rw [hcall]; rfl)
  rw [hcall] at hchecked
  rw [observedAmount, checkInherent_transferTokens hchecked]

/-- A checked block has a transfer if something was observed. -/
theorem transferAmounts_ne_nil {data : InherentData} {body : List Extrinsic}
    (h : InherentsChecked data body) (hpos : observedAmount data ≠ 0) :
    transferAmounts body ≠ [] := by
  have hrequired : ∃ error, isInherentRequired data = some (some error) := by
    unfold observedAmount at hpos
    cases hdata : getTransferedTokensFromInherentData data with
    | none => simp [hdata] at hpos
    | some transfer =>
        cases transfer with
        | none => simp [hdata] at hpos
        | some transfer =>
            simp only [hdata] at hpos
            refine ⟨.tokenTransferNotHandled transfer.tokenAmount, ?_⟩
            simpa [isInherentRequired, hdata, Option.filter] using hpos
  obtain ⟨error, herror⟩ := hrequired
  obtain ⟨extrinsic, hmem, hinherent⟩ := h.required error herror
  obtain ⟨amount, hamount⟩ : ∃ amount, extrinsic.call.transferAmount = some amount := by
    cases hcall : extrinsic.call with
    | transferTokens amount => exact ⟨amount, rfl⟩
    | setMainChainScripts => simp [hcall, isInherent] at hinherent
  exact List.ne_nil_of_mem (List.mem_filterMap.mpr ⟨extrinsic, hmem, hamount⟩)

/-- A valid block with checked inherents releases the observed amount once
for every `transfer_tokens` call it contains, so it releases what was
observed exactly if that is nothing or the call occurs once. -/
theorem executeBlock_releases_observed_iff {S : Type} (handler : TokenTransferHandler S)
    {data : InherentData} {body : List Extrinsic} {s : Storage S}
    {s' : Storage (S × List NativeTokenAmount)}
    (hchecked : InherentsChecked data body)
    (hexecuted : executeBlock (recording handler) s.startRecording body = .ok s') :
    sumAmounts s'.handlerState.2 = (observedAmount data).toNat ↔
      observedAmount data = 0 ∨ (transferAmounts body).length = 1 := by
  have hamounts : s'.handlerState.2 = transferAmounts body :=
    (executeBlock_recording handler body hexecuted).1
  have hsum : sumAmounts s'.handlerState.2 =
      (transferAmounts body).length * (observedAmount data).toNat := by
    rw [hamounts, sumAmounts, transferAmounts_eq_replicate hchecked]
    simp
  rw [hsum]
  by_cases hzero : observedAmount data = 0
  · simp [hzero]
  · have hpos : (observedAmount data).toNat ≠ 0 := by
      intro h
      exact hzero (BitVec.eq_of_toNat_eq h)
    simp only [hzero, false_or]
    exact Nat.mul_eq_right hpos

/-! ## A block that releases the tokens twice -/

/-- A handler that adds up what it releases. -/
def releasingHandler : TokenTransferHandler Nat := fun amount released =>
  .ok (released + amount.toNat)

/-- A pallet with scripts and a handler that counts. -/
def exampleStorage : Storage Nat where
  mainChainScriptsConfiguration :=
    some ⟨FixedBytes.replicate 28 0, AssetName.empty, "illiquid_supply"⟩
  initialized := true
  handlerState := 0

/-- The inherent data when five tokens were locked. -/
def fiveTokensObserved : InherentData := [(inherentIdentifier, TokenTransferData.encode ⟨5⟩)]

/-- The inherent for five tokens. -/
def transferFive : Extrinsic := ⟨.none, .transferTokens 5⟩

/-- Any number of equal transfers passes the check. -/
theorem inherentsChecked_replicate {n : Nat} (hn : n ≠ 0) :
    InherentsChecked fiveTokensObserved (List.replicate n transferFive) where
  checked := by
    intro extrinsic hmem _
    rw [List.eq_of_mem_replicate hmem]
    decide
  required := by
    intro error _
    exact ⟨transferFive, by simp [List.mem_replicate, hn], rfl⟩

/-- A block with two transfers passes and releases the amount twice. -/
theorem executeBlock_releases_observed_twice :
    InherentsChecked fiveTokensObserved [transferFive, transferFive] ∧
      (observedAmount fiveTokensObserved).toNat = 5 ∧
      (executeBlock (recording releasingHandler) exampleStorage.startRecording
        [transferFive, transferFive]).toOption.map (fun s => s.handlerState) =
          some (10, [5, 5]) ∧
      sumAmounts [5, 5] = 10 :=
  ⟨inherentsChecked_replicate two_ne_zero, by decide, by decide, by decide⟩

/-- With one transfer the amount is right. -/
theorem executeBlock_releases_observed_once :
    InherentsChecked fiveTokensObserved [transferFive] ∧
      (sumAmounts [5] = (observedAmount fiveTokensObserved).toNat ↔
        observedAmount fiveTokensObserved = 0 ∨ (transferAmounts [transferFive]).length = 1) :=
  ⟨inherentsChecked_replicate one_ne_zero,
    executeBlock_releases_observed_iff releasingHandler (s := exampleStorage)
      (inherentsChecked_replicate one_ne_zero) rfl⟩

end PartnerChains.Ports.NativeTokenPallet
