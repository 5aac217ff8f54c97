import PartnerChains.Ports.CandidatesDataSource
import PartnerChains.Ports.CommitteePallet
import PartnerChains.Verified.Fallible

/-!
# The inherent data provider of the committee selection

The port of `AriadneInherentDataProvider`.  The runtime state of the parent
block says for which epoch the next committee is to be selected; the epoch is
mapped to a main chain epoch by way of its start time, and the inputs of the
selection are read for that epoch, provided that the data is older than the
main chain block that the new block refers to.

`Slot::timestamp` belongs to the consensus library; it is a parameter.
-/

namespace PartnerChains.Ports.AriadneProvider

open PartnerChains.Ports.Domain
open PartnerChains.Ports.DbSync
open PartnerChains.Ports.CandidatesQuery
open PartnerChains.Ports.CandidatesDataSource
open PartnerChains.Ports.CommitteePallet
open PartnerChains.Verified.Fallible

/-! ## Errors -/

/-- Why a time or slot has no epoch. -/
inductive EpochDerivationError where
  /-- Timestamp before first Mainchain Epoch. -/
  | timestampTooSmall
  /-- Epoch number exceeds maximal allowed value. -/
  | epochTooBig
  /-- Epoch number is below the allowed value. -/
  | epochTooSmall
  /-- Slot number is below the allowed value. -/
  | slotTooSmall
deriving DecidableEq

/-- The query that failed, with its arguments. -/
inductive AuthoritySelectionInputsCreationError where
  | ariadneParametersQuery (epoch : Nat) (dParameter permissionedCandidates : PolicyId)
      (error : CandidatesError)
  | getCandidatesQuery (epoch : Nat) (committeeCandidateAddress : String)
      (error : CandidatesError)
  | getEpochNonceQuery (epoch : Nat) (error : CandidatesError)

/-- `E` are the errors of runtime calls. -/
inductive InherentProviderCreationError (E : Type) where
  /-- Slot represents a timestamp bigger than of `u64::MAX`. -/
  | slotTooBig
  | mcEpochDerivationError (error : EpochDerivationError)
  | apiError (error : E)
  | inputsCreationError (error : AuthoritySelectionInputsCreationError)
  | dataSourceError (error : CandidatesError)
  /-- Not a value of the source: the call panics. -/
  | panic (message : String)

/-! ## Sidechain epochs -/

/-- What the consensus library documents for `Slot::timestamp`: the product,
unless it overflows. -/
def slotTimestamp (slot slotDuration : UInt64) : Option UInt64 :=
  if slot.toNat * slotDuration.toNat < 2 ^ 64 then some (slot * slotDuration) else none

/-- A timestamp that exists did not overflow. -/
theorem slotTimestamp_eq_some {slot slotDuration ts : UInt64}
    (h : slotTimestamp slot slotDuration = some ts) :
    ts.toNat = slot.toNat * slotDuration.toNat := by
  unfold slotTimestamp at h
  split at h
  · next hlt =>
      cases h
      rw [UInt64.toNat_mul, Nat.mod_eq_of_lt hlt]
  · cases h

/-- The slots of the partner chain. -/
structure ScSlotConfig where
  slotsPerEpoch : UInt32
  /-- In milliseconds. -/
  slotDuration : UInt64

namespace ScSlotConfig

variable {E : Type}

/-- `ScSlotConfig::epoch_number`; an epoch of no slots is a panic. -/
def epochNumber (config : ScSlotConfig) (slot : UInt64) :
    Except (InherentProviderCreationError E) UInt64 :=
  match Domain.epochNumber slot config.slotsPerEpoch with
  | some epoch => .ok epoch
  | none => .error (.panic "attempt to divide by zero")

/-- `timestamp` is `Slot::timestamp`, in milliseconds. -/
def epochStartTime (timestamp : UInt64 → UInt64 → Option UInt64) (config : ScSlotConfig)
    (epoch : UInt64) : Option UInt64 :=
  timestamp (firstSlotNumber epoch config.slotsPerEpoch) config.slotDuration

end ScSlotConfig

/-! ## Main chain epochs -/

/-- The epochs of the main chain. -/
structure MainchainEpochConfig where
  firstEpochTimestampMillis : UInt64
  epochDurationMillis : UInt64
  firstEpochNumber : UInt32

namespace MainchainEpochConfig

variable {E : Type}

/-- The full epochs between the first one and a time. -/
def epochsPassed (config : MainchainEpochConfig) (timestamp : UInt64) :
    Except (InherentProviderCreationError E) Nat :=
  if timestamp < config.firstEpochTimestampMillis then
    .error (.mcEpochDerivationError .timestampTooSmall)
  else if config.epochDurationMillis = 0 then .error (.panic "attempt to divide by zero")
  else
    let res := ((timestamp - config.firstEpochTimestampMillis) / config.epochDurationMillis).toNat
    if 2 ^ 32 ≤ res then .error (.mcEpochDerivationError .epochTooBig)
    else if 2 ^ 31 - 1 < res then .error (.mcEpochDerivationError .epochTooBig)
    else .ok res

/-- The sum of the `u32` saturates. -/
def timestampToMainchainEpoch (config : MainchainEpochConfig) (timestamp : UInt64) :
    Except (InherentProviderCreationError E) Nat := do
  let epochsPassed ← config.epochsPassed timestamp
  .ok (min (config.firstEpochNumber.toNat + epochsPassed) (2 ^ 32 - 1))

end MainchainEpochConfig

/-! ## The epoch of the next committee -/

/-- The runtime calls at the parent block. -/
structure RuntimeApi (E : Type) where
  getNextUnsetEpochNumber : Except E UInt64
  getMainChainScripts : Except E MainChainScripts

/-- The calls answered from the storage of the parent block. -/
def RuntimeApi.ofStorage {E Id Keys : Type} {maxValidators : Nat}
    (s : Storage Id Keys maxValidators) : RuntimeApi E where
  getNextUnsetEpochNumber := .ok (CommitteePallet.getNextUnsetEpochNumber s)
  getMainChainScripts := .ok s.mainChainScriptsConfiguration

section Provider

variable {E : Type} (timestamp : UInt64 → UInt64 → Option UInt64) (scSlotConfig : ScSlotConfig)
  (mcEpochConfig : MainchainEpochConfig)

/-- `sc_epoch_to_mc_epoch`: the main chain epoch in which an epoch of the partner
chain starts. -/
def scEpochToMcEpoch (scEpoch : UInt64) : Except (InherentProviderCreationError E) Nat :=
  match scSlotConfig.epochStartTime timestamp scEpoch with
  | none => .error .slotTooBig
  | some startTime => mcEpochConfig.timestampToMainchainEpoch startTime

/-- While the genesis committee is in charge, the next unset epoch is 1 and
the epoch is that of the slot. -/
def mcEpochForNextAriadneCidp (client : RuntimeApi E) (slot : UInt64) :
    Except (InherentProviderCreationError E) Nat := do
  let nextUnsetEpoch ← client.getNextUnsetEpochNumber.mapError .apiError
  let forScEpochNumber ←
    if nextUnsetEpoch = 1 then scSlotConfig.epochNumber slot else .ok nextUnsetEpoch
  scEpochToMcEpoch timestamp scSlotConfig mcEpochConfig forScEpochNumber

/-! ## The inputs of the selection -/

variable {J : Type} [DecidableEq J] (lib : Libraries J) (db : Db J)

/-- `AuthoritySelectionInputs::from_mc_data`: three queries, in this order. -/
def fromMcData (forEpoch : Nat) (scripts : MainChainScripts) :
    Except AuthoritySelectionInputsCreationError AuthoritySelectionInputs := do
  let ariadneParametersResponse ← (getAriadneParameters lib db forEpoch
      scripts.dParameterPolicyId scripts.permissionedCandidatesPolicyId).mapError
    (.ariadneParametersQuery forEpoch scripts.dParameterPolicyId
      scripts.permissionedCandidatesPolicyId)
  let registeredCandidates ←
    (getCandidates lib db forEpoch scripts.committeeCandidateAddress).mapError
      (.getCandidatesQuery forEpoch scripts.committeeCandidateAddress)
  let epochNonceResponse ←
    (getEpochNonceForUsage db forEpoch).mapError (.getEpochNonceQuery forEpoch)
  .ok { dParameter := ariadneParametersResponse.dParameter
        permissionedCandidates := ariadneParametersResponse.permissionedCandidates
        registeredCandidates := registeredCandidates
        epochNonce := epochNonceResponse.getD [] }

/-- The inherent data for the committee, which may be missing. -/
structure AriadneInherentDataProvider where
  data : Option AuthoritySelectionInputs

/-- `AriadneInherentDataProvider::new`: there is data only if the epoch of the
data is over at the referenced block. -/
def AriadneInherentDataProvider.new (client : RuntimeApi E) (slot : UInt64)
    (mcReferenceEpoch : Nat) :
    Except (InherentProviderCreationError E) AriadneInherentDataProvider := do
  let forMcEpoch ← mcEpochForNextAriadneCidp timestamp scSlotConfig mcEpochConfig client slot
  let dataEpoch ← (dataEpoch forMcEpoch).mapError .dataSourceError
  let scripts ← client.getMainChainScripts.mapError .apiError
  if dataEpoch < mcReferenceEpoch then
    let inputs ← (fromMcData lib db forMcEpoch scripts).mapError .inputsCreationError
    .ok ⟨some inputs⟩
  else .ok ⟨none⟩

/-! ## What is requested from the data source -/

/-- The epoch and the scripts for which data is read, if any is read.  The
data source has no part in this. -/
def dataRequest (client : RuntimeApi E) (slot : UInt64) (mcReferenceEpoch : Nat) :
    Except (InherentProviderCreationError E) (Option (Nat × MainChainScripts)) := do
  let forMcEpoch ← mcEpochForNextAriadneCidp timestamp scSlotConfig mcEpochConfig client slot
  let dataEpoch ← (dataEpoch forMcEpoch).mapError .dataSourceError
  let scripts ← client.getMainChainScripts.mapError .apiError
  .ok (if dataEpoch < mcReferenceEpoch then some (forMcEpoch, scripts) else none)

variable {timestamp scSlotConfig mcEpochConfig}

/-- The provider is the request for its data, answered. -/
theorem new_eq (client : RuntimeApi E) (slot : UInt64) (mcReferenceEpoch : Nat) :
    AriadneInherentDataProvider.new timestamp scSlotConfig mcEpochConfig lib db client slot
        mcReferenceEpoch =
      (dataRequest timestamp scSlotConfig mcEpochConfig client slot mcReferenceEpoch).bind
        fun request =>
          match request with
          | none => .ok ⟨none⟩
          | some (forEpoch, scripts) =>
              ((fromMcData lib db forEpoch scripts).mapError .inputsCreationError).map
                fun inputs => ⟨some inputs⟩ := by
  unfold AriadneInherentDataProvider.new dataRequest
  cases mcEpochForNextAriadneCidp timestamp scSlotConfig mcEpochConfig client slot with
  | error e => rfl
  | ok forMcEpoch =>
      simp only [bind, Except.bind]
      cases (dataEpoch forMcEpoch).mapError
          (InherentProviderCreationError.dataSourceError (E := E)) with
      | error e => rfl
      | ok dataEpoch =>
          cases client.getMainChainScripts.mapError InherentProviderCreationError.apiError with
          | error e => rfl
          | ok scripts =>
              by_cases hepoch : dataEpoch < mcReferenceEpoch
              · simp only [hepoch, if_true]
                cases (fromMcData lib db forMcEpoch scripts).mapError
                  (InherentProviderCreationError.inputsCreationError (E := E)) <;> rfl
              · simp only [hepoch, if_false]

/-- Data is read as of an epoch before that of the main chain block. -/
theorem epoch_of_dataRequest {client : RuntimeApi E} {slot : UInt64}
    {mcReferenceEpoch forEpoch : Nat} {scripts : MainChainScripts}
    (h : dataRequest timestamp scSlotConfig mcEpochConfig client slot mcReferenceEpoch =
      .ok (some (forEpoch, scripts))) :
    2 ≤ forEpoch ∧ forEpoch - 2 < mcReferenceEpoch := by
  obtain ⟨forMcEpoch, -, h⟩ := bind_eq_ok.mp h
  obtain ⟨epoch, hepoch, h⟩ := bind_eq_ok.mp h
  obtain ⟨scripts', -, h⟩ := bind_eq_ok.mp h
  obtain ⟨hge, rfl⟩ := dataEpoch_eq_ok (mapError_eq_ok.mp hepoch)
  simp only [Except.ok.injEq, Option.ite_none_right_eq_some, Option.some.injEq,
    Prod.mk.injEq] at h
  obtain ⟨hbefore, rfl, -⟩ := h
  exact ⟨hge, hbefore⟩

end Provider

end PartnerChains.Ports.AriadneProvider
