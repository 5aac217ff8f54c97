import PartnerChains.Ports.BlockDataSource

/-!
# Epochs and times of the main chain

The port of `mainchain_epoch_to_timestamp` and of the RPC method `get_status`,
which reports the time at which the next epoch of the main chain starts.

`mcEpochStart` is the time at which an epoch starts: the first epoch starts at
the first timestamp, every further one a duration later.  Derivation of epochs
from timestamps is the adjoint of it (`reaches_iff`).  The time that the code
computes for an epoch counts from epoch 0 instead of the first epoch, so
`epochBoundary_iff` holds for networks whose first epoch number is 0, and for
others only if the difference is lost in the overflow of the product.
-/

namespace PartnerChains.Ports.MainchainEpoch

open PartnerChains.Ports.Domain
open PartnerChains.Ports.AriadneProvider
open PartnerChains.Ports.BlockDataSource
open PartnerChains.Verified.Fallible

/-! ## Ports -/

/-- Product and sum wrap, as in a release build. -/
def mainchainEpochToTimestamp (config : MainchainEpochConfig) (epoch : UInt32) : UInt64 :=
  let timeElapsed := config.epochDurationMillis * epoch.toUInt64
  config.firstEpochTimestampMillis + timeElapsed

/-- The partner chain's part of the status. -/
structure SidechainData where
  epoch : UInt64
  slot : UInt64
  nextEpochTimestamp : UInt64

/-- The main chain's part of the status. -/
structure MainchainData where
  epoch : UInt32
  slot : Nat
  nextEpochTimestamp : UInt64

/-- What the status request of `sidechain_rpc` answers. -/
structure GetStatusResponse where
  sidechain : SidechainData
  mainchain : MainchainData

/-- `E` are the errors of runtime calls, `D` those of the data source. -/
inductive GetStatusRpcError (E D : Type) where
  | apiError (error : E)
  | cannotConvertSidechainSlotToTimestamp
  | getLatestBlockResponse (error : D)
  /-- Not a value of the source: the call panics. -/
  | panic (message : String)

/-- `fromTimestamp` and `timestamp` are `Slot::from_timestamp` and
`Slot::timestamp`; the runtime call, the clock and the data source are given by
what they return. -/
def getStatus {E D : Type} (fromTimestamp : UInt64 → UInt64 → UInt64)
    (timestamp : UInt64 → UInt64 → Option UInt64) (mcEpochConfig : MainchainEpochConfig)
    (slotConfig : Except E ScSlotConfig) (currentTimestamp : UInt64)
    (latestBlockInfo : Except D MainchainBlock) :
    Except (GetStatusRpcError E D) GetStatusResponse := do
  let slotConfig ← slotConfig.mapError .apiError
  let currentSidechainSlot := fromTimestamp currentTimestamp slotConfig.slotDuration
  let currentSidechainEpoch ← okOr
    (Domain.epochNumber currentSidechainSlot slotConfig.slotsPerEpoch)
    (.panic "attempt to divide by zero")
  let nextSidechainEpochTimestamp ← okOr
    (slotConfig.epochStartTime timestamp (currentSidechainEpoch + 1))
    .cannotConvertSidechainSlotToTimestamp
  let latestMainchainBlock ← latestBlockInfo.mapError .getLatestBlockResponse
  let latestEpoch := UInt32.ofNat latestMainchainBlock.epoch
  .ok { sidechain := ⟨currentSidechainEpoch, currentSidechainSlot, nextSidechainEpochTimestamp⟩
        mainchain := ⟨latestEpoch, latestMainchainBlock.slot,
          mainchainEpochToTimestamp mcEpochConfig (latestEpoch + 1)⟩ }

/-! ## Starts of epochs -/

/-- When a main chain epoch starts. -/
def mcEpochStart (config : MainchainEpochConfig) (epoch : Nat) : Int :=
  config.firstEpochTimestampMillis.toNat +
    ((epoch : Int) - config.firstEpochNumber.toNat) * config.epochDurationMillis.toNat

theorem mcEpochStart_succ (config : MainchainEpochConfig) (epoch : Nat) :
    mcEpochStart config (epoch + 1) =
      mcEpochStart config epoch + config.epochDurationMillis.toNat := by
  simp only [mcEpochStart]
  push_cast
  ring

section Derivation

variable {E : Type} {config : MainchainEpochConfig} {t : UInt64}

/-- The epochs between the first timestamp and another one. -/
def elapsedEpochs (config : MainchainEpochConfig) (t : UInt64) : Nat :=
  (t.toNat - config.firstEpochTimestampMillis.toNat) / config.epochDurationMillis.toNat

/-- There is no epoch before the first one. -/
theorem timestampToMainchainEpoch_of_lt (h : t < config.firstEpochTimestampMillis) :
    config.timestampToMainchainEpoch t =
      (.error (.mcEpochDerivationError .timestampTooSmall) :
        Except (InherentProviderCreationError E) Nat) := by
  simp only [MainchainEpochConfig.timestampToMainchainEpoch, MainchainEpochConfig.epochsPassed,
    h, if_true]
  rfl

/-- From the first epoch on the epoch is counted, up to the bounds of its types. -/
theorem timestampToMainchainEpoch_of_le (hpos : config.epochDurationMillis ≠ 0)
    (h : config.firstEpochTimestampMillis ≤ t) :
    config.timestampToMainchainEpoch t =
      (if 2 ^ 31 ≤ elapsedEpochs config t then
        .error (.mcEpochDerivationError .epochTooBig)
      else .ok (min (config.firstEpochNumber.toNat + elapsedEpochs config t) (2 ^ 32 - 1)) :
        Except (InherentProviderCreationError E) Nat) := by
  have hlt : ¬ t < config.firstEpochTimestampMillis := UInt64.not_lt.mpr h
  have hres : ((t - config.firstEpochTimestampMillis) / config.epochDurationMillis).toNat =
      elapsedEpochs config t := by
    rw [UInt64.toNat_div, UInt64.toNat_sub_of_le _ _ h, elapsedEpochs]
  simp only [MainchainEpochConfig.timestampToMainchainEpoch, MainchainEpochConfig.epochsPassed,
    hlt, hpos, hres, if_false]
  by_cases hword : 2 ^ 32 ≤ elapsedEpochs config t
  · rw [if_pos hword, if_pos (by omega)]
    rfl
  · by_cases hbig : 2 ^ 31 ≤ elapsedEpochs config t
    · rw [if_neg hword, if_pos (by omega), if_pos hbig]
      rfl
    · rw [if_neg hword, if_neg (by omega), if_neg hbig]
      rfl

/-- What a derived epoch says about the time. -/
theorem elapsedEpochs_of_ok {n : Nat} (h : config.timestampToMainchainEpoch t =
      (.ok n : Except (InherentProviderCreationError E) Nat)) :
    config.firstEpochTimestampMillis ≤ t ∧ 0 < config.epochDurationMillis.toNat ∧
      elapsedEpochs config t < 2 ^ 31 ∧
      n = min (config.firstEpochNumber.toNat + elapsedEpochs config t) (2 ^ 32 - 1) := by
  by_cases hlt : t < config.firstEpochTimestampMillis
  · rw [timestampToMainchainEpoch_of_lt hlt] at h
    cases h
  · have hle := UInt64.not_lt.mp hlt
    by_cases hzero : config.epochDurationMillis = 0
    · simp only [MainchainEpochConfig.timestampToMainchainEpoch,
        MainchainEpochConfig.epochsPassed, hlt, hzero, if_false, if_true] at h
      cases h
    · rw [timestampToMainchainEpoch_of_le hzero hle] at h
      by_cases hbig : 2 ^ 31 ≤ elapsedEpochs config t
      · rw [if_pos hbig] at h
        cases h
      · rw [if_neg hbig] at h
        have hpos : config.epochDurationMillis.toNat ≠ 0 :=
          fun h => hzero (UInt64.toNat_inj.mp (by simpa using h))
        exact ⟨hle, by omega, by omega, (Except.ok.inj h).symm⟩

/-- The result is an epoch from `epoch` on: also if it is too big a number. -/
def Reaches (epoch : Nat) : Except (InherentProviderCreationError E) Nat → Prop
  | .ok n => epoch ≤ n
  | .error (.mcEpochDerivationError .epochTooBig) => True
  | .error _ => False

/-- An epoch has started exactly when its start is not in the future. -/
theorem le_elapsedEpochs_iff (hpos : 0 < config.epochDurationMillis.toNat)
    (hle : config.firstEpochTimestampMillis.toNat ≤ t.toNat) (epoch : Nat) :
    epoch ≤ config.firstEpochNumber.toNat + elapsedEpochs config t ↔
      mcEpochStart config epoch ≤ t.toNat := by
  have hdiv : (epoch : Int) - config.firstEpochNumber.toNat ≤
      ((t.toNat - config.firstEpochTimestampMillis.toNat : Nat) : Int) /
        config.epochDurationMillis.toNat ↔
      ((epoch : Int) - config.firstEpochNumber.toNat) * config.epochDurationMillis.toNat ≤
        (t.toNat - config.firstEpochTimestampMillis.toNat : Nat) :=
    Int.le_ediv_iff_mul_le (by exact_mod_cast hpos)
  rw [← Int.natCast_div] at hdiv
  rw [mcEpochStart, elapsedEpochs]
  omega

theorem ne_zero_of_pos (hpos : 0 < config.epochDurationMillis.toNat) :
    config.epochDurationMillis ≠ 0 := by
  intro h
  simp [h] at hpos

theorem firstEpochTimestamp_le {epoch : Nat} (hfirst : config.firstEpochNumber.toNat ≤ epoch) :
    (config.firstEpochTimestampMillis.toNat : Int) ≤ mcEpochStart config epoch := by
  rw [mcEpochStart]
  have hmul : 0 ≤ ((epoch : Int) - config.firstEpochNumber.toNat) *
      config.epochDurationMillis.toNat := mul_nonneg (by omega) (by omega)
  omega

/-- Epochs and their starts are adjoint. -/
theorem reaches_iff (hpos : 0 < config.epochDurationMillis.toNat) {epoch : Nat}
    (hfirst : config.firstEpochNumber.toNat ≤ epoch) (hword : epoch < 2 ^ 32)
    (hpassed : epoch < config.firstEpochNumber.toNat + 2 ^ 31) :
    Reaches epoch (config.timestampToMainchainEpoch t :
        Except (InherentProviderCreationError E) Nat) ↔
      mcEpochStart config epoch ≤ t.toNat := by
  by_cases hlt : t < config.firstEpochTimestampMillis
  · rw [timestampToMainchainEpoch_of_lt hlt]
    have hstart := firstEpochTimestamp_le hfirst
    have hlt' := UInt64.lt_iff_toNat_lt.mp hlt
    simp only [Reaches, false_iff]
    omega
  · have hle := UInt64.not_lt.mp hlt
    rw [timestampToMainchainEpoch_of_le (ne_zero_of_pos hpos) hle,
      ← le_elapsedEpochs_iff hpos (UInt64.le_iff_toNat_le.mp hle)]
    by_cases hbig : 2 ^ 31 ≤ elapsedEpochs config t
    · rw [if_pos hbig]
      simp only [Reaches, true_iff]
      omega
    · rw [if_neg hbig]
      simp only [Reaches]
      omega

/-- The epoch of a time between its start and that of the next one. -/
theorem timestampToMainchainEpoch_eq_ok (hpos : 0 < config.epochDurationMillis.toNat)
    {epoch : Nat} (hfirst : config.firstEpochNumber.toNat ≤ epoch) (hword : epoch < 2 ^ 32)
    (hpassed : epoch < config.firstEpochNumber.toNat + 2 ^ 31)
    (hlow : mcEpochStart config epoch ≤ t.toNat)
    (hhigh : (t.toNat : Int) < mcEpochStart config (epoch + 1)) :
    config.timestampToMainchainEpoch t =
      (.ok epoch : Except (InherentProviderCreationError E) Nat) := by
  have hle : config.firstEpochTimestampMillis ≤ t := by
    have hstart := firstEpochTimestamp_le hfirst
    rw [UInt64.le_iff_toNat_le]
    omega
  have hle' := UInt64.le_iff_toNat_le.mp hle
  have hreached := (le_elapsedEpochs_iff hpos hle' epoch).mpr hlow
  have hnext := mt (le_elapsedEpochs_iff hpos hle' (epoch + 1)).mp (not_le.mpr hhigh)
  rw [timestampToMainchainEpoch_of_le (ne_zero_of_pos hpos) hle, if_neg (by omega)]
  congr 1
  omega

end Derivation

/-! ## The reported boundary -/

/-- What `get_status` reports is the time at which the epoch ends: the next
epoch is derived from it, and from the millisecond before, the epoch itself.
More generally, the two functions are adjoint. -/
structure EpochBoundary (E : Type) (config : MainchainEpochConfig) (epoch : UInt32) : Prop where
  starts : config.timestampToMainchainEpoch (mainchainEpochToTimestamp config (epoch + 1)) =
    (.ok (epoch.toNat + 1) : Except (InherentProviderCreationError E) Nat)
  ends : config.timestampToMainchainEpoch (mainchainEpochToTimestamp config (epoch + 1) - 1) =
    (.ok epoch.toNat : Except (InherentProviderCreationError E) Nat)
  adjoint : ∀ t, Reaches epoch.toNat (config.timestampToMainchainEpoch t :
      Except (InherentProviderCreationError E) Nat) ↔ mainchainEpochToTimestamp config epoch ≤ t

/-- The end of the epoch is a timestamp, and the next epoch a number that can be
derived. -/
structure BoundaryFits (config : MainchainEpochConfig) (epoch : UInt32) : Prop where
  timestamp : mcEpochStart config (epoch.toNat + 1) < 2 ^ 64
  word : epoch.toNat + 1 < 2 ^ 32
  passed : epoch.toNat + 1 < config.firstEpochNumber.toNat + 2 ^ 31

section Boundary

variable {E D : Type} {config : MainchainEpochConfig} {epoch : UInt32}

/-- The status reports what is computed for the epoch after the current one. -/
theorem getStatus_mainchain {fromTimestamp : UInt64 → UInt64 → UInt64}
    {timestamp : UInt64 → UInt64 → Option UInt64} {slotConfig : Except E ScSlotConfig}
    {currentTimestamp : UInt64} {latestBlockInfo : Except D MainchainBlock}
    {response : GetStatusResponse}
    (h : getStatus fromTimestamp timestamp config slotConfig currentTimestamp latestBlockInfo =
      .ok response) :
    response.mainchain.nextEpochTimestamp =
      mainchainEpochToTimestamp config (response.mainchain.epoch + 1) := by
  obtain ⟨slotConfig, -, h⟩ := bind_eq_ok.mp h
  obtain ⟨currentEpoch, -, h⟩ := bind_eq_ok.mp h
  obtain ⟨nextTimestamp, -, h⟩ := bind_eq_ok.mp h
  obtain ⟨block, -, h⟩ := bind_eq_ok.mp h
  cases h
  rfl

/-- The computed time is congruent to the start of an epoch that comes later by
the first epoch number. -/
theorem toNat_mainchainEpochToTimestamp (config : MainchainEpochConfig) (epoch : UInt32) :
    ((mainchainEpochToTimestamp config epoch).toNat : Int) =
      (mcEpochStart config epoch.toNat + config.firstEpochNumber.toNat *
        config.epochDurationMillis.toNat) % 2 ^ 64 := by
  rw [mainchainEpochToTimestamp, UInt64.toNat_add, UInt64.toNat_mul, UInt32.toNat_toUInt64,
    Nat.add_mod_mod, mcEpochStart]
  push_cast
  congr 1
  ring

/-- The computed time is the start of the epoch exactly if what it counts in
addition is lost. -/
theorem mainchainEpochToTimestamp_eq_iff (hfits : mcEpochStart config epoch.toNat < 2 ^ 64)
    (hfirst : config.firstEpochNumber.toNat ≤ epoch.toNat) :
    ((mainchainEpochToTimestamp config epoch).toNat : Int) = mcEpochStart config epoch.toNat ↔
      2 ^ 64 ∣ config.firstEpochNumber.toNat * config.epochDurationMillis.toNat := by
  have hstart := firstEpochTimestamp_le hfirst
  rw [toNat_mainchainEpochToTimestamp]
  zify
  omega

/-- The next epoch is reached at the time and not before it, so this is its
start. -/
theorem EpochBoundary.timestamp_eq (h : EpochBoundary E config epoch)
    (hfirst : config.firstEpochNumber.toNat ≤ epoch.toNat) :
    ((mainchainEpochToTimestamp config (epoch + 1)).toNat : Int) =
      mcEpochStart config (epoch.toNat + 1) := by
  obtain ⟨hle, hpos, -, hstarts⟩ := elapsedEpochs_of_ok h.starts
  obtain ⟨hle', -, -, hends⟩ := elapsedEpochs_of_ok h.ends
  generalize mainchainEpochToTimestamp config (epoch + 1) = t at *
  rw [UInt64.le_iff_toNat_le] at hle hle'
  have hreached := (le_elapsedEpochs_iff hpos hle (epoch.toNat + 1)).mp (by omega)
  have hnot := mt (le_elapsedEpochs_iff hpos hle' (epoch.toNat + 1)).mpr (by omega)
  have hstart := firstEpochTimestamp_le hfirst
  rw [mcEpochStart_succ] at hreached hnot ⊢
  have hsub : (t - 1).toNat = t.toNat - 1 :=
    UInt64.toNat_sub_of_le _ _ (UInt64.le_iff_toNat_le.mpr (by simp; omega))
  omega

/-- A right boundary does not overflow. -/
theorem EpochBoundary.fits (h : EpochBoundary E config epoch)
    (hfirst : config.firstEpochNumber.toNat ≤ epoch.toNat) : BoundaryFits config epoch := by
  obtain ⟨-, -, hpassed, hstarts⟩ := elapsedEpochs_of_ok h.starts
  have htimestamp := h.timestamp_eq hfirst
  have hword := (mainchainEpochToTimestamp config (epoch + 1)).toNat_lt
  exact ⟨by omega, by omega, by omega⟩

private theorem BoundaryFits.toNat_succ (h : BoundaryFits config epoch) :
    (epoch + 1).toNat = epoch.toNat + 1 := by
  rw [UInt32.toNat_add]
  exact Nat.mod_eq_of_lt h.word

/-- With the real starts of the two epochs, everything follows. -/
theorem BoundaryFits.epochBoundary (h : BoundaryFits config epoch)
    (hpos : 0 < config.epochDurationMillis.toNat)
    (hfirst : config.firstEpochNumber.toNat ≤ epoch.toNat)
    (hnext : ((mainchainEpochToTimestamp config (epoch + 1)).toNat : Int) =
      mcEpochStart config (epoch.toNat + 1))
    (hthis : ((mainchainEpochToTimestamp config epoch).toNat : Int) =
      mcEpochStart config epoch.toNat) : EpochBoundary E config epoch := by
  have hword := h.word
  have hpassed := h.passed
  have hsucc := mcEpochStart_succ config epoch.toNat
  have hsucc' := mcEpochStart_succ config (epoch.toNat + 1)
  have hstart := firstEpochTimestamp_le hfirst
  constructor
  · exact timestampToMainchainEpoch_eq_ok hpos (by omega) hword hpassed (by omega) (by omega)
  · have hsub : (mainchainEpochToTimestamp config (epoch + 1) - 1).toNat =
        (mainchainEpochToTimestamp config (epoch + 1)).toNat - 1 :=
      UInt64.toNat_sub_of_le _ _ (UInt64.le_iff_toNat_le.mpr (by simp; omega))
    exact timestampToMainchainEpoch_eq_ok hpos hfirst (by omega) (by omega) (by omega)
      (by omega)
  · intro t
    rw [reaches_iff hpos hfirst (by omega) (by omega), UInt64.le_iff_toNat_le]
    omega

/-- The boundary is the real one exactly if it is a timestamp and the product of
the first epoch number and the duration overflows to zero; without overflow
exactly if the first epoch number is 0. -/
theorem epochBoundary_iff (hpos : 0 < config.epochDurationMillis.toNat)
    (hfirst : config.firstEpochNumber.toNat ≤ epoch.toNat) :
    (EpochBoundary E config epoch ↔ BoundaryFits config epoch ∧
      2 ^ 64 ∣ config.firstEpochNumber.toNat * config.epochDurationMillis.toNat) ∧
    (config.firstEpochTimestampMillis.toNat +
        (epoch.toNat + 1) * config.epochDurationMillis.toNat < 2 ^ 64 →
      epoch.toNat + 1 < 2 ^ 31 →
        (EpochBoundary E config epoch ↔ config.firstEpochNumber = 0)) := by
  have hiff : EpochBoundary E config epoch ↔ BoundaryFits config epoch ∧
      2 ^ 64 ∣ config.firstEpochNumber.toNat * config.epochDurationMillis.toNat := by
    constructor
    · intro h
      have hfits := h.fits hfirst
      have heq := h.timestamp_eq hfirst
      rw [← hfits.toNat_succ] at heq
      refine ⟨hfits, (mainchainEpochToTimestamp_eq_iff ?_ ?_).mp heq⟩
      · rw [hfits.toNat_succ]
        exact hfits.timestamp
      · rw [hfits.toNat_succ]
        omega
    · rintro ⟨hfits, hdvd⟩
      have htimestamp := hfits.timestamp
      have hsucc := mcEpochStart_succ config epoch.toNat
      have hnext := (mainchainEpochToTimestamp_eq_iff (by rw [hfits.toNat_succ]; omega)
        (by rw [hfits.toNat_succ]; omega)).mpr hdvd
      rw [hfits.toNat_succ] at hnext
      exact hfits.epochBoundary hpos hfirst hnext
        ((mainchainEpochToTimestamp_eq_iff (by omega) hfirst).mpr hdvd)
  refine ⟨hiff, ?_⟩
  intro hsmall hpassed
  rw [hiff]
  constructor
  · rintro ⟨-, hdvd⟩
    have hle : config.firstEpochNumber.toNat * config.epochDurationMillis.toNat ≤
        (epoch.toNat + 1) * config.epochDurationMillis.toNat :=
      Nat.mul_le_mul_right _ (by omega)
    have hzero := Nat.eq_zero_of_dvd_of_lt hdvd (by omega)
    rcases Nat.mul_eq_zero.mp hzero with hfirst | hduration
    · exact UInt32.toNat_inj.mp hfirst
    · omega
  · intro hzero
    have hnat : config.firstEpochNumber.toNat = 0 := by simp [hzero]
    refine ⟨⟨?_, by omega, by omega⟩, by simp [hnat]⟩
    rw [mcEpochStart, hnat, Int.natCast_zero, Int.sub_zero]
    exact_mod_cast hsmall

end Boundary

/-! ## A network whose first epoch is not 0

The configuration of the preprod network: epochs of five days, from epoch 4
on. -/

/-- The epochs of the preprod network, of five days each. -/
def preprodConfig : MainchainEpochConfig := ⟨1655798400000, 432000000, 4⟩

/-- The end of epoch 4 is reported to be the start of epoch 9. -/
theorem preprod_nextEpochTimestamp :
    ∃ response, getStatus (E := Unit) (D := Unit) (fun t d => t / d) slotTimestamp preprodConfig
        (.ok ⟨60, 6000⟩) 1655798400000 (.ok ⟨0, FixedBytes.replicate 32 0, 4, 86400, 1655798400⟩) =
          .ok response ∧
      response.mainchain.epoch = 4 ∧
      preprodConfig.timestampToMainchainEpoch response.mainchain.nextEpochTimestamp =
        (.ok 9 : Except (InherentProviderCreationError Unit) Nat) :=
  ⟨_, rfl, rfl, rfl⟩

/-- The condition on the preprod network, whose first epoch is not zero. -/
theorem epochBoundary_iff_preprod :
    (EpochBoundary Unit preprodConfig 4 ↔ BoundaryFits preprodConfig 4 ∧
      2 ^ 64 ∣ preprodConfig.firstEpochNumber.toNat * preprodConfig.epochDurationMillis.toNat) ∧
    (EpochBoundary Unit preprodConfig 4 ↔ preprodConfig.firstEpochNumber = 0) := by
  have hpos : 0 < preprodConfig.epochDurationMillis.toNat := by decide
  have hfirst : preprodConfig.firstEpochNumber.toNat ≤ (4 : UInt32).toNat := by decide
  have hiff := epochBoundary_iff (E := Unit) hpos hfirst
  exact ⟨hiff.1, hiff.2 (by decide) (by decide)⟩

end PartnerChains.Ports.MainchainEpoch
