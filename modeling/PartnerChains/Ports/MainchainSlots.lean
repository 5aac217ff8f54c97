import PartnerChains.Ports.MainchainEpoch

/-!
# Slots and epochs of the main chain

The port of `first_slot_of_epoch` and `epoch_for_slot`.  A slot takes a second,
and an epoch a whole number of them.  Timestamps are rounded down to slots and
to epochs; `epochForSlot_of_timestamp` says that going by way of the slot makes
no difference, and `epochForSlot_eq_iff` that the slots of an epoch are those
from its first slot to the first slot of the next one.
-/

namespace PartnerChains.Ports.BlockDataSource.MainchainSlotConfig

open PartnerChains.Ports.AriadneProvider

variable (config : MainchainSlotConfig)

/-- Slots of the main chain last one second. -/
def slotsPerEpoch : UInt64 := config.epochDurationMillis / 1000

/-- Product and sum wrap, as in a release build. -/
def firstSlotOfEpoch (epoch : UInt32) : Except EpochDerivationError UInt64 :=
  if epoch < config.firstEpochNumber then .error .epochTooSmall
  else
    let epochsSinceFirstEpoch := epoch - config.firstEpochNumber
    let slotsSinceFirstEpoch := epochsSinceFirstEpoch.toUInt64 * config.slotsPerEpoch
    .ok (slotsSinceFirstEpoch + config.firstSlotNumber)

/-- `none` is the panic of a division by zero; the sum wraps. -/
def epochForSlot (slot : UInt64) : Option (Except EpochDerivationError UInt32) :=
  if slot < config.firstSlotNumber then some (.error .slotTooSmall)
  else if config.slotsPerEpoch = 0 then none
  else
    let slotsSinceFirstSlot := slot - config.firstSlotNumber
    let epochsSinceFirstEpoch := slotsSinceFirstSlot / config.slotsPerEpoch
    if 2 ^ 32 ≤ epochsSinceFirstEpoch.toNat then some (.error .epochTooBig)
    else some (.ok (config.firstEpochNumber + epochsSinceFirstEpoch.toUInt32))

end PartnerChains.Ports.BlockDataSource.MainchainSlotConfig

namespace PartnerChains.Ports.MainchainSlots

open PartnerChains.Ports.AriadneProvider
open PartnerChains.Ports.BlockDataSource
open PartnerChains.Ports.MainchainEpoch

/-! ## What they compute -/

/-- Epochs take a whole number of seconds, at least one. -/
structure WholeSeconds (config : MainchainSlotConfig) (seconds : Nat) : Prop where
  duration : config.epochDurationMillis.toNat = 1000 * seconds
  pos : 0 < seconds

section Slots

variable {config : MainchainSlotConfig} {seconds : Nat}

theorem WholeSeconds.slotsPerEpoch (h : WholeSeconds config seconds) :
    config.slotsPerEpoch.toNat = seconds := by
  rw [MainchainSlotConfig.slotsPerEpoch, UInt64.toNat_div, h.duration]
  exact Nat.mul_div_cancel_left seconds (by decide)

/-- The number of whole epochs between the first slot and another one. -/
def epochsSince (config : MainchainSlotConfig) (seconds : Nat) (slot : UInt64) :
    Nat :=
  (slot.toNat - config.firstSlotNumber.toNat) / seconds

/-- The epoch of a slot from the first one on. -/
theorem epochForSlot_of_le (h : WholeSeconds config seconds) {slot : UInt64}
    (hslot : config.firstSlotNumber ≤ slot) :
    config.epochForSlot slot =
      if 2 ^ 32 ≤ epochsSince config seconds slot then some (.error .epochTooBig)
      else some (.ok (config.firstEpochNumber +
        UInt32.ofNat (epochsSince config seconds slot))) := by
  have hne : config.slotsPerEpoch ≠ 0 := by
    intro hzero
    have hpos := h.pos
    rw [← h.slotsPerEpoch, hzero] at hpos
    exact Nat.lt_irrefl 0 hpos
  have hepochs : ((slot - config.firstSlotNumber) /
      config.slotsPerEpoch).toNat = epochsSince config seconds slot := by
    rw [UInt64.toNat_div, UInt64.toNat_sub_of_le _ _ hslot, h.slotsPerEpoch, epochsSince]
  have hword : ((slot - config.firstSlotNumber) /
      config.slotsPerEpoch).toUInt32 =
        UInt32.ofNat (epochsSince config seconds slot) := by
    rw [← UInt32.toNat_inj, UInt64.toNat_toUInt32, hepochs, UInt32.toNat_ofNat']
  simp only [MainchainSlotConfig.epochForSlot, UInt64.not_lt.mpr hslot, hne, hepochs, hword,
    if_false]

/-- A wrapped epoch is before the first one. -/
theorem add_ofNat_eq_iff {first epoch : UInt32} (hfirst : first ≤ epoch) {n : Nat}
    (hn : n < 2 ^ 32) :
    first + UInt32.ofNat n = epoch ↔ n = epoch.toNat - first.toNat := by
  have hle := UInt32.le_iff_toNat_le.mp hfirst
  have hepoch := epoch.toNat_lt
  rw [← UInt32.toNat_inj, UInt32.toNat_add, UInt32.toNat_ofNat_of_lt' hn]
  omega

private theorem epochForSlot_eq_ok_iff (h : WholeSeconds config seconds) {slot : UInt64}
    (hslot : config.firstSlotNumber ≤ slot) {epoch : UInt32}
    (hepoch : config.firstEpochNumber ≤ epoch) :
    config.epochForSlot slot = some (.ok epoch) ↔
      epochsSince config seconds slot = epoch.toNat - config.firstEpochNumber.toNat := by
  rw [epochForSlot_of_le h hslot]
  by_cases hbig : 2 ^ 32 ≤ epochsSince config seconds slot
  · have hlt := epoch.toNat_lt
    rw [if_pos hbig]
    refine iff_of_false (by simp) (by omega)
  · rw [if_neg hbig, Option.some.injEq, Except.ok.injEq,
      add_ofNat_eq_iff hepoch (Nat.not_le.mp hbig)]

private theorem firstSlotOfEpoch_eq (h : WholeSeconds config seconds) {epoch : UInt32}
    (hepoch : config.firstEpochNumber ≤ epoch)
    (hfits : config.firstSlotNumber.toNat +
      (epoch.toNat - config.firstEpochNumber.toNat) * seconds < 2 ^ 64) :
    ∃ slot, config.firstSlotOfEpoch epoch = .ok slot ∧
      slot.toNat = config.firstSlotNumber.toNat +
        (epoch.toNat - config.firstEpochNumber.toNat) * seconds := by
  refine ⟨_, if_neg (UInt32.not_lt.mpr hepoch), ?_⟩
  rw [UInt64.toNat_add, UInt64.toNat_mul, UInt32.toNat_toUInt64,
    UInt32.toNat_sub_of_le _ _ hepoch, h.slotsPerEpoch, Nat.mod_add_mod, Nat.add_comm,
    Nat.mod_eq_of_lt hfits]

/-! ## The two roundings -/

/-- The epoch of the slot of a timestamp is the epoch of the timestamp. -/
theorem epochForSlot_of_timestamp {E : Type} (h : WholeSeconds config seconds) {t : UInt64}
    {n : Nat} (hepoch : config.timestampToMainchainEpoch t =
      (.ok n : Except (InherentProviderCreationError E) Nat))
    (hslots : config.firstSlotNumber.toNat +
      (t.toNat - config.firstEpochTimestampMillis.toNat) / 1000 < 2 ^ 64)
    (hepochs : config.firstEpochNumber.toNat +
      elapsedEpochs config.toMainchainEpochConfig t < 2 ^ 32) :
    ∃ slot : UInt64, config.timestampToMainchainSlotNumber t.toNat = .ok slot.toNat ∧
      ∃ epoch, config.epochForSlot slot = some (.ok epoch) ∧ epoch.toNat = n := by
  obtain ⟨hle, -, -, hn⟩ := elapsedEpochs_of_ok hepoch
  obtain ⟨slot, hslot⟩ : ∃ slot : UInt64, slot.toNat = config.firstSlotNumber.toNat +
      (t.toNat - config.firstEpochTimestampMillis.toNat) / 1000 :=
    ⟨UInt64.ofNat _, UInt64.toNat_ofNat_of_lt' hslots⟩
  have hfirst : config.firstSlotNumber ≤ slot := by
    rw [UInt64.le_iff_toNat_le, hslot]
    exact Nat.le_add_right _ _
  -- rounding down to seconds and then to epochs is rounding down to epochs
  have hsince : epochsSince config seconds slot =
      elapsedEpochs config.toMainchainEpochConfig t := by
    rw [epochsSince, hslot, Nat.add_sub_cancel_left, Nat.div_div_eq_div_mul, elapsedEpochs,
      h.duration]
  have hword : elapsedEpochs config.toMainchainEpochConfig t < 2 ^ 32 := by omega
  refine ⟨slot, ?_, config.firstEpochNumber +
    UInt32.ofNat (elapsedEpochs config.toMainchainEpochConfig t), ?_, ?_⟩
  · rw [MainchainSlotConfig.timestampToMainchainSlotNumber,
      if_neg (Nat.not_lt.mpr (UInt64.le_iff_toNat_le.mp hle)), Nat.mod_eq_of_lt hslots, hslot]
  · rw [epochForSlot_of_le h hfirst, hsince, if_neg (Nat.not_le.mpr hword)]
  · rw [UInt32.toNat_add, UInt32.toNat_ofNat_of_lt' hword, Nat.mod_eq_of_lt hepochs, hn]
    omega

/-- The slots of an epoch. -/
theorem epochForSlot_eq_iff (h : WholeSeconds config seconds) {slot : UInt64}
    (hslot : config.firstSlotNumber ≤ slot) {epoch : UInt32}
    (hepoch : config.firstEpochNumber ≤ epoch) (hnext : epoch.toNat + 1 < 2 ^ 32)
    (hfits : config.firstSlotNumber.toNat +
      (epoch.toNat + 1 - config.firstEpochNumber.toNat) * seconds < 2 ^ 64) :
    ∃ start stop, config.firstSlotOfEpoch epoch = .ok start ∧
      config.firstSlotOfEpoch (epoch + 1) = .ok stop ∧
      (config.epochForSlot slot = some (.ok epoch) ↔ start ≤ slot ∧ slot < stop) := by
  have hle := UInt32.le_iff_toNat_le.mp hepoch
  have hslot' := UInt64.le_iff_toNat_le.mp hslot
  have hsucc : (epoch + 1).toNat = epoch.toNat + 1 := by
    rw [UInt32.toNat_add, UInt32.toNat_one, Nat.mod_eq_of_lt hnext]
  have hepoch' : config.firstEpochNumber ≤ epoch + 1 := by
    rw [UInt32.le_iff_toNat_le, hsucc]
    omega
  have hcount : epoch.toNat + 1 - config.firstEpochNumber.toNat =
      epoch.toNat - config.firstEpochNumber.toNat + 1 := by omega
  rw [hcount, Nat.add_one_mul] at hfits
  obtain ⟨start, hstart, hstartNat⟩ := firstSlotOfEpoch_eq h hepoch (by omega)
  obtain ⟨stop, hstop, hstopNat⟩ := firstSlotOfEpoch_eq h hepoch'
    (by rw [hsucc, hcount, Nat.add_one_mul]; exact hfits)
  rw [hsucc, hcount] at hstopNat
  refine ⟨start, stop, hstart, hstop, ?_⟩
  have hlow : epoch.toNat - config.firstEpochNumber.toNat ≤
      (slot.toNat - config.firstSlotNumber.toNat) / seconds ↔ _ := Nat.le_div_iff_mul_le h.pos
  have hhigh : (slot.toNat - config.firstSlotNumber.toNat) / seconds <
      epoch.toNat - config.firstEpochNumber.toNat + 1 ↔ _ := Nat.div_lt_iff_lt_mul h.pos
  rw [epochForSlot_eq_ok_iff h hslot hepoch, epochsSince, UInt64.le_iff_toNat_le,
    UInt64.lt_iff_toNat_lt, hstartNat, hstopNat]
  omega

/-- Timestamps, slots and epochs agree with each other, as long as no sum
overflows. -/
theorem slots_and_epochs_agree (E : Type) (h : WholeSeconds config seconds) :
    (∀ (t : UInt64) (n : Nat), config.timestampToMainchainEpoch t =
        (.ok n : Except (InherentProviderCreationError E) Nat) →
      config.firstSlotNumber.toNat +
        (t.toNat - config.firstEpochTimestampMillis.toNat) / 1000 < 2 ^ 64 →
      config.firstEpochNumber.toNat +
        elapsedEpochs config.toMainchainEpochConfig t < 2 ^ 32 →
      ∃ slot : UInt64, config.timestampToMainchainSlotNumber t.toNat = .ok slot.toNat ∧
        ∃ epoch, config.epochForSlot slot = some (.ok epoch) ∧ epoch.toNat = n) ∧
    ∀ (slot : UInt64) (epoch : UInt32), config.firstSlotNumber ≤ slot →
      config.firstEpochNumber ≤ epoch → epoch.toNat + 1 < 2 ^ 32 →
      config.firstSlotNumber.toNat +
        (epoch.toNat + 1 - config.firstEpochNumber.toNat) * seconds < 2 ^ 64 →
      ∃ start stop, config.firstSlotOfEpoch epoch = .ok start ∧
        config.firstSlotOfEpoch (epoch + 1) = .ok stop ∧
        (config.epochForSlot slot = some (.ok epoch) ↔ start ≤ slot ∧ slot < stop) := by
  constructor
  · intro t n hepoch hslots hepochs
    exact epochForSlot_of_timestamp h hepoch hslots hepochs
  · intro slot epoch hslot hepoch hnext hfits
    exact epochForSlot_eq_iff h hslot hepoch hnext hfits

end Slots

/-! ## The preprod network -/

/-- The preprod network, with the first slot after the Byron era. -/
def preprodSlots : MainchainSlotConfig := { preprodConfig with firstSlotNumber := 86400 }

/-- The last slot of epoch 4, and its last millisecond. -/
theorem slots_and_epochs_agree_preprod :
    (∃ slot : UInt64, preprodSlots.timestampToMainchainSlotNumber 1656230399999 =
        .ok slot.toNat ∧
      ∃ epoch, preprodSlots.epochForSlot slot = some (.ok epoch) ∧ epoch.toNat = 4) ∧
    ∃ start stop, preprodSlots.firstSlotOfEpoch 4 = .ok start ∧
      preprodSlots.firstSlotOfEpoch 5 = .ok stop ∧
      (preprodSlots.epochForSlot 518399 = some (.ok 4) ↔ start ≤ 518399 ∧ 518399 < stop) := by
  have hseconds : WholeSeconds preprodSlots 432000 := ⟨by decide, by decide⟩
  obtain ⟨htimestamps, hslots⟩ := slots_and_epochs_agree Unit hseconds
  exact ⟨htimestamps 1656230399999 4 rfl (by decide) (by decide),
    hslots 518399 4 (by decide) (by decide) (by decide) (by decide)⟩

end PartnerChains.Ports.MainchainSlots
