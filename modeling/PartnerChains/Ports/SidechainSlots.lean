import PartnerChains.Ports.AriadneProvider

/-!
# When sidechain epochs start

The rest of the port of `sidechain-slots`.  The start of an epoch is the
timestamp of its first slot.  `Slot::timestamp` reports a product that does not
fit a `u64`; the first slot is a product as well, and this one wraps around.

`exactStart_iff` says for which epochs the start is right all the same: those
whose first slot is a `u64`, and those for which the product that is checked
overflows, too.
-/

namespace PartnerChains.Ports.SidechainSlots

open PartnerChains.Ports.Domain
open PartnerChains.Ports.AriadneProvider

section Start

variable (timestamp : UInt64 → UInt64 → Option UInt64) (fromTimestamp : UInt64 → UInt64 → UInt64)
  (config : ScSlotConfig) (epoch : UInt64)

/-- `fromTimestamp` is `Slot::from_timestamp`, in milliseconds. -/
def slotFromTimestamp (ts : UInt64) : UInt64 := fromTimestamp ts config.slotDuration

/-- The start of an epoch is missing exactly if it is no `u64`, and otherwise
separates the epoch from the one before. -/
structure ExactStart : Prop where
  none_iff : config.epochStartTime timestamp epoch = none ↔
    2 ^ 64 ≤ epoch.toNat * config.slotsPerEpoch.toNat * config.slotDuration.toNat
  product : ∀ ts, config.epochStartTime timestamp epoch = some ts →
    ts.toNat = epoch.toNat * config.slotsPerEpoch.toNat * config.slotDuration.toNat
  starts : ∀ ts, config.epochStartTime timestamp epoch = some ts →
    Domain.epochNumber (slotFromTimestamp fromTimestamp config ts) config.slotsPerEpoch =
      some epoch
  before : ∀ ts, config.epochStartTime timestamp epoch = some ts → 0 < epoch →
    Domain.epochNumber (slotFromTimestamp fromTimestamp config (ts - 1)) config.slotsPerEpoch =
      some (epoch - 1)

end Start

/-! ## Slots and their products -/

/-- The first slot wraps around. -/
theorem toNat_firstSlotNumber (epoch : UInt64) (slotsPerEpoch : UInt32) :
    (firstSlotNumber epoch slotsPerEpoch).toNat = epoch.toNat * slotsPerEpoch.toNat % 2 ^ 64 := by
  rw [firstSlotNumber, UInt64.toNat_mul, UInt32.toNat_toUInt64]

/-- A timestamp is missing exactly if it would overflow. -/
theorem slotTimestamp_eq_none_iff {slot slotDuration : UInt64} :
    slotTimestamp slot slotDuration = none ↔ 2 ^ 64 ≤ slot.toNat * slotDuration.toNat := by
  unfold slotTimestamp
  split
  next hlt => simpa using hlt
  next hge => simpa using hge

private theorem epochNumber_eq_some_iff {slot epoch : UInt64} {slotsPerEpoch : UInt32}
    (hslots : slotsPerEpoch ≠ 0) :
    Domain.epochNumber slot slotsPerEpoch = some epoch ↔
      slot.toNat / slotsPerEpoch.toNat = epoch.toNat := by
  rw [Domain.epochNumber, if_neg hslots, Option.some.injEq, ← UInt64.toNat_inj, UInt64.toNat_div,
    UInt32.toNat_toUInt64]

/-- The predecessor of a multiple is in the interval before it. -/
theorem mul_sub_one_div {a b : Nat} (hb : 0 < b) (ha : 0 < a) : (a * b - 1) / b = a - 1 := by
  have h := Nat.mul_sub_div 0 b a (Nat.mul_pos hb ha)
  rwa [Nat.zero_div, Nat.zero_add, Nat.mul_comm] at h

/-! ## The result -/

section Exact

variable {timestamp : UInt64 → UInt64 → Option UInt64}
  {fromTimestamp : UInt64 → UInt64 → UInt64} {config : ScSlotConfig}

/-- The start of an epoch whose first slot does not wrap around. -/
theorem exactStart_of_lt (htimestamp : ∀ s d, timestamp s d = slotTimestamp s d)
    (hfrom : ∀ t d, fromTimestamp t d = t / d) (hslots : config.slotsPerEpoch ≠ 0)
    (hduration : 0 < config.slotDuration.toNat) {epoch : UInt64}
    (hfits : epoch.toNat * config.slotsPerEpoch.toNat < 2 ^ 64) :
    ExactStart timestamp fromTimestamp config epoch := by
  have hpos : 0 < config.slotsPerEpoch.toNat := by
    rw [Nat.pos_iff_ne_zero, ne_eq, ← UInt32.toNat_zero, UInt32.toNat_inj]
    exact hslots
  have hfirst : (firstSlotNumber epoch config.slotsPerEpoch).toNat =
      epoch.toNat * config.slotsPerEpoch.toNat := by
    rw [toNat_firstSlotNumber, Nat.mod_eq_of_lt hfits]
  have hproduct : ∀ ts, config.epochStartTime timestamp epoch = some ts →
      ts.toNat = epoch.toNat * config.slotsPerEpoch.toNat * config.slotDuration.toNat := by
    intro ts hts
    rw [ScSlotConfig.epochStartTime, htimestamp] at hts
    rw [slotTimestamp_eq_some hts, hfirst]
  refine ⟨?_, hproduct, ?_, ?_⟩
  · rw [ScSlotConfig.epochStartTime, htimestamp, slotTimestamp_eq_none_iff, hfirst]
  · intro ts hts
    rw [epochNumber_eq_some_iff hslots, slotFromTimestamp, hfrom, UInt64.toNat_div, hproduct ts hts,
      Nat.mul_div_cancel _ hduration, Nat.mul_div_cancel _ hpos]
  · intro ts hts hepoch
    have hepoch' : 0 < epoch.toNat := UInt64.lt_iff_toNat_lt.mp hepoch
    have hslot : 0 < epoch.toNat * config.slotsPerEpoch.toNat := Nat.mul_pos hepoch' hpos
    have hone : (1 : UInt64) ≤ ts := by
      rw [UInt64.le_iff_toNat_le, hproduct ts hts]
      exact Nat.mul_pos hslot hduration
    have hone' : (1 : UInt64) ≤ epoch := UInt64.le_iff_toNat_le.mpr hepoch'
    rw [epochNumber_eq_some_iff hslots, slotFromTimestamp, hfrom, UInt64.toNat_div,
      UInt64.toNat_sub_of_le _ _ hone, UInt64.toNat_sub_of_le _ _ hone', hproduct ts hts,
      UInt64.toNat_one, mul_sub_one_div hduration hslot, mul_sub_one_div hpos hepoch']

/-- The start of an epoch is exact unless the first slot wraps around and the
timestamp of the wrapped slot is a `u64`. -/
theorem exactStart_iff (htimestamp : ∀ s d, timestamp s d = slotTimestamp s d)
    (hfrom : ∀ t d, fromTimestamp t d = t / d) (hslots : 1 ≤ config.slotsPerEpoch.toNat)
    (hduration : 1 ≤ config.slotDuration.toNat) (epoch : UInt64) :
    ExactStart timestamp fromTimestamp config epoch ↔
      epoch.toNat * config.slotsPerEpoch.toNat < 2 ^ 64 ∨
        2 ^ 64 ≤ epoch.toNat * config.slotsPerEpoch.toNat % 2 ^ 64 *
          config.slotDuration.toNat := by
  have hne : config.slotsPerEpoch ≠ 0 := by
    intro hzero
    rw [hzero] at hslots
    cases hslots
  have hnone : config.epochStartTime timestamp epoch = none ↔
      2 ^ 64 ≤ epoch.toNat * config.slotsPerEpoch.toNat % 2 ^ 64 *
        config.slotDuration.toNat := by
    rw [ScSlotConfig.epochStartTime, htimestamp, slotTimestamp_eq_none_iff, toNat_firstSlotNumber]
  constructor
  · intro h
    by_cases hfits : epoch.toNat * config.slotsPerEpoch.toNat < 2 ^ 64
    · exact .inl hfits
    · -- the product is no `u64`, so the start has to be missing
      have hbig : 2 ^ 64 ≤
          epoch.toNat * config.slotsPerEpoch.toNat * config.slotDuration.toNat :=
        (Nat.not_lt.mp hfits).trans (Nat.le_mul_of_pos_right _ hduration)
      exact .inr (hnone.mp (h.none_iff.mpr hbig))
  · rintro (hfits | hover)
    · exact exactStart_of_lt htimestamp hfrom hne hduration hfits
    · have hmissing := hnone.mpr hover
      have hbig : 2 ^ 64 ≤
          epoch.toNat * config.slotsPerEpoch.toNat * config.slotDuration.toNat :=
        hover.trans (Nat.mul_le_mul_right _ (Nat.mod_le _ _))
      have hno : ∀ ts, config.epochStartTime timestamp epoch ≠ some ts := by
        intro ts hts
        rw [hmissing] at hts
        cases hts
      exact ⟨iff_of_true hmissing hbig, fun ts hts => absurd hts (hno ts),
        fun ts hts => absurd hts (hno ts), fun ts hts => absurd hts (hno ts)⟩

end Exact

/-! ## An epoch whose first slot wraps around to 0 -/

/-- Sixty slots of six seconds. -/
def hourlySlots : ScSlotConfig := ⟨60, 6000⟩

/-- `2 ^ 62`. -/
def wrappingEpoch : UInt64 := 4611686018427387904

/-- The epoch whose first slot wraps seems to start at zero. -/
theorem hourlySlots_wraps :
    hourlySlots.epochStartTime slotTimestamp wrappingEpoch = some 0 ∧
      ¬ ExactStart slotTimestamp (fun t d => t / d) hourlySlots wrappingEpoch := by
  have hstart : hourlySlots.epochStartTime slotTimestamp wrappingEpoch = some 0 := by decide
  refine ⟨hstart, fun h => ?_⟩
  have hproduct := h.product 0 hstart
  revert hproduct
  decide

/-- An ordinary epoch, and the one that wraps. -/
theorem exactStart_iff_hourlySlots :
    ExactStart slotTimestamp (fun t d => t / d) hourlySlots 7 ∧
      ¬ ExactStart slotTimestamp (fun t d => t / d) hourlySlots wrappingEpoch := by
  have hiff := @exactStart_iff slotTimestamp (fun t d => t / d) hourlySlots (fun _ _ => rfl)
    (fun _ _ => rfl) (by decide) (by decide)
  exact ⟨(hiff 7).mpr (.inl (by decide)), mt (hiff wrappingEpoch).mp (by decide)⟩

end PartnerChains.Ports.SidechainSlots
