import PartnerChains.Ports.MainchainSlots
import PartnerChains.Verified.Schedule

/-!
# Main chain parameters from the eras of the ledger

The port of `prepare_cardano_params.rs`.  The wizard asks Ogmios for the eras of
the ledger and for the Shelley genesis, and writes down when the first epoch
that the node can count from starts.  From then on the node converts between
times, slots and epochs as if there were one era.

The ledger has its own conversions, era by era: the schedule of the library.
The two agree exactly if every slot from the first era with the parameters of
the latest one on is in an era with these parameters (`conversions_agree_iff`).
The search for the first such era does not check this: it does not see an era
with other parameters in between.
-/

namespace PartnerChains.Ports.CardanoEras

open PartnerChains.Ports.AriadneProvider
open PartnerChains.Ports.BlockDataSource
open PartnerChains.Ports.MainchainEpoch
open PartnerChains.Ports.MainchainSlots
open PartnerChains.Verified.Fallible
open PartnerChains.Verified.Schedule

/-! ## Ports -/

/-- Which Cardano network the genesis configuration names. -/
inductive NetworkType where
  | mainnet
  | testnet
deriving DecidableEq

/-- The start of an era, in seconds since the system start, as a slot and as an
epoch. -/
structure EpochBoundary where
  timeSeconds : UInt64
  slot : UInt64
  epoch : UInt32

/-- The number of slots of an epoch and the length of a slot. -/
structure EpochParameters where
  epochLength : UInt32
  slotLengthMillis : UInt64
deriving DecidableEq

/-- An era as Ogmios reports it, without its optional end. -/
structure EraSummary where
  start : EpochBoundary
  parameters : EpochParameters

/-- The coefficient is a float, given by its bits. -/
structure ShelleyGenesisConfiguration where
  network : NetworkType
  securityParameter : UInt32
  activeSlotsCoefficient : UInt64
  epochLength : UInt32
  slotLengthMillis : UInt64
  /-- Seconds since the UNIX epoch. -/
  startTime : UInt64

/-- The Cardano section of the chain configuration; `activeSlotsCoeff` is the bit
pattern of an `f64`. -/
structure CardanoParameters where
  securityParameter : UInt64
  activeSlotsCoeff : UInt64
  firstEpochNumber : UInt32
  firstSlotNumber : UInt64
  epochDurationMillis : UInt64
  firstEpochTimestampMillis : UInt64
  network : NetworkType
deriving DecidableEq

/-- The conversion into a `MainchainEpochConfig`. -/
def CardanoParameters.mainchainEpochConfig (value : CardanoParameters) : MainchainSlotConfig where
  firstEpochTimestampMillis := value.firstEpochTimestampMillis
  epochDurationMillis := value.epochDurationMillis
  firstEpochNumber := value.firstEpochNumber
  firstSlotNumber := value.firstSlotNumber

def checkedAdd (a b : UInt64) : Option UInt64 :=
  if a.toNat + b.toNat < 2 ^ 64 then some (a + b) else none

def checkedMul (a b : UInt64) : Option UInt64 :=
  if a.toNat * b.toNat < 2 ^ 64 then some (a * b) else none

/-- `get_first_epoch_era`: the first era that has the parameters of the last one. -/
def getFirstEpochEra (erasSummaries : List EraSummary) : Except String EraSummary := do
  let latestEra ← okOr erasSummaries.getLast? "No eras found"
  let latestEraParameters := latestEra.parameters
  if latestEraParameters.slotLengthMillis ≠ 1000 then
    .error "Unexpected slot length in latest era, Partner Chains support only 1 second slots"
  else
    okOr (erasSummaries.find? fun era => era.parameters = latestEraParameters) "No eras found"

/-- The name is that of the source. -/
def caradanoParameters (erasSummaries : List EraSummary)
    (shelleyConfig : ShelleyGenesisConfiguration) : Except String CardanoParameters := do
  let firstEpochEra ← getFirstEpochEra erasSummaries
  let epochDurationMillis ← okOr
    (checkedMul shelleyConfig.epochLength.toUInt64 shelleyConfig.slotLengthMillis)
    "Epoch duration overflow"
  let firstEpochTimestampMillis ← okOr
    ((checkedAdd shelleyConfig.startTime firstEpochEra.start.timeSeconds).bind
      fun seconds => checkedMul seconds 1000)
    "First epoch timestamp overflow"
  .ok { securityParameter := shelleyConfig.securityParameter.toUInt64
        activeSlotsCoeff := shelleyConfig.activeSlotsCoefficient
        firstEpochNumber := firstEpochEra.start.epoch
        firstSlotNumber := firstEpochEra.start.slot
        epochDurationMillis := epochDurationMillis
        firstEpochTimestampMillis := firstEpochTimestampMillis
        network := shelleyConfig.network }

/-! ## The time of the ledger -/

/-- An era as a segment of a schedule; times are in milliseconds since the start
of the ledger. -/
def EraSummary.segment (era : EraSummary) : Segment where
  slot := era.start.slot.toNat
  epoch := era.start.epoch.toNat
  time := era.start.timeSeconds.toNat * 1000
  epochLength := era.parameters.epochLength.toNat
  slotLength := era.parameters.slotLengthMillis.toNat

/-- When the ledger starts, in milliseconds. -/
def ShelleyGenesisConfiguration.systemStart (shelleyConfig : ShelleyGenesisConfiguration) : Nat :=
  shelleyConfig.startTime.toNat * 1000

/-- The era of a slot. -/
def ledgerAt : List EraSummary → Nat → Option Segment
  | [], _ => none
  | first :: rest, slot => some (segmentAt first.segment (rest.map EraSummary.segment) slot)

/-- Every era begins where the era before it has ended, and slots take time. -/
structure History (eras : List EraSummary) : Prop where
  follows : (eras.map EraSummary.segment).IsChain Follows
  slotLength : ∀ era ∈ eras, 0 < era.parameters.slotLengthMillis.toNat

/-- The conversions of the node are right about a slot and about all of its
time.  `E` are errors of the runtime. -/
structure Agrees (E : Type) (config : MainchainSlotConfig) (systemStart : Nat) (segment : Segment)
    (slot : UInt64) : Prop where
  epochForSlot : ∃ epoch, config.epochForSlot slot = some (.ok epoch) ∧
    epoch.toNat = segment.epochAt slot.toNat
  timestamp : ∀ t : UInt64, systemStart + segment.timeAt slot.toNat ≤ t.toNat →
    t.toNat < systemStart + segment.timeAt slot.toNat + segment.slotLength →
    config.timestampToMainchainSlotNumber t.toNat = .ok slot.toNat ∧
      config.timestampToMainchainEpoch t =
        (.ok (segment.epochAt slot.toNat) : Except (InherentProviderCreationError E) Nat)

/-- The milliseconds of a slot are timestamps, and its epoch is an `i32`. -/
def Representable (systemStart : Nat) (segment : Segment) (slot : Nat) : Prop :=
  systemStart + segment.timeAt slot + segment.slotLength ≤ 2 ^ 64 ∧ segment.epochAt slot < 2 ^ 31

/-! ## The parameters -/

private theorem checkedAdd_eq_some {a b sum : UInt64} (h : checkedAdd a b = some sum) :
    sum.toNat = a.toNat + b.toNat := by
  unfold checkedAdd at h
  split at h
  next hlt =>
    obtain rfl := Option.some.inj h
    rw [UInt64.toNat_add, Nat.mod_eq_of_lt hlt]
  next => cases h

private theorem checkedMul_eq_some {a b product : UInt64} (h : checkedMul a b = some product) :
    product.toNat = a.toNat * b.toNat := by
  unfold checkedMul at h
  split at h
  next hlt =>
    obtain rfl := Option.some.inj h
    rw [UInt64.toNat_mul, Nat.mod_eq_of_lt hlt]
  next => cases h

/-- The parameters count from the era `first`, and the eras after it are
`rest`. -/
structure CountsFrom (first : EraSummary) (rest : List EraSummary)
    (shelleyConfig : ShelleyGenesisConfiguration) (params : CardanoParameters) : Prop where
  slotLength : first.parameters.slotLengthMillis = 1000
  latest : (((first :: rest).getLast (List.cons_ne_nil _ _)).parameters) = first.parameters
  slot : params.firstSlotNumber = first.start.slot
  epoch : params.firstEpochNumber = first.start.epoch
  duration : params.epochDurationMillis.toNat =
    shelleyConfig.epochLength.toNat * shelleyConfig.slotLengthMillis.toNat
  timestamp : params.firstEpochTimestampMillis.toNat =
    shelleyConfig.systemStart + first.segment.time

private theorem getFirstEpochEra_eq_ok {eras : List EraSummary} {first : EraSummary}
    (h : getFirstEpochEra eras = .ok first) :
    ∃ before rest, eras = before ++ first :: rest ∧
      first.parameters.slotLengthMillis = 1000 ∧
      ((first :: rest).getLast (List.cons_ne_nil _ _)).parameters = first.parameters := by
  unfold getFirstEpochEra at h
  obtain ⟨latest, hlatest, h⟩ := bind_eq_ok.mp h
  dsimp only at h
  split at h
  next => cases h
  next hlength =>
    obtain ⟨hfirst, before, rest, rfl, -⟩ := List.find?_eq_some_iff_append.mp (okOr_eq_ok.mp h)
    have hparameters : first.parameters = latest.parameters := of_decide_eq_true hfirst
    refine ⟨before, rest, rfl, ?_, ?_⟩
    · rw [hparameters]
      exact Decidable.not_not.mp hlength
    · rw [okOr_eq_ok, List.getLast?_append_of_ne_nil _ (List.cons_ne_nil _ _),
        List.getLast?_eq_some_getLast (List.cons_ne_nil _ _), Option.some.injEq] at hlatest
      rw [hlatest, hparameters]

private theorem caradanoParameters_eq_ok {eras : List EraSummary}
    {shelleyConfig : ShelleyGenesisConfiguration} {params : CardanoParameters}
    (h : caradanoParameters eras shelleyConfig = .ok params) :
    ∃ before first rest, eras = before ++ first :: rest ∧
      CountsFrom first rest shelleyConfig params := by
  unfold caradanoParameters at h
  obtain ⟨first, hfirst, h⟩ := bind_eq_ok.mp h
  obtain ⟨duration, hduration, h⟩ := bind_eq_ok.mp h
  obtain ⟨timestamp, htimestamp, h⟩ := bind_eq_ok.mp h
  obtain rfl := Except.ok.inj h
  obtain ⟨before, rest, rfl, hlength, hlatest⟩ := getFirstEpochEra_eq_ok hfirst
  obtain ⟨seconds, hseconds, hmillis⟩ := Option.bind_eq_some_iff.mp (okOr_eq_ok.mp htimestamp)
  refine ⟨before, first, rest, rfl, hlength, hlatest, rfl, rfl, ?_, ?_⟩
  · exact checkedMul_eq_some (okOr_eq_ok.mp hduration)
  · refine (checkedMul_eq_some hmillis).trans ?_
    rw [checkedAdd_eq_some hseconds, Nat.add_mul]
    rfl

/-- The eras before the first one do not matter. -/
theorem ledgerAt_append {before rest : List EraSummary} {first : EraSummary} {slot : Nat}
    (h : History (before ++ first :: rest)) (hslot : first.segment.slot ≤ slot) :
    ledgerAt (before ++ first :: rest) slot =
      some (segmentAt first.segment (rest.map EraSummary.segment) slot) := by
  cases before with
  | nil => rfl
  | cons era before =>
      have hfollows := h.follows
      rw [List.cons_append, List.map_cons, List.map_append, List.map_cons] at hfollows
      rw [List.cons_append, ledgerAt, List.map_append, List.map_cons,
        segmentAt_append hfollows hslot]

private theorem History.from_first {before rest : List EraSummary} {first : EraSummary}
    (h : History (before ++ first :: rest)) : History (first :: rest) := by
  refine ⟨?_, fun era hera => h.slotLength era (List.mem_append_right _ hera)⟩
  have hfollows := h.follows
  rw [List.map_append] at hfollows
  exact hfollows.right_of_append

private theorem segmentAt_mem (current : Segment) (rest : List Segment) (slot : Nat) :
    segmentAt current rest slot ∈ current :: rest := by
  induction rest generalizing current with
  | nil => exact List.mem_cons_self
  | cons next rest ih =>
      rw [segmentAt]
      split
      · exact List.mem_cons_self
      · exact List.mem_cons_of_mem _ (ih next)

/-! ## The conversions -/

/-- The era of a slot from `first` on. -/
abbrev eraAt (first : EraSummary) (rest : List EraSummary) (slot : Nat) : Segment :=
  segmentAt first.segment (rest.map EraSummary.segment) slot

section Conversions

variable {first : EraSummary} {rest : List EraSummary}
  {shelleyConfig : ShelleyGenesisConfiguration} {params : CardanoParameters}

theorem exists_word {n : Nat} (h : n < 2 ^ 64) : ∃ word : UInt64, word.toNat = n :=
  ⟨UInt64.ofNat n, UInt64.toNat_ofNat_of_lt' h⟩

/-- The number of the slot of a time, as the node counts. -/
theorem slotNumber_eq_ok_iff {config : MainchainSlotConfig} {t slot : UInt64}
    (hslot : config.firstSlotNumber ≤ slot) :
    config.timestampToMainchainSlotNumber t.toNat = .ok slot.toNat ↔
      config.firstEpochTimestampMillis.toNat ≤ t.toNat ∧
        (t.toNat - config.firstEpochTimestampMillis.toNat) / 1000 =
          slot.toNat - config.firstSlotNumber.toNat := by
  have hle := UInt64.le_iff_toNat_le.mp hslot
  have hslotLt := slot.toNat_lt
  have htLt := t.toNat_lt
  have hquotient := Nat.div_le_self (t.toNat - config.firstEpochTimestampMillis.toNat) 1000
  rw [MainchainSlotConfig.timestampToMainchainSlotNumber]
  by_cases hlt : t.toNat < config.firstEpochTimestampMillis.toNat
  · rw [if_pos hlt]
    exact iff_of_false (by simp) fun h => absurd h.1 (Nat.not_le.mpr hlt)
  · rw [if_neg hlt, Except.ok.injEq]
    -- a sum that wraps is below the first slot
    generalize (t.toNat - config.firstEpochTimestampMillis.toNat) / 1000 = quotient at *
    omega

/-- The times and epochs of the slots in a range are right. -/
def AgreesUntil (E : Type) (first : EraSummary) (rest : List EraSummary)
    (shelleyConfig : ShelleyGenesisConfiguration) (params : CardanoParameters)
    (horizon : UInt64) : Prop :=
  ∀ slot, params.firstSlotNumber ≤ slot → slot ≤ horizon →
    Agrees E params.mainchainEpochConfig shelleyConfig.systemStart
      (eraAt first rest slot.toNat) slot

/-- No time up to the horizon slot leaves the range of the milliseconds. -/
def RepresentableUntil (first : EraSummary) (rest : List EraSummary)
    (shelleyConfig : ShelleyGenesisConfiguration) (params : CardanoParameters)
    (horizon : UInt64) : Prop :=
  ∀ slot : UInt64, params.firstSlotNumber ≤ slot → slot ≤ horizon →
    Representable shelleyConfig.systemStart (eraAt first rest slot.toNat) slot.toNat

variable {E : Type} {horizon slot : UInt64}

/-- Slots of every era take time. -/
theorem slotLength_pos (hhistory : History (first :: rest)) (slot : Nat) :
    0 < (eraAt first rest slot).slotLength := by
  have hmem := segmentAt_mem first.segment (rest.map EraSummary.segment) slot
  rw [← List.map_cons] at hmem
  obtain ⟨era, hera, heq⟩ := List.mem_map.mp hmem
  rw [eraAt, ← heq]
  exact hhistory.slotLength era hera

/-- A time within a slot is counted as that slot. -/
theorem Agrees.slots {config : MainchainSlotConfig} {systemStart : Nat} {segment : Segment}
    (h : Agrees E config systemStart segment slot) (hslot : config.firstSlotNumber ≤ slot)
    (t : UInt64) (hlow : systemStart + segment.timeAt slot.toNat ≤ t.toNat)
    (hhigh : t.toNat < systemStart + segment.timeAt slot.toNat + segment.slotLength) :
    config.firstEpochTimestampMillis.toNat ≤ t.toNat ∧
      (t.toNat - config.firstEpochTimestampMillis.toNat) / 1000 =
        slot.toNat - config.firstSlotNumber.toNat :=
  (slotNumber_eq_ok_iff hslot).mp (h.timestamp t hlow hhigh).1

/-- The first and the last millisecond of a slot are in it. -/
theorem bounds_of_agrees (hcounts : CountsFrom first rest shelleyConfig params)
    (hhistory : History (first :: rest))
    (hfits : RepresentableUntil first rest shelleyConfig params horizon)
    (hagrees : AgreesUntil E first rest shelleyConfig params horizon)
    (hslot : params.firstSlotNumber ≤ slot) (hhorizon : slot ≤ horizon) :
    first.segment.time + (slot.toNat - first.segment.slot) * 1000 ≤
        (eraAt first rest slot.toNat).timeAt slot.toNat ∧
      (eraAt first rest slot.toNat).timeAt slot.toNat + (eraAt first rest slot.toNat).slotLength ≤
        first.segment.time + (slot.toNat - first.segment.slot + 1) * 1000 := by
  have hpos := slotLength_pos hhistory slot.toNat
  have hlimit := (hfits slot hslot hhorizon).1
  have hfirst : params.mainchainEpochConfig.firstSlotNumber.toNat = first.segment.slot :=
    congrArg UInt64.toNat hcounts.slot
  have hstart : params.mainchainEpochConfig.firstEpochTimestampMillis.toNat =
      shelleyConfig.systemStart + first.segment.time := hcounts.timestamp
  obtain ⟨start, hstartNat⟩ := exists_word (show shelleyConfig.systemStart +
    (eraAt first rest slot.toNat).timeAt slot.toNat < 2 ^ 64 by omega)
  obtain ⟨stop, hstopNat⟩ := exists_word (show shelleyConfig.systemStart +
    (eraAt first rest slot.toNat).timeAt slot.toNat +
      (eraAt first rest slot.toNat).slotLength - 1 < 2 ^ 64 by omega)
  have hslots := (hagrees slot hslot hhorizon).slots hslot
  obtain ⟨hlow, hlow'⟩ := hslots start (by omega) (by omega)
  obtain ⟨hhigh, hhigh'⟩ := hslots stop (by omega) (by omega)
  rw [hfirst, hstart] at hlow' hhigh'
  omega

/-- Slots that the node gets right start exactly when it says. -/
theorem timeAt_of_agrees (hcounts : CountsFrom first rest shelleyConfig params)
    (hhistory : History (first :: rest))
    (hfits : RepresentableUntil first rest shelleyConfig params horizon)
    (hagrees : AgreesUntil E first rest shelleyConfig params horizon)
    (hslot : params.firstSlotNumber ≤ slot) (hhorizon : slot ≤ horizon) :
    (eraAt first rest slot.toNat).timeAt slot.toNat =
      first.segment.time + (slot.toNat - first.segment.slot) * 1000 := by
  have hfirst : params.firstSlotNumber.toNat = first.segment.slot :=
    congrArg UInt64.toNat hcounts.slot
  have hle := UInt64.le_iff_toNat_le.mp hslot
  have hchain := hhistory.follows
  rw [List.map_cons] at hchain
  have hlow := (bounds_of_agrees hcounts hhistory hfits hagrees hslot hhorizon).1
  rcases Nat.eq_or_lt_of_le hle with heq | hlt
  · rw [← heq, hfirst, eraAt, (segmentAt_start hchain).2, Nat.sub_self, Nat.zero_mul, Nat.add_zero]
  · -- the slot before ends where this one starts
    obtain ⟨previous, hprevious⟩ := exists_word (show slot.toNat - 1 < 2 ^ 64 by
      have := slot.toNat_lt
      omega)
    have hhorizon' := UInt64.le_iff_toNat_le.mp hhorizon
    have hhigh := (@bounds_of_agrees first rest shelleyConfig params E horizon previous hcounts
      hhistory hfits hagrees (UInt64.le_iff_toNat_le.mpr (by omega))
      (UInt64.le_iff_toNat_le.mpr (by omega))).2
    have hsucc := timeAt_succ hchain (show first.segment.slot ≤ previous.toNat by omega)
    rw [show previous.toNat + 1 = slot.toNat by omega] at hsucc
    simp only [eraAt] at hlow hhigh ⊢
    omega

/-- The epochs of the configuration last whole seconds. -/
theorem wholeSeconds (hcounts : CountsFrom first rest shelleyConfig params)
    (hshelley : shelleyConfig.epochLength.toNat * shelleyConfig.slotLengthMillis.toNat =
      first.segment.epochLength * 1000) (hpos : 0 < first.segment.epochLength) :
    WholeSeconds params.mainchainEpochConfig first.segment.epochLength := by
  refine ⟨?_, hpos⟩
  rw [Nat.mul_comm, ← hshelley]
  exact hcounts.duration

/-- The epochs that have passed at a time in the slot. -/
theorem elapsedEpochs_eq {config : MainchainSlotConfig} {seconds : Nat}
    (hseconds : WholeSeconds config seconds) {t : UInt64} {slots : Nat}
    (hslots : (t.toNat - config.firstEpochTimestampMillis.toNat) / 1000 = slots) :
    elapsedEpochs config.toMainchainEpochConfig t = slots / seconds := by
  rw [elapsedEpochs, hseconds.duration, ← Nat.div_div_eq_div_mul, hslots]

private theorem linear_of_agrees (hcounts : CountsFrom first rest shelleyConfig params)
    (hhistory : History (first :: rest))
    (hshelley : shelleyConfig.epochLength.toNat * shelleyConfig.slotLengthMillis.toNat =
      first.segment.epochLength * 1000) (hpos : 0 < first.segment.epochLength)
    (hfits : RepresentableUntil first rest shelleyConfig params horizon)
    (hagrees : AgreesUntil E first rest shelleyConfig params horizon) :
    Linear first.segment.epochLength 1000 horizon.toNat first.segment
      (rest.map EraSummary.segment) := by
  intro slot hslot hhorizon
  have hfirst : params.firstSlotNumber.toNat = first.segment.slot :=
    congrArg UInt64.toNat hcounts.slot
  obtain ⟨word, rfl⟩ := exists_word (hhorizon.trans_lt horizon.toNat_lt)
  have hle : params.firstSlotNumber ≤ word := UInt64.le_iff_toNat_le.mpr (by omega)
  have hle' : word ≤ horizon := UInt64.le_iff_toNat_le.mpr hhorizon
  have htime := timeAt_of_agrees hcounts hhistory hfits hagrees hle hle'
  refine ⟨?_, htime⟩
  have hlength := slotLength_pos hhistory word.toNat
  obtain ⟨hlimit, hepoch⟩ := hfits word hle hle'
  have hseconds := wholeSeconds hcounts hshelley hpos
  have hstart : params.mainchainEpochConfig.firstEpochTimestampMillis.toNat =
      shelleyConfig.systemStart + first.segment.time := hcounts.timestamp
  obtain ⟨t, ht⟩ := exists_word (show shelleyConfig.systemStart +
    (eraAt first rest word.toNat).timeAt word.toNat < 2 ^ 64 by omega)
  have hderived := ((hagrees word hle hle').timestamp t ht.ge (by omega)).2
  obtain ⟨-, -, -, hmin⟩ := elapsedEpochs_of_ok hderived
  rw [elapsedEpochs_eq hseconds (show _ = word.toNat - first.segment.slot by omega)] at hmin
  have hnumber : params.mainchainEpochConfig.firstEpochNumber.toNat = first.segment.epoch :=
    congrArg UInt32.toNat hcounts.epoch
  rw [hnumber] at hmin
  simp only [eraAt] at hmin hepoch ⊢
  omega

private theorem agrees_of_linear (hcounts : CountsFrom first rest shelleyConfig params)
    (hshelley : shelleyConfig.epochLength.toNat * shelleyConfig.slotLengthMillis.toNat =
      first.segment.epochLength * 1000) (hpos : 0 < first.segment.epochLength)
    (hfits : RepresentableUntil first rest shelleyConfig params horizon)
    (huniform : Uniform first.segment.epochLength 1000 horizon.toNat first.segment
      (rest.map EraSummary.segment))
    (hlinear : Linear first.segment.epochLength 1000 horizon.toNat first.segment
      (rest.map EraSummary.segment)) :
    AgreesUntil E first rest shelleyConfig params horizon := by
  intro slot hslot hhorizon
  have hfirst : params.mainchainEpochConfig.firstSlotNumber.toNat = first.segment.slot :=
    congrArg UInt64.toNat hcounts.slot
  have hnumber : params.mainchainEpochConfig.firstEpochNumber.toNat = first.segment.epoch :=
    congrArg UInt32.toNat hcounts.epoch
  have hstart : params.mainchainEpochConfig.firstEpochTimestampMillis.toNat =
      shelleyConfig.systemStart + first.segment.time := hcounts.timestamp
  have hseconds := wholeSeconds hcounts hshelley hpos
  have hle : first.segment.slot ≤ slot.toNat := by
    have := UInt64.le_iff_toNat_le.mp hslot
    rwa [← hfirst]
  have hhorizon' := UInt64.le_iff_toNat_le.mp hhorizon
  obtain ⟨hepoch, htime⟩ := hlinear slot.toNat hle hhorizon'
  have hlength := (huniform slot.toNat hle hhorizon').2
  have hsmall := (hfits slot hslot hhorizon).2
  simp only [eraAt] at hsmall
  refine ⟨?_, fun t hlow hhigh => ?_⟩
  · have hsince : epochsSince params.mainchainEpochConfig first.segment.epochLength slot =
        (slot.toNat - first.segment.slot) / first.segment.epochLength := by
      rw [epochsSince, hfirst]
    have hword :
        epochsSince params.mainchainEpochConfig first.segment.epochLength slot < 2 ^ 32 := by
      rw [hsince]
      omega
    refine ⟨_, (epochForSlot_of_le hseconds hslot).trans (if_neg (Nat.not_le.mpr hword)), ?_⟩
    rw [UInt32.toNat_add, UInt32.toNat_ofNat_of_lt' hword, hsince, hnumber,
      Nat.mod_eq_of_lt (by omega)]
    exact hepoch.symm
  · simp only [eraAt] at hlow hhigh ⊢
    rw [htime] at hlow hhigh
    rw [hlength] at hhigh
    have hslots : (t.toNat - params.mainchainEpochConfig.firstEpochTimestampMillis.toNat) / 1000 =
        slot.toNat - first.segment.slot := by omega
    refine ⟨(slotNumber_eq_ok_iff hslot).mpr ⟨by omega, by rw [hfirst, hslots]⟩, ?_⟩
    have helapsed := elapsedEpochs_eq hseconds hslots
    rw [timestampToMainchainEpoch_of_le (ne_zero_of_pos (by rw [hseconds.duration]; omega))
      (UInt64.le_iff_toNat_le.mpr (by omega)), helapsed, if_neg (by omega), hepoch, hnumber]
    congr 1
    omega

end Conversions

/-- The conversions of the node agree with those of the ledger, for all slots
from the first era on, exactly if all these slots are in eras with the
parameters of the latest one. -/
theorem conversions_agree_iff (E : Type) {eras : List EraSummary} {latest : EraSummary}
    {shelleyConfig : ShelleyGenesisConfiguration} {params : CardanoParameters} {horizon : UInt64}
    (hparams : caradanoParameters eras shelleyConfig = .ok params) (hhistory : History eras)
    (hlatest : eras.getLast? = some latest) (hpos : 0 < latest.segment.epochLength)
    (hshelley : shelleyConfig.epochLength.toNat * shelleyConfig.slotLengthMillis.toNat =
      latest.segment.epochLength * 1000)
    (hhorizon : ∀ era ∈ eras, era.start.slot ≤ horizon)
    (hfits : ∀ (slot : UInt64) (segment : Segment), params.firstSlotNumber ≤ slot →
      slot ≤ horizon → ledgerAt eras slot.toNat = some segment →
      Representable shelleyConfig.systemStart segment slot.toNat) :
    (∀ (slot : UInt64) (segment : Segment), params.firstSlotNumber ≤ slot → slot ≤ horizon →
        ledgerAt eras slot.toNat = some segment →
        Agrees E params.mainchainEpochConfig shelleyConfig.systemStart segment slot) ↔
      ∀ (slot : UInt64) (segment : Segment), params.firstSlotNumber ≤ slot → slot ≤ horizon →
        ledgerAt eras slot.toNat = some segment →
        segment.epochLength = latest.segment.epochLength ∧
          segment.slotLength = latest.segment.slotLength := by
  obtain ⟨before, first, rest, rfl, hcounts⟩ := caradanoParameters_eq_ok hparams
  have hfirst : params.firstSlotNumber.toNat = first.segment.slot :=
    congrArg UInt64.toNat hcounts.slot
  have hat (slot : UInt64) (hslot : params.firstSlotNumber ≤ slot) :
      ledgerAt (before ++ first :: rest) slot.toNat = some (eraAt first rest slot.toNat) := by
    have := UInt64.le_iff_toNat_le.mp hslot
    exact ledgerAt_append hhistory (by omega)
  have hlast : (first :: rest).getLast (List.cons_ne_nil _ _) = latest := by
    rw [List.getLast?_append_of_ne_nil _ (List.cons_ne_nil _ _),
      List.getLast?_eq_some_getLast (List.cons_ne_nil _ _)] at hlatest
    exact Option.some.inj hlatest
  have hparameters := hcounts.latest
  rw [hlast] at hparameters
  have hepochLength : latest.segment.epochLength = first.segment.epochLength := by
    rw [EraSummary.segment, EraSummary.segment, hparameters]
  have hslotLength : latest.segment.slotLength = 1000 := by
    rw [EraSummary.segment, hparameters, hcounts.slotLength]
    rfl
  rw [hepochLength] at hpos hshelley ⊢
  rw [hslotLength]
  have hhistory' := hhistory.from_first
  have hchain := hhistory'.follows
  rw [List.map_cons] at hchain
  have hfits' : RepresentableUntil first rest shelleyConfig params horizon :=
    fun slot hslot hle => hfits slot _ hslot hle (hat slot hslot)
  have hsegments : ∀ segment ∈ rest.map EraSummary.segment, segment.slot ≤ horizon.toNat := by
    intro segment hsegment
    obtain ⟨era, hera, rfl⟩ := List.mem_map.mp hsegment
    exact UInt64.le_iff_toNat_le.mp (hhorizon era (by simp [hera]))
  have hlengths : ((first.segment :: rest.map EraSummary.segment).getLast
      (List.cons_ne_nil _ _)).epochLength = first.segment.epochLength ∧
      ((first.segment :: rest.map EraSummary.segment).getLast
        (List.cons_ne_nil _ _)).slotLength = 1000 := by
    have hgetLast : (first.segment :: rest.map EraSummary.segment).getLast
        (List.cons_ne_nil _ _) = latest.segment := by
      rw [← hlast]
      exact @List.getLast_map _ _ EraSummary.segment (first :: rest) (List.cons_ne_nil _ _)
    rw [hgetLast]
    exact ⟨hepochLength, hslotLength⟩
  have hiff := linear_iff_uniform hchain hsegments hlengths
  constructor
  · intro hagrees slot segment hslot hle hsegment
    have huniform := hiff.mp (linear_of_agrees hcounts hhistory' hshelley hpos hfits'
      fun slot hslot hle => hagrees slot _ hslot hle (hat slot hslot))
    obtain rfl := Option.some.inj ((hat slot hslot).symm.trans hsegment)
    have := UInt64.le_iff_toNat_le.mp hslot
    exact huniform slot.toNat (by omega) (UInt64.le_iff_toNat_le.mp hle)
  · intro huniform slot segment hslot hle hsegment
    have huniform' : Uniform first.segment.epochLength 1000 horizon.toNat first.segment
        (rest.map EraSummary.segment) := by
      intro slot hslot hle
      obtain ⟨word, rfl⟩ := exists_word (hle.trans_lt horizon.toNat_lt)
      have hword : params.firstSlotNumber ≤ word := UInt64.le_iff_toNat_le.mpr (by omega)
      exact huniform word _ hword (UInt64.le_iff_toNat_le.mpr hle) (hat word hword)
    obtain rfl := Option.some.inj ((hat slot hslot).symm.trans hsegment)
    exact agrees_of_linear hcounts hshelley hpos hfits' huniform' (hiff.mpr huniform') slot hslot
      hle

/-! ## The preprod network -/

/-- The Byron era of the preprod network. -/
def byronEra : EraSummary := ⟨⟨0, 0, 0⟩, ⟨21600, 20000⟩⟩

/-- The first era of preprod with one second slots. -/
def shelleyEra : EraSummary := ⟨⟨1728000, 86400, 4⟩, ⟨432000, 1000⟩⟩

/-- An era of preprod with the parameters of the one before it. -/
def allegraEra : EraSummary := ⟨⟨2160000, 518400, 5⟩, ⟨432000, 1000⟩⟩

/-- The first eras of the preprod network, in order. -/
def preprodEras : List EraSummary := [byronEra, shelleyEra, allegraEra]

/-- The Shelley genesis of the preprod network. -/
def preprodGenesis : ShelleyGenesisConfiguration :=
  ⟨.testnet, 2160, 4587366580439587226, 432000, 1000, 1654041600⟩

/-- What the preprod eras and genesis give. -/
def preprodParameters : CardanoParameters :=
  ⟨2160, 4587366580439587226, 4, 86400, 432000000, 1655769600000, .testnet⟩

private theorem preprodEras_history : History preprodEras := by
  refine ⟨List.isChain_cons_cons.mpr ⟨⟨by decide, 4, rfl, rfl, rfl⟩,
    List.isChain_cons_cons.mpr ⟨⟨by decide, 1, rfl, rfl, rfl⟩, List.isChain_singleton _⟩⟩, ?_⟩
  decide

private theorem ledgerAt_preprodEras {slot : Nat} {segment : Segment} (hslot : 86400 ≤ slot)
    (h : ledgerAt preprodEras slot = some segment) :
    segment = shelleyEra.segment ∨ segment = allegraEra.segment := by
  obtain rfl := Option.some.inj h
  rw [List.map_cons, segmentAt_cons_of_le hslot]
  by_cases hlt : slot < allegraEra.segment.slot
  · exact .inl (segmentAt_cons_of_lt hlt)
  · exact .inr (segmentAt_cons_of_le (Nat.not_lt.mp hlt))

/-- From the Shelley era on all slots take a second, and all epochs five days. -/
theorem conversions_agree_preprod :
    caradanoParameters preprodEras preprodGenesis = .ok preprodParameters ∧
      ∀ (slot : UInt64) (segment : Segment), 86400 ≤ slot → slot ≤ 100000000 →
        ledgerAt preprodEras slot.toNat = some segment →
        Agrees Unit preprodParameters.mainchainEpochConfig preprodGenesis.systemStart segment
          slot := by
  have hparams : caradanoParameters preprodEras preprodGenesis = .ok preprodParameters := rfl
  have hsystemStart : preprodGenesis.systemStart = 1654041600000 := rfl
  refine ⟨hparams, (conversions_agree_iff Unit hparams preprodEras_history rfl (by decide) rfl
    (by decide) ?_).mpr ?_⟩
  · intro slot segment hslot hle hsegment
    have hle := UInt64.le_iff_toNat_le.mp hle
    have hhorizon : (100000000 : UInt64).toNat = 100000000 := rfl
    rcases ledgerAt_preprodEras (UInt64.le_iff_toNat_le.mp hslot) hsegment with rfl | rfl
    · refine ⟨?_, ?_⟩
      · show _ + (1728000000 + (slot.toNat - 86400) * 1000) + 1000 ≤ _
        omega
      · show 4 + (slot.toNat - 86400) / 432000 < _
        omega
    · refine ⟨?_, ?_⟩
      · show _ + (2160000000 + (slot.toNat - 518400) * 1000) + 1000 ≤ _
        omega
      · show 5 + (slot.toNat - 518400) / 432000 < _
        omega
  · intro slot segment hslot hle hsegment
    rcases ledgerAt_preprodEras (UInt64.le_iff_toNat_le.mp hslot) hsegment with rfl | rfl
    · exact ⟨rfl, rfl⟩
    · exact ⟨rfl, rfl⟩

end PartnerChains.Ports.CardanoEras
