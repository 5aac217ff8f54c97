import Mathlib.Tactic
import PartnerChains.Ports.Domain
import PartnerChains.Verified.BinarySearch
import PartnerChains.Verified.Fallible

/-!
# Searching a block by number

The port of `sidechain-block-search`: a binary search over the block numbers
from 1 to the one after the best block, with a strategy that compares a block
with what is looked for.  A comparison that fails ends the search.  Numbers are
`u32` and wrap around.  The fuel is the number of candidates, since every round
that does not overflow leaves fewer of them.

`findBlockNumberChecked` is the same search with checked arithmetic.  Below
`2 ^ 31 - 1` blocks it has no fault, so nothing wraps around
(`findBlockNumberChecked_ok`), and it is the binary search on numbers.
-/

namespace PartnerChains.Ports.BlockSearch

open PartnerChains.Verified.BinarySearch
open PartnerChains.Verified.Fallible

/-- `sp_api::ApiError`, as far as it occurs here. -/
inductive ApiError where
  | unknownBlock (message : String)
  | application (message : String)
  /-- The call of the runtime failed. -/
  | runtime
deriving DecidableEq

/-- `binary_search_by`: an error ends the search as if nothing were found. -/
def binarySearchBy {E : Type} (f : UInt32 → Except E Ordering) :
    Nat → UInt32 → UInt32 → Option UInt32
  | 0, _, _ => none
  | fuel + 1, left, right =>
      if left ≤ right then
        let middle := (left + right) / 2
        match f middle with
        | .error _ => none
        | .ok .eq => some middle
        | .ok .lt => binarySearchBy f fuel (middle + 1) right
        | .ok .gt => binarySearchBy f fuel left (middle - 1)
      else none

/-- `find_block_number`: the search starts at block 1 and goes one block beyond
the best one. -/
def findBlockNumber (bestNumber : UInt32) (compareBlock : UInt32 → Except ApiError Ordering) :
    Except ApiError UInt32 :=
  match binarySearchBy compareBlock (bestNumber.toNat + 2) 1 (bestNumber + 1) with
  | some number => .ok number
  | none => .error (.application "Could not find block number")

/-! ## Strategies -/

/-- The strategy `AnyBlockInEpoch`. -/
def anyBlockInEpoch (getEpochOfBlock : UInt32 → Except ApiError UInt64) (epoch : UInt64)
    (block : UInt32) : Except ApiError Ordering := do
  let epochBlock ← getEpochOfBlock block
  .ok (compare epochBlock epoch)

/-- The strategy `LastBlockInEpoch`. -/
def lastBlockInEpoch (getEpochOfBlock : UInt32 → Except ApiError UInt64) (epoch : UInt64)
    (block : UInt32) : Except ApiError Ordering := do
  let epochBlock ← getEpochOfBlock block
  match compare epochBlock epoch with
  | .eq => do
      let nextEpochBlock ← getEpochOfBlock (block + 1)
      match compare nextEpochBlock epoch with
      | .gt => .ok .eq
      | _ => .ok .lt
  | ordering => .ok ordering

/-- A half-open range of slots; nothing prevents `stop` from being the smaller
one. -/
structure SlotRange where
  start : UInt64
  stop : UInt64

/-- The strategy `AnyBlockInSlotRange`. -/
def anyBlockInSlotRange (getSlotOfBlock : UInt32 → Except ApiError UInt64)
    (slotRange : SlotRange) (block : UInt32) : Except ApiError Ordering := do
  let slotOfBlock ← getSlotOfBlock block
  .ok (if slotOfBlock < slotRange.start then .lt
    else if slotOfBlock ≥ slotRange.stop then .gt
    else .eq)

/-- The strategy `LatestBlockInSlotRange`. -/
def latestBlockInSlotRange (getSlotOfBlock : UInt32 → Except ApiError UInt64)
    (slotRange : SlotRange) (latestBlock block : UInt32) : Except ApiError Ordering := do
  let currentBlockOrdering ← anyBlockInSlotRange getSlotOfBlock slotRange block
  match currentBlockOrdering with
  | .eq =>
      if block < latestBlock then do
        let nextBlockOrdering ← anyBlockInSlotRange getSlotOfBlock slotRange (block + 1)
        match nextBlockOrdering with
        | .gt => .ok .eq
        | _ => .ok .lt
      else .ok .eq
  | ordering => .ok ordering

/-! ## Block info -/

/-- `get_sidechain_status`, as far as it is read. -/
structure SidechainStatus where
  epoch : UInt64
  slot : UInt64

/-- What the search asks of a client. -/
structure SidechainClient (Hash : Type) where
  bestNumber : UInt32
  hash : UInt32 → Except ApiError (Option Hash)
  getSidechainStatus : Hash → Except ApiError SidechainStatus

namespace SidechainClient

variable {Hash : Type} (client : SidechainClient Hash)

/-- The status of a block, by its number. -/
def statusOfBlock (blockNumber : UInt32) : Except ApiError SidechainStatus := do
  let blockHash ← client.hash blockNumber
  let blockHash ← blockHash.elim
    (.error (.unknownBlock ("Block Number " ++ toString blockNumber ++ " does not exist"))) .ok
  client.getSidechainStatus blockHash

/-- `get_slot_of_block`: from the runtime's status at the block. -/
def getSlotOfBlock (blockNumber : UInt32) : Except ApiError UInt64 := do
  let sidechainStatus ← client.statusOfBlock blockNumber
  .ok sidechainStatus.slot

/-- `get_epoch_of_block`. -/
def getEpochOfBlock (blockNumber : UInt32) : Except ApiError UInt64 := do
  let sidechainStatus ← client.statusOfBlock blockNumber
  .ok sidechainStatus.epoch

end SidechainClient

/-! ## The search with checked arithmetic

The same computations, where sums and differences that do not fit are faults.
The search has another fault, to run out of fuel. -/

/-- What could go wrong in the arithmetic of the search. -/
inductive SearchFault where
  | overflow
  | outOfFuel
deriving DecidableEq

/-- Addition that does not wrap. -/
def checkedAdd (a b : UInt32) : Except SearchFault UInt32 :=
  if a.toNat + b.toNat < 2 ^ 32 then .ok (a + b) else .error .overflow

/-- Subtraction that does not wrap. -/
def checkedSub (a b : UInt32) : Except SearchFault UInt32 :=
  if b ≤ a then .ok (a - b) else .error .overflow

/-- The successor of `middle` is computed before the comparison, since the
strategies compute it as well. -/
def binarySearchByChecked {E : Type} (f : UInt32 → Except E Ordering) :
    Nat → UInt32 → UInt32 → Except SearchFault (Option UInt32)
  | 0, _, _ => .error .outOfFuel
  | fuel + 1, left, right =>
      if left ≤ right then do
        let sum ← checkedAdd left right
        let next ← checkedAdd (sum / 2) 1
        match f (sum / 2) with
        | .error _ => .ok none
        | .ok .eq => .ok (some (sum / 2))
        | .ok .lt => binarySearchByChecked f fuel next right
        | .ok .gt => do
            let previous ← checkedSub (sum / 2) 1
            binarySearchByChecked f fuel left previous
      else .ok none

/-- `find_block_number` with its arithmetic checked. -/
def findBlockNumberChecked (bestNumber : UInt32)
    (compareBlock : UInt32 → Except ApiError Ordering) :
    Except SearchFault (Except ApiError UInt32) := do
  let stop ← checkedAdd bestNumber 1
  let found ← binarySearchByChecked compareBlock (bestNumber.toNat + 2) 1 stop
  .ok (found.elim (.error (.application "Could not find block number")) .ok)

/-! ## What is found -/

/-- What is found compares equal. -/
theorem binarySearchBy_eq_some {E : Type} {f : UInt32 → Except E Ordering} {fuel : Nat}
    {left right number : UInt32} (h : binarySearchBy f fuel left right = some number) :
    f number = .ok .eq := by
  induction fuel generalizing left right with
  | zero => simp [binarySearchBy] at h
  | succ fuel ih =>
      rw [binarySearchBy] at h
      split at h
      next hle =>
        simp only at h
        cases hf : f ((left + right) / 2) with
        | error e => simp [hf] at h
        | ok ordering =>
            rw [hf] at h
            cases ordering with
            | lt => exact ih h
            | gt => exact ih h
            | eq =>
                obtain rfl : (left + right) / 2 = number := Option.some.inj h
                exact hf
      next => cases h

/-- A block that is found is one the comparison accepts. -/
theorem findBlockNumber_eq_ok {bestNumber number : UInt32}
    {compareBlock : UInt32 → Except ApiError Ordering}
    (h : findBlockNumber bestNumber compareBlock = .ok number) :
    compareBlock number = .ok .eq := by
  unfold findBlockNumber at h
  split at h
  next found hfound =>
    obtain rfl := Except.ok.inj h
    exact binarySearchBy_eq_some hfound
  next => cases h

/-- The comparison accepts blocks of the epoch only. -/
theorem anyBlockInEpoch_eq {getEpochOfBlock : UInt32 → Except ApiError UInt64} {epoch : UInt64}
    {block : UInt32} (h : anyBlockInEpoch getEpochOfBlock epoch block = .ok .eq) :
    getEpochOfBlock block = .ok epoch := by
  unfold anyBlockInEpoch at h
  cases hepoch : getEpochOfBlock block with
  | error e => simp [hepoch, bind, Except.bind] at h
  | ok epochBlock =>
      have heq : compare epochBlock epoch = .eq := by simpa [hepoch, bind, Except.bind] using h
      rw [Std.compare_eq_iff_eq.mp heq]

/-! ## Refinement -/

section Refinement

variable {E : Type} (f : UInt32 → Except E Ordering)

/-- The comparison on numbers. -/
def comparison (n : Nat) : Option Ordering := (f (UInt32.ofNat n)).toOption

variable {f}

theorem checkedAdd_eq_ok {a b sum : UInt32} (h : checkedAdd a b = .ok sum) : a + b = sum := by
  unfold checkedAdd at h
  split at h
  next => exact Except.ok.inj h
  next => cases h

private theorem checkedSub_eq_ok {a b difference : UInt32} (h : checkedSub a b = .ok difference) :
    a - b = difference := by
  unfold checkedSub at h
  split at h
  next => exact Except.ok.inj h
  next => cases h

theorem checkedAdd_of_lt {a b : UInt32} (h : a.toNat + b.toNat < 2 ^ 32) :
    checkedAdd a b = .ok (a + b) ∧ (a + b).toNat = a.toNat + b.toNat :=
  ⟨if_pos h, by rw [UInt32.toNat_add, Nat.mod_eq_of_lt h]⟩

private theorem checkedSub_of_le {a b : UInt32} (h : b.toNat ≤ a.toNat) :
    checkedSub a b = .ok (a - b) ∧ (a - b).toNat = a.toNat - b.toNat :=
  ⟨if_pos (UInt32.le_iff_toNat_le.mpr h), UInt32.toNat_sub_of_le _ _ (UInt32.le_iff_toNat_le.mpr h)⟩

/-- The comparison on numbers is the one on words. -/
theorem comparison_toNat (n : UInt32) : comparison f n.toNat = (f n).toOption := by
  rw [comparison, UInt32.ofNat_toNat]

/-- Between bounds of which the double fits, every sum and difference fits, and
the fuel lasts.  The search on numbers has the bound after `right`. -/
theorem binarySearchByChecked_eq {fuel : Nat} {left right : UInt32} (hleft : 1 ≤ left.toNat)
    (hright : 2 * right.toNat < 2 ^ 32) (hle : left.toNat ≤ right.toNat + 1)
    (hfuel : right.toNat + 2 ≤ fuel + left.toNat) :
    binarySearchByChecked f fuel left right =
      .ok ((search (comparison f) left.toNat (right.toNat + 1)).map UInt32.ofNat) := by
  induction fuel generalizing left right with
  | zero => omega
  | succ fuel ih =>
      rw [binarySearchByChecked, search]
      by_cases hlr : left ≤ right
      · have hlr' := UInt32.le_iff_toNat_le.mp hlr
        obtain ⟨hsum, hsumNat⟩ := @checkedAdd_of_lt left right (by omega)
        obtain ⟨middle, hmiddle⟩ : ∃ middle, middle = (left + right) / 2 := ⟨_, rfl⟩
        have hmiddleNat : (left.toNat + (right.toNat + 1) - 1) / 2 = middle.toNat := by
          rw [hmiddle, UInt32.toNat_div, hsumNat]
          rfl
        obtain ⟨hnext, hnextNat⟩ := @checkedAdd_of_lt middle 1 (by
          rw [UInt32.toNat_one]
          omega)
        obtain ⟨hprevious, hpreviousNat⟩ := @checkedSub_of_le middle 1 (by
          rw [UInt32.toNat_one]
          omega)
        rw [UInt32.toNat_one] at hnextNat hpreviousNat
        rw [if_pos hlr, if_pos (by omega), hmiddleNat]
        simp only [hsum, ← hmiddle, hnext, bind, Except.bind, comparison_toNat]
        cases hf : f middle with
        | error e => rfl
        | ok ordering =>
            cases ordering with
            | eq => simp [Except.toOption]
            | lt =>
                show binarySearchByChecked f fuel (middle + 1) right = _
                rw [ih (by omega) hright (by omega) (by omega), hnextNat]
                rfl
            | gt =>
                show (checkedSub middle 1).bind _ = _
                rw [hprevious]
                show binarySearchByChecked f fuel left (middle - 1) = _
                rw [ih hleft (by omega) (by omega) (by omega), hpreviousNat,
                  Nat.sub_add_cancel (by omega)]
                rfl
      · have hlr' : ¬ left.toNat ≤ right.toNat := fun h => hlr (UInt32.le_iff_toNat_le.mpr h)
        rw [if_neg hlr, if_neg (by omega)]
        rfl

/-- Without a fault the search is the one with wrapping arithmetic. -/
theorem binarySearchBy_of_checked {fuel : Nat} {left right : UInt32} {result : Option UInt32}
    (h : binarySearchByChecked f fuel left right = .ok result) :
    binarySearchBy f fuel left right = result := by
  induction fuel generalizing left right with
  | zero => cases h
  | succ fuel ih =>
      rw [binarySearchByChecked] at h
      rw [binarySearchBy]
      by_cases hlr : left ≤ right
      · rw [if_pos hlr] at h ⊢
        obtain ⟨sum, hsum, h⟩ := bind_eq_ok.mp h
        obtain ⟨next, hnext, h⟩ := bind_eq_ok.mp h
        obtain rfl := checkedAdd_eq_ok hsum
        obtain rfl := checkedAdd_eq_ok hnext
        simp only
        cases hf : f ((left + right) / 2) with
        | error e =>
            rw [hf] at h
            exact Except.ok.inj h
        | ok ordering =>
            rw [hf] at h
            cases ordering with
            | eq => exact Except.ok.inj h
            | lt => exact ih h
            | gt =>
                obtain ⟨previous, hprevious, h⟩ := bind_eq_ok.mp h
                obtain rfl := checkedSub_eq_ok hprevious
                exact ih h
      · rw [if_neg hlr] at h ⊢
        exact Except.ok.inj h

end Refinement

/-- The search for a block is the one on numbers, from 1 to one after the best
block. -/
theorem findBlockNumberChecked_eq {bestNumber : UInt32} (hbest : bestNumber.toNat < 2 ^ 31 - 1)
    (compareBlock : UInt32 → Except ApiError Ordering) :
    findBlockNumberChecked bestNumber compareBlock =
      .ok (((search (comparison compareBlock) 1 (bestNumber.toNat + 2)).map UInt32.ofNat).elim
        (.error (.application "Could not find block number")) .ok) := by
  obtain ⟨hstop, hstopNat⟩ := @checkedAdd_of_lt bestNumber 1 (by
    rw [UInt32.toNat_one]
    omega)
  rw [UInt32.toNat_one] at hstopNat
  have hsearch := @binarySearchByChecked_eq _ compareBlock (bestNumber.toNat + 2) 1
    (bestNumber + 1) (by rw [UInt32.toNat_one]) (by omega) (by rw [UInt32.toNat_one]; omega)
    (by rw [UInt32.toNat_one]; omega)
  rw [UInt32.toNat_one, hstopNat] at hsearch
  rw [findBlockNumberChecked, hstop]
  show (binarySearchByChecked _ _ _ _).bind _ = _
  rw [hsearch]
  rfl

/-- Below 2^31 - 1 blocks the search neither overflows nor runs out of fuel. -/
theorem findBlockNumberChecked_ok {bestNumber : UInt32} (hbest : bestNumber.toNat < 2 ^ 31 - 1)
    (compareBlock : UInt32 → Except ApiError Ordering) :
    findBlockNumberChecked bestNumber compareBlock =
      .ok (findBlockNumber bestNumber compareBlock) := by
  have hchecked := findBlockNumberChecked_eq hbest compareBlock
  obtain ⟨stop, hstop, h⟩ := bind_eq_ok.mp hchecked
  obtain ⟨found, hfound, -⟩ := bind_eq_ok.mp h
  obtain rfl := checkedAdd_eq_ok hstop
  rw [findBlockNumberChecked, hstop]
  show (binarySearchByChecked _ _ _ _).bind _ = _
  rw [hfound, findBlockNumber, binarySearchBy_of_checked hfound]
  cases found with
  | none => rfl
  | some number => rfl

end PartnerChains.Ports.BlockSearch
