import PartnerChains.Ports.TransactionBuilding
import PartnerChains.Verified.LargestFirst
import PartnerChains.Verified.StableSort

/-!
# Selecting collateral

The port of `largest_first`.  The outputs are sorted by their lovelace and taken
from the end until the amount is reached.

The selection always ends, and it has as few inputs as possible.  Their number
is then compared as `u32` with the allowed number, so that `2 ^ 32` inputs are
too few to be refused; `largestFirst_correct_iff` says when this matters.
-/

namespace PartnerChains.Ports.CollateralSelection

open PartnerChains.Ports.Domain
open PartnerChains.Ports.TransactionBuilding
open PartnerChains.Verified.LargestFirst
open PartnerChains.Verified.StableSort

variable {CborBytes : Type}

/-- The ada of an output, without its tokens. -/
def lovelace (utxo : OgmiosUtxo CborBytes) : Nat := utxo.value.lovelace

/-- The loop, with the vector that is popped from in reverse.  With nothing left
to pop it does not end, which is `none`. -/
def selectInputs (amountRequired : Nat) :
    List (OgmiosUtxo CborBytes) → Nat → List (OgmiosUtxo CborBytes) →
      Option (List (OgmiosUtxo CborBytes))
  | [], sum, inputsSelected => if sum < amountRequired then none else some inputsSelected
  | utxo :: rest, sum, inputsSelected =>
      if sum < amountRequired then
        selectInputs amountRequired rest ((sum + lovelace utxo) % 2 ^ 64)
          (inputsSelected ++ [utxo])
      else some inputsSelected

/-- `largest_first`: `none` when the loop does not end, an error for what the
function itself refuses; the sums wrap. -/
def largestFirst (inputsAvailable : List (OgmiosUtxo CborBytes)) (amountRequired : Nat)
    (maxCollateralInputs : UInt32) (minRequiredCollateral : Nat) :
    Option (Except String (List (OgmiosUtxo CborBytes))) :=
  let amountRequired := max amountRequired minRequiredCollateral
  let amountAvailable := (inputsAvailable.map lovelace).sum % 2 ^ 64
  if amountAvailable < amountRequired then
    some (.error ("The available amount of lovelace (" ++ toString amountAvailable ++
      ") is less than the required collateral amount (" ++ toString amountRequired ++ ")"))
  else do
    let inputsSelected ← selectInputs amountRequired (sortByKey lovelace inputsAvailable).reverse
      0 []
    if UInt32.ofNat inputsSelected.length > maxCollateralInputs then
      some (.error ("Could not find " ++ toString amountRequired ++
        " lovelace required for collateral in the " ++ toString maxCollateralInputs ++
        " maximum allowed inputs"))
    else some (.ok inputsSelected)

/-! ## The loop -/

section Loop

variable {amountRequired : Nat}

/-- The loop takes the shortest beginning that reaches the amount, if there is
one. -/
theorem selectInputs_eq {pool : List (OgmiosUtxo CborBytes)} {sum : Nat}
    (inputsSelected : List (OgmiosUtxo CborBytes)) (hfits : sum + weight lovelace pool < 2 ^ 64)
    (henough : amountRequired ≤ sum + weight lovelace pool) :
    ∃ n, IsShortest lovelace pool (amountRequired - sum) n ∧
      selectInputs amountRequired pool sum inputsSelected =
        some (inputsSelected ++ pool.take n) := by
  induction pool generalizing sum inputsSelected with
  | nil =>
      rw [weight_nil, Nat.add_zero] at henough
      refine ⟨0, ⟨Nat.le_refl 0, ?_, ?_⟩, ?_⟩
      · rw [Nat.sub_eq_zero_of_le henough]
        exact Nat.zero_le _
      · intro m hm
        cases hm
      · rw [selectInputs, if_neg (Nat.not_lt.mpr henough), List.take_nil, List.append_nil]
  | cons utxo pool ih =>
      rw [weight_cons] at hfits henough
      rw [selectInputs]
      by_cases hlt : sum < amountRequired
      · rw [if_pos hlt, Nat.mod_eq_of_lt (by omega)]
        obtain ⟨n, hn, hselect⟩ := @ih (sum + lovelace utxo) (inputsSelected ++ [utxo]) (by omega)
          (by omega)
        refine ⟨n + 1, ⟨?_, ?_, ?_⟩, ?_⟩
        · exact Nat.succ_le_succ hn.le_length
        · have hreaches := hn.reaches
          rw [List.take_succ_cons, weight_cons]
          omega
        · intro m hm
          cases m with
          | zero =>
              rw [List.take_zero, weight_nil]
              omega
          | succ m =>
              have hshort := hn.shortest m (Nat.lt_of_succ_lt_succ hm)
              rw [List.take_succ_cons, weight_cons]
              omega
        · rw [hselect, List.take_succ_cons, List.append_assoc, List.singleton_append]
      · refine ⟨0, ⟨Nat.zero_le _, by omega, fun m hm => absurd hm (Nat.not_lt_zero m)⟩, ?_⟩
        rw [if_neg hlt, List.take_zero, List.append_nil]

end Loop

/-! ## The result -/

section Result

variable {inputsAvailable : List (OgmiosUtxo CborBytes)}

/-- A choice of the available outputs reaches the amount. -/
structure Reaches (inputsAvailable : List (OgmiosUtxo CborBytes)) (amount : Nat)
    (inputs : List (OgmiosUtxo CborBytes)) : Prop where
  subperm : inputs.Subperm inputsAvailable
  reaches : amount ≤ weight lovelace inputs

/-- There is a result.  It is a selection exactly if some choice with as many
inputs as allowed reaches the amount, and then it reaches the amount with the
fewest inputs. -/
def Correct (inputsAvailable : List (OgmiosUtxo CborBytes)) (amount : Nat)
    (maxCollateralInputs : UInt32)
    (result : Option (Except String (List (OgmiosUtxo CborBytes)))) : Prop :=
  ∃ outcome, result = some outcome ∧
    ((∃ selected, outcome = .ok selected) ↔
      ∃ inputs, Reaches inputsAvailable amount inputs ∧
        inputs.length ≤ maxCollateralInputs.toNat) ∧
    ∀ selected, outcome = .ok selected →
      Reaches inputsAvailable amount selected ∧
        ∀ inputs, Reaches inputsAvailable amount inputs → selected.length ≤ inputs.length

/-- Every choice with the fewest inputs has less than `2 ^ 32` of them, or a
number whose last 32 bits are more than allowed. -/
def CountFits (inputsAvailable : List (OgmiosUtxo CborBytes)) (amount : Nat)
    (maxCollateralInputs : UInt32) : Prop :=
  ∀ fewest, Reaches inputsAvailable amount fewest →
    (∀ inputs, Reaches inputsAvailable amount inputs → fewest.length ≤ inputs.length) →
    fewest.length < 2 ^ 32 ∨ maxCollateralInputs.toNat < fewest.length % 2 ^ 32

private theorem pairwise_sorted (inputsAvailable : List (OgmiosUtxo CborBytes)) :
    (sortByKey lovelace inputsAvailable).reverse.Pairwise
      fun a b => lovelace b ≤ lovelace a :=
  List.pairwise_reverse.mpr (sortByKey_pairwise lovelace inputsAvailable)

private theorem perm_sorted (inputsAvailable : List (OgmiosUtxo CborBytes)) :
    (sortByKey lovelace inputsAvailable).reverse.Perm inputsAvailable :=
  (List.reverse_perm _).trans (sortByKey_perm lovelace inputsAvailable)

/-- The selection, before it is compared with the allowed number of inputs. -/
theorem selectInputs_sorted {amount : Nat} (hfits : weight lovelace inputsAvailable < 2 ^ 64)
    (henough : amount ≤ weight lovelace inputsAvailable) :
    ∃ selected, selectInputs amount (sortByKey lovelace inputsAvailable).reverse 0 [] =
        some selected ∧ Reaches inputsAvailable amount selected ∧
      ∀ inputs, Reaches inputsAvailable amount inputs → selected.length ≤ inputs.length := by
  have hperm := perm_sorted inputsAvailable
  have hweight := @weight_perm _ lovelace _ _ hperm
  obtain ⟨n, hn, hselect⟩ := @selectInputs_eq _ amount
    (sortByKey lovelace inputsAvailable).reverse 0 [] (by omega) (by omega)
  refine ⟨_, hselect, ⟨?_, ?_⟩, ?_⟩
  · exact (List.take_sublist n _).subperm.trans hperm.subperm
  · exact hn.reaches
  · intro inputs hinputs
    have hle := hn.le_of_subperm (pairwise_sorted inputsAvailable)
      (hinputs.subperm.trans hperm.symm.subperm) hinputs.reaches
    rw [List.nil_append, List.length_take]
    omega

/-- No choice has more lovelace than all outputs together. -/
theorem Reaches.le_sum {amount : Nat} {inputs : List (OgmiosUtxo CborBytes)}
    (h : Reaches inputsAvailable amount inputs) : amount ≤ (inputsAvailable.map lovelace).sum :=
  h.reaches.trans (weight_le_of_subperm h.subperm)

private theorem correct_error_iff {amount : Nat} {maxCollateralInputs : UInt32} {message : String} :
    Correct inputsAvailable amount maxCollateralInputs (some (.error message)) ↔
      ¬ ∃ inputs, Reaches inputsAvailable amount inputs ∧
        inputs.length ≤ maxCollateralInputs.toNat := by
  constructor
  · rintro ⟨outcome, houtcome, hiff, -⟩ hexists
    obtain rfl := Option.some.inj houtcome
    obtain ⟨selected, hselected⟩ := hiff.mpr hexists
    cases hselected
  · intro hnone
    refine ⟨_, rfl, iff_of_false ?_ hnone, ?_⟩
    · rintro ⟨selected, hselected⟩
      cases hselected
    · intro selected hselected
      cases hselected

section Fewest

variable {amount : Nat} {maxCollateralInputs : UInt32} {selected : List (OgmiosUtxo CborBytes)}
  (hreaches : Reaches inputsAvailable amount selected)
  (hfewest : ∀ inputs, Reaches inputsAvailable amount inputs → selected.length ≤ inputs.length)

include hreaches hfewest

/-- No choice of inputs needs fewer than the largest ones. -/
theorem exists_allowed_iff :
    (∃ inputs, Reaches inputsAvailable amount inputs ∧
        inputs.length ≤ maxCollateralInputs.toNat) ↔
      selected.length ≤ maxCollateralInputs.toNat := by
  constructor
  · rintro ⟨inputs, hinputs, hle⟩
    exact (hfewest inputs hinputs).trans hle
  · intro hle
    exact ⟨selected, hreaches, hle⟩

private theorem correct_ok_iff :
    Correct inputsAvailable amount maxCollateralInputs (some (.ok selected)) ↔
      selected.length ≤ maxCollateralInputs.toNat := by
  rw [← exists_allowed_iff hreaches hfewest]
  constructor
  · rintro ⟨outcome, houtcome, hiff, -⟩
    obtain rfl := Option.some.inj houtcome
    exact hiff.mp ⟨selected, rfl⟩
  · intro hexists
    refine ⟨_, rfl, iff_of_true ⟨selected, rfl⟩ hexists, ?_⟩
    intro selected' h
    obtain rfl := Except.ok.inj h
    exact ⟨hreaches, hfewest⟩

private theorem countFits_iff :
    CountFits inputsAvailable amount maxCollateralInputs ↔
      selected.length < 2 ^ 32 ∨ maxCollateralInputs.toNat < selected.length % 2 ^ 32 := by
  constructor
  · intro h
    exact h selected hreaches hfewest
  · intro h fewest hfewest' hleast
    rwa [Nat.le_antisymm (hleast selected hreaches) (hfewest fewest hfewest')]

end Fewest

/-- The selection is right exactly if the number of inputs survives the cast. -/
theorem largestFirst_correct_iff (hfits : (inputsAvailable.map lovelace).sum < 2 ^ 64)
    (amountRequired : Nat) (maxCollateralInputs : UInt32) (minRequiredCollateral : Nat) :
    Correct inputsAvailable (max amountRequired minRequiredCollateral) maxCollateralInputs
        (largestFirst inputsAvailable amountRequired maxCollateralInputs
          minRequiredCollateral) ↔
      CountFits inputsAvailable (max amountRequired minRequiredCollateral)
        maxCollateralInputs := by
  obtain ⟨amount, hamount⟩ : ∃ amount, max amountRequired minRequiredCollateral = amount :=
    ⟨_, rfl⟩
  simp only [largestFirst, hamount, Nat.mod_eq_of_lt hfits]
  by_cases henough : (inputsAvailable.map lovelace).sum < amount
  · -- no choice reaches the amount
    rw [if_pos henough, correct_error_iff]
    refine iff_of_true ?_ ?_
    · rintro ⟨inputs, hinputs, -⟩
      exact absurd hinputs.le_sum (Nat.not_le.mpr henough)
    · intro fewest hfewest
      exact absurd hfewest.le_sum (Nat.not_le.mpr henough)
  · obtain ⟨selected, hselect, hreaches, hfewest⟩ :=
      selectInputs_sorted hfits (Nat.not_lt.mp henough)
    have hmax := maxCollateralInputs.toNat_lt
    rw [if_neg henough, hselect, countFits_iff hreaches hfewest]
    simp only [Option.bind_eq_bind, Option.bind_some]
    by_cases hlarge : UInt32.ofNat selected.length > maxCollateralInputs
    · have hlt := UInt32.lt_iff_toNat_lt.mp hlarge
      rw [UInt32.toNat_ofNat'] at hlt
      rw [if_pos hlarge, correct_error_iff, exists_allowed_iff hreaches hfewest]
      omega
    · have hle := UInt32.le_iff_toNat_le.mp (UInt32.not_lt.mp hlarge)
      rw [UInt32.toNat_ofNat'] at hle
      rw [if_neg hlarge, correct_ok_iff hreaches hfewest]
      omega

end Result

/-! ## Outputs of different sizes -/

/-- An output with the given ada and no token. -/
def utxoOf (lovelace : Nat) : OgmiosUtxo Unit :=
  ⟨⟨FixedBytes.replicate 32 0, 0⟩, keyHashAddress (FixedBytes.replicate 28 0) .mainnet,
    ⟨lovelace, []⟩, none⟩

/-- Two inputs are needed, of which three are allowed or only one. -/
theorem largestFirst_correct_iff_four :
    Correct ([1, 5, 3, 2].map utxoOf) (max 7 4) 3 (largestFirst ([1, 5, 3, 2].map utxoOf) 7 3 4) ∧
      Correct ([1, 5, 3, 2].map utxoOf) (max 7 4) 1
        (largestFirst ([1, 5, 3, 2].map utxoOf) 7 1 4) := by
  have hfits (maxCollateralInputs : UInt32) :
      CountFits ([1, 5, 3, 2].map utxoOf) (max 7 4) maxCollateralInputs := by
    intro fewest hfewest _
    have hle := hfewest.subperm.length_le
    rw [List.length_map] at hle
    exact .inl (hle.trans_lt (by decide))
  exact ⟨(largestFirst_correct_iff (by decide) 7 3 4).mpr (hfits 3),
    (largestFirst_correct_iff (by decide) 7 1 4).mpr (hfits 1)⟩

/-! ## Many small outputs -/

/-- The smallest output there is. -/
def oneLovelace : OgmiosUtxo Unit := utxoOf 1

theorem weight_replicate (n : Nat) : weight lovelace (List.replicate n oneLovelace) = n := by
  induction n with
  | zero => rfl
  | succ n ih =>
      rw [List.replicate_succ, weight_cons, ih]
      exact Nat.add_comm 1 n

/-- With outputs of one lovelace each, every choice has as many inputs as
lovelace. -/
theorem weight_of_subperm_replicate {n : Nat} {inputs : List (OgmiosUtxo Unit)}
    (h : inputs.Subperm (List.replicate n oneLovelace)) :
    weight lovelace inputs = inputs.length := by
  have heq : inputs = List.replicate inputs.length oneLovelace :=
    List.eq_replicate_iff.mpr ⟨rfl, fun utxo hutxo => (List.mem_replicate.mp (h.subset hutxo)).2⟩
  conv_lhs => rw [heq]
  exact weight_replicate _

private theorem largestFirst_replicate {n : Nat} (hn : n < 2 ^ 64) {maxCollateralInputs : UInt32}
    (hmax : n % 2 ^ 32 ≤ maxCollateralInputs.toNat) :
    ∃ selected, largestFirst (List.replicate n oneLovelace) n maxCollateralInputs 0 =
      some (.ok selected) ∧ selected.length = n := by
  have hweight := weight_replicate n
  obtain ⟨selected, hselect, hreaches, -⟩ :=
    @selectInputs_sorted _ (List.replicate n oneLovelace) n (by omega) (by omega)
  have hlength : selected.length = n := by
    have hle := hreaches.subperm.length_le
    have hreach := hreaches.reaches
    rw [weight_of_subperm_replicate hreaches.subperm] at hreach
    rw [List.length_replicate] at hle
    omega
  have hsum : ((List.replicate n oneLovelace).map lovelace).sum = n := hweight
  have hsmall : ¬ UInt32.ofNat selected.length > maxCollateralInputs := by
    rw [gt_iff_lt, UInt32.lt_iff_toNat_lt, UInt32.toNat_ofNat', hlength]
    omega
  refine ⟨selected, ?_, hlength⟩
  simp only [largestFirst, hsum, Nat.mod_eq_of_lt hn, Nat.max_zero, Nat.lt_irrefl, if_false,
    hselect, Option.bind_eq_bind, Option.bind_some, if_neg hsmall]

/-- Three inputs are allowed, `2 ^ 32` are needed, and they are selected. -/
theorem manyInputs_selected :
    ((List.replicate (2 ^ 32) oneLovelace).map lovelace).sum < 2 ^ 64 ∧
      (∃ selected, largestFirst (List.replicate (2 ^ 32) oneLovelace) (2 ^ 32) 3 0 =
        some (.ok selected)) ∧
      ¬ ∃ inputs, Reaches (List.replicate (2 ^ 32) oneLovelace) (2 ^ 32) inputs ∧
        inputs.length ≤ 3 := by
  refine ⟨?_, ?_, ?_⟩
  · have hsum := weight_replicate (2 ^ 32)
    rw [weight] at hsum
    rw [hsum]
    norm_num
  · obtain ⟨selected, hselected, -⟩ :=
      @largestFirst_replicate (2 ^ 32) (by norm_num) 3 (by norm_num)
    exact ⟨selected, hselected⟩
  · rintro ⟨inputs, hinputs, hle⟩
    have hreach := hinputs.reaches
    rw [weight_of_subperm_replicate hinputs.subperm] at hreach
    omega

end PartnerChains.Ports.CollateralSelection
