import PartnerChains.Ports.TokenHolders
import PartnerChains.Verified.Fallible

/-!
# What the datums of the tokens say

The Ariadne parameters are put together from two datums.  `TokenDatum` says what
is found at the newest output with a token: no output at all, no datum, a datum
that does not convert or does not decode, or a value.  `parametersFrom_eq` gives
the parameters in these terms, and `fails_iff` says when two pairs of datums fail
alike: a datum that does not convert hides everything else, and what is wrong
with the D-parameter hides the permissioned candidates.
-/

namespace PartnerChains.Ports.TokenDatums

open PartnerChains.Ports.Domain
open PartnerChains.Ports.DbSync
open PartnerChains.Ports.MainchainDatums
open PartnerChains.Ports.CandidatesQuery
open PartnerChains.Ports.CandidatesDataSource
open PartnerChains.Ports.TokenHolders
open PartnerChains.Verified.Fallible

variable {J : Type}

/-- What is found at the newest output with a token. -/
inductive TokenDatum (α : Type) where
  /-- The token was never held. -/
  | noOutput
  /-- The output has no datum, or none that was published. -/
  | noDatum
  /-- The datum does not convert. -/
  | malformed
  /-- The datum converts, and does not decode. -/
  | invalid (data : PlutusData) (msg : String)
  | valid (value : α)

namespace TokenDatum

variable {α β : Type}

/-- Changes a valid value. -/
@[simp] def map (f : α → β) : TokenDatum α → TokenDatum β
  | .noOutput => .noOutput
  | .noDatum => .noDatum
  | .malformed => .malformed
  | .invalid data msg => .invalid data msg
  | .valid value => .valid (f value)

/-- What is wrong with the datum, if anything is. -/
@[simp] def problem (datum : TokenDatum α) : TokenDatum Unit := datum.map fun _ => ()

/-- The stored value is no datum. -/
@[simp] def isMalformed : TokenDatum α → Bool
  | .malformed => true
  | .noOutput | .noDatum | .invalid _ _ | .valid _ => false

/-- The value is there and decodes. -/
@[simp] def isValid : TokenDatum α → Bool
  | .valid _ => true
  | .noOutput | .noDatum | .malformed | .invalid _ _ => false

theorem isValid_iff {datum : TokenDatum α} :
    datum.isValid = true ↔ ∃ value, datum = .valid value := by
  cases datum <;> simp

end TokenDatum

section Reading

variable {α : Type} (lib : Libraries J)

/-- The datum column of an output, if there is one, read by the schema. -/
def readTokenDatum (schema : VersionedDatum α) (column : Option (Option J)) : TokenDatum α :=
  match column with
  | none => .noOutput
  | some none => .noDatum
  | some (some value) =>
      match lib.encodeJsonValueToPlutusDatum value with
      | none => .malformed
      | some data =>
          match schema.decode data with
          | .error e => .invalid data e.msg
          | .ok value => .valid value

/-- What is read of the D-parameter from a column. -/
def dParameterDatum (column : Option (Option J)) : TokenDatum DParameter :=
  (readTokenDatum lib DParamDatum.schema column).map DParamDatum.toDParameter

/-- What is read of the permissioned candidates from a column. -/
def permissionedDatum (column : Option (Option J)) :
    TokenDatum (List PermissionedCandidateData) :=
  (readTokenDatum lib PermissionedCandidateDatums.schema column).map
    rawPermissionedCandidateDataVecFrom

end Reading

/-- The value of a datum that converts. -/
@[simp] def TokenDatum.get {α : Type} (what whatDatum name : String) :
    TokenDatum α → Except CandidatesError α
  | .noOutput => .error (.dataSource (.expectedDataNotFound what))
  | .noDatum => .error (.dataSource (.expectedDataNotFound whatDatum))
  | .malformed => .error (.sqlx (.columnDecode "datum"))
  | .invalid data msg => .error (.dataDecoding ⟨data, name, msg⟩)
  | .valid value => .ok value

/-- How the datums of the two tokens are put together. -/
def parametersOfDatums (d : TokenDatum DParameter)
    (p : TokenDatum (List PermissionedCandidateData)) : Except CandidatesError AriadneParameters :=
  if d.isMalformed || p.isMalformed then .error (.sqlx (.columnDecode "datum"))
  else
    (d.get "DParameter" "DParameter Datum" DParamDatum.schema.name).bind fun dParameter =>
      (p.get "Permissioned Candidates List" "Permissioned Candidates List Datum"
        PermissionedCandidateDatums.schema.name).map fun permissionedCandidates =>
          ⟨dParameter, permissionedCandidates⟩

private theorem decode_eq_error {α : Type} {schema : VersionedDatum α} {data : PlutusData}
    {e : DataDecodingError} (h : schema.decode data = .error e) :
    e = ⟨data, schema.name, e.msg⟩ := by
  obtain ⟨msg, -, rfl⟩ := mapError_eq_error.mp h
  rfl

private theorem isMalformed_readTokenDatum {α : Type} (lib : Libraries J)
    (schema : VersionedDatum α) (column : Option (Option J)) :
    (readTokenDatum lib schema column).isMalformed = true ↔ ¬ ColumnConverts lib column := by
  rcases column with _ | _ | value
  · simp [readTokenDatum, TokenDatum.isMalformed, ColumnConverts]
  · simp [readTokenDatum, TokenDatum.isMalformed, ColumnConverts]
  · cases hdata : lib.encodeJsonValueToPlutusDatum value with
    | none => simp [readTokenDatum, TokenDatum.isMalformed, ColumnConverts, hdata]
    | some data =>
        cases hdecode : schema.decode data <;>
          simp [readTokenDatum, TokenDatum.isMalformed, ColumnConverts, hdata, hdecode]

private theorem TokenDatum.isMalformed_map {α β : Type} (f : α → β) (datum : TokenDatum α) :
    (datum.map f).isMalformed = datum.isMalformed := by
  cases datum <;> rfl

private theorem get_map {α β : Type} (f : α → β) (what whatDatum name : String)
    (datum : TokenDatum α) :
    (datum.map f).get what whatDatum name = (datum.get what whatDatum name).map f := by
  cases datum <;> rfl

/-- A datum that converts is looked up and decoded. -/
theorem get_readTokenDatum {α : Type} {lib : Libraries J} (schema : VersionedDatum α)
    {column : Option (Option J)} (h : ColumnConverts lib column) (what whatDatum : String) :
    (readTokenDatum lib schema column).get what whatDatum schema.name =
      (expected what (column.map fun value => value.bind lib.encodeJsonValueToPlutusDatum)).bind
        fun datum => (expected whatDatum datum).bind fun data =>
          (schema.decode data).mapError .dataDecoding := by
  rcases column with _ | _ | value
  · rfl
  · rfl
  · obtain ⟨data, hdata⟩ := Option.isSome_iff_exists.mp (h value rfl)
    simp only [readTokenDatum, hdata, Option.map_some, Option.bind_some, expected, Except.bind]
    cases hdecode : schema.decode data with
    | error e =>
        rw [decode_eq_error hdecode]
        rfl
    | ok value => rfl

/-- The parameters depend on what is read of the two columns only. -/
theorem parametersFrom_eq (lib : Libraries J) (dColumn pColumn : Option (Option J)) :
    parametersFrom lib dColumn pColumn =
      parametersOfDatums (dParameterDatum lib dColumn) (permissionedDatum lib pColumn) := by
  have hmalformed : ((dParameterDatum lib dColumn).isMalformed ||
      (permissionedDatum lib pColumn).isMalformed) = true ↔
        ¬ ColumnConverts lib dColumn ∨ ¬ ColumnConverts lib pColumn := by
    rw [Bool.or_eq_true, dParameterDatum, permissionedDatum, TokenDatum.isMalformed_map,
      TokenDatum.isMalformed_map, isMalformed_readTokenDatum, isMalformed_readTokenDatum]
  rw [parametersOfDatums, parametersFrom]
  by_cases hp : ColumnConverts lib pColumn
  · by_cases hd : ColumnConverts lib dColumn
    · rw [if_neg (by rw [hmalformed]; simp [hp, hd]), decodeColumn_of_converts hp,
        decodeColumn_of_converts hd, dParameterDatum, permissionedDatum, get_map, get_map,
        get_readTokenDatum DParamDatum.schema hd,
        get_readTokenDatum PermissionedCandidateDatums.schema hp]
      generalize dColumn.map (fun value => value.bind lib.encodeJsonValueToPlutusDatum) = dOutput
      generalize pColumn.map (fun value => value.bind lib.encodeJsonValueToPlutusDatum) = pOutput
      rcases dOutput with _ | _ | dData
      · rfl
      · rfl
      · simp only [bind, Except.bind, expected]
        cases DParamDatum.schema.decode dData with
        | error e => rfl
        | ok dParameter =>
            rcases pOutput with _ | _ | pData
            · rfl
            · rfl
            · simp only [Except.mapError, Except.map]
              cases PermissionedCandidateDatums.schema.decode pData <;> rfl
    · rw [if_pos (hmalformed.mpr (Or.inl hd)), decodeColumn_of_converts hp,
        decodeColumn_of_not_converts hd]
      rfl
  · rw [if_pos (hmalformed.mpr (Or.inr hp)), decodeColumn_of_not_converts hp]
    rfl

section Fails

variable {d d' : TokenDatum DParameter} {p p' : TokenDatum (List PermissionedCandidateData)}

private theorem parametersOfDatums_of_malformed (h : (d.isMalformed || p.isMalformed) = true) :
    parametersOfDatums d p = .error (.sqlx (.columnDecode "datum")) := if_pos h

private theorem parametersOfDatums_ne_malformed (h : (d.isMalformed || p.isMalformed) = false) :
    parametersOfDatums d p ≠ .error (.sqlx (.columnDecode "datum")) := by
  rw [parametersOfDatums, if_neg (Bool.eq_false_iff.mp h)]
  cases d <;> cases p <;> simp_all [Except.bind, Except.map]

/-- Datums that convert fail alike exactly if the first of them that is not valid has
the same problem.  The errors name the datum and what it was decoded to. -/
theorem fails_iff_of_not_malformed (h : (d.isMalformed || p.isMalformed) = false)
    (h' : (d'.isMalformed || p'.isMalformed) = false) :
    (∀ e, parametersOfDatums d p = .error e ↔ parametersOfDatums d' p' = .error e) ↔
      d.problem = d'.problem ∧ (d.isValid = true → p.problem = p'.problem) := by
  rw [parametersOfDatums, parametersOfDatums, if_neg (Bool.eq_false_iff.mp h),
    if_neg (Bool.eq_false_iff.mp h')]
  cases d with
  | valid value =>
      cases d' with
      | valid value' => cases p <;> cases p' <;> simp_all [Except.bind, Except.map]
      | _ =>
          cases p <;>
            simp_all [Except.bind, Except.map, DParamDatum.schema,
              PermissionedCandidateDatums.schema]
  | _ =>
      cases d' with
      | valid value' =>
          cases p' <;>
            simp_all [Except.bind, Except.map, DParamDatum.schema,
              PermissionedCandidateDatums.schema]
      | _ => simp_all [Except.bind]

/-- The errors are the same exactly if the same column has the same problem. -/
theorem fails_iff :
    (∀ e, parametersOfDatums d p = .error e ↔ parametersOfDatums d' p' = .error e) ↔
      (d.isMalformed || p.isMalformed) = (d'.isMalformed || p'.isMalformed) ∧
        ((d.isMalformed || p.isMalformed) = false →
          d.problem = d'.problem ∧ (d.isValid = true → p.problem = p'.problem)) := by
  cases h : d.isMalformed || p.isMalformed with
  | true =>
      rw [parametersOfDatums_of_malformed h]
      cases h' : d'.isMalformed || p'.isMalformed with
      | true => simp [parametersOfDatums_of_malformed h']
      | false =>
          refine iff_of_false (fun hfails => ?_) (by simp)
          exact parametersOfDatums_ne_malformed h' ((hfails _).mp rfl)
  | false =>
      cases h' : d'.isMalformed || p'.isMalformed with
      | true =>
          rw [parametersOfDatums_of_malformed h']
          refine iff_of_false (fun hfails => ?_) (by simp)
          exact parametersOfDatums_ne_malformed h ((hfails _).mpr rfl)
      | false => simp [fails_iff_of_not_malformed h h']

/-- Parameters are read exactly if both datums are valid. -/
theorem parametersOfDatums_eq_ok {parameters : AriadneParameters} :
    parametersOfDatums d p = .ok parameters ↔
      d = .valid parameters.dParameter ∧ p = .valid parameters.permissionedCandidates := by
  obtain ⟨dParameter, permissionedCandidates⟩ := parameters
  cases d <;> cases p <;> simp [parametersOfDatums, Except.bind, Except.map]

end Fails

end PartnerChains.Ports.TokenDatums
