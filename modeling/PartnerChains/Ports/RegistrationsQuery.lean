import PartnerChains.Ports.CandidateFilter
import PartnerChains.Ports.UtxoText
import PartnerChains.Verified.Fallible
import PartnerChains.Verified.StableSort

/-!
# Registrations reported over RPC

The port of `get_registrations.rs`.  For every candidate the entries of its
registrations are sorted by their place on the main chain, what stands before
the latest valid one is dropped, and a candidate without stake has its first
entry marked invalid.  The runtime API that decides on validity is a parameter,
as is the text form of keys and accounts.

Selection looks for the same registration in another way: it filters the valid
ones and takes the last of the greatest.  `registrations_agree` says that both
ways meet, registrations with equal ordering keys included.
-/

namespace PartnerChains.Ports.RegistrationsQuery

open PartnerChains.Ports.Domain
open PartnerChains.Ports.CandidateFilter
open PartnerChains.Verified.Fallible
open PartnerChains.Verified.StableSort

/-! ## `types/registrations.rs` -/

/-- Why a registration is not used. -/
inductive RegistrationError where
  | stakeError (error : StakeError)
  | invalidRegistrationData (error : RegistrationDataError)
deriving DecidableEq

/-- A registration as the query shows it. -/
structure CandidateRegistrationEntry where
  sidechainPubKey : String
  sidechainAccountId : String
  mainchainPubKey : String
  crossChainPubKey : String
  auraPubKey : String
  grandpaPubKey : String
  sidechainSignature : String
  mainchainSignature : String
  crossChainSignature : String
  utxo : UtxoInfo
  stakeDelegation : Option UInt64
  isValid : Bool
  /-- Present only for invalid entries. -/
  invalidReasons : Option RegistrationError
deriving DecidableEq

/-- `to_hex` of bytes and the SS58 address of an ECDSA key's account. -/
structure TextFormat where
  toHex : Bytes → String
  ss58 : EcdsaPublic → String

/-- The account of a key, if it is one. -/
def sidechainAccountSs58 (format : TextFormat) (sidechainPubKey : Bytes) : Option String :=
  (FixedBytes.tryFrom 33 sidechainPubKey).map format.ss58

/-- `CandidateRegistrationEntry::new`: every key as hexadecimal text. -/
def CandidateRegistrationEntry.new (format : TextFormat) (registrationData : RegistrationData)
    (mainchainPubKey : MainchainPublicKey) (stakeDelegation : Option UInt64)
    (invalidReasons : Option RegistrationDataError) : CandidateRegistrationEntry where
  sidechainPubKey := format.toHex registrationData.sidechainPubKey
  sidechainAccountId := (sidechainAccountSs58 format registrationData.sidechainPubKey).getD
    "Invalid Sidechain Public Key. Could not decode..."
  mainchainPubKey := format.toHex mainchainPubKey.bytes
  crossChainPubKey := format.toHex registrationData.crossChainPubKey
  auraPubKey := format.toHex registrationData.auraPubKey
  grandpaPubKey := format.toHex registrationData.grandpaPubKey
  sidechainSignature := format.toHex registrationData.sidechainSignature
  mainchainSignature := format.toHex registrationData.mainchainSignature
  crossChainSignature := format.toHex registrationData.crossChainSignature
  utxo := registrationData.utxoInfo
  stakeDelegation := stakeDelegation
  isValid := invalidReasons.isNone
  invalidReasons := invalidReasons.map .invalidRegistrationData

/-- `HashMap<String, Vec<CandidateRegistrationEntry>>`. -/
abbrev GetRegistrationsResponseMap := String → Option (List CandidateRegistrationEntry)

/-! ## `get_registrations.rs` -/

/-- `Iterator::rposition`. -/
def rposition {α : Type} (p : α → Bool) : List α → Option Nat
  | [] => none
  | a :: l =>
      match rposition p l with
      | some i => some (i + 1)
      | none => if p a then some 0 else none

/-- `CandidateValidationApi`, called at the best block. -/
structure CandidateValidationApi (E : Type) where
  validateRegisteredCandidateData : MainchainPublicKey → RegistrationData →
    Except E (Option RegistrationDataError)
  validateStake : Option UInt64 → Except E (Option StakeError)

/-- A stake error replaces the validity of the first entry. -/
def overrideFirst (error : Option StakeError) :
    List CandidateRegistrationEntry → List CandidateRegistrationEntry
  | [] => []
  | first :: rest =>
      match error with
      | some err =>
          if first.isValid then
            { first with isValid := false, invalidReasons := some (.stakeError err) } :: rest
          else first :: rest
      | none => first :: rest

section Query

variable {E : Type} (format : TextFormat) (api : CandidateValidationApi E)

/-- The body of the loop over the candidates. -/
def registrationEntries (candidate : CandidateRegistrations) :
    Except E (List CandidateRegistrationEntry) := do
  let registrationEntries ← candidate.registrations.mapM fun registrationData => do
    let validationResult ←
      api.validateRegisteredCandidateData candidate.mainchainPubKey registrationData
    .ok (CandidateRegistrationEntry.new format registrationData candidate.mainchainPubKey
      candidate.stakeDelegation validationResult)
  let registrationEntries := sortByKey (fun entry => entry.utxo.orderingKey) registrationEntries
  let latestValidOrZero := (rposition (fun entry => entry.isValid) registrationEntries).getD 0
  let registrationEntries := registrationEntries.drop latestValidOrZero
  let error ← api.validateStake candidate.stakeDelegation
  .ok (overrideFirst error registrationEntries)

/-- Maps a candidate's main chain public key to its registrations. -/
def getRegistrationsResponseMap (candidates : List CandidateRegistrations) :
    Except E GetRegistrationsResponseMap :=
  candidates.foldlM (fun map candidate => do
    let entries ← registrationEntries format api candidate
    .ok (Function.update map (format.toHex candidate.mainchainPubKey.bytes) (some entries)))
    fun _ => none

/-- The RPC method, for the candidates that the data source returns. -/
def getRegistrations (candidates : List CandidateRegistrations)
    (mcPublicKey : MainchainPublicKey) : Except E (List CandidateRegistrationEntry) := do
  let registrationsMap ← getRegistrationsResponseMap format api candidates
  .ok ((registrationsMap (format.toHex mcPublicKey.bytes)).getD [])

end Query

/-! ## The last position -/

section Rposition

variable {α : Type} {p : α → Bool}

/-- No position is found exactly if no element qualifies. -/
theorem rposition_eq_none {l : List α} : rposition p l = none ↔ ∀ a ∈ l, p a = false := by
  induction l with
  | nil => simp [rposition]
  | cons a l ih =>
      rw [rposition]
      cases hl : rposition p l with
      | none =>
          rw [hl] at ih
          have hrest := ih.mp rfl
          cases ha : p a with
          | false => simpa [ha] using hrest
          | true => simp [ha]
      | some i =>
          rw [hl] at ih
          simp only [reduceCtorEq, List.mem_cons, forall_eq_or_imp, false_iff, not_and] at ih ⊢
          exact fun _ => ih

/-- What stands at the last position, and after it. -/
theorem rposition_eq_some {l : List α} {i : Nat} (h : rposition p l = some i) :
    ∃ before a later, l = before ++ a :: later ∧ before.length = i ∧ p a = true ∧
      ∀ b ∈ later, p b = false := by
  induction l generalizing i with
  | nil => simp [rposition] at h
  | cons a l ih =>
      rw [rposition] at h
      cases hl : rposition p l with
      | none =>
          rw [hl] at h
          cases ha : p a with
          | false => simp [ha] at h
          | true =>
              obtain rfl : 0 = i := by simpa [ha] using h
              exact ⟨[], a, l, rfl, rfl, ha, rposition_eq_none.mp hl⟩
      | some j =>
          rw [hl] at h
          obtain rfl : j + 1 = i := by simpa using h
          obtain ⟨before, b, later, rfl, hlength, hb, hlater⟩ := ih hl
          exact ⟨a :: before, b, later, rfl, by simp [hlength], hb, hlater⟩

end Rposition

/-! ## The last of the greatest -/

section MaxByKey

variable {α κ : Type} [LinearOrder κ] {key : α → κ}

/-- Of equal keys the last element is kept. -/
theorem maxByKey_append_singleton (l : List α) (a : α) :
    maxByKey key (l ++ [a]) =
      match maxByKey key l with
      | none => some a
      | some m => if key m ≤ key a then some a else some m := by
  rw [maxByKey, List.foldl_append]
  rfl

/-- `max_by_key` returns the last element of the greatest key. -/
theorem maxByKey_getLast? {l : List α} {m : α} (h : maxByKey key l = some m) :
    (l.filter fun a => decide (key a = key m)).getLast? = some m := by
  induction l using List.reverseRecOn with
  | nil => simp [maxByKey] at h
  | append_singleton l a ih =>
      rw [maxByKey_append_singleton] at h
      rw [List.filter_append]
      cases hl : maxByKey key l with
      | none =>
          rw [hl] at h
          obtain rfl : a = m := by simpa using h
          simp
      | some n =>
          rw [hl] at h
          by_cases hle : key n ≤ key a
          · obtain rfl : a = m := by simpa [hle] using h
            simp
          · obtain rfl : n = m := by simpa [hle] using h
            have hne : key a ≠ key n := fun heq => hle heq.symm.le
            simpa [hne] using ih hl

/-- In the sorted list the last element with a property is the last of the
greatest that have it. -/
theorem maxByKey_filter_of_sortByKey {l before later : List α} {a : α} {p : α → Bool}
    (hsorted : sortByKey key l = before ++ a :: later) (ha : p a = true)
    (hlater : ∀ b ∈ later, p b = false) : maxByKey key (l.filter p) = some a := by
  have hmem : ∀ b, b ∈ l ↔ b ∈ before ++ a :: later := by
    intro b
    rw [← hsorted, (sortByKey_perm key l).mem_iff]
  have hpairwise := sortByKey_pairwise key l
  rw [hsorted] at hpairwise
  have hle : ∀ b ∈ l.filter p, key b ≤ key a := by
    intro b hb
    obtain ⟨hb, hp⟩ := List.mem_filter.mp hb
    rcases List.mem_append.mp ((hmem b).mp hb) with hb | hb
    · exact (List.pairwise_append.mp hpairwise).2.2 b hb a List.mem_cons_self
    · rcases List.mem_cons.mp hb with rfl | hb
      · exact le_refl _
      · rw [hlater b hb] at hp
        cases hp
  have hmema : a ∈ l.filter p := List.mem_filter.mpr ⟨(hmem a).mpr (by simp), ha⟩
  cases hmax : maxByKey key (l.filter p) with
  | none =>
      rw [maxByKey_eq_none.mp hmax] at hmema
      simp at hmema
  | some m =>
      obtain ⟨hm, hall⟩ := maxByKey_spec hmax
      have hkey : key m = key a := le_antisymm (hle m hm) (hall a hmema)
      -- stability: both are the last element with this key and the property
      have hlast := maxByKey_getLast? hmax
      have hstable := filter_sortByKey key l (key a)
      rw [hsorted] at hstable
      have hnone : (later.filter fun b => decide (key b = key a)).filter p = [] := by
        rw [List.filter_eq_nil_iff]
        intro b hb
        simp [hlater b (List.mem_filter.mp hb).1]
      rw [hkey, List.filter_filter, List.filter_congr (fun b _ => Bool.and_comm _ _),
        ← List.filter_filter, ← hstable, List.filter_append, List.filter_cons_of_pos (by simp),
        List.filter_append, List.filter_cons_of_pos ha, hnone, List.getLast?_append_cons] at hlast
      simpa using hlast.symm

/-- The greatest of the results comes from the greatest of the arguments. -/
theorem maxByKey_filterMap {β : Type} (key : α → κ) {key' : β → κ} {f : α → Option β}
    (hkey : ∀ a b, f a = some b → key' b = key a) (l : List α) :
    maxByKey key' (l.filterMap f) =
      (maxByKey key (l.filter fun a => (f a).isSome)).bind f := by
  induction l using List.reverseRecOn with
  | nil => rfl
  | append_singleton l a ih =>
      rw [List.filterMap_append, List.filter_append]
      cases ha : f a with
      | none => simpa [ha] using ih
      | some b =>
          simp only [List.filterMap_cons, ha, List.filterMap_nil, List.filter_cons,
            Option.isSome_some, if_true, List.filter_nil, maxByKey_append_singleton, ih]
          cases hm : maxByKey key (l.filter fun a => (f a).isSome) with
          | none => simp [ha]
          | some m =>
              obtain ⟨c, hc⟩ := Option.isSome_iff_exists.mp
                (List.mem_filter.mp (maxByKey_spec hm).1).2
              simp only [Option.bind_some, hc, hkey m c hc, hkey a b ha]
              by_cases hle : key m ≤ key a
              · simp [hle, ha]
              · simp [hle, hc]

end MaxByKey

/-! ## Both sides for one candidate -/

/-- `Result::err`. -/
def err {ε α : Type} : Except ε α → Option ε
  | .ok _ => none
  | .error e => some e

section Candidate

variable {A K E : Type} (verification : SignatureVerification)
  (conversions : AccountConversions A K) (genesisUtxo : UtxoId) (format : TextFormat)

/-- The runtime's API validates as selection does. -/
def runtimeApi : CandidateValidationApi E where
  validateRegisteredCandidateData mainchainPubKey registrationData :=
    .ok (err (validateRegistrationData verification mainchainPubKey registrationData genesisUtxo))
  validateStake stake := .ok (err (CandidateFilter.validateStake stake))

/-- The registration passes on its own. -/
def individuallyValid (candidate : CandidateRegistrations) (r : RegistrationData) : Bool :=
  (validRegistration verification candidate.mainchainPubKey genesisUtxo r).isSome

/-- The registration that selection uses, if there is stake. -/
def latestValid (candidate : CandidateRegistrations) : Option RegistrationData :=
  maxByKey (fun r => r.utxoInfo.orderingKey)
    (candidate.registrations.filter (individuallyValid verification genesisUtxo candidate))

/-- All registrations in the order of the main chain. -/
def sortedRegistrations (candidate : CandidateRegistrations) : List RegistrationData :=
  sortByKey (fun r => r.utxoInfo.orderingKey) candidate.registrations

/-- The entry for a registration, with the reason it is invalid. -/
def entryOf (candidate : CandidateRegistrations) (r : RegistrationData) :
    CandidateRegistrationEntry :=
  .new format r candidate.mainchainPubKey candidate.stakeDelegation
    (err (validateRegistrationData verification candidate.mainchainPubKey r genesisUtxo))

/-- An entry is shown as valid if it passes on its own. -/
theorem isValid_entryOf (candidate : CandidateRegistrations) (r : RegistrationData) :
    (entryOf verification genesisUtxo format candidate r).isValid =
      individuallyValid verification genesisUtxo candidate r := by
  simp only [entryOf, CandidateRegistrationEntry.new, individuallyValid, validRegistration]
  cases validateRegistrationData verification candidate.mainchainPubKey r genesisUtxo with
  | ok data => rfl
  | error e => rfl

/-- The selection takes the latest valid registration, if there is stake. -/
theorem selectLatestValidCandidate_eq (candidate : CandidateRegistrations) :
    selectLatestValidCandidate verification conversions candidate genesisUtxo =
      (validateStake candidate.stakeDelegation).toOption.bind fun stakeDelegation =>
        (latestValid verification genesisUtxo candidate).bind fun r =>
          (validRegistration verification candidate.mainchainPubKey genesisUtxo r).map fun p =>
            { candidate :=
                { accountId := conversions.ofEcdsa p.1.accountId
                  accountKeys := conversions.ofKeys p.1.accountKeys }
              stakeDelegation := stakeDelegation } := by
  have hkey : ∀ r p,
      validRegistration verification candidate.mainchainPubKey genesisUtxo r = some p →
        p.2.orderingKey = r.utxoInfo.orderingKey := by
    intro r p h
    simp only [validRegistration] at h
    cases hv : validateRegistrationData verification candidate.mainchainPubKey r genesisUtxo with
    | error e => simp [hv] at h
    | ok data =>
        obtain rfl : (data, r.utxoInfo) = p := by simpa [hv] using h
        rfl
  have hmax := maxByKey_filterMap (fun r : RegistrationData => r.utxoInfo.orderingKey)
    hkey candidate.registrations
  simp only [selectLatestValidCandidate, hmax, bind]
  congr 1
  funext stakeDelegation
  rw [Option.bind_assoc]
  congr 1
  funext r
  cases validRegistration verification candidate.mainchainPubKey genesisUtxo r with
  | none => rfl
  | some p => rfl

/-- The entries of all registrations, in the order of the main chain. -/
def sortedEntries (candidate : CandidateRegistrations) : List CandidateRegistrationEntry :=
  (sortedRegistrations candidate).map (entryOf verification genesisUtxo format candidate)

/-- What is reported for a candidate. -/
def reportedEntries (candidate : CandidateRegistrations) : List CandidateRegistrationEntry :=
  overrideFirst (err (validateStake candidate.stakeDelegation))
    ((sortedEntries verification genesisUtxo format candidate).drop
      ((rposition (fun entry => entry.isValid)
        (sortedEntries verification genesisUtxo format candidate)).getD 0))

private theorem registrationEntries_runtimeApi (candidate : CandidateRegistrations) :
    registrationEntries format (runtimeApi (E := E) verification genesisUtxo) candidate =
      .ok (reportedEntries verification genesisUtxo format candidate) := by
  have hentries : candidate.registrations.mapM (fun registrationData => do
      let validationResult ← (runtimeApi (E := E) verification
        genesisUtxo).validateRegisteredCandidateData candidate.mainchainPubKey registrationData
      Except.ok (CandidateRegistrationEntry.new format registrationData
        candidate.mainchainPubKey candidate.stakeDelegation validationResult)) =
      .ok (candidate.registrations.map (entryOf verification genesisUtxo format candidate)) :=
    mapM_ok fun r _ => rfl
  have hsorted : sortByKey (fun entry => entry.utxo.orderingKey)
      (candidate.registrations.map (entryOf verification genesisUtxo format candidate)) =
      sortedEntries verification genesisUtxo format candidate :=
    sortByKey_map _ _ _
  rw [registrationEntries, hentries, reportedEntries, ← hsorted]
  rfl

/-- What is reported for a candidate, next to what selection does with it. -/
structure AgreesWithSelection (candidate : CandidateRegistrations)
    (entries : List CandidateRegistrationEntry) : Prop where
  /-- A valid entry is reported exactly for the candidates that are selected. -/
  valid_iff : (∃ entry ∈ entries, entry.isValid = true) ↔
    (selectLatestValidCandidate verification conversions candidate genesisUtxo).isSome = true
  /-- It is the first one, the only one, and of the registration that selection uses. -/
  selected : ∀ selection,
    selectLatestValidCandidate verification conversions candidate genesisUtxo =
      some selection → ∃ r data later,
        latestValid verification genesisUtxo candidate = some r ∧
        validateRegistrationData verification candidate.mainchainPubKey r genesisUtxo =
          .ok data ∧
        selection.candidate = ⟨conversions.ofEcdsa data.accountId,
          conversions.ofKeys data.accountKeys⟩ ∧
        entries = entryOf verification genesisUtxo format candidate r :: later ∧
        (entryOf verification genesisUtxo format candidate r).isValid = true ∧
        ∀ entry ∈ later, entry.isValid = false
  /-- Without an individually valid registration all of them are reported. -/
  none_valid : latestValid verification genesisUtxo candidate = none →
    entries = sortedEntries verification genesisUtxo format candidate
  /-- Otherwise the latest one and all later ones; only a missing stake changes
  the first entry. -/
  latest_valid : ∀ r, latestValid verification genesisUtxo candidate = some r →
    ∃ before later,
      sortedRegistrations candidate = before ++ r :: later ∧
      (∀ x ∈ later, individuallyValid verification genesisUtxo candidate x = false) ∧
      entries = overrideFirst (err (validateStake candidate.stakeDelegation))
        (entryOf verification genesisUtxo format candidate r ::
          later.map (entryOf verification genesisUtxo format candidate))

/-- The entries that are reported, by what the sorted registrations look
like. -/
theorem drop_rposition (candidate : CandidateRegistrations) :
    (latestValid verification genesisUtxo candidate = none ∧
      (∀ x ∈ sortedRegistrations candidate,
        individuallyValid verification genesisUtxo candidate x = false) ∧
      (sortedEntries verification genesisUtxo format candidate).drop
        ((rposition (fun entry => entry.isValid)
          (sortedEntries verification genesisUtxo format candidate)).getD 0) =
        sortedEntries verification genesisUtxo format candidate) ∨
    ∃ r before later, latestValid verification genesisUtxo candidate = some r ∧
      individuallyValid verification genesisUtxo candidate r = true ∧
      sortedRegistrations candidate = before ++ r :: later ∧
      (∀ x ∈ later, individuallyValid verification genesisUtxo candidate x = false) ∧
      (sortedEntries verification genesisUtxo format candidate).drop
        ((rposition (fun entry => entry.isValid)
          (sortedEntries verification genesisUtxo format candidate)).getD 0) =
        entryOf verification genesisUtxo format candidate r ::
          later.map (entryOf verification genesisUtxo format candidate) := by
  cases hposition : rposition (fun entry => entry.isValid)
      (sortedEntries verification genesisUtxo format candidate) with
  | none =>
      left
      have hinvalid : ∀ x ∈ sortedRegistrations candidate,
          individuallyValid verification genesisUtxo candidate x = false := by
        intro x hx
        rw [← isValid_entryOf verification genesisUtxo format]
        exact rposition_eq_none.mp hposition _ (List.mem_map_of_mem hx)
      refine ⟨?_, hinvalid, rfl⟩
      rw [latestValid, maxByKey_eq_none, List.filter_eq_nil_iff]
      intro x hx
      simp [hinvalid x ((sortByKey_perm _ _).mem_iff.mpr hx)]
  | some i =>
      right
      obtain ⟨before, entry, later, hsplit, rfl, hvalid, hlater⟩ := rposition_eq_some hposition
      rw [sortedEntries, List.map_eq_append_iff] at hsplit
      obtain ⟨before, rest, hsorted, rfl, hrest⟩ := hsplit
      obtain ⟨r, later, rfl, rfl, rfl⟩ := List.map_eq_cons_iff.mp hrest
      rw [isValid_entryOf] at hvalid
      have hinvalid : ∀ x ∈ later,
          individuallyValid verification genesisUtxo candidate x = false := by
        intro x hx
        rw [← isValid_entryOf verification genesisUtxo format]
        exact hlater _ (List.mem_map_of_mem hx)
      refine ⟨r, before, later, maxByKey_filter_of_sortByKey hsorted hvalid hinvalid, hvalid,
        hsorted, hinvalid, ?_⟩
      rw [sortedEntries, hsorted, List.map_append, Option.getD_some, List.drop_left,
        List.map_cons]

private theorem overrideFirst_of_invalid {error : Option StakeError}
    {entries : List CandidateRegistrationEntry}
    (h : ∀ entry ∈ entries, entry.isValid = false) : overrideFirst error entries = entries := by
  cases entries with
  | nil => rfl
  | cons first rest =>
      cases error with
      | none => rfl
      | some e => simp [overrideFirst, h first List.mem_cons_self]

private theorem individuallyValid_iff {candidate : CandidateRegistrations} {r : RegistrationData} :
    individuallyValid verification genesisUtxo candidate r = true ↔
      ∃ data, validateRegistrationData verification candidate.mainchainPubKey r genesisUtxo =
        .ok data := by
  simp only [individuallyValid, validRegistration]
  cases validateRegistrationData verification candidate.mainchainPubKey r genesisUtxo with
  | ok data => simp
  | error e => simp

/-- Registrations that do not pass are shown as invalid. -/
theorem isValid_map_entryOf {candidate : CandidateRegistrations} {l : List RegistrationData}
    (h : ∀ x ∈ l, individuallyValid verification genesisUtxo candidate x = false) :
    ∀ entry ∈ l.map (entryOf verification genesisUtxo format candidate),
      entry.isValid = false := by
  intro entry hentry
  obtain ⟨x, hx, rfl⟩ := List.mem_map.mp hentry
  rw [isValid_entryOf]
  exact h x hx

/-- Without an individually valid registration the candidate is not selected,
and all the entries are invalid. -/
theorem agreesWithSelection_of_none {candidate : CandidateRegistrations}
    (hnone : latestValid verification genesisUtxo candidate = none)
    (hinvalid : ∀ x ∈ sortedRegistrations candidate,
      individuallyValid verification genesisUtxo candidate x = false) :
    AgreesWithSelection verification conversions genesisUtxo format candidate
      (sortedEntries verification genesisUtxo format candidate) := by
  have hentries := isValid_map_entryOf verification genesisUtxo format hinvalid
  have hunselected :
      selectLatestValidCandidate verification conversions candidate genesisUtxo = none := by
    rw [selectLatestValidCandidate_eq, hnone]
    simp
  refine ⟨?_, ?_, fun _ => rfl, ?_⟩
  · rw [hunselected]
    refine iff_of_false ?_ (by simp)
    rintro ⟨entry, hentry, htrue⟩
    rw [hentries entry hentry] at htrue
    cases htrue
  · intro selection hselection
    rw [hunselected] at hselection
    cases hselection
  · intro r hr
    rw [hnone] at hr
    cases hr

/-- Otherwise the stake decides, about the selection and about the first
entry. -/
theorem agreesWithSelection_of_some {candidate : CandidateRegistrations}
    {r : RegistrationData} {before later : List RegistrationData}
    (hlatest : latestValid verification genesisUtxo candidate = some r)
    (hvalid : individuallyValid verification genesisUtxo candidate r = true)
    (hsorted : sortedRegistrations candidate = before ++ r :: later)
    (hinvalid : ∀ x ∈ later, individuallyValid verification genesisUtxo candidate x = false) :
    AgreesWithSelection verification conversions genesisUtxo format candidate
      (overrideFirst (err (validateStake candidate.stakeDelegation))
        (entryOf verification genesisUtxo format candidate r ::
          later.map (entryOf verification genesisUtxo format candidate))) := by
  obtain ⟨data, hdata⟩ := (individuallyValid_iff verification genesisUtxo).mp hvalid
  have hlater := isValid_map_entryOf verification genesisUtxo format hinvalid
  have hfirst := isValid_entryOf verification genesisUtxo format candidate r
  rw [hvalid] at hfirst
  have hselect := selectLatestValidCandidate_eq verification conversions genesisUtxo candidate
  simp only [hlatest, Option.bind_some, validRegistration, hdata, Option.map_some] at hselect
  refine ⟨?_, ?_, ?_, ?_⟩
  · rw [hselect]
    cases validateStake candidate.stakeDelegation with
    | ok stake => exact iff_of_true ⟨_, List.mem_cons_self, hfirst⟩ rfl
    | error e =>
        refine iff_of_false ?_ (by simp [Except.toOption])
        rintro ⟨entry, hentry, htrue⟩
        simp only [overrideFirst, err, hfirst, if_true, List.mem_cons] at hentry
        rcases hentry with rfl | hentry
        · cases htrue
        · rw [hlater entry hentry] at htrue
          cases htrue
  · intro selection hselection
    rw [hselect] at hselection
    obtain ⟨stake, hstake, hselection⟩ := Option.bind_eq_some_iff.mp hselection
    cases hvalidate : validateStake candidate.stakeDelegation with
    | ok stake =>
        obtain rfl := Option.some.inj hselection
        exact ⟨r, data, _, hlatest, hdata, rfl, rfl, hfirst, hlater⟩
    | error e =>
        rw [hvalidate] at hstake
        cases hstake
  · intro hnone
    rw [hlatest] at hnone
    cases hnone
  · intro r' hr'
    obtain rfl : r = r' := Option.some.inj (hlatest.symm.trans hr')
    exact ⟨before, later, hsorted, hinvalid, rfl⟩

private theorem agreesWithSelection (candidate : CandidateRegistrations) :
    AgreesWithSelection verification conversions genesisUtxo format candidate
      (reportedEntries verification genesisUtxo format candidate) := by
  rcases drop_rposition verification genesisUtxo format candidate with
    ⟨hnone, hinvalid, hdrop⟩ | ⟨r, before, later, hlatest, hvalid, hsorted, hinvalid, hdrop⟩
  · have hentries : ∀ entry ∈ sortedEntries verification genesisUtxo format candidate,
        entry.isValid = false :=
      isValid_map_entryOf verification genesisUtxo format hinvalid
    rw [reportedEntries, hdrop, overrideFirst_of_invalid hentries]
    exact agreesWithSelection_of_none verification conversions genesisUtxo format hnone hinvalid
  · rw [reportedEntries, hdrop]
    exact agreesWithSelection_of_some verification conversions genesisUtxo format hlatest hvalid
      hsorted hinvalid

end Candidate

/-! ## The response map -/

/-- Entries stay where they were inserted if the keys are distinct. -/
theorem foldl_update_eq {α κ V : Type} [DecidableEq κ] {key : α → κ} {value : α → V}
    {l : List α} (hnodup : (l.map key).Nodup) {a : α} (ha : a ∈ l) (map : κ → Option V) :
    l.foldl (fun map a => Function.update map (key a) (some (value a))) map (key a) =
      some (value a) := by
  have hother : ∀ (l : List α) (map : κ → Option V) (k : κ), k ∉ l.map key →
      l.foldl (fun map a => Function.update map (key a) (some (value a))) map k = map k := by
    intro l
    induction l with
    | nil => intro map k _; rfl
    | cons b l ih =>
        intro map k hk
        rw [List.map_cons, List.mem_cons, not_or] at hk
        rw [List.foldl_cons, ih _ k hk.2, Function.update_of_ne hk.1]
  induction l generalizing map with
  | nil => simp at ha
  | cons b l ih =>
      rw [List.map_cons, List.nodup_cons] at hnodup
      rw [List.foldl_cons]
      rcases List.mem_cons.mp ha with rfl | ha
      · rw [hother l _ (key a) hnodup.1, Function.update_self]
      · exact ih hnodup.2 ha _

section Response

variable {A K E : Type} (verification : SignatureVerification)
  (conversions : AccountConversions A K) (genesisUtxo : UtxoId) (format : TextFormat)

/-- With distinct main chain keys the entries reported for every candidate
agree with its selection. -/
theorem registrations_agree (candidates : List CandidateRegistrations)
    (hkeys : (candidates.map fun c => c.mainchainPubKey).Nodup)
    (hhex : Function.Injective format.toHex) :
    ∀ candidate ∈ candidates, ∃ entries,
      getRegistrations format (runtimeApi (E := E) verification genesisUtxo) candidates
        candidate.mainchainPubKey = .ok entries ∧
      AgreesWithSelection verification conversions genesisUtxo format candidate entries := by
  intro candidate hcandidate
  have hnodup : (candidates.map fun c => format.toHex c.mainchainPubKey.bytes).Nodup := by
    have hinjective : Function.Injective fun key : MainchainPublicKey =>
        format.toHex key.bytes := by
      intro a b h
      exact FixedBytes.ext (hhex h)
    have hmap := hkeys.map hinjective
    rwa [List.map_map] at hmap
  have hfold : getRegistrationsResponseMap format (runtimeApi (E := E) verification genesisUtxo)
      candidates = .ok (candidates.foldl (fun map c =>
        Function.update map (format.toHex c.mainchainPubKey.bytes)
          (some (reportedEntries verification genesisUtxo format c))) fun _ => none) := by
    refine foldlM_ok ?_ _
    intro c _ map
    rw [registrationEntries_runtimeApi]
    rfl
  refine ⟨_, ?_, agreesWithSelection verification conversions genesisUtxo format candidate⟩
  rw [getRegistrations, hfold]
  simp only [bind, Except.bind]
  rw [foldl_update_eq hnodup hcandidate, Option.getD_some]

end Response

/-- Lower-case hexadecimal text after `0x`; the addresses do not matter
here. -/
def exampleFormat : TextFormat where
  toHex bytes := String.ofList ('0' :: 'x' :: UtxoText.hexEncode bytes)
  ss58 _ := ""

private theorem toHex_exampleFormat_injective : Function.Injective exampleFormat.toHex := by
  intro a b h
  have hlist := congrArg String.toList h
  simp only [exampleFormat, String.toList_ofList, List.cons.injEq, true_and] at hlist
  have hback := UtxoText.fromLowerHex_hexEncode a
  rw [hlist, UtxoText.fromLowerHex_hexEncode] at hback
  exact (Option.some.inj hback).symm

/-- Two registrations in one transaction output place, of which the second
one does not consume the announced input. -/
def exampleCandidate (byte : UInt8) : CandidateRegistrations where
  mainchainPubKey := FixedBytes.replicate 32 byte
  registrations := [true, false].map fun consumed =>
    { consumedInput := ⟨FixedBytes.replicate 32 7, 0⟩
      sidechainSignature := List.replicate 64 0
      mainchainSignature := List.replicate 64 0
      crossChainSignature := List.replicate 64 0
      sidechainPubKey := List.replicate 33 2
      crossChainPubKey := List.replicate 33 2
      utxoInfo := ⟨⟨FixedBytes.replicate 32 8, 0⟩, 1, 1, 1, 0⟩
      txInputs := if consumed then [⟨FixedBytes.replicate 32 7, 0⟩] else []
      auraPubKey := List.replicate 32 byte
      grandpaPubKey := List.replicate 32 0 }
  stakeDelegation := some 1

/-- Two pools for which the query and the selection agree. -/
theorem registrations_agree_example :
    ∃ entries,
      getRegistrations exampleFormat
        (runtimeApi (E := Unit) ⟨fun _ _ _ => true, fun _ _ _ => true⟩
          ⟨FixedBytes.replicate 32 9, 0⟩)
        [exampleCandidate 1, exampleCandidate 2] (FixedBytes.replicate 32 1) = .ok entries ∧
      AgreesWithSelection ⟨fun _ _ _ => true, fun _ _ _ => true⟩
        ⟨fun key => key.bytes, some, fun keys => keys.1.bytes ++ keys.2.bytes⟩
        ⟨FixedBytes.replicate 32 9, 0⟩ exampleFormat (exampleCandidate 1) entries :=
  registrations_agree _ _ _ _ [exampleCandidate 1, exampleCandidate 2] (by decide)
    toHex_exampleFormat_injective (exampleCandidate 1) (by simp)

end PartnerChains.Ports.RegistrationsQuery
