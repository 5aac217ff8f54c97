import PartnerChains.Ports.RegistrationsInForce

/-!
# One more output at the registration address

Anyone can send an output with an arbitrary datum to the registration address.
`AddsOutput` relates a database to one with such an output more.  The output is
skipped or adds a registration of its own, and the registrations of all other
outputs stay as they are, exactly if the datum of every output in force
converts (`isolated_iff`).  A datum without conversion does not skip its
output, it fails the query for all of them.
-/

namespace PartnerChains.Ports.OutputIsolation

open PartnerChains.Ports.Domain
open PartnerChains.Ports.DbSync
open PartnerChains.Ports.MainchainDatums
open PartnerChains.Ports.CandidatesQuery
open PartnerChains.Ports.CandidatesDataSource
open PartnerChains.Ports.LedgerOutputs
open PartnerChains.Ports.RegistrationsInForce
open PartnerChains.Verified.Relational

variable {J : Type}

/-! ## Adding an output -/

/-- `db'` is `db` with the output `o` of the transaction `t` at the address.
The transaction and its block may be new.  A new transaction consumes no output
of the address, and the other outputs of the address keep their datum. -/
structure AddsOutput (db db' : Db J) (address : MainchainAddress) (o : TxOutRow) (t : TxRow) :
    Prop where
  block : ∀ b ∈ db.block, b ∈ db'.block
  tx : ∀ t ∈ db.tx, t ∈ db'.tx
  txIn : ∀ i ∈ db.txIn, i ∈ db'.txIn
  txOut : ∀ p : TxOutRow, p.address = address → (p ∈ db'.txOut ↔ p ∈ db.txOut ∨ p = o)
  fresh : o ∉ db.txOut
  address_eq : o.address = address
  tx_mem : t ∈ db'.tx
  tx_id : t.id = o.txId
  inputs_of_tx : ∀ i ∈ db'.txIn, (∃ t ∈ db.tx, t.id = i.txInId) → i ∈ db.txIn
  consumes_others : ∀ i ∈ db'.txIn, i ∉ db.txIn → ∀ p ∈ db.txOut, p.address = address →
    ¬ (p.txId = i.txOutId ∧ p.index = i.txOutIndex)
  datum : ∀ p ∈ db.txOut, p.address = address → datumValue db' p = datumValue db p

/-- The candidates hold the registration of the key, with its inputs in any
order. -/
def Registered (candidates : List CandidateRegistrations) (key : MainchainPublicKey)
    (registration : RegistrationData) : Prop :=
  ∃ c ∈ candidates, c.mainchainPubKey = key ∧
    ∃ r ∈ c.registrations, r.unordered = registration.unordered

/-- Both queries succeed, and apart from the registration of the new output
they return the same registrations. -/
def Isolated [DecidableEq J] (lib : Libraries J) (db db' : Db J) (address : MainchainAddress)
    (epoch : Nat) (utxoId : UtxoId) : Prop :=
  ∃ candidates candidates', getCandidates lib db epoch address = .ok candidates ∧
    getCandidates lib db' epoch address = .ok candidates' ∧
    ∀ key registration, registration.utxoInfo.utxoId ≠ utxoId →
      (Registered candidates' key registration ↔ Registered candidates key registration)

/-! ## Registrations as outputs in force -/

variable {lib : Libraries J} {db db' : Db J} {address : MainchainAddress}

/-- A registration is reported exactly if an output in force makes it. -/
theorem registered_iff {epoch : Nat} {candidates : List CandidateRegistrations}
    (h : Ledger db) (hcandidates : CandidatesInForce lib db address epoch candidates)
    (key : MainchainPublicKey) (registration : RegistrationData) :
    Registered candidates key registration ↔
      ∃ r, OutputInForce db address epoch r ∧ ∃ d, registrationDatum lib db r.txOut = some d ∧
        d.stakeOwnership.pubKey = key ∧
        (registrationOf db r d).unordered = registration.unordered := by
  constructor
  · rintro ⟨c, hc, rfl, x, hx, hsame⟩
    rw [hcandidates.registrations c hc, mem_registrationsInForce h] at hx
    obtain ⟨r, hr, d, hd, hkey, rfl⟩ := hx
    exact ⟨r, hr, d, hd, hkey, hsame⟩
  · rintro ⟨r, hr, d, hd, hkey, hsame⟩
    have hx := (mem_registrationsInForce h).mpr ⟨r, hr, d, hd, hkey, rfl⟩
    obtain ⟨c, hc, hckey⟩ := List.mem_map.mp ((hcandidates.keys key).mpr (List.ne_nil_of_mem hx))
    refine ⟨c, hc, hckey, _, ?_, hsame⟩
    rw [hcandidates.registrations c hc, hckey]
    exact hx

/-! ## The other outputs -/

section Adds

variable {o : TxOutRow} {t : TxRow}

/-- A transaction of an output of `db` is found in `db` already. -/
theorem AddsOutput.tx_of_id (hadds : AddsOutput db db' address o t) {c : TxRow}
    (hc : c ∈ db'.tx) (hdb : ∃ c' ∈ db.tx, c'.id = c.id) : c ∈ db.tx := by
  obtain ⟨c', hc', hid⟩ := hdb
  rw [← List.inj_on_of_nodup_map db'.tx_pkey (hadds.tx c' hc') hc hid]
  exact hc'

theorem AddsOutput.block_of_tx (hadds : AddsOutput db db' address o t) {c : TxRow}
    (hc : c ∈ db.tx) {b : BlockRow} (hb : b ∈ db'.block) (hid : b.id = c.blockId) :
    b ∈ db.block := by
  obtain ⟨b', hb', hid'⟩ := db.tx_block_id_fkey c hc
  rw [← List.inj_on_of_nodup_map db'.block_pkey (hadds.block b' hb') hb (hid'.trans hid.symm)]
  exact hb'

/-- The new output does not change what is spent. -/
theorem AddsOutput.spentUpTo_iff (hadds : AddsOutput db db' address o t) (h : Ledger db)
    {p : TxOutRow} (hp : p ∈ db.txOut) (haddress : p.address = address) (epoch : Nat) :
    SpentUpTo db' p epoch ↔ SpentUpTo db p epoch := by
  constructor
  · rintro ⟨i, hi, htxId, hindex, c, hc, hcid, b, hb, hbid, he⟩
    have hi : i ∈ db.txIn := by
      by_contra hnew
      exact hadds.consumes_others i hi hnew p hp haddress ⟨htxId, hindex⟩
    obtain ⟨c', hc', hcid'⟩ := h.tx_in_tx_in_id_fkey i hi
    have hc : c ∈ db.tx := hadds.tx_of_id hc ⟨c', hc', hcid'.trans hcid.symm⟩
    exact ⟨i, hi, htxId, hindex, c, hc, hcid, b, hadds.block_of_tx hc hb hbid, hbid, he⟩
  · rintro ⟨i, hi, htxId, hindex, c, hc, hcid, b, hb, hbid, he⟩
    exact ⟨i, hadds.txIn i hi, htxId, hindex, c, hadds.tx c hc, hcid, b, hadds.block b hb, hbid,
      he⟩

/-- The new output does not change which others are in force. -/
theorem AddsOutput.outputInForce_iff (hadds : AddsOutput db db' address o t) (h : Ledger db)
    {epoch : Nat} {r : OriginRow} (hne : r.txOut ≠ o) :
    OutputInForce db' address epoch r ↔ OutputInForce db address epoch r := by
  constructor
  · intro hr
    have hmem : r.txOut ∈ db.txOut :=
      ((hadds.txOut r.txOut hr.address_eq).mp hr.txOut_mem).resolve_right hne
    obtain ⟨c, hc, hcid⟩ := h.tx_out_tx_id_fkey r.txOut hmem
    have htx : r.tx ∈ db.tx := hadds.tx_of_id hr.tx_mem ⟨c, hc, hcid.trans hr.txId_eq⟩
    refine { hr with
      txOut_mem := hmem
      tx_mem := htx
      block_mem := hadds.block_of_tx htx hr.block_mem hr.blockId_eq.symm
      unspent := ?_ }
    rw [← hadds.spentUpTo_iff h hmem hr.address_eq]
    exact hr.unspent
  · intro hr
    refine { hr with
      txOut_mem := (hadds.txOut r.txOut hr.address_eq).mpr (Or.inl hr.txOut_mem)
      tx_mem := hadds.tx r.tx hr.tx_mem
      block_mem := hadds.block r.block hr.block_mem
      unspent := ?_ }
    rw [hadds.spentUpTo_iff h hr.txOut_mem hr.address_eq]
    exact hr.unspent

theorem AddsOutput.ne_of_outputInForce (hadds : AddsOutput db db' address o t) {epoch : Nat}
    {r : OriginRow} (hr : OutputInForce db address epoch r) : r.txOut ≠ o := by
  intro heq
  exact hadds.fresh (heq ▸ hr.txOut_mem)

/-- The transaction consumed the same outputs. -/
theorem AddsOutput.consumedOutputs_perm (hadds : AddsOutput db db' address o t) (h : Ledger db)
    {c : TxRow} (hc : c ∈ db.tx) :
    (consumedOutputs db' c).Perm (consumedOutputs db c) := by
  have hperm : (db'.txIn.filter fun i => decide (i.txInId = c.id)).Perm
      (db.txIn.filter fun i => decide (i.txInId = c.id)) := by
    apply filter_perm_of_mem_iff db'.tx_in_pkey.of_map db.tx_in_pkey.of_map
    intro i hi
    have hid := of_decide_eq_true hi
    exact ⟨fun hi => hadds.inputs_of_tx i hi ⟨c, hc, hid.symm⟩, hadds.txIn i⟩
  rw [consumedOutputs, consumedOutputs]
  refine (hperm.filterMap _).trans (List.Perm.of_eq (List.filterMap_congr ?_))
  intro i hi
  have hi := (List.mem_filter.mp hi).1
  obtain ⟨p, hp, hpid, -⟩ := h.consumes_output i hi
  obtain ⟨d, hd, hdid⟩ := h.tx_out_tx_id_fkey p hp
  have hid : d.id = i.txOutId := hdid.trans hpid
  rw [find?_eq_some_of_key db.tx_pkey hd (by simp [hid]) fun x _ hx =>
      (of_decide_eq_true hx).trans hid.symm,
    find?_eq_some_of_key db'.tx_pkey (hadds.tx d hd) (by simp [hid]) fun x _ hx =>
      (of_decide_eq_true hx).trans hid.symm]

private theorem AddsOutput.unordered_registrationOf (hadds : AddsOutput db db' address o t)
    (h : Ledger db) {r : OriginRow} (hr : r.tx ∈ db.tx) (d : RegisterValidatorDatum) :
    (registrationOf db' r d).unordered = (registrationOf db r d).unordered :=
  Prod.ext rfl (Multiset.coe_eq_coe.mpr (hadds.consumedOutputs_perm h hr))

private theorem AddsOutput.registrationDatum_eq (hadds : AddsOutput db db' address o t)
    {epoch : Nat} {r : OriginRow} (hr : OutputInForce db address epoch r) (lib : Libraries J) :
    registrationDatum lib db' r.txOut = registrationDatum lib db r.txOut := by
  rw [registrationDatum, registrationDatum, hadds.datum r.txOut hr.txOut_mem hr.address_eq]

/-- If all datums convert with the new output, they do without it. -/
theorem AddsOutput.convertsInForce (hadds : AddsOutput db db' address o t) (h : Ledger db)
    (h' : Ledger db') {epoch : Nat} (hconvert : ConvertsInForce lib db' address epoch) :
    ConvertsInForce lib db address epoch := by
  intro r hr value hvalue
  rw [mem_outputsInForce h] at hr
  have hr' := (hadds.outputInForce_iff h (hadds.ne_of_outputInForce hr)).mpr hr
  rw [← hadds.datum r.txOut hr.txOut_mem hr.address_eq] at hvalue
  exact hconvert r ((mem_outputsInForce h').mpr hr') value hvalue

/-- A registration that is not of the new output is of an output that was in
force before. -/
theorem AddsOutput.registered_iff (hadds : AddsOutput db db' address o t) (h : Ledger db)
    (h' : Ledger db') {epoch : Nat} {candidates candidates' : List CandidateRegistrations}
    (hcandidates : CandidatesInForce lib db address epoch candidates)
    (hcandidates' : CandidatesInForce lib db' address epoch candidates')
    {key : MainchainPublicKey} {registration : RegistrationData}
    (hne : registration.utxoInfo.utxoId ≠ ⟨t.hash, o.index⟩) :
    Registered candidates' key registration ↔ Registered candidates key registration := by
  rw [OutputIsolation.registered_iff h' hcandidates', OutputIsolation.registered_iff h hcandidates]
  constructor
  · rintro ⟨r, hr, d, hd, hkey, hsame⟩
    have hother : r.txOut ≠ o := by
      intro heq
      apply hne
      have htx : r.tx = t := List.inj_on_of_nodup_map db'.tx_pkey hr.tx_mem hadds.tx_mem
        (by rw [← hr.txId_eq, heq, hadds.tx_id])
      have hid := congrArg (fun x => x.1.utxoInfo.utxoId) hsame
      exact hid.symm.trans (by rw [← htx, ← heq]; rfl)
    have hr := (hadds.outputInForce_iff h hother).mp hr
    rw [hadds.registrationDatum_eq hr] at hd
    rw [hadds.unordered_registrationOf h hr.tx_mem] at hsame
    exact ⟨r, hr, d, hd, hkey, hsame⟩
  · rintro ⟨r, hr, d, hd, hkey, hsame⟩
    have hr' := (hadds.outputInForce_iff h (hadds.ne_of_outputInForce hr)).mpr hr
    rw [← hadds.registrationDatum_eq hr] at hd
    rw [← hadds.unordered_registrationOf h hr.tx_mem] at hsame
    exact ⟨r, hr', d, hd, hkey, hsame⟩

/-- One more output leaves the other registrations alone exactly if the datum
of every output in force converts, the new one included.  The epoch is one whose
data epoch is bound to the queries as it is. -/
theorem isolated_iff [DecidableEq J] (h : Ledger db) (h' : Ledger db')
    (hordinary : OrdinaryTransactions db address) (hordinary' : OrdinaryTransactions db' address)
    (hadds : AddsOutput db db' address o t) {epoch : Nat} (hepoch : 2 ≤ epoch)
    (hrange : epoch < 2 ^ 31 + 2) :
    Isolated lib db db' address epoch ⟨t.hash, o.index⟩ ↔
      ConvertsInForce lib db' address (epoch - 2) := by
  have hword : epoch - 2 < 2 ^ 31 := by omega
  constructor
  · rintro ⟨-, candidates', -, hok', -⟩
    exact (getCandidates_isOk_iff h' hordinary' hepoch hword).mp ⟨candidates', hok'⟩
  · intro hconvert'
    obtain ⟨candidates, hok, hcandidates⟩ := getCandidates_candidatesInForce h hordinary hepoch
      hword (hadds.convertsInForce h h' hconvert')
    obtain ⟨candidates', hok', hcandidates'⟩ :=
      getCandidates_candidatesInForce h' hordinary' hepoch hword hconvert'
    refine ⟨candidates, candidates', hok, hok', ?_⟩
    intro key registration hne
    exact hadds.registered_iff h h' hcandidates hcandidates' hne

end Adds

/-! ## A datum without conversion -/

theorem registrationDb_adds :
    AddsOutput (registrationDb false) (registrationDb true) "registrations" malformedOutput
      ⟨2, FixedBytes.replicate 32 12, 2, 1⟩ where
  block := by decide
  tx := by decide
  txIn := by decide
  txOut := by
    intro p _
    simp only [registrationDb, Bool.false_eq_true, if_false, if_true, List.append_nil,
      List.mem_append, List.mem_singleton]
  fresh := by decide
  address_eq := rfl
  tx_mem := by decide
  tx_id := rfl
  inputs_of_tx := by decide
  consumes_others := by decide
  datum := by decide

private theorem registrationDb_not_converts :
    ¬ ConvertsInForce exampleLibraries (registrationDb true) "registrations" 0 := by
  intro hconvert
  have hmem : (⟨malformedOutput, ⟨2, FixedBytes.replicate 32 12, 2, 1⟩, chainBlock 2⟩ : OriginRow) ∈
      outputsInForce (registrationDb true) "registrations" 0 := by decide
  exact absurd (hconvert _ hmem .malformed (by decide)) (by decide)

/-- One malformed datum fails the query, and with it everyone else's registration.
-/
theorem registrationDb_not_isolated :
    AddsOutput (registrationDb false) (registrationDb true) "registrations" malformedOutput
        ⟨2, FixedBytes.replicate 32 12, 2, 1⟩ ∧
      (∃ candidates, getCandidates exampleLibraries (registrationDb false) 2 "registrations" =
        .ok candidates) ∧
      (∀ candidates, getCandidates exampleLibraries (registrationDb true) 2 "registrations" ≠
        .ok candidates) ∧
      ¬ Isolated exampleLibraries (registrationDb false) (registrationDb true) "registrations" 2
        ⟨FixedBytes.replicate 32 12, 0⟩ := by
  have hfails : ∀ candidates,
      getCandidates exampleLibraries (registrationDb true) 2 "registrations" ≠
        .ok candidates := by
    intro candidates hok
    exact registrationDb_not_converts ((getCandidates_isOk_iff (registrationDb_ledger true)
      (registrationDb_ordinary true) (by decide) (by decide)).mp ⟨candidates, hok⟩)
  refine ⟨registrationDb_adds, ?_, hfails, ?_⟩
  · rw [getCandidates_isOk_iff (registrationDb_ledger false) (registrationDb_ordinary false)
      (by decide) (by decide)]
    exact registrationDb_convert.convertsInForce _ _
  · rintro ⟨-, candidates', -, hok', -⟩
    exact hfails candidates' hok'

/-- The example is not isolated because its new datum does not convert. -/
theorem isolated_iff_malformed :
    Isolated exampleLibraries (registrationDb false) (registrationDb true) "registrations" 2
        ⟨FixedBytes.replicate 32 12, 0⟩ ↔
      ConvertsInForce exampleLibraries (registrationDb true) "registrations" 0 :=
  isolated_iff (registrationDb_ledger false) (registrationDb_ledger true)
    (registrationDb_ordinary false) (registrationDb_ordinary true) registrationDb_adds (by decide)
    (by decide)

end PartnerChains.Ports.OutputIsolation
