import PartnerChains.Ports.McHash
import PartnerChains.Ports.NativeTokenPallet

/-!
# Conservation of native tokens along a chain

The port of `NativeTokenManagementInherentDataProvider::new`, and the chain
it drives.  Each block asks the data source for the tokens locked since the
main chain block its parent refers to, or since the main chain genesis as
long as no transfer was handled; `create_inherent` turns the answer into a
call and executing the block passes it to the handler.

`honestChain_invariant` is the inductive invariant, `honestChain_conserves`
the result: the amounts handled so far add up to the total of the data source
from genesis to the last main chain block referred to.
-/

namespace PartnerChains.Ports.NativeTokenRun

open PartnerChains.Ports.Domain
open PartnerChains.Ports.McHash
open PartnerChains.Ports.NativeTokenPallet

/-- `get_total_native_token_transfer`: the total of the transfers in the range
`(after_block, to_block]`. -/
abbrev NativeTokenManagementDataSource (E : Type) :=
  Option McBlockHash → McBlockHash → PolicyId → AssetName → MainchainAddress →
    Except E NativeTokenAmount

/-- Why no inherent data provider can be made. -/
inductive IDPCreationError (E : Type) where
  | dataSourceError (error : E)
  | mcHashError (error : HeaderError)

/-- What a client serves about one block: its header and the storage after
it. -/
structure Block (S : Type) where
  header : Header
  storage : Storage S

variable {S E : Type}

/-- `NativeTokenManagementInherentDataProvider::new`. -/
def newInherentDataProvider (dataSource : NativeTokenManagementDataSource E)
    (mcHash : McBlockHash) (parent : Block S) :
    Except (IDPCreationError E) (Option NativeTokenAmount) :=
  match parent.storage.mainChainScriptsConfiguration with
  | none => .ok none
  | some scripts => do
      let parentMcHash ←
        if parent.storage.initialized then
          (getMcHashForBlock (some parent.header)).mapError .mcHashError
        else .ok none
      let tokenAmount ←
        (dataSource parentMcHash mcHash scripts.nativeTokenPolicyId
          scripts.nativeTokenAssetName scripts.illiquidSupplyValidatorAddress).mapError
            .dataSourceError
      .ok (if tokenAmount > 0 then some tokenAmount else none)

/-- `provide_inherent_data`: nothing is put when there is no amount. -/
def provideInherentData (tokenAmount : Option NativeTokenAmount) (data : InherentData) :
    Option InherentData :=
  match tokenAmount with
  | some tokenAmount => putData data inherentIdentifier (TokenTransferData.encode ⟨tokenAmount⟩)
  | none => some data

/-! ## Honest chains -/

/-- `child` is authored honestly on `parent` with the main chain reference
`mcHash`: its inherent data come from the provider, its only
`transfer_tokens` call from `create_inherent`, its digest carries the
reference, and it leaves the scripts alone. -/
structure HonestBlock (dataSource : NativeTokenManagementDataSource E)
    (handler : TokenTransferHandler S) (parent child : Block (S × List NativeTokenAmount))
    (mcHash : McBlockHash) where
  tokenAmount : Option NativeTokenAmount
  provider : newInherentDataProvider dataSource mcHash parent = .ok tokenAmount
  otherData : InherentData
  otherData_foreign : otherData.lookup inherentIdentifier = none
  data : InherentData
  provided : provideInherentData tokenAmount otherData = some data
  inherent : Option Call
  created : createInherent data = some inherent
  transactions : List Extrinsic
  transactions_foreign : ∀ extrinsic ∈ transactions, isInherent extrinsic.call = false
  executed : executeBlock (recording handler) parent.storage
    (inherent.toList.map (fun call => ⟨.none, call⟩) ++ transactions) = .ok child.storage
  scripts_eq : child.storage.mainChainScriptsConfiguration =
    parent.storage.mainChainScriptsConfiguration
  number_eq : child.header.number = parent.header.number + 1
  logsBefore : List DigestItem
  logsAfter : List DigestItem
  logs_foreign : ∀ item ∈ logsBefore, item.Foreign
  logs_eq : child.header.logs = logsBefore ++ fromMcBlockHash mcHash ++ logsAfter

/-- A chain of honest blocks from genesis, with the main chain block its last
block refers to; references do not decrease in the order `below` of the main
chain. -/
inductive HonestChain (dataSource : NativeTokenManagementDataSource E)
    (handler : TokenTransferHandler S) (below : McBlockHash → McBlockHash → Prop)
    (scripts : MainChainScripts) :
    Block (S × List NativeTokenAmount) → Option McBlockHash → Prop where
  | genesis (block : Block (S × List NativeTokenAmount)) (number : block.header.number = 0)
      (configured : block.storage.mainChainScriptsConfiguration = some scripts)
      (uninitialized : block.storage.initialized = false)
      (nothingHandled : block.storage.handlerState.2 = []) :
      HonestChain dataSource handler below scripts block none
  | extend {parent child : Block (S × List NativeTokenAmount)}
      {reference : Option McBlockHash} {mcHash : McBlockHash}
      (chain : HonestChain dataSource handler below scripts parent reference)
      (nondecreasing : ∀ last, reference = some last → below last mcHash)
      (block : HonestBlock dataSource handler parent child mcHash) :
      HonestChain dataSource handler below scripts child (some mcHash)

/-- The total for the configured scripts. -/
def totalFor (dataSource : NativeTokenManagementDataSource E) (scripts : MainChainScripts)
    (afterBlock : Option McBlockHash) (toBlock : McBlockHash) : Except E NativeTokenAmount :=
  dataSource afterBlock toBlock scripts.nativeTokenPolicyId scripts.nativeTokenAssetName
    scripts.illiquidSupplyValidatorAddress

/-- The totals from genesis add up over consecutive ranges. -/
def Additive (dataSource : NativeTokenManagementDataSource E) (scripts : MainChainScripts)
    (below : McBlockHash → McBlockHash → Prop) : Prop :=
  ∀ (a b : McBlockHash) (x y : NativeTokenAmount), below a b →
    totalFor dataSource scripts none a = .ok x →
    totalFor dataSource scripts (some a) b = .ok y →
      ∃ z : NativeTokenAmount, totalFor dataSource scripts none b = .ok z ∧
        z.toNat = x.toNat + y.toNat

/-! ## One honest block -/

private theorem createInherent_provideInherentData {tokenAmount : Option NativeTokenAmount}
    {otherData data : InherentData} (hpos : tokenAmount ≠ some 0)
    (hforeign : otherData.lookup inherentIdentifier = none)
    (h : provideInherentData tokenAmount otherData = some data) :
    createInherent data = some (tokenAmount.map .transferTokens) := by
  cases tokenAmount with
  | none =>
      obtain rfl : otherData = data := by simpa [provideInherentData] using h
      simp [createInherent, getTransferedTokensFromInherentData, hforeign]
  | some amount =>
      simp only [provideInherentData, putData] at h
      split at h
      · exact absurd h (by simp)
      · obtain rfl := Option.some.inj h
        have hgt : amount ≠ 0#128 := by simpa using hpos
        simp [createInherent, getTransferedTokensFromInherentData,
          TokenTransferData.decode_encode, Option.filter, hgt]

/-- The data source's answer in one block, read against the range the
provider asks for. -/
theorem newInherentDataProvider_ok {dataSource : NativeTokenManagementDataSource E}
    {mcHash : McBlockHash} {parent : Block S} {scripts : MainChainScripts}
    {tokenAmount : Option NativeTokenAmount}
    (hscripts : parent.storage.mainChainScriptsConfiguration = some scripts)
    (h : newInherentDataProvider dataSource mcHash parent = .ok tokenAmount) :
    ∃ (parentMcHash : Option McBlockHash) (amount : NativeTokenAmount),
      (if parent.storage.initialized then
          getMcHashForBlock (some parent.header) = .ok parentMcHash
        else parentMcHash = none) ∧
      totalFor dataSource scripts parentMcHash mcHash = .ok amount ∧
      tokenAmount = if amount > 0 then some amount else none := by
  simp only [newInherentDataProvider, hscripts] at h
  cases hinit : parent.storage.initialized with
  | false =>
      simp only [hinit, Bool.false_eq_true, if_false, bind, Except.bind] at h
      cases hamount : totalFor dataSource scripts none mcHash with
      | error e =>
          unfold totalFor at hamount
          simp [hamount, Except.mapError] at h
      | ok amount =>
          refine ⟨none, amount, by simp, hamount, ?_⟩
          unfold totalFor at hamount
          simpa [hamount, Except.mapError] using h.symm
  | true =>
      simp only [hinit, if_true, bind, Except.bind] at h
      cases hparent : getMcHashForBlock (some parent.header) with
      | error e => simp [hparent, Except.mapError] at h
      | ok parentMcHash =>
          cases hamount : totalFor dataSource scripts parentMcHash mcHash with
          | error e =>
              unfold totalFor at hamount
              simp [hparent, hamount, Except.mapError] at h
          | ok amount =>
              refine ⟨parentMcHash, amount, by simp, hamount, ?_⟩
              unfold totalFor at hamount
              simpa [hparent, hamount, Except.mapError] using h.symm

private theorem transferAmounts_of_foreign {transactions : List Extrinsic}
    (h : ∀ extrinsic ∈ transactions, isInherent extrinsic.call = false) :
    transferAmounts transactions = [] := by
  rw [transferAmounts, List.filterMap_eq_nil_iff]
  intro extrinsic hmem
  have hforeign := h extrinsic hmem
  cases hcall : extrinsic.call with
  | transferTokens amount => simp [hcall, isInherent] at hforeign
  | setMainChainScripts => rfl

/-- One honest block passes the provider's amount to the handler, if it is
positive, and nothing else. -/
theorem HonestBlock.storage_eq {dataSource : NativeTokenManagementDataSource E}
    {handler : TokenTransferHandler S} {parent child : Block (S × List NativeTokenAmount)}
    {mcHash : McBlockHash} (h : HonestBlock dataSource handler parent child mcHash)
    (hpos : h.tokenAmount ≠ some 0) :
    child.storage.handlerState.2 = parent.storage.handlerState.2 ++ h.tokenAmount.toList ∧
      child.storage.initialized = (parent.storage.initialized || h.tokenAmount.isSome) := by
  have hcreated := createInherent_provideInherentData hpos h.otherData_foreign h.provided
  have hinherent : h.inherent = h.tokenAmount.map .transferTokens :=
    Option.some.inj (h.created.symm.trans hcreated)
  have hamounts : transferAmounts (h.inherent.toList.map (fun call => ⟨.none, call⟩) ++
      h.transactions) = h.tokenAmount.toList := by
    rw [transferAmounts, List.filterMap_append, ← transferAmounts, ← transferAmounts,
      transferAmounts_of_foreign h.transactions_foreign, hinherent, List.append_nil]
    cases h.tokenAmount with
    | none => rfl
    | some amount => rfl
  obtain ⟨hlog, hflag⟩ := executeBlock_recording handler _ h.executed
  rw [hamounts] at hlog hflag
  refine ⟨hlog, ?_⟩
  rw [hflag]
  cases h.tokenAmount with
  | none => rfl
  | some amount => rfl

/-- The reference of an honest block can be read from its header. -/
theorem HonestBlock.reads_reference {dataSource : NativeTokenManagementDataSource E}
    {handler : TokenTransferHandler S} {parent child : Block (S × List NativeTokenAmount)}
    {mcHash : McBlockHash} (h : HonestBlock dataSource handler parent child mcHash) :
    getMcHashForBlock (some child.header) = .ok (some mcHash) := by
  have hnumber : child.header.number ≠ 0 := by
    rw [h.number_eq]
    exact Nat.succ_ne_zero _
  simp only [getMcHashForBlock, hnumber, if_false, h.logs_eq,
    valueFromDigest_fromMcBlockHash _ _ h.logs_foreign]

/-! ## The whole chain -/

/-- What holds of every honest chain. -/
structure ChainInvariant (dataSource : NativeTokenManagementDataSource E)
    (scripts : MainChainScripts) (block : Block (S × List NativeTokenAmount))
    (reference : Option McBlockHash) : Prop where
  configured : block.storage.mainChainScriptsConfiguration = some scripts
  reads_reference : getMcHashForBlock (some block.header) = .ok reference
  uninitialized : block.storage.initialized = false → block.storage.handlerState.2 = []
  genesis : reference = none → block.storage.initialized = false
  conserved : ∀ mcHash, reference = some mcHash → ∃ total : NativeTokenAmount,
    totalFor dataSource scripts none mcHash = .ok total ∧
      sumAmounts block.storage.handlerState.2 = total.toNat

private theorem sumAmounts_append (l : List NativeTokenAmount) (amount : Option NativeTokenAmount) :
    sumAmounts (l ++ amount.toList) = sumAmounts l + (amount.getD 0).toNat := by
  cases amount with
  | none => simp [sumAmounts]
  | some amount => simp [sumAmounts]

theorem ite_pos_getD (amount : NativeTokenAmount) :
    ((if amount > 0 then some amount else none : Option NativeTokenAmount).getD 0) =
      amount := by
  by_cases hzero : amount = 0
  · simp [hzero]
  · rw [if_pos (NativeTokenAmount.pos_iff.mpr hzero), Option.getD_some]

private theorem ite_pos_ne_some_zero (amount : NativeTokenAmount) :
    (if amount > 0 then some amount else none : Option NativeTokenAmount) ≠ some 0 := by
  by_cases hzero : amount = 0
  · simp [hzero]
  · rw [if_pos (NativeTokenAmount.pos_iff.mpr hzero)]
    simpa using hzero

/-- The amount observed in the next block completes the total: the provider
asks from genesis until something was handled, and then from the reference of
the parent. -/
theorem ChainInvariant.total_next {dataSource : NativeTokenManagementDataSource E}
    {below : McBlockHash → McBlockHash → Prop} {scripts : MainChainScripts}
    {parent : Block (S × List NativeTokenAmount)} {reference parentMcHash : Option McBlockHash}
    {mcHash : McBlockHash} {amount : NativeTokenAmount}
    (hadditive : Additive dataSource scripts below)
    (hinv : ChainInvariant dataSource scripts parent reference)
    (hbelow : ∀ last, reference = some last → below last mcHash)
    (hrange : if parent.storage.initialized then
        getMcHashForBlock (some parent.header) = .ok parentMcHash
      else parentMcHash = none)
    (htotal : totalFor dataSource scripts parentMcHash mcHash = .ok amount) :
    ∃ total : NativeTokenAmount, totalFor dataSource scripts none mcHash = .ok total ∧
      sumAmounts parent.storage.handlerState.2 + amount.toNat = total.toNat := by
  cases hinit : parent.storage.initialized with
  | false =>
      simp only [hinit, Bool.false_eq_true, if_false] at hrange
      subst hrange
      refine ⟨amount, htotal, ?_⟩
      rw [hinv.uninitialized hinit]
      simp [sumAmounts]
  | true =>
      simp only [hinit, if_true] at hrange
      have hreference : parentMcHash = reference :=
        Except.ok.inj (hrange.symm.trans hinv.reads_reference)
      cases hlast : reference with
      | none =>
          have hfalse := hinv.genesis hlast
          rw [hinit] at hfalse
          exact absurd hfalse (by simp)
      | some last =>
          obtain ⟨total, hold, hhandled⟩ := hinv.conserved last hlast
          rw [hreference, hlast] at htotal
          obtain ⟨z, hz, hadd⟩ := hadditive last mcHash total amount (hbelow last hlast)
            hold htotal
          exact ⟨z, hz, by rw [hhandled, hadd]⟩

/-- An honest block keeps the balance. -/
theorem ChainInvariant.step {dataSource : NativeTokenManagementDataSource E}
    {handler : TokenTransferHandler S} {below : McBlockHash → McBlockHash → Prop}
    {scripts : MainChainScripts} {parent child : Block (S × List NativeTokenAmount)}
    {reference : Option McBlockHash} {mcHash : McBlockHash}
    (hadditive : Additive dataSource scripts below)
    (hinv : ChainInvariant dataSource scripts parent reference)
    (hbelow : ∀ last, reference = some last → below last mcHash)
    (hblock : HonestBlock dataSource handler parent child mcHash) :
    ChainInvariant dataSource scripts child (some mcHash) := by
  obtain ⟨parentMcHash, amount, hrange, htotal, htoken⟩ :=
    newInherentDataProvider_ok hinv.configured hblock.provider
  have hpos : hblock.tokenAmount ≠ some 0 := by
    rw [htoken]
    exact ite_pos_ne_some_zero amount
  obtain ⟨hlog, hflag⟩ := hblock.storage_eq hpos
  refine
    { configured := hblock.scripts_eq.trans hinv.configured
      reads_reference := hblock.reads_reference
      uninitialized := ?_
      genesis := by simp
      conserved := ?_ }
  · intro hfalse
    rw [hflag, Bool.or_eq_false_iff] at hfalse
    have hnone : hblock.tokenAmount = none := by simpa using hfalse.2
    rw [hlog, hinv.uninitialized hfalse.1, hnone]
    rfl
  · intro m hm
    obtain rfl := Option.some.inj hm
    obtain ⟨total, hz, hsum⟩ := hinv.total_next hadditive hbelow hrange htotal
    refine ⟨total, hz, ?_⟩
    rw [hlog, sumAmounts_append, htoken, ite_pos_getD, hsum]

/-- The balance holds along a chain of honest blocks. -/
theorem honestChain_invariant {dataSource : NativeTokenManagementDataSource E}
    {handler : TokenTransferHandler S} {below : McBlockHash → McBlockHash → Prop}
    {scripts : MainChainScripts} (hadditive : Additive dataSource scripts below)
    {block : Block (S × List NativeTokenAmount)} {reference : Option McBlockHash}
    (h : HonestChain dataSource handler below scripts block reference) :
    ChainInvariant dataSource scripts block reference := by
  induction h with
  | genesis block number configured uninitialized nothingHandled =>
      refine
        { configured := configured
          reads_reference := by simp [getMcHashForBlock, number]
          uninitialized := fun _ => nothingHandled
          genesis := fun _ => uninitialized
          conserved := by simp }
  | extend chain nondecreasing block ih => exact ih.step hadditive nondecreasing block

/-- After every block of an honest chain the handled amounts add up to the
total from the main chain genesis to the referenced main chain block. -/
theorem honestChain_conserves {dataSource : NativeTokenManagementDataSource E}
    {handler : TokenTransferHandler S} {below : McBlockHash → McBlockHash → Prop}
    {scripts : MainChainScripts} (hadditive : Additive dataSource scripts below)
    {block : Block (S × List NativeTokenAmount)} {mcHash : McBlockHash}
    (h : HonestChain dataSource handler below scripts block (some mcHash)) :
    ∃ total : NativeTokenAmount,
      dataSource none mcHash scripts.nativeTokenPolicyId scripts.nativeTokenAssetName
        scripts.illiquidSupplyValidatorAddress = .ok total ∧
      sumAmounts block.storage.handlerState.2 = total.toNat :=
  (honestChain_invariant hadditive h).conserved mcHash rfl

/-! ## A chain whose first block observes nothing -/

/-- A main chain block whose hash repeats the number of tokens locked so
far. -/
def mcBlock (locked : UInt8) : McBlockHash := FixedBytes.replicate 32 locked

/-- How many tokens are locked at the main chain block. -/
def lockedAt (mcHash : McBlockHash) : Nat := (mcHash.bytes.headD 0).toNat

/-- A source that knows the total at every block. -/
def exampleSource : NativeTokenManagementDataSource Empty := fun afterBlock toBlock _ _ _ =>
  .ok (BitVec.ofNat 128 (lockedAt toBlock - (afterBlock.map lockedAt).getD 0))

/-- The scripts the chain is configured with. -/
def exampleScripts : MainChainScripts :=
  ⟨FixedBytes.replicate 28 0, AssetName.empty, "illiquid_supply"⟩

/-- The order of the main chain blocks, by what is locked. -/
def exampleBelow (a b : McBlockHash) : Prop := lockedAt a ≤ lockedAt b

private theorem exampleSource_additive : Additive exampleSource exampleScripts exampleBelow := by
  intro a b x y hbelow hx hy
  have ha : lockedAt a < 256 := UInt8.toNat_lt _
  have hb : lockedAt b < 256 := UInt8.toNat_lt _
  have hle : lockedAt a ≤ lockedAt b := hbelow
  refine ⟨BitVec.ofNat 128 (lockedAt b), rfl, ?_⟩
  obtain rfl := Except.ok.inj hx
  obtain rfl := Except.ok.inj hy
  simp only [Option.map_none, Option.getD_none, Option.map_some, Option.getD_some,
    BitVec.toNat_ofNat, Nat.sub_zero]
  omega

/-- The block at `number` that refers to `mcBlock locked`, after the given
transfers. -/
def exampleBlock (number : Nat) (locked : UInt8) (initialized : Bool)
    (handled : List NativeTokenAmount) : Block (Nat × List NativeTokenAmount) where
  header := ⟨number, fromMcBlockHash (mcBlock locked)⟩
  storage :=
    { mainChainScriptsConfiguration := some exampleScripts
      initialized := initialized
      handlerState := (sumAmounts handled, handled) }

/-- The next block of the example when `tokenAmount` was observed. -/
def exampleStep {number : Nat} {before after : UInt8} {initialized initialized' : Bool}
    {handled handled' : List NativeTokenAmount} {data : InherentData}
    (tokenAmount : Option NativeTokenAmount)
    (provider : newInherentDataProvider exampleSource (mcBlock after)
      (exampleBlock number before initialized handled) = .ok tokenAmount)
    (provided : provideInherentData tokenAmount [] = some data)
    (created : createInherent data = some (tokenAmount.map .transferTokens))
    (executed : executeBlock (recording releasingHandler)
      (exampleBlock number before initialized handled).storage
      ((tokenAmount.map Call.transferTokens).toList.map (fun call => ⟨.none, call⟩) ++ []) =
        .ok (exampleBlock (number + 1) after initialized' handled').storage) :
    HonestBlock exampleSource releasingHandler (exampleBlock number before initialized handled)
      (exampleBlock (number + 1) after initialized' handled') (mcBlock after) where
  tokenAmount := tokenAmount
  provider := provider
  otherData := []
  otherData_foreign := rfl
  data := data
  provided := provided
  inherent := tokenAmount.map .transferTokens
  created := created
  transactions := []
  transactions_foreign := by simp
  executed := executed
  scripts_eq := rfl
  number_eq := rfl
  logsBefore := []
  logsAfter := []
  logs_foreign := by simp
  logs_eq := (List.append_nil _).symm

private theorem exampleBelow_of_reference {before after : UInt8}
    (h : lockedAt (mcBlock before) ≤ lockedAt (mcBlock after)) :
    ∀ last, some (mcBlock before) = some last → exampleBelow last (mcBlock after) := by
  intro last hlast
  obtain rfl := Option.some.inj hlast
  exact h

theorem exampleChain : HonestChain exampleSource releasingHandler exampleBelow exampleScripts
    (exampleBlock 3 5 true [3, 2]) (some (mcBlock 5)) := by
  have h0 : HonestChain exampleSource releasingHandler exampleBelow exampleScripts
      (exampleBlock 0 0 false []) none := .genesis _ rfl rfl rfl rfl
  have h1 : HonestChain exampleSource releasingHandler exampleBelow exampleScripts
      (exampleBlock 1 0 false []) (some (mcBlock 0)) :=
    h0.extend (by simp) (exampleStep none rfl rfl rfl rfl)
  have h2 : HonestChain exampleSource releasingHandler exampleBelow exampleScripts
      (exampleBlock 2 3 true [3]) (some (mcBlock 3)) :=
    h1.extend (exampleBelow_of_reference (by decide)) (exampleStep (some 3) rfl rfl rfl rfl)
  exact h2.extend (exampleBelow_of_reference (by decide))
    (exampleStep (some 2) rfl rfl rfl rfl)

/-- What the example releases is what was locked. -/
theorem honestChain_conserves_example :
    ∃ total : NativeTokenAmount,
      exampleSource none (mcBlock 5) exampleScripts.nativeTokenPolicyId
          exampleScripts.nativeTokenAssetName
          exampleScripts.illiquidSupplyValidatorAddress = .ok total ∧
        sumAmounts [3, 2] = total.toNat :=
  honestChain_conserves exampleSource_additive exampleChain

end PartnerChains.Ports.NativeTokenRun
