import PartnerChains.Ports.CandidatesQuery

/-!
# The data source of authority candidates

The port of `CandidatesDataSourceImpl`: the D-parameter and the permissioned
candidates, the registered candidates with their stake, and the nonce, each
for the epoch in which the data is used.  The data is read as of two epochs
before.

The groups of candidates come out of a hash map, whose order is unspecified;
results about them are stated up to the order of the list.
-/

namespace PartnerChains.Ports.CandidatesDataSource

open PartnerChains.Ports.Domain
open PartnerChains.Ports.DbSync
open PartnerChains.Ports.MainchainDatums
open PartnerChains.Ports.NativeTokenQuery
open PartnerChains.Ports.CandidatesQuery
open PartnerChains.Verified.Relational

/-- What the boxed error of the data source can hold. -/
inductive CandidatesError where
  | sqlx (error : SqlxError)
  | dataSource (error : DataSourceError)
  | dataDecoding (error : DataDecodingError)

/-- `get_epoch_of_data_storage`: the data for an epoch is the one stored two
epochs earlier. -/
def getEpochOfDataStorage (epochOfDataUsage : Nat) : Except CandidatesError Nat :=
  if epochOfDataUsage < 2 then
    .error (.dataSource (.badRequest ("Minimum supported epoch of data usage is 2, but " ++
      toString epochOfDataUsage ++ " was provided")))
  else .ok (epochOfDataUsage - 2)

/-- The trait's `data_epoch`, which is `get_epoch_of_data_storage` without a
change. -/
def dataEpoch (forEpoch : Nat) : Except CandidatesError Nat := getEpochOfDataStorage forEpoch

/-- Data is read two epochs back, from epoch two on. -/
theorem dataEpoch_eq_ok {epoch e : Nat} (h : dataEpoch epoch = .ok e) :
    2 ≤ epoch ∧ e = epoch - 2 := by
  unfold dataEpoch getEpochOfDataStorage at h
  split at h
  · cases h
  · cases h
    exact ⟨by omega, rfl⟩

/-! ## D-parameter and permissioned candidates -/

/-- The D-parameter and the permissioned candidates of one epoch. -/
@[ext] structure AriadneParameters where
  dParameter : DParameter
  permissionedCandidates : List PermissionedCandidateData
deriving DecidableEq

/-- `ok_or(ExpectedDataNotFound(..))`. -/
def expected {α : Type} (what : String) : Option α → Except CandidatesError α
  | some value => .ok value
  | none => .error (.dataSource (.expectedDataNotFound what))

section Source

variable {J : Type} (lib : Libraries J) (db : Db J)

/-- `get_ariadne_parameters`: the candidates are queried first, but a missing
D-parameter is reported first. -/
def getAriadneParameters (epoch : Nat) (dParameterPolicy permissionedCandidatePolicy : PolicyId) :
    Except CandidatesError AriadneParameters := do
  let epoch ← getEpochOfDataStorage epoch
  let dParameterAsset : Asset := ⟨dParameterPolicy, AssetName.empty⟩
  let permissionedCandidateAsset : Asset := ⟨permissionedCandidatePolicy, AssetName.empty⟩
  let candidatesOutputOpt ←
    (getTokenUtxoForEpoch lib db permissionedCandidateAsset epoch).mapError .sqlx
  let dOutputOpt ← (getTokenUtxoForEpoch lib db dParameterAsset epoch).mapError .sqlx
  let dOutput ← expected "DParameter" dOutputOpt
  let dDatum ← expected "DParameter Datum" dOutput.datum
  let dParameter ← (DParamDatum.schema.decode dDatum).mapError .dataDecoding
  let candidatesOutput ← expected "Permissioned Candidates List" candidatesOutputOpt
  let candidatesDatum ← expected "Permissioned Candidates List Datum" candidatesOutput.datum
  let permissionedCandidates ←
    (PermissionedCandidateDatums.schema.decode candidatesDatum).mapError .dataDecoding
  .ok { dParameter := dParameter.toDParameter,
        permissionedCandidates := rawPermissionedCandidateDataVecFrom permissionedCandidates }

/-! ## Registered candidates -/

/-- An output whose datum decodes to a registration, with the inputs of its
transaction. -/
structure ParsedCandidate where
  utxoInfo : UtxoInfo
  datum : RegisterValidatorDatum
  txInputs : List UtxoId

/-- A registration with its datum taken apart, keyed by the stake pool that made
it. -/
structure RegisteredCandidate where
  mainchainPubKey : MainchainPublicKey
  consumedInput : UtxoId
  txInputs : List UtxoId
  sidechainSignature : Bytes
  mainchainSignature : Bytes
  crossChainSignature : Bytes
  sidechainPubKey : Bytes
  crossChainPubKey : Bytes
  auraPubKey : Bytes
  grandpaPubKey : Bytes
  utxoInfo : UtxoInfo

/-- One output; an output without a valid registration datum is logged and
skipped. -/
def parseCandidate (output : MainchainTxOutput) : Option ParsedCandidate :=
  match output.datum with
  | none => none
  | some datum =>
      match RegisterValidatorDatum.schema.decode datum with
      | .error _ => none
      | .ok registerValidatorDatum =>
          some { utxoInfo :=
                   { utxoId := output.utxoId, epochNumber := output.txEpochNo,
                     blockNumber := output.txBlockNo, slotNumber := output.txSlotNo,
                     txIndexWithinBlock := output.txIndexInBlock },
                 datum := registerValidatorDatum,
                 txInputs := output.txInputs }

/-- `parse_candidates`: outputs whose datum does not decode are logged and
dropped. -/
def parseCandidates (outputs : List MainchainTxOutput) : List ParsedCandidate :=
  outputs.filterMap parseCandidate

/-- The same key is used for both cross chain and sidechain actions. -/
def registeredCandidate (c : ParsedCandidate) : RegisteredCandidate where
  mainchainPubKey := c.datum.stakeOwnership.pubKey
  mainchainSignature := c.datum.stakeOwnership.signature
  crossChainPubKey := c.datum.sidechainPubKey
  crossChainSignature := c.datum.sidechainSignature
  sidechainSignature := c.datum.sidechainSignature
  sidechainPubKey := c.datum.sidechainPubKey
  auraPubKey := c.datum.auraPubKey
  grandpaPubKey := c.datum.grandpaPubKey
  consumedInput := c.datum.consumedInput
  txInputs := c.txInputs
  utxoInfo := c.utxoInfo

/-- `make_registration_data`: the registration without the pool's key it is
grouped under. -/
def makeRegistrationData (c : RegisteredCandidate) : RegistrationData where
  consumedInput := c.consumedInput
  sidechainSignature := c.sidechainSignature
  mainchainSignature := c.mainchainSignature
  crossChainSignature := c.crossChainSignature
  sidechainPubKey := c.sidechainPubKey
  crossChainPubKey := c.crossChainPubKey
  auraPubKey := c.auraPubKey
  grandpaPubKey := c.grandpaPubKey
  utxoInfo := c.utxoInfo
  txInputs := c.txInputs

/-- `convert_utxos_to_candidates`: the registrations among the given outputs. -/
def convertUtxosToCandidates (outputs : List MainchainTxOutput) : List RegisteredCandidate :=
  (parseCandidates outputs).map registeredCandidate

/-- `get_last_block_for_epoch`: the number of the last block up to the end of the
epoch. -/
def getLastBlockForEpoch (epoch : Nat) : Except CandidatesError (Option Nat) := do
  let blockOption ← (getLatestBlockForEpoch db epoch).mapError .sqlx
  .ok (blockOption.map Block.blockNo)

/-- `get_registered_candidates`: the registrations unspent at the last block of
the epoch, none at all when there is no such block. -/
def getRegisteredCandidates [DecidableEq J] (epoch : Nat)
    (committeeCandidateAddress : MainchainAddress) :
    Except CandidatesError (List RegisteredCandidate) := do
  let registrationsBlockForEpoch ← getLastBlockForEpoch db epoch
  let activeUtxos ← match registrationsBlockForEpoch with
    | some block => (getUtxosForAddress lib db committeeCandidateAddress block).mapError .sqlx
    | none => .ok []
  .ok (convertUtxosToCandidates activeUtxos)

/-- `group_candidates_by_mc_pub_key`: one group for each stake pool key, in order
of first appearance. -/
def groupCandidatesByMcPubKey (candidates : List RegisteredCandidate) :
    List (MainchainPublicKey × List RegisteredCandidate) :=
  groupBy RegisteredCandidate.mainchainPubKey candidates

/-- In a hash map built from a list the last entry of a key stands. -/
def makeStakeMap (entries : List StakePoolEntry) : List (MainchainAddressHash × UInt64) :=
  (entries.map fun e => (e.poolHash, e.stake)).reverse

/-- `get_stake_delegation`: unknown while the distribution is empty, and zero for
a pool it does not list. -/
def getStakeDelegation (stakeMap : List (MainchainAddressHash × UInt64))
    (mainchainPubKey : MainchainPublicKey) : Option UInt64 :=
  if stakeMap.isEmpty then none
  else some ((stakeMap.lookup (lib.fromVkey mainchainPubKey)).getD 0)

/-- `get_candidates` of `CandidatesDataSourceImpl`. -/
def getCandidates [DecidableEq J] (epoch : Nat) (committeeCandidateAddress : MainchainAddress) :
    Except CandidatesError (List CandidateRegistrations) := do
  let epoch ← getEpochOfDataStorage epoch
  let candidates ← getRegisteredCandidates lib db epoch committeeCandidateAddress
  let stakeMap ← ((getStakeDistribution db epoch).map makeStakeMap).mapError .sqlx
  .ok ((groupCandidatesByMcPubKey candidates).map fun group =>
    { mainchainPubKey := group.1
      registrations := group.2.map makeRegistrationData
      stakeDelegation := getStakeDelegation lib stakeMap group.1 })

/-! ## Nonce -/

/-- `get_epoch_nonce` of the data source: the nonce stored two epochs before the
one asked for. -/
def getEpochNonceForUsage (epoch : Nat) : Except CandidatesError (Option Bytes) := do
  let epoch ← getEpochOfDataStorage epoch
  (getEpochNonce db epoch).mapError .sqlx

end Source

end PartnerChains.Ports.CandidatesDataSource
