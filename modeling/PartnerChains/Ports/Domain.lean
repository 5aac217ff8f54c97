import Mathlib.Data.Multiset.MapFold
import Mathlib.Data.Prod.Lex
import Mathlib.Order.Lattice
import Mathlib.Tactic

/-!
# Domain types

The newtypes of `sidechain-domain` that the other ports share.  Fixed-size
byte arrays are lists with their length as a field, so a hash or a key of the
wrong size cannot be built; byte strings whose length the source leaves open
stay plain lists.  Unsigned integers that only ever index or count are `Nat`;
those whose width the arithmetic depends on keep it (`u16` for the
D-parameter, `u64` for stakes).
-/

namespace PartnerChains.Ports.Domain

/-- `Vec<u8>`. -/
abbrev Bytes := List UInt8

/-- `[u8; n]`. -/
@[ext]
structure FixedBytes (n : Nat) where
  bytes : Bytes
  size_eq : bytes.length = n
deriving DecidableEq

namespace FixedBytes

/-- `<[u8; n]>::try_from(Vec<u8>)`. -/
def tryFrom (n : Nat) (bytes : Bytes) : Option (FixedBytes n) :=
  if h : bytes.length = n then some ⟨bytes, h⟩ else none

/-- The array whose bytes all are `b`. -/
def replicate (n : Nat) (b : UInt8) : FixedBytes n :=
  ⟨List.replicate n b, List.length_replicate⟩

@[simp] theorem tryFrom_bytes {n : Nat} (v : FixedBytes n) :
    tryFrom n v.bytes = some v := by
  simp [tryFrom, v.size_eq]

end FixedBytes

/-- The hash of a main chain transaction. -/
abbrev McTxHash := FixedBytes 32

/-- The hash of a main chain block. -/
abbrev McBlockHash := FixedBytes 32

/-- The Ed25519 key of a stake pool. -/
abbrev MainchainPublicKey := FixedBytes 32

/-- The hash of a verification key or a script in an address. -/
abbrev MainchainAddressHash := FixedBytes 28

/-- The hash of a minting policy. -/
abbrev PolicyId := FixedBytes 28

/-- Asset names are at most 32 bytes long (`MAX_ASSET_NAME_LEN`). -/
@[ext]
structure AssetName where
  bytes : Bytes
  size_le : bytes.length ≤ 32
deriving DecidableEq

/-- The name `Asset::new` gives to a token that is identified by its policy
alone. -/
def AssetName.empty : AssetName := ⟨[], by decide⟩

/-- A bech32 address, as the text its UTF-8 bytes spell. -/
abbrev MainchainAddress := String

/-- Identifies a UTxO by transaction hash and output index. -/
structure UtxoId where
  txHash : McTxHash
  index : Nat
deriving DecidableEq

/-- A UTXO together with the place of its transaction in the main chain. -/
structure UtxoInfo where
  utxoId : UtxoId
  epochNumber : Nat
  blockNumber : Nat
  slotNumber : Nat
  txIndexWithinBlock : Nat
deriving DecidableEq

/-- The derived lexicographic order of `UtxoInfoOrderingKey`: block number,
transaction index within the block, output index. -/
abbrev UtxoInfoOrderingKey := Nat ×ₗ Nat ×ₗ Nat

/-- UTXOs are ordered by their place in the main chain, and within a transaction
by the index of the output. -/
def UtxoInfo.orderingKey (u : UtxoInfo) : UtxoInfoOrderingKey :=
  toLex (u.blockNumber, toLex (u.txIndexWithinBlock, u.utxoId.index))

/-- How many seats of a committee go to permissioned and to registered candidates. -/
structure DParameter where
  numPermissionedCandidates : UInt16
  numRegisteredCandidates : UInt16
deriving DecidableEq

/-- UTxO output of a registration transaction on Cardano. -/
structure RegistrationData where
  consumedInput : UtxoId
  sidechainSignature : Bytes
  mainchainSignature : Bytes
  crossChainSignature : Bytes
  sidechainPubKey : Bytes
  crossChainPubKey : Bytes
  utxoInfo : UtxoInfo
  txInputs : List UtxoId
  auraPubKey : Bytes
  grandpaPubKey : Bytes
deriving DecidableEq

/-- The registrations of one authority candidate and the stake delegated to
it, in Lovelace; `none` while the stake distribution is not known. -/
structure CandidateRegistrations where
  mainchainPubKey : MainchainPublicKey
  registrations : List RegistrationData
  stakeDelegation : Option UInt64
deriving DecidableEq

/-- The keys of a permissioned candidate, not checked yet. -/
structure PermissionedCandidateData where
  sidechainPublicKey : Bytes
  auraPublicKey : Bytes
  grandpaPublicKey : Bytes
deriving DecidableEq

/-- The part of the data for the selection of authorities that comes from
the main chain. -/
structure AuthoritySelectionInputs where
  dParameter : DParameter
  permissionedCandidates : List PermissionedCandidateData
  registeredCandidates : List CandidateRegistrations
  epochNonce : Bytes

/-! ## Slots and epochs of the sidechain -/

/-- `none` is the panic of a division by zero. -/
def epochNumber (slot : UInt64) (slotsPerEpoch : UInt32) : Option UInt64 :=
  if slotsPerEpoch = 0 then none else some (slot / slotsPerEpoch.toUInt64)

/-- The product wraps, as in a release build. -/
def firstSlotNumber (epoch : UInt64) (slotsPerEpoch : UInt32) : UInt64 :=
  epoch * slotsPerEpoch.toUInt64

/-! ## Up to order

The main chain data comes out of queries and hash maps in no particular
order. -/

/-- A registration with its inputs in any order. -/
def RegistrationData.unordered (r : RegistrationData) : RegistrationData × Multiset UtxoId :=
  ({ r with txInputs := [] }, r.txInputs)

/-- The registrations up to the order in which the queries return them. -/
def CandidateRegistrations.unordered (c : CandidateRegistrations) :
    MainchainPublicKey × Multiset (RegistrationData × Multiset UtxoId) × Option UInt64 :=
  (c.mainchainPubKey, c.registrations.map RegistrationData.unordered, c.stakeDelegation)

/-- The inputs up to the order of registrations; the permissioned candidates keep
theirs. -/
def AuthoritySelectionInputs.unordered (inputs : AuthoritySelectionInputs) :
    DParameter × List PermissionedCandidateData ×
      Multiset (MainchainPublicKey × Multiset (RegistrationData × Multiset UtxoId) ×
        Option UInt64) × Bytes :=
  (inputs.dParameter, inputs.permissionedCandidates,
    inputs.registeredCandidates.map CandidateRegistrations.unordered, inputs.epochNonce)

end PartnerChains.Ports.Domain
