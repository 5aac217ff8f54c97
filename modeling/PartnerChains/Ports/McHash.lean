import PartnerChains.Ports.Domain

/-!
# The main chain hash in the block digest

The port of the digest part of `sidechain-mc-hash`: a block author writes the
hash of the main chain block it refers to into a pre-runtime digest item, and
later blocks read it back from the parent's header.
-/

namespace PartnerChains.Ports.McHash

open PartnerChains.Ports.Domain

/-- The items of a digest. -/
inductive DigestItem where
  | preRuntime (engine : FixedBytes 4) (data : Bytes)
  | consensus (engine : FixedBytes 4) (data : Bytes)
  | sealed (engine : FixedBytes 4) (data : Bytes)
  | other (data : Bytes)
  | runtimeEnvironmentUpdated
deriving DecidableEq

/-- What the inherent reads of a header. -/
structure Header where
  number : Nat
  logs : List DigestItem
deriving DecidableEq

/-- `*b"mcsh"`. -/
def mcHashDigestId : FixedBytes 4 := ⟨[109, 99, 115, 104], rfl⟩

/-- What is wrong with the reference in a digest. -/
inductive DigestError where
  /-- Invalid MC hash referenced by block author in digest.  MC hash must be
  exactly 32 bytes long. -/
  | invalidMcHash (data : Bytes)
  /-- Main chain block hash missing from digest. -/
  | missing
deriving DecidableEq

/-- Why a header has no reference. -/
inductive HeaderError where
  /-- Header does not exist. -/
  | headerDoesNotExist
  /-- Failed to retrieve inherent digest from header. -/
  | digest (error : DigestError)
deriving DecidableEq

/-- `from_mc_block_hash`: the reference of a block is one item of its digest. -/
def fromMcBlockHash (mcBlockHash : McBlockHash) : List DigestItem :=
  [.preRuntime mcHashDigestId mcBlockHash.bytes]

/-- The first pre-runtime item with the digest id decides. -/
def valueFromDigest : List DigestItem → Except DigestError McBlockHash
  | [] => .error .missing
  | .preRuntime id data :: rest =>
      if id = mcHashDigestId then
        match FixedBytes.tryFrom 32 data with
        | some hash => .ok hash
        | none => .error (.invalidMcHash data)
      else valueFromDigest rest
  | _ :: rest => valueFromDigest rest

/-- `get_mc_hash_for_block`; the genesis block refers to no main chain
block. -/
def getMcHashForBlock (header : Option Header) : Except HeaderError (Option McBlockHash) :=
  match header with
  | none => .error .headerDoesNotExist
  | some header =>
      if header.number = 0 then .ok none
      else
        match valueFromDigest header.logs with
        | .ok value => .ok (some value)
        | .error error => .error (.digest error)

/-- An item that does not carry the main chain hash. -/
def DigestItem.Foreign : DigestItem → Prop
  | .preRuntime id _ => id ≠ mcHashDigestId
  | _ => True

/-- Reading back what the author wrote, whatever other engines wrote before
and after it. -/
theorem valueFromDigest_fromMcBlockHash (before after : List DigestItem)
    (hforeign : ∀ item ∈ before, item.Foreign) (mcBlockHash : McBlockHash) :
    valueFromDigest (before ++ fromMcBlockHash mcBlockHash ++ after) = .ok mcBlockHash := by
  induction before with
  | nil =>
      simp [fromMcBlockHash, valueFromDigest, FixedBytes.tryFrom_bytes]
  | cons item before ih =>
      have hrest := ih fun i hi => hforeign i (List.mem_cons_of_mem _ hi)
      have hitem := hforeign item List.mem_cons_self
      cases item with
      | preRuntime id data =>
          have hne : id ≠ mcHashDigestId := hitem
          simpa [valueFromDigest, hne] using hrest
      | consensus id data => exact hrest
      | sealed id data => exact hrest
      | other data => exact hrest
      | runtimeEnvironmentUpdated => exact hrest

end PartnerChains.Ports.McHash
