import PartnerChains.Ports.Domain

/-!
# Plutus datums and their CBOR bytes

The port of the `plutus` crate as far as signing needs it: the `Datum` tree,
the derived `to_datum` of a registration message, and `encode_datum`.  The
primitive writers of `minicbor` are outside the repository and are given by
the RFC 8949 form they emit.
-/

namespace PartnerChains.Ports.PlutusDatum

open PartnerChains.Ports.Domain

mutual

/-- The datum tree of the `plutus` crate. -/
inductive Datum where
  | integerDatum (value : Int)
  | byteStringDatum (bytes : Bytes)
  | constructorDatum (constructor : UInt64) (fields : List Datum)
  | listDatum (items : List Datum)
  | mapDatum (entries : List MapDatumEntry)

/-- A key with its value; a map is a list of them and may repeat a key. -/
inductive MapDatumEntry where
  | mk (key value : Datum)

end

/-! ## `minicbor` writers -/

/-- Big-endian base-256 digits of `n`, padded to `len` bytes. -/
def beBytes (n : Nat) : Nat → Bytes
  | 0 => []
  | len + 1 => UInt8.ofNat (n / 256 ^ len) :: beBytes n len

theorem length_beBytes (n len : Nat) : (beBytes n len).length = len := by
  induction len with
  | zero => rfl
  | succ len ih => simp [beBytes, ih]

/-- The head of a data item: the major type and its argument in the shortest
form. -/
def head (major n : Nat) : Bytes :=
  if n < 24 then [UInt8.ofNat (32 * major + n)]
  else if n < 2 ^ 8 then UInt8.ofNat (32 * major + 24) :: beBytes n 1
  else if n < 2 ^ 16 then UInt8.ofNat (32 * major + 25) :: beBytes n 2
  else if n < 2 ^ 32 then UInt8.ofNat (32 * major + 26) :: beBytes n 4
  else UInt8.ofNat (32 * major + 27) :: beBytes n 8

/-- `Encoder::i64`. -/
def writeI64 (i : Int) : Bytes :=
  if 0 ≤ i then head 0 i.toNat else head 1 (-1 - i).toNat

/-- `Encoder::u64`. -/
def writeU64 (n : Nat) : Bytes := head 0 n

/-- `Encoder::bytes`: a definite-length byte string. -/
def writeBytes (bytes : Bytes) : Bytes := head 2 bytes.length ++ bytes

/-- `Encoder::begin_bytes`, `begin_array` and `end`. -/
def beginBytes : Bytes := [0x5f]

/-- The head of an array of indefinite length. -/
def beginArray : Bytes := [0x9f]

/-- The break that ends an item of indefinite length. -/
def endItem : Bytes := [0xff]

/-- `Encoder::array`, `map` and `tag`. -/
def writeArray (len : Nat) : Bytes := head 4 len

/-- The head of a map. -/
def writeMap (len : Nat) : Bytes := head 5 len

/-- The head of a tagged item. -/
def writeTag (tag : Nat) : Bytes := head 6 tag

/-! ## `encode_datum` -/

/-- The ledger limits byte strings to chunks of this size. -/
def bytesChunkSizeLimit : Nat := 64

/-- `slice::chunks(64)` with every chunk written as a byte string; the fuel
is the length of the input. -/
def encodeChunks : Nat → Bytes → Bytes
  | 0, _ => []
  | fuel + 1, bytes =>
      if bytes = [] then []
      else writeBytes (bytes.take bytesChunkSizeLimit) ++
        encodeChunks fuel (bytes.drop bytesChunkSizeLimit)

/-- A long byte string is written in chunks. -/
def encodeBytestring (bytes : Bytes) : Bytes :=
  if bytes.length ≤ bytesChunkSizeLimit then writeBytes bytes
  else beginBytes ++ encodeChunks bytes.length bytes ++ endItem

/-- Number of base-256 digits of `n`, at least one (`BigInt::to_bytes_be`
writes zero as one byte). -/
def byteLength (n : Nat) : Nat := Nat.log 256 n + 1

/-- Values outside `i64` are bignums: tag 2 or 3 and the big-endian bytes of
the magnitude. -/
def encodeInteger (i : Int) : Bytes :=
  if -(2 ^ 63) ≤ i ∧ i < 2 ^ 63 then writeI64 i
  else writeTag (if 0 ≤ i then 2 else 3) ++
    encodeBytestring (beBytes i.natAbs (byteLength i.natAbs))

/-- The tags from 121 on are for the first seven constructors. -/
def constructorSmallTag (value : Nat) : Nat := value + 121

/-- The tags from 1280 on are for the constructors from seven to 127. -/
def constructorBigTag (value : Nat) : Nat := 1280 + value - 7

/-- Larger constructors are written as a pair under this tag. -/
def constructorOverLimitTag : Nat := 102

mutual

/-- `encode_datum`: the bytes of a datum. -/
def encodeDatum : Datum → Bytes
  | .integerDatum i => encodeInteger i
  | .byteStringDatum bytes => encodeBytestring bytes
  | .constructorDatum constructor fields =>
      let c := constructor.toNat
      if c < 7 then writeTag (constructorSmallTag c) ++ encodeLinearSeq fields
      else if c < 128 then writeTag (constructorBigTag c) ++ encodeLinearSeq fields
      else writeTag constructorOverLimitTag ++ writeArray 2 ++ writeU64 c ++
        encodeLinearSeq fields
  | .listDatum items => encodeLinearSeq items
  | .mapDatum entries => writeMap entries.length ++ encodeEntries entries

/-- Empty sequences are definite, all others indefinite, as in Plutus. -/
def encodeLinearSeq : List Datum → Bytes
  | [] => writeArray 0
  | d :: ds => beginArray ++ (encodeDatum d ++ encodeDatums ds) ++ endItem

/-- The items of an array, without its head. -/
def encodeDatums : List Datum → Bytes
  | [] => []
  | d :: ds => encodeDatum d ++ encodeDatums ds

/-- The entries of a map, without its head. -/
def encodeEntries : List MapDatumEntry → Bytes
  | [] => []
  | e :: es => encodeEntry e ++ encodeEntries es

/-- A key followed by its value. -/
def encodeEntry : MapDatumEntry → Bytes
  | .mk key value => encodeDatum key ++ encodeDatum value

end

/-! ## Registration messages -/

/-- `McTxHash` carries `#[constructor_datum]`. -/
def mcTxHashToDatum (hash : McTxHash) : Datum :=
  .constructorDatum 0 [.byteStringDatum hash.bytes]

/-- `ToDatum` of `UtxoId`. -/
def utxoIdToDatum (utxo : UtxoId) : Datum :=
  .constructorDatum 0 [mcTxHashToDatum utxo.txHash, .integerDatum utxo.index]

/-- Signed message of the authority candidate to register. -/
structure RegisterValidatorSignedMessage where
  genesisUtxo : UtxoId
  sidechainPubKey : Bytes
  inputUtxo : UtxoId

/-- `ToDatum` of the message a registration signs. -/
def RegisterValidatorSignedMessage.toDatum
    (message : RegisterValidatorSignedMessage) : Datum :=
  .constructorDatum 0
    [utxoIdToDatum message.genesisUtxo, .byteStringDatum message.sidechainPubKey,
      utxoIdToDatum message.inputUtxo]

end PartnerChains.Ports.PlutusDatum
