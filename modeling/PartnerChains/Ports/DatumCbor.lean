import PartnerChains.Ports.PlutusDatum
import PartnerChains.Verified.Cbor

/-!
# Decoding the CBOR bytes of a datum

The bytes that `encode_datum` writes are read back with the decoder of RFC
8949 and the tags that Plutus assigns to constructors.  Everything but one
kind of value survives: for an integer below `-2 ^ 63` the magnitude is
written under tag 3, while the tag means `-1 - n`, so the decoder returns the
integer one below (`decodeDatum_encodeDatum_iff`).

No encoding is the beginning of another one, whatever the integers
(`encodeDatum_readable`), so signed messages are unambiguous.
-/

namespace PartnerChains.Ports.DatumCbor

open PartnerChains.Ports.Domain
open PartnerChains.Ports.PlutusDatum
open PartnerChains.Verified.Cbor

/-! ## Heads -/

private theorem beValue_cons (b : UInt8) (bytes : Bytes) :
    beValue (b :: bytes) = b.toNat * 256 ^ bytes.length + beValue bytes := by
  have hfold : ∀ (bytes : Bytes) (value : Nat),
      bytes.foldl (fun value b => 256 * value + b.toNat) value =
        value * 256 ^ bytes.length + beValue bytes := by
    intro bytes
    induction bytes with
    | nil => intro value; simp [beValue]
    | cons b bytes ih =>
        intro value
        have hcons : beValue (b :: bytes) = b.toNat * 256 ^ bytes.length + beValue bytes := by
          rw [beValue, List.foldl_cons, ih, Nat.mul_zero, Nat.zero_add]
        rw [List.foldl_cons, ih, hcons, List.length_cons, pow_succ]
        ring
  rw [beValue, List.foldl_cons, hfold]
  simp

/-- Big-endian digits are read back, if there is room for all of them. -/
theorem beValue_beBytes (n len : Nat) : beValue (beBytes n len) = n % 256 ^ len := by
  induction len with
  | zero => simp [beBytes, beValue, Nat.mod_one]
  | succ len ih =>
      have hdigit : (UInt8.ofNat (n / 256 ^ len)).toNat = n / 256 ^ len % 256 :=
        UInt8.toNat_ofNat'
      rw [beBytes, beValue_cons, length_beBytes, ih, hdigit, Nat.mod_pow_succ]
      ring

theorem beValue_beBytes_byteLength (n : Nat) : beValue (beBytes n (byteLength n)) = n := by
  rw [beValue_beBytes, byteLength, Nat.mod_eq_of_lt (Nat.lt_pow_succ_log_self (by norm_num) n)]

/-- An argument in `2 ^ k` bytes after the initial one. -/
theorem isHead_wide {major k n : Nat} (hmajor : major < 8) (hk : k < 4)
    (hn : n < 256 ^ 2 ^ k) :
    IsHead (UInt8.ofNat (32 * major + (24 + k)) :: beBytes n (2 ^ k)) major n := by
  intro rest
  have hsplit := splitBytes_append (beBytes n (2 ^ k)) rest
  rw [length_beBytes] at hsplit
  have hinitial : (UInt8.ofNat (32 * major + (24 + k))).toNat = 32 * major + (24 + k) := by
    rw [UInt8.toNat_ofNat']
    exact Nat.mod_eq_of_lt (by omega)
  have hmaj : (32 * major + (24 + k)) / 32 = major := by omega
  have hinfo : (32 * major + (24 + k)) % 32 = 24 + k := by omega
  refine ⟨24 + k, ?_⟩
  simp only [List.cons_append, readHead, hinitial, hmaj, hinfo]
  rw [if_neg (by omega), if_pos (by omega), Nat.add_sub_cancel_left, hsplit, Option.map_some,
    beValue_beBytes, Nat.mod_eq_of_lt hn]

/-- The writer's head is read back as one. -/
theorem isHead_head {major n : Nat} (hmajor : major < 8) (hn : n < 2 ^ 64) :
    IsHead (head major n) major n := by
  unfold head
  split
  next h24 =>
    intro rest
    have hinitial : (UInt8.ofNat (32 * major + n)).toNat = 32 * major + n := by
      rw [UInt8.toNat_ofNat']
      exact Nat.mod_eq_of_lt (by omega)
    have hmaj : (32 * major + n) / 32 = major := by omega
    have hinfo : (32 * major + n) % 32 = n := by omega
    refine ⟨n, ?_⟩
    simp only [List.cons_append, List.nil_append, readHead, hinitial, hmaj, hinfo, h24, if_true]
  split
  next h8 => exact isHead_wide (k := 0) hmajor (by omega) h8
  split
  next h16 => exact isHead_wide (k := 1) hmajor (by omega) h16
  split
  next h32 => exact isHead_wide (k := 2) hmajor (by omega) h32
  next => exact isHead_wide (k := 3) hmajor (by omega) hn

/-! ## The item of a datum -/

/-- The item the writer uses for an integer: a plain one within `i64`, a tagged
byte string outside. -/
def integerItem (i : Int) : Item :=
  if -(2 ^ 63) ≤ i ∧ i < 2 ^ 63 then
    if 0 ≤ i then .unsigned i.toNat else .negative (-1 - i).toNat
  else .tag (if 0 ≤ i then 2 else 3) (.byteString (beBytes i.natAbs (byteLength i.natAbs)))

/-- The item for a constructor, whose tag depends on the size of its index. -/
def constructorItem (constructor : Nat) (fields : List Item) : Item :=
  if constructor < 7 then .tag (constructorSmallTag constructor) (.array fields)
  else if constructor < 128 then .tag (constructorBigTag constructor) (.array fields)
  else .tag constructorOverLimitTag (.array [.unsigned constructor, .array fields])

mutual

/-- The item a datum is written as. -/
def itemOf : Datum → Item
  | .integerDatum i => integerItem i
  | .byteStringDatum bytes => .byteString bytes
  | .constructorDatum constructor fields => constructorItem constructor.toNat (itemsOf fields)
  | .listDatum items => .array (itemsOf items)
  | .mapDatum entries => .map (entryItems entries)

/-- `itemOf` along a list. -/
def itemsOf : List Datum → List Item
  | [] => []
  | d :: ds => itemOf d :: itemsOf ds

/-- The keys and values of a map, alternating. -/
def entryItems : List MapDatumEntry → List Item
  | [] => []
  | .mk key value :: es => itemOf key :: itemOf value :: entryItems es

end

mutual

/-- All integers of a datum satisfy `p`, and the lengths of all its maps
`q`. -/
def All (p : Int → Prop) (q : Nat → Prop) : Datum → Prop
  | .integerDatum i => p i
  | .byteStringDatum _ => True
  | .constructorDatum _ fields => AllItems p q fields
  | .listDatum items => AllItems p q items
  | .mapDatum entries => q entries.length ∧ AllEntries p q entries

/-- `All` along a list. -/
def AllItems (p : Int → Prop) (q : Nat → Prop) : List Datum → Prop
  | [] => True
  | d :: ds => All p q d ∧ AllItems p q ds

/-- `All` of every key and value. -/
def AllEntries (p : Int → Prop) (q : Nat → Prop) : List MapDatumEntry → Prop
  | [] => True
  | .mk key value :: es => (All p q key ∧ All p q value) ∧ AllEntries p q es

end

/-- A vector has fewer than `2 ^ 64` entries, the maps of a datum as
well. -/
def MapsFit : Datum → Prop := All (fun _ => True) (· < 2 ^ 64)

/-! ## What is written encodes the item -/

private theorem chunks_encodeChunks :
    ∀ (fuel : Nat) (bytes : Bytes), bytes.length ≤ fuel → Chunks (encodeChunks fuel bytes) bytes
  | 0, bytes, hfuel => by
      obtain rfl : bytes = [] := List.length_eq_zero_iff.mp (Nat.le_zero.mp hfuel)
      exact .nil
  | fuel + 1, bytes, hfuel => by
      rw [encodeChunks]
      split
      next hnil =>
        rw [hnil]
        exact .nil
      next hne =>
        have hpos := List.length_pos_iff.mpr hne
        have hhead : IsHead (head 2 (bytes.take bytesChunkSizeLimit).length) 2
            (bytes.take bytesChunkSizeLimit).length := by
          refine isHead_head (by norm_num) ?_
          rw [List.length_take, bytesChunkSizeLimit]
          omega
        have hdrop : (bytes.drop bytesChunkSizeLimit).length ≤ fuel := by
          rw [List.length_drop, bytesChunkSizeLimit]
          omega
        have hcons := Chunks.cons hhead (chunks_encodeChunks fuel _ hdrop)
        rw [List.take_append_drop] at hcons
        exact hcons

/-- Short and long byte strings alike. -/
theorem encodes_encodeBytestring (bytes : Bytes) :
    Encodes (encodeBytestring bytes) (.byteString bytes) := by
  unfold encodeBytestring
  split
  next hshort =>
    refine .byteString (isHead_head (by norm_num) ?_)
    rw [bytesChunkSizeLimit] at hshort
    omega
  next => exact .chunks (chunks_encodeChunks _ bytes (le_refl _))

private theorem encodes_encodeInteger (i : Int) : Encodes (encodeInteger i) (integerItem i) := by
  unfold encodeInteger integerItem
  split
  next hrange =>
    unfold writeI64
    split
    next hnonneg => exact .unsigned (isHead_head (by norm_num) (by omega))
    next hneg => exact .negative (isHead_head (by norm_num) (by omega))
  next =>
    have htag : (if 0 ≤ i then 2 else 3) < 2 ^ 64 := by split <;> norm_num
    exact .tag (isHead_head (by norm_num) htag) (encodes_encodeBytestring _)

theorem encodes_encodeLinearSeq (fields : List Datum)
    (h : EncodesAll (encodeDatums fields) (itemsOf fields)) :
    Encodes (encodeLinearSeq fields) (.array (itemsOf fields)) := by
  cases fields with
  | nil =>
      have hhead : IsHead (head 4 0) 4 0 := isHead_head (by norm_num) (by norm_num)
      have harray : Encodes (head 4 0 ++ encodeDatums []) (.array (itemsOf [])) := .array hhead h
      rwa [encodeDatums, List.append_nil] at harray
  | cons d ds =>
      have harray := Encodes.arrayIndefinite h
      rw [encodeDatums] at harray
      rw [encodeLinearSeq]
      exact harray

private theorem encodes_constructor (constructor : UInt64) (fields : List Datum)
    (h : EncodesAll (encodeDatums fields) (itemsOf fields)) :
    Encodes (encodeDatum (.constructorDatum constructor fields))
      (constructorItem constructor.toNat (itemsOf fields)) := by
  have hseq := encodes_encodeLinearSeq fields h
  have hlt : constructor.toNat < 2 ^ 64 := constructor.toNat_lt
  simp only [encodeDatum, constructorItem]
  split
  next hsmall =>
    refine .tag (isHead_head (by norm_num) ?_) hseq
    rw [constructorSmallTag]
    omega
  split
  next hbig =>
    refine .tag (isHead_head (by norm_num) ?_) hseq
    rw [constructorBigTag]
    omega
  next =>
    have hpair : EncodesAll (writeU64 constructor.toNat ++ (encodeLinearSeq fields ++ []))
        [.unsigned constructor.toNat, .array (itemsOf fields)] :=
      .cons (.unsigned (isHead_head (by norm_num) hlt)) (.cons hseq .nil)
    have htwo : IsHead (writeArray 2) 4 2 := isHead_head (by norm_num) (by norm_num)
    have hlimit : IsHead (writeTag constructorOverLimitTag) 6 constructorOverLimitTag :=
      isHead_head (by norm_num) (by decide)
    have htag := Encodes.tag hlimit (Encodes.array htwo hpair)
    simpa only [List.append_assoc, List.append_nil] using htag

private theorem length_entryItems (entries : List MapDatumEntry) :
    (entryItems entries).length = 2 * entries.length := by
  induction entries with
  | nil => rfl
  | cons e es ih =>
      obtain ⟨key, value⟩ := e
      simp only [entryItems, List.length_cons, ih]
      omega

mutual

/-- The bytes of a datum encode its item. -/
theorem encodes_encodeDatum :
    ∀ d : Datum, MapsFit d → Encodes (encodeDatum d) (itemOf d)
  | .integerDatum i, _ => by
      rw [encodeDatum, itemOf]
      exact encodes_encodeInteger i
  | .byteStringDatum bytes, _ => by
      rw [encodeDatum, itemOf]
      exact encodes_encodeBytestring bytes
  | .constructorDatum constructor fields, h => by
      rw [itemOf]
      exact encodes_constructor constructor fields (encodesAll_encodeDatums fields h)
  | .listDatum items, h => by
      rw [encodeDatum, itemOf]
      exact encodes_encodeLinearSeq items (encodesAll_encodeDatums items h)
  | .mapDatum entries, h => by
      obtain ⟨hlength, hentries⟩ := h
      rw [encodeDatum, itemOf]
      exact .map (isHead_head (by norm_num) hlength) (length_entryItems entries)
        (encodesAll_encodeEntries entries hentries)

private theorem encodesAll_encodeDatums :
    ∀ ds : List Datum, AllItems (fun _ => True) (· < 2 ^ 64) ds →
      EncodesAll (encodeDatums ds) (itemsOf ds)
  | [], _ => by
      rw [encodeDatums, itemsOf]
      exact .nil
  | d :: ds, h => by
      obtain ⟨hd, hds⟩ := h
      rw [encodeDatums, itemsOf]
      exact .cons (encodes_encodeDatum d hd) (encodesAll_encodeDatums ds hds)

private theorem encodesAll_encodeEntries :
    ∀ es : List MapDatumEntry, AllEntries (fun _ => True) (· < 2 ^ 64) es →
      EncodesAll (encodeEntries es) (entryItems es)
  | [], _ => by
      rw [encodeEntries, entryItems]
      exact .nil
  | .mk key value :: es, h => by
      obtain ⟨⟨hkey, hvalue⟩, hes⟩ := h
      rw [encodeEntries, encodeEntry, entryItems, List.append_assoc]
      exact .cons (encodes_encodeDatum key hkey)
        (.cons (encodes_encodeDatum value hvalue) (encodesAll_encodeEntries es hes))

end

/-! ## The datum of an item -/

/-- Keys and values in turn. -/
def pairUp : List Datum → Option (List MapDatumEntry)
  | [] => some []
  | [_] => none
  | key :: value :: rest => (pairUp rest).map (.mk key value :: ·)

/-- The bytes of a bignum. -/
def bytesOf : Item → Option Bytes
  | .byteString bytes => some bytes
  | _ => none

section Decoder

variable (negBignum : Nat → Int)

mutual

/-- The Plutus datum of an item, with `negBignum` as the meaning of tag 3. -/
def datumOf : Item → Option Datum
  | .unsigned n => some (.integerDatum n)
  | .negative n => some (.integerDatum (-1 - n))
  | .byteString bytes => some (.byteStringDatum bytes)
  | .array items => (datumsOf items).map .listDatum
  | .map items => (datumsOf items).bind fun ds => (pairUp ds).map .mapDatum
  | .tag number content =>
      if number = 2 then (bytesOf content).map fun bytes => .integerDatum (beValue bytes)
      else if number = 3 then
        (bytesOf content).map fun bytes => .integerDatum (negBignum (beValue bytes))
      else if 121 ≤ number ∧ number ≤ 127 then
        (fieldsOf content).map (.constructorDatum (UInt64.ofNat (number - 121)))
      else if 1280 ≤ number ∧ number ≤ 1400 then
        (fieldsOf content).map (.constructorDatum (UInt64.ofNat (number - 1280 + 7)))
      else if number = 102 then overLimitOf content
      else none
  | .textString _ => none
  | .simple _ => none
  | .float _ _ => none

/-- `datumOf` along a list, which fails at the first item that is none. -/
def datumsOf : List Item → Option (List Datum)
  | [] => some []
  | item :: items => (datumOf item).bind fun d => (datumsOf items).map (d :: ·)

/-- The fields of a constructor. -/
def fieldsOf : Item → Option (List Datum)
  | .array items => datumsOf items
  | _ => none

/-- A pair of the constructor and its fields. -/
def overLimitOf : Item → Option Datum
  | .array items => overLimitPair items
  | _ => none

/-- The pair of index and fields under the tag for a large constructor index. -/
def overLimitPair : List Item → Option Datum
  | [.unsigned constructor, fields] =>
      if constructor < 2 ^ 64 then
        (fieldsOf fields).map (.constructorDatum (UInt64.ofNat constructor))
      else none
  | _ => none

end

/-- What is read back from an integer that is written as a bignum of tag 3. -/
def Keeps (i : Int) : Prop := i < -(2 ^ 63) → negBignum i.natAbs = i

/-- Below `i64` the magnitude is what tag 3 is applied to. -/
theorem datumOf_integerItem_of_lt {i : Int} (h : i < -(2 ^ 63)) :
    datumOf negBignum (integerItem i) = some (.integerDatum (negBignum i.natAbs)) := by
  rw [integerItem, if_neg (by omega), if_neg (by omega), datumOf, if_neg (by norm_num),
    if_pos rfl]
  simp only [bytesOf, Option.map_some, beValue_beBytes_byteLength]

private theorem datumOf_integerItem (i : Int) :
    datumOf negBignum (integerItem i) = some (.integerDatum i) ↔ Keeps negBignum i := by
  by_cases hlt : i < -(2 ^ 63)
  · rw [datumOf_integerItem_of_lt negBignum hlt]
    rw [Keeps, forall_prop_of_true hlt]
    simp
  · refine iff_of_true ?_ fun h => absurd h hlt
    by_cases hnonneg : 0 ≤ i
    · by_cases hi64 : i < 2 ^ 63
      · rw [integerItem, if_pos (by omega), if_pos hnonneg, datumOf, Int.toNat_of_nonneg hnonneg]
      · rw [integerItem, if_neg (by omega), if_pos hnonneg, datumOf, if_pos rfl]
        simp only [bytesOf, Option.map_some, beValue_beBytes_byteLength,
          Int.natAbs_of_nonneg hnonneg]
    · rw [integerItem, if_pos (by omega), if_neg hnonneg, datumOf,
        Int.toNat_of_nonneg (by omega), show -1 - (-1 - i) = i by omega]

private theorem datumOf_constructorItem (constructor : UInt64) (fields : List Item) :
    datumOf negBignum (constructorItem constructor.toNat fields) =
      (datumsOf negBignum fields).map (.constructorDatum constructor) := by
  have hlt : constructor.toNat < 2 ^ 64 := constructor.toNat_lt
  have hofNat : UInt64.ofNat constructor.toNat = constructor := UInt64.ofNat_toNat
  unfold constructorItem
  split
  next hsmall =>
    rw [datumOf, constructorSmallTag, if_neg (by omega), if_neg (by omega), if_pos (by omega),
      Nat.add_sub_cancel, hofNat, fieldsOf]
  split
  next hbig =>
    rw [datumOf, constructorBigTag, if_neg (by omega), if_neg (by omega), if_neg (by omega),
      if_pos (by omega), show 1280 + constructor.toNat - 7 - 1280 + 7 = constructor.toNat by omega,
      hofNat, fieldsOf]
  next =>
    rw [datumOf, constructorOverLimitTag, if_neg (by omega), if_neg (by omega),
      if_neg (by omega), if_neg (by omega), if_pos rfl, overLimitOf, overLimitPair, if_pos hlt,
      hofNat, fieldsOf]

private theorem datumsOf_cons_eq_some {item : Item} {items : List Item} {d : Datum}
    {ds : List Datum} :
    datumsOf negBignum (item :: items) = some (d :: ds) ↔
      datumOf negBignum item = some d ∧ datumsOf negBignum items = some ds := by
  simp [datumsOf, Option.bind_eq_some_iff]

private theorem pairUp_cons_eq_some {key value : Item} {items : List Item} {k v : Datum}
    {es : List MapDatumEntry} :
    (datumsOf negBignum (key :: value :: items)).bind pairUp = some (.mk k v :: es) ↔
      (datumOf negBignum key = some k ∧ datumOf negBignum value = some v) ∧
        (datumsOf negBignum items).bind pairUp = some es := by
  simp only [datumsOf]
  cases datumOf negBignum key with
  | none => simp
  | some key =>
      cases datumOf negBignum value with
      | none => simp
      | some value =>
          cases datumsOf negBignum items with
          | none => simp
          | some ds =>
              cases hpair : pairUp ds with
              | none => simp [pairUp, hpair]
              | some pairs => simp [pairUp, hpair, and_assoc]

mutual

/-- A datum is read back exactly if all its integers are. -/
theorem datumOf_itemOf : ∀ d : Datum,
    datumOf negBignum (itemOf d) = some d ↔ All (Keeps negBignum) (fun _ => True) d
  | .integerDatum i => by
      rw [itemOf, All]
      exact datumOf_integerItem negBignum i
  | .byteStringDatum bytes => by
      rw [itemOf, All, datumOf]
      exact iff_of_true rfl trivial
  | .constructorDatum constructor fields => by
      rw [itemOf, All, datumOf_constructorItem, ← datumsOf_itemsOf fields]
      simp [Option.map_eq_some_iff]
  | .listDatum items => by
      rw [itemOf, All, datumOf, ← datumsOf_itemsOf items]
      simp [Option.map_eq_some_iff]
  | .mapDatum entries => by
      rw [itemOf, All, datumOf, ← pairUp_entryItems entries]
      simp [Option.bind_eq_some_iff, Option.map_eq_some_iff]

private theorem datumsOf_itemsOf : ∀ ds : List Datum,
    datumsOf negBignum (itemsOf ds) = some ds ↔ AllItems (Keeps negBignum) (fun _ => True) ds
  | [] => by
      rw [itemsOf, datumsOf, AllItems]
      exact iff_of_true rfl trivial
  | d :: ds => by
      rw [itemsOf, AllItems, datumsOf_cons_eq_some, datumOf_itemOf d, datumsOf_itemsOf ds]

private theorem pairUp_entryItems : ∀ es : List MapDatumEntry,
    (datumsOf negBignum (entryItems es)).bind pairUp = some es ↔
      AllEntries (Keeps negBignum) (fun _ => True) es
  | [] => by
      rw [entryItems, datumsOf, AllEntries]
      exact iff_of_true rfl trivial
  | .mk key value :: es => by
      rw [entryItems, AllEntries, pairUp_cons_eq_some, datumOf_itemOf key, datumOf_itemOf value,
        pairUp_entryItems es]

end

end Decoder

/-! ## Round trip -/

/-- The meaning of tag 3 in RFC 8949. -/
def rfcNegBignum (n : Nat) : Int := -1 - n

/-- The first datum and the bytes after it. -/
def decodeDatum (bytes : Bytes) : Option (Datum × Bytes) :=
  (decode bytes).bind fun p => (datumOf rfcNegBignum p.1).map fun d => (d, p.2)

/-- Decoding the bytes is converting the item back. -/
theorem decodeDatum_encodeDatum {d : Datum} (hfit : MapsFit d) :
    decodeDatum (encodeDatum d) = (datumOf rfcNegBignum (itemOf d)).map fun d => (d, []) := by
  have hdecode := decode_of_encodes (encodes_encodeDatum d hfit) []
  rw [List.append_nil] at hdecode
  rw [decodeDatum, hdecode, Option.bind_some]

private theorem keeps_rfcNegBignum : Keeps rfcNegBignum = fun i => -(2 ^ 63) ≤ i := by
  funext i
  simp only [Keeps, rfcNegBignum, eq_iff_iff]
  omega

/-- A datum is read back from its bytes exactly if none of its integers is
below `i64`. -/
theorem decodeDatum_encodeDatum_iff (d : Datum) (hfit : MapsFit d) :
    decodeDatum (encodeDatum d) = some (d, []) ↔
      All (fun i => -(2 ^ 63) ≤ i) (fun _ => True) d := by
  rw [decodeDatum_encodeDatum hfit, ← keeps_rfcNegBignum, ← datumOf_itemOf]
  simp [Option.map_eq_some_iff]

/-- The integer below the smallest `i64` is read back as the next one
below. -/
theorem decodeDatum_encodeDatum_bignum :
    decodeDatum (encodeDatum (.integerDatum (-(2 ^ 63) - 1))) =
      some (.integerDatum (-(2 ^ 63) - 2), []) ∧
    decodeDatum (encodeDatum (.integerDatum (-(2 ^ 63) - 1))) ≠
      some (.integerDatum (-(2 ^ 63) - 1), []) := by
  have hdecode : decodeDatum (encodeDatum (.integerDatum (-(2 ^ 63) - 1))) =
      some (.integerDatum (-(2 ^ 63) - 2), []) := by
    have hfit : MapsFit (.integerDatum (-(2 ^ 63) - 1)) := by simp [MapsFit, All]
    rw [decodeDatum_encodeDatum hfit, itemOf,
      datumOf_integerItem_of_lt rfcNegBignum (by norm_num)]
    rfl
  refine ⟨hdecode, ?_⟩
  rw [hdecode]
  simp

/-- A constructor beyond the tags, with a map of a bignum to bytes. -/
def exampleDatum : Datum :=
  .constructorDatum 130 [.mapDatum [.mk (.integerDatum (2 ^ 70)) (.byteStringDatum [1, 2])]]

theorem decodeDatum_encodeDatum_iff_example :
    MapsFit exampleDatum ∧ decodeDatum (encodeDatum exampleDatum) = some (exampleDatum, []) := by
  have hfit : MapsFit exampleDatum := by simp [MapsFit, exampleDatum, All, AllItems, AllEntries]
  refine ⟨hfit, (decodeDatum_encodeDatum_iff exampleDatum hfit).mpr ?_⟩
  simp [exampleDatum, All, AllItems, AllEntries]

/-! ## Unique readability -/

mutual

/-- A condition that always holds, holds throughout a datum. -/
theorem all_of_forall {p : Int → Prop} {q : Nat → Prop} (hp : ∀ i, p i) (hq : ∀ n, q n) :
    ∀ d : Datum, All p q d
  | .integerDatum i => hp i
  | .byteStringDatum _ => trivial
  | .constructorDatum _ fields => allItems_of_forall hp hq fields
  | .listDatum items => allItems_of_forall hp hq items
  | .mapDatum entries => ⟨hq entries.length, allEntries_of_forall hp hq entries⟩

private theorem allItems_of_forall {p : Int → Prop} {q : Nat → Prop} (hp : ∀ i, p i)
    (hq : ∀ n, q n) : ∀ ds : List Datum, AllItems p q ds
  | [] => trivial
  | d :: ds => ⟨all_of_forall hp hq d, allItems_of_forall hp hq ds⟩

private theorem allEntries_of_forall {p : Int → Prop} {q : Nat → Prop} (hp : ∀ i, p i)
    (hq : ∀ n, q n) : ∀ es : List MapDatumEntry, AllEntries p q es
  | [] => trivial
  | .mk key value :: es =>
      ⟨⟨all_of_forall hp hq key, all_of_forall hp hq value⟩, allEntries_of_forall hp hq es⟩

end

/-- With the magnitude as the meaning of tag 3, as it is written, every datum
is read back. -/
theorem itemOf_injective {d₁ d₂ : Datum} (h : itemOf d₁ = itemOf d₂) : d₁ = d₂ := by
  have hkeeps : ∀ i, Keeps (fun n => -(n : Int)) i := by
    intro i hlt
    show -(i.natAbs : Int) = i
    omega
  have hback : ∀ d, datumOf (fun n => -(n : Int)) (itemOf d) = some d :=
    fun d => (datumOf_itemOf _ d).mpr (all_of_forall hkeeps (fun _ => trivial) d)
  have h₁ := hback d₁
  rw [h, hback d₂] at h₁
  exact (Option.some.inj h₁).symm

private theorem encodeDatum_unique {d₁ d₂ : Datum} {r₁ r₂ : Bytes} (hfit₁ : MapsFit d₁)
    (hfit₂ : MapsFit d₂) (heq : encodeDatum d₁ ++ r₁ = encodeDatum d₂ ++ r₂) :
    d₁ = d₂ ∧ r₁ = r₂ := by
  obtain ⟨hitem, hrest⟩ := (encodes_encodeDatum d₁ hfit₁).readable
    (encodes_encodeDatum d₂ hfit₂) heq
  exact ⟨itemOf_injective hitem, hrest⟩

private theorem utxoIdToDatum_injective {u v : UtxoId} (h : utxoIdToDatum u = utxoIdToDatum v) :
    u = v := by
  simp only [utxoIdToDatum, mcTxHashToDatum, Datum.constructorDatum.injEq, List.cons.injEq,
    Datum.byteStringDatum.injEq, Datum.integerDatum.injEq, Nat.cast_inj, and_true,
    true_and] at h
  obtain ⟨hhash, hindex⟩ := h
  cases u
  cases v
  simp only [UtxoId.mk.injEq]
  exact ⟨FixedBytes.ext hhash, hindex⟩

private theorem RegisterValidatorSignedMessage.toDatum_injective
    {m₁ m₂ : RegisterValidatorSignedMessage} (h : m₁.toDatum = m₂.toDatum) :
    m₁.genesisUtxo = m₂.genesisUtxo ∧ m₁.sidechainPubKey = m₂.sidechainPubKey ∧
      m₁.inputUtxo = m₂.inputUtxo := by
  simp only [RegisterValidatorSignedMessage.toDatum, Datum.constructorDatum.injEq,
    List.cons.injEq, Datum.byteStringDatum.injEq, and_true, true_and] at h
  obtain ⟨hgenesis, hkey, hinput⟩ := h
  exact ⟨utxoIdToDatum_injective hgenesis, hkey, utxoIdToDatum_injective hinput⟩

private theorem mapsFit_toDatum (m : RegisterValidatorSignedMessage) : MapsFit m.toDatum := by
  simp [MapsFit, RegisterValidatorSignedMessage.toDatum, utxoIdToDatum, mcTxHashToDatum, All,
    AllItems]

/-- No encoding is the beginning of another one, so different messages have
different bytes to sign. -/
theorem encodeDatum_readable :
    (∀ (d₁ d₂ : Datum) (r₁ r₂ : Bytes), MapsFit d₁ → MapsFit d₂ →
      encodeDatum d₁ ++ r₁ = encodeDatum d₂ ++ r₂ → d₁ = d₂ ∧ r₁ = r₂) ∧
    ∀ m₁ m₂ : RegisterValidatorSignedMessage,
      m₁.genesisUtxo ≠ m₂.genesisUtxo ∨ m₁.sidechainPubKey ≠ m₂.sidechainPubKey ∨
        m₁.inputUtxo ≠ m₂.inputUtxo →
      encodeDatum m₁.toDatum ≠ encodeDatum m₂.toDatum := by
  refine ⟨fun d₁ d₂ r₁ r₂ hfit₁ hfit₂ heq => encodeDatum_unique hfit₁ hfit₂ heq, ?_⟩
  intro m₁ m₂ hne heq
  obtain ⟨hdatum, -⟩ := encodeDatum_unique (mapsFit_toDatum m₁) (mapsFit_toDatum m₂)
    (congrArg (· ++ []) heq)
  obtain ⟨hgenesis, hkey, hinput⟩ :=
    RegisterValidatorSignedMessage.toDatum_injective hdatum
  rcases hne with hne | hne | hne
  · exact hne hgenesis
  · exact hne hkey
  · exact hne hinput

/-- A message whose key is as long as `length`. -/
def exampleMessage (length : Nat) : RegisterValidatorSignedMessage where
  genesisUtxo := ⟨FixedBytes.replicate 32 1, 0⟩
  sidechainPubKey := List.replicate length 2
  inputUtxo := ⟨FixedBytes.replicate 32 3, 1⟩

/-- Two datums, and two messages, with different bytes. -/
theorem encodeDatum_readable_example :
    (∀ r₁ r₂ : Bytes, encodeDatum exampleDatum ++ r₁ = encodeDatum (.listDatum []) ++ r₂ →
      exampleDatum = .listDatum []) ∧
    encodeDatum (exampleMessage 33).toDatum ≠ encodeDatum (exampleMessage 65).toDatum := by
  obtain ⟨hreadable, hmessages⟩ := encodeDatum_readable
  refine ⟨fun r₁ r₂ heq => (hreadable exampleDatum (.listDatum []) r₁ r₂ ?_ ?_ heq).1,
    hmessages _ _ (.inr (.inl (by decide)))⟩
  · simp [MapsFit, exampleDatum, All, AllItems, AllEntries]
  · simp [MapsFit, All, AllItems]

end PartnerChains.Ports.DatumCbor
