import PartnerChains.Ports.DatumCbor
import PartnerChains.Ports.SerdeJson
import PartnerChains.Ports.UtxoText
import PartnerChains.Verified.Fallible

/-!
# The JSON form of a datum

The port of the two conversions of the `plutus` crate.  Reading takes an integer
as `u64`, writing as `i64`, so only the integers in both ranges survive
(`tryFrom_fromDatum_iff`): a negative one is written and not read back, and one
of `2 ^ 63` or more is read and not written.

Members of an object are read in the order of the object: the first one decides
about the kind of datum.  The order of the objects that are written is a
parameter.
-/

namespace PartnerChains.Ports.DatumJson

open PartnerChains.Ports.Domain
open PartnerChains.Ports.PlutusDatum
open PartnerChains.Ports.DatumCbor
open PartnerChains.Ports.SerdeJson
open PartnerChains.Ports.UtxoText
open PartnerChains.Verified.Fallible

/-! ## Reading -/

/-- Why a JSON value is not a datum. -/
inductive FromJsonError where
  | expectedArrayOfDatums
  | expectedHexEncodedBytes
  | expectedConstructorKeyValue
  | expectedDatum
  | expectedFieldsKeyValue
  | expectedIntegerDatumValue
  | expectedDatumMapEntry
deriving DecidableEq

/-- Gets the members after the first one. -/
def expectConstructor : List JMember → Except FromJsonError UInt64
  | .mk key value :: _ =>
      if key = "constructor" then okOr value.asU64 .expectedConstructorKeyValue
      else .error .expectedConstructorKeyValue
  | [] => .error .expectedConstructorKeyValue

section Reading

variable (hex : HexDecoder)

mutual

/-- `TryFrom<&JValue>` for a datum: only an object can be one. -/
def tryFrom : JValue → Except FromJsonError Datum
  | .object members => fromMap members
  | _ => .error .expectedDatum

/-- The first member decides the kind of datum; members after those it needs are
not read. -/
def fromMap : List JMember → Except FromJsonError Datum
  | [] => .error .expectedDatum
  | .mk key value :: rest =>
      if key = "int" then do
        let int ← okOr value.asU64 .expectedIntegerDatumValue
        .ok (.integerDatum int.toNat)
      else if key = "bytes" then do
        let str ← okOr value.asStr .expectedHexEncodedBytes
        let bytes ← okOr (hex.fromHex str.toList) .expectedHexEncodedBytes
        .ok (.byteStringDatum bytes)
      else if key = "list" then do
        let list ← expectList value
        .ok (.listDatum list)
      else if key = "constructor" then do
        let constructor ← okOr value.asU64 .expectedConstructorKeyValue
        let fields ← expectFields rest
        .ok (.constructorDatum constructor fields)
      else if key = "fields" then do
        let fields ← (expectList value).mapError fun _ => .expectedFieldsKeyValue
        let constructor ← expectConstructor rest
        .ok (.constructorDatum constructor fields)
      else if key = "map" then do
        let map ← expectEntries value
        .ok (.mapDatum map)
      else .error .expectedDatum

/-- The datums of an array. -/
def expectList : JValue → Except FromJsonError (List Datum)
  | .array items => tryFromItems items
  | _ => .error .expectedArrayOfDatums

/-- The first error is the one that `collect` returns. -/
def tryFromItems : List JValue → Except FromJsonError (List Datum)
  | [] => .ok []
  | item :: items => do
      let d ← tryFrom item
      let ds ← tryFromItems items
      .ok (d :: ds)

/-- Gets the members after the first one. -/
def expectFields : List JMember → Except FromJsonError (List Datum)
  | .mk key value :: _ =>
      if key = "fields" then (expectList value).mapError fun _ => .expectedFieldsKeyValue
      else .error .expectedFieldsKeyValue
  | [] => .error .expectedFieldsKeyValue

/-- The map entries of an array. -/
def expectEntries : JValue → Except FromJsonError (List MapDatumEntry)
  | .array items => entriesOf items
  | _ => .error .expectedArrayOfDatums

/-- `expectMapEntry` along a list, failing at the first error. -/
def entriesOf : List JValue → Except FromJsonError (List MapDatumEntry)
  | [] => .ok []
  | item :: items => do
      let entry ← expectMapEntry item
      let entries ← entriesOf items
      .ok (entry :: entries)

/-- An entry is an object with a `key` and a `value`. -/
def expectMapEntry : JValue → Except FromJsonError MapDatumEntry
  | .object members => do
      let key ← memberOf "key" members
      let value ← memberOf "value" members
      .ok (.mk key value)
  | _ => .error .expectedDatumMapEntry

/-- The conversion of `map.get(key)`. -/
def memberOf (key : String) : List JMember → Except FromJsonError Datum
  | [] => .error .expectedDatumMapEntry
  | .mk key' value :: rest => if key' = key then tryFrom value else memberOf key rest

end

end Reading

/-! ## Writing -/

section Writing

variable (order : List JMember → List JMember)

mutual

/-- `None` is the panic `integers exceeding i64 are not supported`. -/
def fromDatum : Datum → Option JValue
  | .integerDatum int =>
      if -(2 ^ 63) ≤ int ∧ int < 2 ^ 63 then
        some (.object (order [.mk "int" (.number (Number.ofI64 int))]))
      else none
  | .byteStringDatum bytes =>
      some (.object (order [.mk "bytes" (.string (String.ofList (hexEncode bytes)))]))
  | .listDatum list => do
      let list ← fromDatums list
      some (.object (order [.mk "list" (.array list)]))
  | .constructorDatum constructor fields => do
      let fields ← fromDatums fields
      some (.object (order [.mk "constructor" (.number (.posInt constructor)),
        .mk "fields" (.array fields)]))
  | .mapDatum map => do
      let map ← fromEntries map
      some (.object (order [.mk "map" (.array map)]))

/-- `fromDatum` along a list. -/
def fromDatums : List Datum → Option (List JValue)
  | [] => some []
  | d :: ds => do
      let item ← fromDatum d
      let items ← fromDatums ds
      some (item :: items)

/-- Each entry as an object with the two members. -/
def fromEntries : List MapDatumEntry → Option (List JValue)
  | [] => some []
  | .mk key value :: es => do
      let key ← fromDatum key
      let value ← fromDatum value
      let items ← fromEntries es
      some (.object (order [.mk "key" key, .mk "value" value]) :: items)

end

end Writing

/-! ## Writing and reading back -/

section RoundTrip

variable {hex : HexDecoder} {order : List JMember → List JMember}

/-- The datum is written, and read back from what is written. -/
def RoundTrips (hex : HexDecoder) (order : List JMember → List JMember) (d : Datum) : Prop :=
  ∃ j, fromDatum order d = some j ∧ tryFrom hex j = .ok d

/-- `RoundTrips` for a list of datums. -/
def RoundTripsAll (hex : HexDecoder) (order : List JMember → List JMember) (ds : List Datum) :
    Prop :=
  ∃ items, fromDatums order ds = some items ∧ tryFromItems hex items = .ok ds

/-- `RoundTrips` for the entries of a map. -/
def RoundTripsEntries (hex : HexDecoder) (order : List JMember → List JMember)
    (es : List MapDatumEntry) : Prop :=
  ∃ items, fromEntries order es = some items ∧ entriesOf hex items = .ok es

/-- All integers can be read and written. -/
def InBoth : Datum → Prop := All (fun i => 0 ≤ i ∧ i < 2 ^ 63) fun _ => True

theorem perm_pair {α : Type} {l : List α} {a b : α} (h : l.Perm [a, b]) :
    l = [a, b] ∨ l = [b, a] := by
  cases l with
  | nil => cases h.length_eq
  | cons x l =>
      rcases List.mem_cons.mp (h.subset List.mem_cons_self) with rfl | hx
      · exact .inl (by rw [List.perm_singleton.mp (List.perm_cons x |>.mp h)])
      · obtain rfl := List.mem_singleton.mp hx
        have hl := List.perm_cons x |>.mp (h.trans (List.Perm.swap x a []))
        exact .inr (by rw [List.perm_singleton.mp hl])

theorem map_eq_ok {α β ε : Type} {f : α → β} (hf : Function.Injective f) {x : Except ε α}
    {a : α} : (do let a ← x; .ok (f a) : Except ε β) = .ok (f a) ↔ x = .ok a := by
  cases x with
  | error e => simp [bind, Except.bind]
  | ok b => simp [bind, Except.bind, hf.eq_iff]

section Reading

private theorem tryFrom_int (n : Number) (rest : List JMember) :
    tryFrom hex (.object (.mk "int" (.number n) :: rest)) = (do
      let int ← okOr (JValue.number n).asU64 .expectedIntegerDatumValue
      .ok (.integerDatum int.toNat)) := by
  rw [tryFrom, fromMap, if_pos rfl]

private theorem tryFrom_list (items : List JValue) :
    tryFrom hex (.object [.mk "list" (.array items)]) = (do
      let list ← tryFromItems hex items
      .ok (.listDatum list)) := by
  rw [tryFrom, fromMap, if_neg (by decide), if_neg (by decide), if_pos rfl, expectList]

private theorem tryFrom_map (items : List JValue) :
    tryFrom hex (.object [.mk "map" (.array items)]) = (do
      let map ← entriesOf hex items
      .ok (.mapDatum map)) := by
  rw [tryFrom, fromMap, if_neg (by decide), if_neg (by decide), if_neg (by decide),
    if_neg (by decide), if_neg (by decide), if_pos rfl, expectEntries]

/-- The members of a constructor are read in both orders. -/
theorem tryFrom_constructor {members : List JMember} {constructor : UInt64} {items : List JValue}
    (h : members.Perm [.mk "constructor" (.number (.posInt constructor)),
      .mk "fields" (.array items)]) :
    tryFrom hex (.object members) = (do
      let fields ← (tryFromItems hex items).mapError fun _ => .expectedFieldsKeyValue
      .ok (.constructorDatum constructor fields)) := by
  rcases perm_pair h with rfl | rfl
  · rw [tryFrom, fromMap, if_neg (by decide), if_neg (by decide), if_neg (by decide), if_pos rfl,
      expectFields, if_pos rfl, expectList]
    rfl
  · rw [tryFrom, fromMap, if_neg (by decide), if_neg (by decide), if_neg (by decide),
      if_neg (by decide), if_pos rfl, expectList, expectConstructor, if_pos rfl]
    rfl

/-- An entry of a map is read in both orders. -/
theorem expectMapEntry_object {members : List JMember} {key value : JValue}
    (h : members.Perm [.mk "key" key, .mk "value" value]) :
    expectMapEntry hex (.object members) = (do
      let key ← tryFrom hex key
      let value ← tryFrom hex value
      .ok (.mk key value)) := by
  rcases perm_pair h with rfl | rfl
  · rw [expectMapEntry, memberOf, if_pos rfl, memberOf, if_neg (by decide), memberOf, if_pos rfl]
  · rw [expectMapEntry, memberOf, if_neg (by decide), memberOf, if_pos rfl, memberOf, if_pos rfl]

end Reading

private theorem roundTripsAll_cons (d : Datum) (ds : List Datum) :
    RoundTripsAll hex order (d :: ds) ↔ RoundTrips hex order d ∧ RoundTripsAll hex order ds := by
  unfold RoundTripsAll RoundTrips
  rw [fromDatums]
  cases fromDatum order d with
  | none => simp
  | some item =>
      cases fromDatums order ds with
      | none => simp
      | some items =>
          simp only [Option.bind_eq_bind, Option.bind_some, Option.some.injEq, exists_eq_left']
          rw [tryFromItems]
          cases tryFrom hex item with
          | error e => simp [bind, Except.bind]
          | ok d' =>
              cases tryFromItems hex items with
              | error e => simp [bind, Except.bind]
              | ok ds' => simp [bind, Except.bind]

section Written

variable (hperm : ∀ members, (order members).Perm members)

include hperm

private theorem roundTrips_integerDatum (i : Int) :
    RoundTrips hex order (.integerDatum i) ↔ 0 ≤ i ∧ i < 2 ^ 63 := by
  have horder := List.perm_singleton.mp (hperm [.mk "int" (.number (Number.ofI64 i))])
  unfold RoundTrips
  rw [fromDatum, horder]
  by_cases hfits : -(2 ^ 63) ≤ i ∧ i < 2 ^ 63
  · simp only [if_pos hfits, Option.some.injEq, exists_eq_left', tryFrom_int]
    by_cases hneg : i < 0
    · refine iff_of_false ?_ (by omega)
      simp [Number.ofI64, hneg, JValue.asU64, okOr, bind, Except.bind]
    · have hlt : i.toNat < 2 ^ 64 := by omega
      refine iff_of_true ?_ (by omega)
      simp only [Number.ofI64, hneg, if_false, JValue.asU64, okOr, bind, Except.bind]
      rw [UInt64.toNat_ofNat_of_lt' hlt, Int.toNat_of_nonneg (by omega)]
  · simp only [if_neg hfits]
    refine iff_of_false ?_ (by omega)
    rintro ⟨j, hj, -⟩
    cases hj

private theorem roundTrips_byteStringDatum (bytes : Bytes) :
    RoundTrips hex order (.byteStringDatum bytes) := by
  refine ⟨_, rfl, ?_⟩
  rw [List.perm_singleton.mp (hperm _), tryFrom, fromMap, if_neg (by decide), if_pos rfl]
  simp only [JValue.asStr, okOr, String.toList_ofList, hex.fromHex_hexEncode, bind,
    Except.bind]

private theorem roundTrips_listDatum (ds : List Datum) :
    RoundTrips hex order (.listDatum ds) ↔ RoundTripsAll hex order ds := by
  unfold RoundTrips RoundTripsAll
  rw [fromDatum]
  cases fromDatums order ds with
  | none => simp
  | some items =>
      simp only [Option.bind_eq_bind, Option.bind_some, Option.some.injEq, exists_eq_left']
      rw [List.perm_singleton.mp (hperm _), tryFrom_list]
      exact map_eq_ok fun _ _ heq => Datum.listDatum.inj heq

private theorem roundTrips_mapDatum (es : List MapDatumEntry) :
    RoundTrips hex order (.mapDatum es) ↔ RoundTripsEntries hex order es := by
  unfold RoundTrips RoundTripsEntries
  rw [fromDatum]
  cases fromEntries order es with
  | none => simp
  | some items =>
      simp only [Option.bind_eq_bind, Option.bind_some, Option.some.injEq, exists_eq_left']
      rw [List.perm_singleton.mp (hperm _), tryFrom_map]
      exact map_eq_ok fun _ _ heq => Datum.mapDatum.inj heq

private theorem roundTrips_constructorDatum (constructor : UInt64) (ds : List Datum) :
    RoundTrips hex order (.constructorDatum constructor ds) ↔ RoundTripsAll hex order ds := by
  unfold RoundTrips RoundTripsAll
  rw [fromDatum]
  cases fromDatums order ds with
  | none => simp
  | some items =>
      simp only [Option.bind_eq_bind, Option.bind_some, Option.some.injEq, exists_eq_left']
      rw [tryFrom_constructor (hperm _), map_eq_ok, mapError_eq_ok]
      exact fun _ _ heq => (Datum.constructorDatum.inj heq).2

private theorem roundTripsEntries_cons (key value : Datum) (es : List MapDatumEntry) :
    RoundTripsEntries hex order (.mk key value :: es) ↔
      (RoundTrips hex order key ∧ RoundTrips hex order value) ∧
        RoundTripsEntries hex order es := by
  unfold RoundTripsEntries RoundTrips
  rw [fromEntries]
  cases fromDatum order key with
  | none => simp
  | some keyItem =>
      cases fromDatum order value with
      | none => simp
      | some valueItem =>
          cases fromEntries order es with
          | none => simp
          | some items =>
              simp only [Option.bind_eq_bind, Option.bind_some, Option.some.injEq,
                exists_eq_left']
              rw [entriesOf, expectMapEntry_object (hperm _)]
              cases tryFrom hex keyItem with
              | error e => simp [bind, Except.bind]
              | ok key' =>
                  cases tryFrom hex valueItem with
                  | error e => simp [bind, Except.bind]
                  | ok value' =>
                      cases entriesOf hex items with
                      | error e => simp [bind, Except.bind]
                      | ok es' => simp [bind, Except.bind]

end Written

mutual

/-- A datum comes back exactly if its integers are in the range that both
directions support. -/
theorem roundTrips_iff (hperm : ∀ members, (order members).Perm members) :
    ∀ d : Datum, RoundTrips hex order d ↔ InBoth d
  | .integerDatum i => by
      rw [InBoth, All]
      exact roundTrips_integerDatum hperm i
  | .byteStringDatum bytes => by
      rw [InBoth, All]
      exact iff_of_true (roundTrips_byteStringDatum hperm bytes) trivial
  | .constructorDatum constructor fields => by
      rw [InBoth, All, roundTrips_constructorDatum hperm]
      exact roundTripsAll_iff hperm fields
  | .listDatum items => by
      rw [InBoth, All, roundTrips_listDatum hperm]
      exact roundTripsAll_iff hperm items
  | .mapDatum entries => by
      rw [InBoth, All, roundTrips_mapDatum hperm, true_and]
      exact roundTripsEntries_iff hperm entries

private theorem roundTripsAll_iff (hperm : ∀ members, (order members).Perm members) :
    ∀ ds : List Datum, RoundTripsAll hex order ds ↔
      AllItems (fun i => 0 ≤ i ∧ i < 2 ^ 63) (fun _ => True) ds
  | [] => by
      rw [AllItems]
      exact iff_of_true ⟨[], rfl, rfl⟩ trivial
  | d :: ds => by
      rw [roundTripsAll_cons, AllItems, roundTrips_iff hperm d, roundTripsAll_iff hperm ds, InBoth]

private theorem roundTripsEntries_iff (hperm : ∀ members, (order members).Perm members) :
    ∀ es : List MapDatumEntry, RoundTripsEntries hex order es ↔
      AllEntries (fun i => 0 ≤ i ∧ i < 2 ^ 63) (fun _ => True) es
  | [] => by
      rw [AllEntries]
      exact iff_of_true ⟨[], rfl, rfl⟩ trivial
  | .mk key value :: es => by
      rw [roundTripsEntries_cons hperm, AllEntries, roundTrips_iff hperm key,
        roundTrips_iff hperm value, roundTripsEntries_iff hperm es, InBoth]

end

end RoundTrip

/-! ## Reading and writing again -/

mutual

/-- Every integer that is read is below `2 ^ 63`. -/
def SmallInts : JValue → Prop
  | .object members => SmallMembers members
  | _ => True

/-- `SmallInts` where `fromMap` would read. -/
def SmallMembers : List JMember → Prop
  | [] => True
  | .mk key value :: rest =>
      if key = "int" then ∀ n, value.asU64 = some n → n.toNat < 2 ^ 63
      else if key = "constructor" then SmallFields rest
      else if key = "map" then SmallEntries value
      else SmallList value

/-- `SmallInts` where `expectList` would read. -/
def SmallList : JValue → Prop
  | .array items => SmallItems items
  | _ => True

/-- `SmallInts` along a list. -/
def SmallItems : List JValue → Prop
  | [] => True
  | item :: items => SmallInts item ∧ SmallItems items

/-- `SmallInts` of the fields after a constructor. -/
def SmallFields : List JMember → Prop
  | [] => True
  | .mk _ value :: _ => SmallList value

/-- `SmallInts` where `expectEntries` would read. -/
def SmallEntries : JValue → Prop
  | .array items => SmallEntryItems items
  | _ => True

/-- `SmallEntry` along a list. -/
def SmallEntryItems : List JValue → Prop
  | [] => True
  | item :: items => SmallEntry item ∧ SmallEntryItems items

/-- `SmallInts` of the key and of the value. -/
def SmallEntry : JValue → Prop
  | .object members => SmallMember "key" members ∧ SmallMember "value" members
  | _ => True

/-- `SmallInts` of the first member with the name. -/
def SmallMember (key : String) : List JMember → Prop
  | [] => True
  | .mk key' value :: rest => if key' = key then SmallInts value else SmallMember key rest

end

section Read

variable {hex : HexDecoder}

private theorem smallList_of_asStr {value : JValue} {str : String} (h : value.asStr = some str) :
    SmallList value := by
  cases value with
  | string s => simp [SmallList]
  | null => cases h
  | bool b => cases h
  | number n => cases h
  | array items => cases h
  | object members => cases h

mutual

/-- What is read is in both ranges if the integers are small. -/
theorem inBoth_iff_smallInts :
    ∀ (j : JValue) {d : Datum}, tryFrom hex j = .ok d → (InBoth d ↔ SmallInts j)
  | .object members, d, h => by
      rw [tryFrom] at h
      rw [SmallInts]
      exact inBoth_iff_smallMembers members h
  | .null, _, h => by simp [tryFrom] at h
  | .bool _, _, h => by simp [tryFrom] at h
  | .number _, _, h => by simp [tryFrom] at h
  | .string _, _, h => by simp [tryFrom] at h
  | .array _, _, h => by simp [tryFrom] at h

private theorem inBoth_iff_smallMembers :
    ∀ (members : List JMember) {d : Datum}, fromMap hex members = .ok d →
      (InBoth d ↔ SmallMembers members)
  | [], _, h => by simp [fromMap] at h
  | .mk key value :: rest, d, h => by
      rw [fromMap] at h
      rw [SmallMembers]
      by_cases hint : key = "int"
      · rw [if_pos hint] at h ⊢
        obtain ⟨n, hn, h⟩ := bind_eq_ok.mp h
        cases h
        rw [okOr_eq_ok.mp hn, InBoth, All]
        simp
      by_cases hbytes : key = "bytes"
      · rw [if_neg hint, if_pos hbytes] at h
        obtain ⟨str, hstr, h⟩ := bind_eq_ok.mp h
        obtain ⟨bytes, -, h⟩ := bind_eq_ok.mp h
        cases h
        rw [hbytes, InBoth, All, if_neg (by decide), if_neg (by decide), if_neg (by decide)]
        exact iff_of_true trivial (smallList_of_asStr (okOr_eq_ok.mp hstr))
      by_cases hlist : key = "list"
      · rw [if_neg hint, if_neg hbytes, if_pos hlist] at h
        obtain ⟨ds, hds, h⟩ := bind_eq_ok.mp h
        cases h
        rw [hlist, InBoth, All, if_neg (by decide), if_neg (by decide), if_neg (by decide)]
        exact inBoth_iff_smallList value hds
      by_cases hconstructor : key = "constructor"
      · rw [if_neg hint, if_neg hbytes, if_neg hlist, if_pos hconstructor] at h
        obtain ⟨constructor, -, h⟩ := bind_eq_ok.mp h
        obtain ⟨fields, hfields, h⟩ := bind_eq_ok.mp h
        cases h
        rw [if_neg hint, if_pos hconstructor, InBoth, All]
        exact inBoth_iff_smallFields rest hfields
      by_cases hfields : key = "fields"
      · rw [if_neg hint, if_neg hbytes, if_neg hlist, if_neg hconstructor, if_pos hfields] at h
        obtain ⟨fields, hds, h⟩ := bind_eq_ok.mp h
        obtain ⟨constructor, -, h⟩ := bind_eq_ok.mp h
        cases h
        rw [hfields, InBoth, All, if_neg (by decide), if_neg (by decide), if_neg (by decide)]
        exact inBoth_iff_smallList value (mapError_eq_ok.mp hds)
      by_cases hmap : key = "map"
      · rw [if_neg hint, if_neg hbytes, if_neg hlist, if_neg hconstructor, if_neg hfields,
          if_pos hmap] at h
        obtain ⟨es, hes, h⟩ := bind_eq_ok.mp h
        cases h
        rw [if_neg hint, if_neg hconstructor, if_pos hmap, InBoth, All, true_and]
        exact inBoth_iff_smallEntries value hes
      · rw [if_neg hint, if_neg hbytes, if_neg hlist, if_neg hconstructor, if_neg hfields,
          if_neg hmap] at h
        cases h

/-- What a list of small integers converts to is in range. -/
theorem inBoth_iff_smallList :
    ∀ (j : JValue) {ds : List Datum}, expectList hex j = .ok ds →
      (AllItems (fun i => 0 ≤ i ∧ i < 2 ^ 63) (fun _ => True) ds ↔ SmallList j)
  | .array items, ds, h => by
      rw [expectList] at h
      rw [SmallList]
      exact inBoth_iff_smallItems items h
  | .null, _, h => by simp [expectList] at h
  | .bool _, _, h => by simp [expectList] at h
  | .number _, _, h => by simp [expectList] at h
  | .string _, _, h => by simp [expectList] at h
  | .object _, _, h => by simp [expectList] at h

private theorem inBoth_iff_smallItems :
    ∀ (items : List JValue) {ds : List Datum}, tryFromItems hex items = .ok ds →
      (AllItems (fun i => 0 ≤ i ∧ i < 2 ^ 63) (fun _ => True) ds ↔ SmallItems items)
  | [], _, h => by
      rw [tryFromItems] at h
      cases h
      rw [AllItems, SmallItems]
  | item :: items, ds, h => by
      rw [tryFromItems] at h
      obtain ⟨d, hd, h⟩ := bind_eq_ok.mp h
      obtain ⟨ds', hds, h⟩ := bind_eq_ok.mp h
      cases h
      rw [AllItems, SmallItems, ← inBoth_iff_smallInts item hd,
        ← inBoth_iff_smallItems items hds, InBoth]

private theorem inBoth_iff_smallFields :
    ∀ (members : List JMember) {ds : List Datum}, expectFields hex members = .ok ds →
      (AllItems (fun i => 0 ≤ i ∧ i < 2 ^ 63) (fun _ => True) ds ↔ SmallFields members)
  | [], _, h => by simp [expectFields] at h
  | .mk key value :: rest, ds, h => by
      rw [expectFields] at h
      rw [SmallFields]
      split at h
      next => exact inBoth_iff_smallList value (mapError_eq_ok.mp h)
      next => cases h

private theorem inBoth_iff_smallEntries :
    ∀ (j : JValue) {es : List MapDatumEntry}, expectEntries hex j = .ok es →
      (AllEntries (fun i => 0 ≤ i ∧ i < 2 ^ 63) (fun _ => True) es ↔ SmallEntries j)
  | .array items, es, h => by
      rw [expectEntries] at h
      rw [SmallEntries]
      exact inBoth_iff_smallEntryItems items h
  | .null, _, h => by simp [expectEntries] at h
  | .bool _, _, h => by simp [expectEntries] at h
  | .number _, _, h => by simp [expectEntries] at h
  | .string _, _, h => by simp [expectEntries] at h
  | .object _, _, h => by simp [expectEntries] at h

private theorem inBoth_iff_smallEntryItems :
    ∀ (items : List JValue) {es : List MapDatumEntry}, entriesOf hex items = .ok es →
      (AllEntries (fun i => 0 ≤ i ∧ i < 2 ^ 63) (fun _ => True) es ↔ SmallEntryItems items)
  | [], _, h => by
      rw [entriesOf] at h
      cases h
      rw [AllEntries, SmallEntryItems]
  | item :: items, es, h => by
      rw [entriesOf] at h
      obtain ⟨⟨key, value⟩, hentry, h⟩ := bind_eq_ok.mp h
      obtain ⟨es', hes, h⟩ := bind_eq_ok.mp h
      cases h
      rw [AllEntries, SmallEntryItems, ← inBoth_iff_smallEntry item hentry,
        ← inBoth_iff_smallEntryItems items hes, InBoth]

private theorem inBoth_iff_smallEntry :
    ∀ (j : JValue) {key value : Datum}, expectMapEntry hex j = .ok (.mk key value) →
      (InBoth key ∧ InBoth value ↔ SmallEntry j)
  | .object members, key, value, h => by
      rw [expectMapEntry] at h
      obtain ⟨key', hkey, h⟩ := bind_eq_ok.mp h
      obtain ⟨value', hvalue, h⟩ := bind_eq_ok.mp h
      cases h
      rw [SmallEntry, inBoth_iff_smallMember "key" members hkey,
        inBoth_iff_smallMember "value" members hvalue]
  | .null, _, _, h => by simp [expectMapEntry] at h
  | .bool _, _, _, h => by simp [expectMapEntry] at h
  | .number _, _, _, h => by simp [expectMapEntry] at h
  | .string _, _, _, h => by simp [expectMapEntry] at h
  | .array _, _, _, h => by simp [expectMapEntry] at h

private theorem inBoth_iff_smallMember (key : String) :
    ∀ (members : List JMember) {d : Datum}, memberOf hex key members = .ok d →
      (InBoth d ↔ SmallMember key members)
  | [], _, h => by simp [memberOf] at h
  | .mk key' value :: rest, d, h => by
      rw [memberOf] at h
      rw [SmallMember]
      by_cases hkey : key' = key
      · rw [if_pos hkey] at h ⊢
        exact inBoth_iff_smallInts value h
      · rw [if_neg hkey] at h ⊢
        exact inBoth_iff_smallMember key rest h

end

/-- A datum survives writing and reading exactly if its integers are in both
ranges, and JSON survives reading and writing exactly if its integers are
small. -/
theorem tryFrom_fromDatum_iff {order : List JMember → List JMember}
    (hperm : ∀ members, (order members).Perm members) :
    (∀ d, RoundTrips hex order d ↔ InBoth d) ∧
      ∀ j d, tryFrom hex j = .ok d → (RoundTrips hex order d ↔ SmallInts j) := by
  refine ⟨roundTrips_iff hperm, ?_⟩
  intro j d h
  rw [roundTrips_iff hperm, inBoth_iff_smallInts j h]

end Read

/-! ## Integers -/

theorem tryFrom_fromDatum_iff_seven :
    RoundTrips lowerHex id (.constructorDatum 1 [.integerDatum 7, .byteStringDatum [1, 2]]) := by
  refine ((@tryFrom_fromDatum_iff lowerHex id fun _ => List.Perm.refl _).1 _).mpr ?_
  simp [InBoth, All, AllItems]

/-- The integer `2 ^ 63` as JSON. -/
def bigInt : JValue := .object [.mk "int" (.number (.posInt 9223372036854775808))]

/-- A negative integer is written and cannot be read, and `2 ^ 63` is read and
cannot be written. -/
theorem integers_not_roundTripping :
    (∃ j, fromDatum id (.integerDatum (-1)) = some j ∧
      tryFrom lowerHex j = .error .expectedIntegerDatumValue) ∧
    tryFrom lowerHex bigInt = .ok (.integerDatum (2 ^ 63)) ∧
      fromDatum id (.integerDatum (2 ^ 63)) = none := by
  refine ⟨⟨_, rfl, rfl⟩, rfl, ?_⟩
  rw [fromDatum, if_neg (by decide)]

end PartnerChains.Ports.DatumJson
