import Mathlib.Algebra.Group.Nat.Defs
import Mathlib.Data.List.Basic
import Mathlib.Data.Nat.Log

/-!
# Concise Binary Object Representation

A decoder of RFC 8949 data items.  Definite and indefinite lengths of strings,
arrays and maps are both read; the item does not tell them apart.  The fuel
bounds nesting and number of items together: every item takes a byte, so twice
the length of the input is always enough.

`Encodes` says that bytes are one of the encodings of an item, with heads of
any width.  `decode_of_encodes` is the completeness of the decoder for it, and
`Encodes.readable` the unique readability that follows: an encoding is never
the beginning of another one.
-/

namespace PartnerChains.Verified.Cbor

/-- Data items of the generic data model; an item of major type 7 is a simple
value or the bits of a float. -/
inductive Item where
  | unsigned (n : Nat)
  /-- The integer `-1 - n`. -/
  | negative (n : Nat)
  | byteString (bytes : List UInt8)
  | textString (bytes : List UInt8)
  | array (items : List Item)
  /-- Keys and values in turn. -/
  | map (items : List Item)
  | tag (number : Nat) (content : Item)
  | simple (value : Nat)
  | float (width bits : Nat)

/-! ## Heads -/

/-- Initial byte and argument of an item.  An indefinite length has no
argument. -/
structure Head where
  major : Nat
  info : Nat
  argument : Option Nat

/-- The value of big-endian bytes. -/
def beValue (bytes : List UInt8) : Nat :=
  bytes.foldl (fun value b => 256 * value + b.toNat) 0

/-- Splits off `n` bytes, if there are as many. -/
def splitBytes (n : Nat) (bytes : List UInt8) : Option (List UInt8 × List UInt8) :=
  if n ≤ bytes.length then some (bytes.take n, bytes.drop n) else none

/-- The initial byte with its argument. -/
def readHead : List UInt8 → Option (Head × List UInt8)
  | [] => none
  | initial :: rest =>
      let major := initial.toNat / 32
      let info := initial.toNat % 32
      if info < 24 then some (⟨major, info, some info⟩, rest)
      else if info < 28 then
        (splitBytes (2 ^ (info - 24)) rest).map fun p => (⟨major, info, some (beValue p.1)⟩, p.2)
      else if info = 31 then some (⟨major, info, none⟩, rest)
      else none -- reserved

/-- The "break" stop code. -/
def breakByte : UInt8 := 0xff

/-! ## Items -/

/-- The chunks of an indefinite-length string, each of them definite and of
the same major type. -/
def readChunks (major : Nat) : Nat → List UInt8 → Option (List UInt8 × List UInt8)
  | 0, _ => none
  | fuel + 1, bytes =>
      if bytes.head? = some breakByte then some ([], bytes.tail)
      else (readHead bytes).bind fun (head, rest) =>
        if head.major = major then
          head.argument.bind fun n => (splitBytes n rest).bind fun (chunk, rest) =>
            (readChunks major fuel rest).map fun p => (chunk ++ p.1, p.2)
        else none

/-- The content of a string of definite or indefinite length. -/
def readString (major fuel : Nat) (argument : Option Nat) (rest : List UInt8) :
    Option (List UInt8 × List UInt8) :=
  match argument with
  | some n => splitBytes n rest
  | none => readChunks major fuel rest

/-- Major type 7. -/
def readSimple (head : Head) (rest : List UInt8) : Option (Item × List UInt8) :=
  head.argument.bind fun n =>
    if head.info < 24 then some (.simple n, rest)
    else if head.info = 24 then if n < 32 then none else some (.simple n, rest)
    else some (.float (8 * 2 ^ (head.info - 24)) n, rest)

mutual

/-- One item and the bytes after it; twice the length of the bytes is enough fuel. -/
def readItem : Nat → List UInt8 → Option (Item × List UInt8)
  | 0, _ => none
  | fuel + 1, bytes =>
      (readHead bytes).bind fun (head, rest) =>
        match head.major with
        | 0 => head.argument.map fun n => (.unsigned n, rest)
        | 1 => head.argument.map fun n => (.negative n, rest)
        | 2 => (readString 2 fuel head.argument rest).map fun p => (.byteString p.1, p.2)
        | 3 => (readString 3 fuel head.argument rest).map fun p => (.textString p.1, p.2)
        | 4 => (readItems fuel head.argument rest).map fun p => (.array p.1, p.2)
        | 5 => (readItems fuel (head.argument.map (2 * ·)) rest).bind fun p =>
            if p.1.length % 2 = 0 then some (.map p.1, p.2) else none
        | 6 => head.argument.bind fun n =>
            (readItem fuel rest).map fun p => (.tag n p.1, p.2)
        | _ => readSimple head rest

/-- A given number of items, or items up to the stop code. -/
def readItems : Nat → Option Nat → List UInt8 → Option (List Item × List UInt8)
  | 0, _, _ => none
  | _ + 1, some 0, bytes => some ([], bytes)
  | fuel + 1, some (n + 1), bytes =>
      (readItem fuel bytes).bind fun (item, rest) =>
        (readItems fuel (some n) rest).map fun p => (item :: p.1, p.2)
  | fuel + 1, none, bytes =>
      if bytes.head? = some breakByte then some ([], bytes.tail)
      else (readItem fuel bytes).bind fun (item, rest) =>
        (readItems fuel none rest).map fun p => (item :: p.1, p.2)

end

/-- The first data item and the bytes after it. -/
def decode (bytes : List UInt8) : Option (Item × List UInt8) :=
  readItem (2 * bytes.length) bytes

/-! ## Encodings -/

/-- The bytes are read as a head with an argument, whatever follows. -/
def IsHead (bytes : List UInt8) (major argument : Nat) : Prop :=
  ∀ rest, ∃ info, readHead (bytes ++ rest) = some (⟨major, info, some argument⟩, rest)

/-- Definite chunks of a byte string. -/
inductive Chunks : List UInt8 → List UInt8 → Prop
  | nil : Chunks [] []
  | cons {head chunk bytes content : List UInt8} (hhead : IsHead head 2 chunk.length)
      (hrest : Chunks bytes content) : Chunks (head ++ chunk ++ bytes) (chunk ++ content)

mutual

/-- The bytes are one of the encodings of the item. -/
inductive Encodes : List UInt8 → Item → Prop
  | unsigned {head : List UInt8} {n : Nat} (hhead : IsHead head 0 n) : Encodes head (.unsigned n)
  | negative {head : List UInt8} {n : Nat} (hhead : IsHead head 1 n) : Encodes head (.negative n)
  | byteString {head content : List UInt8} (hhead : IsHead head 2 content.length) :
      Encodes (head ++ content) (.byteString content)
  | chunks {bytes content : List UInt8} (hchunks : Chunks bytes content) :
      Encodes (0x5f :: (bytes ++ [breakByte])) (.byteString content)
  | array {head bytes : List UInt8} {items : List Item} (hhead : IsHead head 4 items.length)
      (hitems : EncodesAll bytes items) : Encodes (head ++ bytes) (.array items)
  | arrayIndefinite {bytes : List UInt8} {items : List Item} (hitems : EncodesAll bytes items) :
      Encodes (0x9f :: (bytes ++ [breakByte])) (.array items)
  | map {head bytes : List UInt8} {items : List Item} {n : Nat} (hhead : IsHead head 5 n)
      (hlength : items.length = 2 * n) (hitems : EncodesAll bytes items) :
      Encodes (head ++ bytes) (.map items)
  | tag {head bytes : List UInt8} {item : Item} {n : Nat} (hhead : IsHead head 6 n)
      (hitem : Encodes bytes item) : Encodes (head ++ bytes) (.tag n item)

/-- `Encodes` for consecutive items. -/
inductive EncodesAll : List UInt8 → List Item → Prop
  | nil : EncodesAll [] []
  | cons {bytes rest : List UInt8} {item : Item} {items : List Item}
      (hitem : Encodes bytes item) (hitems : EncodesAll rest items) :
      EncodesAll (bytes ++ rest) (item :: items)

end

theorem splitBytes_append (bytes rest : List UInt8) :
    splitBytes bytes.length (bytes ++ rest) = some (bytes, rest) := by
  simp [splitBytes]

theorem IsHead.ne_nil {bytes : List UInt8} {major argument : Nat}
    (h : IsHead bytes major argument) : bytes ≠ [] := by
  rintro rfl
  obtain ⟨info, hread⟩ := h []
  simp [readHead] at hread

theorem IsHead.length_pos {bytes : List UInt8} {major argument : Nat}
    (h : IsHead bytes major argument) : 0 < bytes.length :=
  List.length_pos_iff.mpr h.ne_nil

/-- The stop code is of major type 7. -/
theorem IsHead.head?_ne {bytes : List UInt8} {major argument : Nat}
    (h : IsHead bytes major argument) (rest : List UInt8) :
    (bytes ++ rest).head? ≠ some breakByte := by
  intro hhead
  obtain ⟨initial, tail, rfl⟩ := List.exists_cons_of_ne_nil h.ne_nil
  obtain rfl : initial = breakByte := by simpa using hhead
  obtain ⟨info, hread⟩ := h []
  simp [readHead, breakByte] at hread

theorem Encodes.ne_nil {bytes : List UInt8} {item : Item} (h : Encodes bytes item) :
    bytes ≠ [] := by
  cases h with
  | unsigned hhead => exact hhead.ne_nil
  | negative hhead => exact hhead.ne_nil
  | byteString hhead => simp [hhead.ne_nil]
  | chunks => simp
  | array hhead => simp [hhead.ne_nil]
  | arrayIndefinite => simp
  | map hhead => simp [hhead.ne_nil]
  | tag hhead => simp [hhead.ne_nil]

/-- No encoding begins with the stop code. -/
theorem Encodes.head?_ne {bytes : List UInt8} {item : Item} (h : Encodes bytes item)
    (rest : List UInt8) : (bytes ++ rest).head? ≠ some breakByte := by
  cases h with
  | unsigned hhead => exact hhead.head?_ne rest
  | negative hhead => exact hhead.head?_ne rest
  | byteString hhead => exact List.append_assoc _ _ rest ▸ hhead.head?_ne _
  | chunks => simp [breakByte]
  | array hhead => exact List.append_assoc _ _ rest ▸ hhead.head?_ne _
  | arrayIndefinite => simp [breakByte]
  | map hhead => exact List.append_assoc _ _ rest ▸ hhead.head?_ne _
  | tag hhead => exact List.append_assoc _ _ rest ▸ hhead.head?_ne _

/-! ## The decoder reads encodings -/

private theorem readChunks_of_chunks {bytes content : List UInt8} (h : Chunks bytes content) :
    ∀ (fuel : Nat) (rest : List UInt8), bytes.length + 1 ≤ fuel →
      readChunks 2 fuel (bytes ++ breakByte :: rest) = some (content, rest) := by
  induction h with
  | nil =>
      intro fuel rest hfuel
      obtain ⟨f, rfl⟩ := Nat.exists_eq_add_of_le' hfuel
      simp [readChunks]
  | @cons head chunk bytes content hhead _ ih =>
      intro fuel rest hfuel
      obtain ⟨f, rfl⟩ := Nat.exists_eq_add_of_le' hfuel
      have hpos := hhead.length_pos
      simp only [List.length_append] at hfuel ⊢
      have hih := ih (f + (head.length + chunk.length + bytes.length)) rest (by omega)
      obtain ⟨info, hread⟩ := hhead (chunk ++ (bytes ++ breakByte :: rest))
      have hbreak := hhead.head?_ne (chunk ++ (bytes ++ breakByte :: rest))
      rw [← Nat.add_assoc, readChunks]
      simp only [List.append_assoc, hbreak, if_false, hread, Option.bind_some, if_true,
        splitBytes_append, hih, Option.map_some]

mutual

/-- Any encoding of an item is read back, with what follows it left over. -/
theorem readItem_of_encodes {bytes : List UInt8} {item : Item} (h : Encodes bytes item)
    (fuel : Nat) (rest : List UInt8) (hfuel : 2 * bytes.length ≤ fuel) :
    readItem fuel (bytes ++ rest) = some (item, rest) := by
  have hpos := List.length_pos_iff.mpr h.ne_nil
  obtain ⟨f, rfl⟩ : ∃ f, fuel = f + 1 := ⟨fuel - 1, by omega⟩
  rw [readItem]
  cases h with
  | unsigned hhead =>
      obtain ⟨info, hread⟩ := hhead rest
      simp [hread]
  | negative hhead =>
      obtain ⟨info, hread⟩ := hhead rest
      simp [hread]
  | @byteString head content hhead =>
      obtain ⟨info, hread⟩ := hhead (content ++ rest)
      simp [List.append_assoc, hread, readString, splitBytes_append]
  | @chunks bytes content hchunks =>
      simp only [List.length_cons, List.length_append] at hfuel
      have hread := readChunks_of_chunks hchunks f rest (by omega)
      simp [readHead, readString, hread]
  | @array head bytes items hhead hitems =>
      obtain ⟨info, hread⟩ := hhead (bytes ++ rest)
      have hlength := hhead.length_pos
      simp only [List.length_append] at hfuel
      simp [List.append_assoc, hread, readItems_of_encodesAll hitems f rest (by omega)]
  | @arrayIndefinite bytes items hitems =>
      simp only [List.length_cons, List.length_append] at hfuel
      simp [readHead, readItems_of_encodesAll_indefinite hitems f rest (by omega)]
  | @map head bytes items n hhead hlen hitems =>
      obtain ⟨info, hread⟩ := hhead (bytes ++ rest)
      have hlength := hhead.length_pos
      simp only [List.length_append] at hfuel
      have hitems := readItems_of_encodesAll hitems f rest (by omega)
      rw [hlen] at hitems
      simp [List.append_assoc, hread, hitems, hlen]
  | @tag head bytes item n hhead hitem =>
      obtain ⟨info, hread⟩ := hhead (bytes ++ rest)
      have hlength := hhead.length_pos
      simp only [List.length_append] at hfuel
      simp [List.append_assoc, hread, readItem_of_encodes hitem f rest (by omega)]

private theorem readItems_of_encodesAll {bytes : List UInt8} {items : List Item}
    (h : EncodesAll bytes items) (fuel : Nat) (rest : List UInt8)
    (hfuel : 2 * bytes.length + 1 ≤ fuel) :
    readItems fuel (some items.length) (bytes ++ rest) = some (items, rest) := by
  obtain ⟨f, rfl⟩ : ∃ f, fuel = f + 1 := ⟨fuel - 1, by omega⟩
  cases h with
  | nil => rw [List.length_nil, readItems]; rfl
  | @cons bytes more item items hitem hitems =>
      have hpos := List.length_pos_iff.mpr hitem.ne_nil
      simp only [List.length_append] at hfuel
      rw [List.length_cons, readItems, List.append_assoc,
        readItem_of_encodes hitem f (more ++ rest) (by omega), Option.bind_some]
      simp only [readItems_of_encodesAll hitems f rest (by omega), Option.map_some]

private theorem readItems_of_encodesAll_indefinite {bytes : List UInt8} {items : List Item}
    (h : EncodesAll bytes items) (fuel : Nat) (rest : List UInt8)
    (hfuel : 2 * bytes.length + 1 ≤ fuel) :
    readItems fuel none (bytes ++ breakByte :: rest) = some (items, rest) := by
  obtain ⟨f, rfl⟩ : ∃ f, fuel = f + 1 := ⟨fuel - 1, by omega⟩
  cases h with
  | nil => simp [readItems]
  | @cons bytes more item items hitem hitems =>
      have hpos := List.length_pos_iff.mpr hitem.ne_nil
      have hbreak := hitem.head?_ne (more ++ breakByte :: rest)
      simp only [List.length_append] at hfuel
      rw [readItems, List.append_assoc, if_neg hbreak,
        readItem_of_encodes hitem f (more ++ breakByte :: rest) (by omega), Option.bind_some]
      simp only [readItems_of_encodesAll_indefinite hitems f rest (by omega), Option.map_some]

end

/-- Twice the number of bytes is enough fuel. -/
theorem decode_of_encodes {bytes : List UInt8} {item : Item} (h : Encodes bytes item)
    (rest : List UInt8) : decode (bytes ++ rest) = some (item, rest) := by
  refine readItem_of_encodes h _ rest ?_
  rw [List.length_append]
  omega

/-- Bytes begin with at most one encoding. -/
theorem Encodes.readable {bytes bytes' rest rest' : List UInt8} {item item' : Item}
    (h : Encodes bytes item) (h' : Encodes bytes' item')
    (heq : bytes ++ rest = bytes' ++ rest') : item = item' ∧ rest = rest' := by
  have hdecode := decode_of_encodes h rest
  rw [heq, decode_of_encodes h' rest'] at hdecode
  obtain ⟨hitem, hrest⟩ := Prod.mk.inj (Option.some.inj hdecode)
  exact ⟨hitem.symm, hrest.symm⟩

end PartnerChains.Verified.Cbor
