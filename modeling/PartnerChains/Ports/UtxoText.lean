import Mathlib.Tactic
import PartnerChains.Ports.Domain

/-!
# UTxO identifiers as text

A UTxO is written as the hexadecimal hash of its transaction, `#` and its
output index.  The database renders this text and `UtxoId::from_str` reads it
back.  The hexadecimal decoder is a library outside the repository; of it the
development uses that it inverts lower-case encoding (`HexDecoder`).
-/

namespace PartnerChains.Ports.UtxoText

open PartnerChains.Ports.Domain

/-- Texts are lists of characters here, which is what proofs split. -/
abbrev Text := List Char

/-! ## Writing -/

/-- A hexadecimal digit in lower case. -/
def hexDigit (n : Nat) : Char := Nat.digitChar n

/-- Lower-case hexadecimal text. -/
def hexEncode (bytes : Bytes) : Text :=
  bytes.flatMap fun b => [hexDigit (b.toNat / 16), hexDigit (b.toNat % 16)]

/-- `concat_ws('#', …)` skips missing values. -/
def concatWs (parts : List (Option Text)) : Text :=
  ['#'].intercalate (parts.filterMap id)

/-! ## Reading -/

/-- `sp_core::bytes::from_hex`. -/
structure HexDecoder where
  fromHex : Text → Option Bytes
  fromHex_hexEncode : ∀ bytes, fromHex (hexEncode bytes) = some bytes

/-- A number in decimal digits, at least one. -/
def parseDigits (s : Text) : Option Nat :=
  if s ≠ [] ∧ s.all Char.isDigit then some (Nat.ofDigitChars 10 s 0) else none

/-- `u16::from_str`. -/
def parseU16 (s : Text) : Option Nat :=
  (parseDigits (if s.head? = some '+' then s.tail else s)).filter fun n => decide (n < 2 ^ 16)

/-- `i16::from_str`. -/
def parseI16 (s : Text) : Option Int :=
  if s.head? = some '-' then
    ((parseDigits s.tail).filter fun n => decide (n ≤ 2 ^ 15)).map fun n => -(n : Int)
  else
    ((parseDigits (if s.head? = some '+' then s.tail else s)).filter
      fun n => decide (n < 2 ^ 15)).map fun n => (n : Int)

/-- `UtxoIndex::from_str`: an index has to fit both types. -/
def utxoIndexFromStr (s : Text) : Option Nat := do
  let parsed ← parseU16 s
  let _ ← parseI16 s
  some parsed

variable (hex : HexDecoder)

/-- `FromStr` of `McTxHash`. -/
def mcTxHashFromStr (s : Text) : Option McTxHash := do
  let bytes ← hex.fromHex s
  FixedBytes.tryFrom 32 bytes

/-- `FromStr` of `UtxoId`. -/
def utxoIdFromStr (s : Text) : Except String UtxoId :=
  match s.splitOn '#' with
  | [hashStr, indexStr] =>
      match mcTxHashFromStr hex hashStr with
      | none => .error "invalid string input for McTxHash"
      | some txHash =>
          match utxoIndexFromStr indexStr with
          | none => .error "invalid string input for OutputIndex"
          | some index => .ok ⟨txHash, index⟩
  | _ => .error "UtxoId string must conform to format: '<hash>#<index>'"

/-! ## The round trip -/

/-- A character that is no digit. -/
theorem not_mem_hexEncode {c : Char} (hc : ∀ n : Fin 16, c ≠ hexDigit n) (bytes : Bytes) :
    c ∉ hexEncode bytes := by
  intro hmem
  obtain ⟨b, -, hb⟩ := List.mem_flatMap.mp hmem
  have hlt : b.toNat < 256 := b.toNat_lt
  simp only [List.mem_cons, List.not_mem_nil, or_false] at hb
  rcases hb with h | h
  · exact hc ⟨b.toNat / 16, by omega⟩ h
  · exact hc ⟨b.toNat % 16, by omega⟩ h

theorem hash_not_mem_hexEncode (bytes : Bytes) : '#' ∉ hexEncode bytes :=
  not_mem_hexEncode (by decide) bytes

theorem hash_not_mem_toDigits (n : Nat) : '#' ∉ Nat.toDigits 10 n := by
  intro hmem
  have hdigit := Nat.isDigit_of_mem_toDigits (by norm_num) (by norm_num) hmem
  exact absurd hdigit (by decide)

theorem head_toDigits_ne (n : Nat) {c : Char} (hc : c.isDigit = false) :
    (Nat.toDigits 10 n).head? ≠ some c := by
  intro h
  have hdigit := Nat.isDigit_of_mem_toDigits (by norm_num) (by norm_num) (List.mem_of_head? h)
  rw [hc] at hdigit
  exact absurd hdigit (by simp)

/-- A number that is printed is parsed. -/
theorem parseDigits_toDigits (n : Nat) : parseDigits (Nat.toDigits 10 n) = some n := by
  have hall : (Nat.toDigits 10 n).all Char.isDigit = true := by
    rw [List.all_eq_true]
    intro c hc
    exact Nat.isDigit_of_mem_toDigits (by norm_num) (by norm_num) hc
  rw [parseDigits, if_pos ⟨Nat.toDigits_ne_nil, hall⟩, Nat.ofDigitChars_ten_toDigits]

private theorem utxoIndexFromStr_toDigits {n : Nat} (hn : n < 2 ^ 15) :
    utxoIndexFromStr (Nat.toDigits 10 n) = some n := by
  have hplus := head_toDigits_ne n (c := '+') (by decide)
  have hminus := head_toDigits_ne n (c := '-') (by decide)
  have hu16 : n < 65536 := by omega
  have hi16 : n < 32768 := by omega
  simp [utxoIndexFromStr, parseU16, parseI16, hplus, hminus, parseDigits_toDigits,
    Option.filter, hu16, hi16]

/-- The text the database renders for an input reads back as the UTxO. -/
theorem utxoIdFromStr_concatWs (txHash : McTxHash) {index : Nat} (hindex : index < 2 ^ 15) :
    utxoIdFromStr hex (concatWs [some (hexEncode txHash.bytes), some (Nat.toDigits 10 index)]) =
      .ok ⟨txHash, index⟩ := by
  have hsplit : (concatWs [some (hexEncode txHash.bytes), some (Nat.toDigits 10 index)]).splitOn
      '#' = [hexEncode txHash.bytes, Nat.toDigits 10 index] := by
    refine List.splitOn_intercalate _ ?_ (by simp)
    intro l hl
    simp only [List.filterMap_cons, id_eq, List.filterMap_nil, List.mem_cons,
      List.not_mem_nil, or_false] at hl
    rcases hl with rfl | rfl
    · exact hash_not_mem_hexEncode _
    · exact hash_not_mem_toDigits _
  simp only [utxoIdFromStr, hsplit, mcTxHashFromStr, hex.fromHex_hexEncode,
    Option.bind_eq_bind, Option.bind_some, FixedBytes.tryFrom_bytes,
    utxoIndexFromStr_toDigits hindex]

/-- `Display` of the id. -/
def utxoIdToString (utxoId : UtxoId) : String :=
  String.ofList (hexEncode utxoId.txHash.bytes ++ '#' :: Nat.toDigits 10 utxoId.index)

theorem toList_utxoIdToString (utxoId : UtxoId) : (utxoIdToString utxoId).toList =
    concatWs [some (hexEncode utxoId.txHash.bytes), some (Nat.toDigits 10 utxoId.index)] := by
  rw [utxoIdToString, String.toList_ofList]
  simp [concatWs, List.intercalate]

private theorem splitOn_utxoIdToString (utxoId : UtxoId) :
    (utxoIdToString utxoId).toList.splitOn '#' =
      [hexEncode utxoId.txHash.bytes, Nat.toDigits 10 utxoId.index] := by
  rw [toList_utxoIdToString]
  refine List.splitOn_intercalate _ ?_ (by simp)
  intro l hl
  simp only [List.filterMap_cons, id_eq, List.filterMap_nil, List.mem_cons, List.not_mem_nil,
    or_false] at hl
  rcases hl with rfl | rfl
  · exact hash_not_mem_hexEncode _
  · exact hash_not_mem_toDigits _

/-- A UTXO that is printed is parsed, as long as its index fits in an `i16`. -/
theorem utxoIdFromStr_utxoIdToString {utxoId : UtxoId} (hindex : utxoId.index < 2 ^ 15) :
    utxoIdFromStr hex (utxoIdToString utxoId).toList = .ok utxoId := by
  rw [toList_utxoIdToString]
  exact utxoIdFromStr_concatWs hex utxoId.txHash hindex

private theorem utxoIndexFromStr_lt {s : Text} {n : Nat} (h : utxoIndexFromStr s = some n) :
    n < 2 ^ 15 := by
  obtain ⟨parsed, hu16, h⟩ := Option.bind_eq_some_iff.mp h
  obtain ⟨i, hi16, h⟩ := Option.bind_eq_some_iff.mp h
  obtain rfl := Option.some.inj h
  obtain ⟨hdigits, -⟩ := Option.filter_eq_some_iff.mp hu16
  -- a text with a minus sign is no unsigned number
  have hminus : s.head? ≠ some '-' := by
    intro hhead
    rw [if_neg (by simp [hhead])] at hdigits
    unfold parseDigits at hdigits
    split at hdigits
    next hall =>
      exact absurd (List.all_eq_true.mp hall.2 '-' (List.mem_of_head? hhead)) (by decide)
    next => cases hdigits
  rw [parseI16, if_neg hminus, hdigits] at hi16
  by_contra hlt
  simp only [Option.filter, decide_eq_true_eq, if_neg hlt] at hi16
  cases hi16

/-- The index is parsed as an `i16`. -/
theorem utxoIdFromStr_index_lt {s : Text} {utxoId : UtxoId}
    (h : utxoIdFromStr hex s = .ok utxoId) : utxoId.index < 2 ^ 15 := by
  unfold utxoIdFromStr at h
  split at h
  · split at h
    · cases h
    · split at h
      · cases h
      next hindex =>
        obtain rfl := Except.ok.inj h
        exact utxoIndexFromStr_lt hindex
  · cases h

/-- Only an index that fits is read back. -/
theorem utxoIdFromStr_utxoIdToString_iff {utxoId utxoId' : UtxoId} :
    utxoIdFromStr hex (utxoIdToString utxoId).toList = .ok utxoId' ↔
      utxoId.index < 2 ^ 15 ∧ utxoId' = utxoId := by
  by_cases hindex : utxoId.index < 2 ^ 15
  · rw [utxoIdFromStr_utxoIdToString hex hindex, Except.ok.injEq, eq_comm]
    exact (and_iff_right hindex).symm
  · have hplus := head_toDigits_ne utxoId.index (c := '+') (by decide)
    have hminus := head_toDigits_ne utxoId.index (c := '-') (by decide)
    have hnone : utxoIndexFromStr (Nat.toDigits 10 utxoId.index) = none := by
      have hi16 : parseI16 (Nat.toDigits 10 utxoId.index) = none := by
        simp [parseI16, hplus, hminus, parseDigits_toDigits, Option.filter]
        omega
      unfold utxoIndexFromStr
      cases parseU16 (Nat.toDigits 10 utxoId.index) with
      | none => rfl
      | some parsed => rw [hi16]; rfl
    constructor
    · intro h
      unfold utxoIdFromStr at h
      rw [splitOn_utxoIdToString] at h
      simp only [hnone] at h
      split at h
      next => cases h
      next => cases h
    · exact fun h => absurd h.1 hindex

/-! ## A decoder

Lower-case text of an even number of digits, which is what the database
writes. -/

/-- The number of a digit in lower case. -/
def hexValue (c : Char) : Option Nat := (List.range 16).find? fun n => hexDigit n == c

/-- Decodes pairs of digits in lower case. -/
def fromLowerHex : Text → Option Bytes
  | [] => some []
  | [_] => none
  | high :: low :: rest => do
      let h ← hexValue high
      let l ← hexValue low
      let bytes ← fromLowerHex rest
      some (UInt8.ofNat (16 * h + l) :: bytes)

private theorem hexValue_hexDigit {n : Nat} (hn : n < 16) : hexValue (hexDigit n) = some n := by
  have : ∀ m : Fin 16, hexValue (hexDigit m) = some m.val := by decide
  exact this ⟨n, hn⟩

/-- Bytes that are printed are parsed. -/
theorem fromLowerHex_hexEncode (bytes : Bytes) : fromLowerHex (hexEncode bytes) = some bytes := by
  induction bytes with
  | nil => rfl
  | cons b bytes ih =>
      have hlt : b.toNat < 256 := b.toNat_lt
      have hhigh := hexValue_hexDigit (show b.toNat / 16 < 16 by omega)
      have hlow := hexValue_hexDigit (show b.toNat % 16 < 16 by omega)
      have hvalue : 16 * (b.toNat / 16) + b.toNat % 16 = b.toNat := Nat.div_add_mod _ _
      have hstep : hexEncode (b :: bytes) =
          hexDigit (b.toNat / 16) :: hexDigit (b.toNat % 16) :: hexEncode bytes := rfl
      rw [hstep, fromLowerHex, hhigh, hlow, ih]
      simp only [Option.bind_eq_bind, Option.bind_some, hvalue, UInt8.ofNat_toNat]

/-- A decoder that knows lower case only. -/
def lowerHex : HexDecoder := ⟨fromLowerHex, fromLowerHex_hexEncode⟩

end PartnerChains.Ports.UtxoText
