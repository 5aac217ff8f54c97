import Mathlib.Tactic

/-!
# JSON values

The values of `serde_json`, as far as the repository reads and builds them.  An
object is the list of its members in the order in which it is iterated over,
which is the order of the keys; a new member is inserted at its place.
-/

namespace PartnerChains.Ports.SerdeJson

/-- A number is kept as `u64`, as a negative `i64`, or as `f64`, given by its
bits. -/
inductive Number where
  | posInt (n : UInt64)
  | negInt (i : Int)
  | float (bits : UInt64)
deriving DecidableEq

mutual

/-- `serde_json::Value`. -/
inductive JValue where
  | null
  | bool (b : Bool)
  | number (n : Number)
  | string (s : String)
  | array (items : List JValue)
  | object (members : List JMember)

/-- A member of an object. -/
inductive JMember where
  | mk (key : String) (value : JValue)

end

/-- `Number::from` for an `i64`. -/
def Number.ofI64 (i : Int) : Number :=
  if i < 0 then .negInt i else .posInt (UInt64.ofNat i.toNat)

/-- `as_u64`. -/
def JValue.asU64 : JValue → Option UInt64
  | .number (.posInt n) => some n
  | _ => none

/-- `as_str`. -/
def JValue.asStr : JValue → Option String
  | .string s => some s
  | _ => none

/-- `is_object`. -/
def JValue.isObject : JValue → Bool
  | .object _ => true
  | _ => false

/-! ## Members -/

/-- The value of the first member with the key. -/
def lookup (key : String) : List JMember → Option JValue
  | [] => none
  | .mk key' value :: rest => if key' = key then some value else lookup key rest

/-- Insertion into a map that is sorted by its keys. -/
def insert (key : String) (value : JValue) : List JMember → List JMember
  | [] => [.mk key value]
  | .mk key' value' :: rest =>
      if key' = key then .mk key value :: rest
      else if key < key' then .mk key value :: .mk key' value' :: rest
      else .mk key' value' :: insert key value rest

/-- `Value::get` for a key. -/
def JValue.get (key : String) : JValue → Option JValue
  | .object members => lookup key members
  | _ => none

/-- The assignment `head[key] = value`.  It makes `null` an object, and panics
for everything else that is not an object, which is `none`. -/
def JValue.assign : JValue → String → JValue → Option JValue
  | .null, key, value => some (.object [.mk key value])
  | .object members, key, value => some (.object (insert key value members))
  | _, _, _ => none

section Laws

variable {key key' : String} {value value' : JValue} {members : List JMember}

private theorem lookup_insert_self : lookup key (insert key value members) = some value := by
  induction members with
  | nil => rw [insert, lookup, if_pos rfl]
  | cons member rest ih =>
      obtain ⟨other, previous⟩ := member
      rw [insert]
      by_cases heq : other = key
      · rw [if_pos heq, lookup, if_pos rfl]
      · rw [if_neg heq]
        by_cases hlt : key < other
        · rw [if_pos hlt, lookup, if_pos rfl]
        · rw [if_neg hlt, lookup, if_neg heq]
          exact ih

private theorem lookup_insert_of_ne (hne : key ≠ key') :
    lookup key' (insert key value members) = lookup key' members := by
  induction members with
  | nil => simp [insert, lookup, hne]
  | cons member rest ih =>
      obtain ⟨other, previous⟩ := member
      rw [insert]
      by_cases heq : other = key
      · rw [if_pos heq, lookup, lookup, if_neg hne, if_neg (heq ▸ hne)]
      · rw [if_neg heq]
        by_cases hlt : key < other
        · rw [if_pos hlt, lookup, if_neg hne]
        · rw [if_neg hlt, lookup, lookup, ih]

/-- The second of two insertions wins. -/
theorem insert_insert :
    insert key value' (insert key value members) = insert key value' members := by
  induction members with
  | nil => rw [insert, insert, insert, if_pos rfl]
  | cons member rest ih =>
      obtain ⟨other, previous⟩ := member
      rw [insert]
      by_cases heq : other = key
      · rw [if_pos heq, insert, insert, if_pos rfl, if_pos heq]
      · rw [if_neg heq]
        by_cases hlt : key < other
        · rw [if_pos hlt, insert, if_pos rfl, insert, if_neg heq, if_pos hlt]
        · rw [if_neg hlt, insert, insert, if_neg heq, if_neg hlt, if_neg heq, if_neg hlt, ih]

variable {head head' : JValue}

/-- An assignment inserts a member; `null` counts as the empty object. -/
theorem JValue.assign_eq_some (h : head.assign key value = some head') :
    ∃ members, head' = .object (insert key value members) ∧
      (∀ value', head.assign key value' = some (.object (insert key value' members))) ∧
      ∀ key', head.get key' = lookup key' members := by
  cases head with
  | null =>
      cases h
      exact ⟨[], rfl, fun _ => rfl, fun _ => rfl⟩
  | object members =>
      cases h
      exact ⟨members, rfl, fun _ => rfl, fun _ => rfl⟩
  | bool b => cases h
  | number n => cases h
  | string s => cases h
  | array items => cases h

/-- A member that is assigned is found. -/
theorem JValue.get_assign_self (h : head.assign key value = some head') :
    head'.get key = some value := by
  obtain ⟨members, rfl, -, -⟩ := JValue.assign_eq_some h
  exact lookup_insert_self

/-- Other members stay. -/
theorem JValue.get_assign_of_ne (h : head.assign key value = some head') (hne : key ≠ key') :
    head'.get key' = head.get key' := by
  obtain ⟨members, rfl, -, hget⟩ := JValue.assign_eq_some h
  rw [hget]
  exact lookup_insert_of_ne hne

/-- The last assignment counts. -/
theorem JValue.assign_assign (h : head.assign key value = some head') (value' : JValue) :
    head'.assign key value' = head.assign key value' := by
  obtain ⟨members, rfl, hassign, -⟩ := JValue.assign_eq_some h
  rw [hassign, JValue.assign, insert_insert]

theorem JValue.isObject_of_assign (h : head.assign key value = some head') :
    head'.isObject = true := by
  obtain ⟨members, rfl, -, -⟩ := JValue.assign_eq_some h
  rfl

end Laws

end PartnerChains.Ports.SerdeJson
