import Kata.Literal.Coerce
import Kata.Proofs.Json.RoundTrip
import Kata.Proofs.Text.Digits

/-!
# The shape of test values

A value without floating-point numbers is the same thing as the JSON value that it is written as:
going there and back changes nothing, and the written form is the same on both sides. What
a JSON value stands for has the same nesting and the same keys.
-/

namespace Kata.Value

/-! ## Measures -/

mutual

/-- Whether there is no floating-point number anywhere in a value. -/
def isFloatFree : Value → Bool
  | float _ => false
  | list items => itemsAreFloatFree items
  | record fields => fieldsAreFloatFree fields
  | _ => true

/-- Whether there is no floating-point number in a list of values. -/
def itemsAreFloatFree : List Value → Bool
  | [] => true
  | item :: rest => isFloatFree item && itemsAreFloatFree rest

/-- Whether there is no floating-point number in a list of fields. -/
def fieldsAreFloatFree : List (Text × Value) → Bool
  | [] => true
  | (_, value) :: rest => isFloatFree value && fieldsAreFloatFree rest

end

mutual

/-- How many lists and records lie inside each other at most. -/
def nesting : Value → Nat
  | list items => nestingOfItems items + 1
  | record fields => nestingOfFields fields + 1
  | _ => 0

/-- The deepest nesting in a list of values. -/
def nestingOfItems : List Value → Nat
  | [] => 0
  | item :: rest => max (nesting item) (nestingOfItems rest)

/-- The deepest nesting in a list of fields. -/
def nestingOfFields : List (Text × Value) → Nat
  | [] => 0
  | (_, value) :: rest => max (nesting value) (nestingOfFields rest)

end

mutual

/-- Whether the keys of each record are distinct. -/
def hasDistinctKeys : Value → Bool
  | list items => itemsHaveDistinctKeys items
  | record fields => decide (fields.map Prod.fst).Nodup && fieldsHaveDistinctKeys fields
  | _ => true

/-- Whether the keys of each record in a list of values are distinct. -/
def itemsHaveDistinctKeys : List Value → Bool
  | [] => true
  | item :: rest => hasDistinctKeys item && itemsHaveDistinctKeys rest

/-- Whether the keys of each record below a list of fields are distinct. -/
def fieldsHaveDistinctKeys : List (Text × Value) → Bool
  | [] => true
  | (_, value) :: rest => hasDistinctKeys value && fieldsHaveDistinctKeys rest

end

theorem itemsAreFloatFree_iff
    (items : List Value) :
    itemsAreFloatFree items = true ↔ ∀ item ∈ items, isFloatFree item = true := by
  induction items with
  | nil => simp [itemsAreFloatFree]
  | cons item items inductionHypothesis =>
      rw [itemsAreFloatFree, Bool.and_eq_true, inductionHypothesis, List.forall_mem_cons]

theorem itemsHaveDistinctKeys_iff
    (items : List Value) :
    itemsHaveDistinctKeys items = true ↔ ∀ item ∈ items, hasDistinctKeys item = true := by
  induction items with
  | nil => simp [itemsHaveDistinctKeys]
  | cons item items inductionHypothesis =>
      rw [itemsHaveDistinctKeys, Bool.and_eq_true, inductionHypothesis, List.forall_mem_cons]

theorem nestingOfItems_le_iff
    (items : List Value) (depth : Nat) :
    nestingOfItems items ≤ depth ↔ ∀ item ∈ items, nesting item ≤ depth := by
  induction items with
  | nil => simp [nestingOfItems]
  | cons item items inductionHypothesis =>
      rw [nestingOfItems, Nat.max_le, inductionHypothesis, List.forall_mem_cons]

/-! ## The JSON value of a value -/

mutual

/-- The JSON value that a value is written as. -/
def toJson : Value → Json
  | null => .null
  | bool b => .bool b
  | int n => .int n.toInt
  | float x => .float x
  | text t => .string t
  | list items => .array (toJsonItems items)
  | record fields => .object (toJsonMembers fields)

/-- The JSON values of a list of values. -/
def toJsonItems : List Value → List Json
  | [] => []
  | item :: rest => toJson item :: toJsonItems rest

/-- The members of a list of fields. -/
def toJsonMembers : List (Text × Value) → List (Text × Json)
  | [] => []
  | (key, value) :: rest => (key, toJson value) :: toJsonMembers rest

end

mutual

/-- Every value is what its JSON value stands for. -/
theorem ofJson_toJson :
    ∀ value : Value, ofJson (toJson value) = value
  | null => rfl
  | bool _ => rfl
  | int n => by
      rw [toJson, ofJson, word?_toInt]
  | float _ => rfl
  | text _ => rfl
  | list items => by
      rw [toJson, ofJson, ofJsonItems_toJsonItems items]
  | record fields => by
      rw [toJson, ofJson, ofJsonMembers_toJsonMembers fields]

theorem ofJsonItems_toJsonItems :
    ∀ items : List Value, ofJsonItems (toJsonItems items) = items
  | [] => rfl
  | item :: rest => by
      rw [toJsonItems, ofJsonItems, ofJson_toJson item, ofJsonItems_toJsonItems rest]

theorem ofJsonMembers_toJsonMembers :
    ∀ fields : List (Text × Value), ofJsonMembers (toJsonMembers fields) = fields
  | [] => rfl
  | (key, value) :: rest => by
      rw [toJsonMembers, ofJsonMembers, ofJson_toJson value, ofJsonMembers_toJsonMembers rest]

end

mutual

/-- Without floating-point numbers, a value and its JSON value have the same written form. -/
theorem compact_toJson :
    ∀ value : Value, isFloatFree value = true → Json.compact (toJson value) = compact value
  | null, _ => rfl
  | bool _, _ => rfl
  | int _, _ => rfl
  | float _, free => absurd free Bool.false_ne_true
  | text _, _ => rfl
  | list items, free => by
      rw [isFloatFree] at free
      rw [toJson, Json.compact, compact, compactItems_toJsonItems items free]
  | record fields, free => by
      rw [isFloatFree] at free
      rw [toJson, Json.compact, compact, compactMembers_toJsonMembers fields free]

theorem compactItems_toJsonItems :
    ∀ items : List Value,
      itemsAreFloatFree items = true → Json.compactItems (toJsonItems items) = compactItems items
  | [], _ => rfl
  | item :: rest, free => by
      rw [itemsAreFloatFree, Bool.and_eq_true] at free
      rw [toJsonItems, Json.compactItems, compactItems, compact_toJson item free.1,
        compactItems_toJsonItems rest free.2]

theorem compactMembers_toJsonMembers :
    ∀ fields : List (Text × Value),
      fieldsAreFloatFree fields = true →
        Json.compactMembers (toJsonMembers fields) = compactFields fields
  | [], _ => rfl
  | (key, value) :: rest, free => by
      rw [fieldsAreFloatFree, Bool.and_eq_true] at free
      rw [toJsonMembers, Json.compactMembers, compactFields, compact_toJson value free.1,
        compactMembers_toJsonMembers rest free.2]

end

mutual

/-- Without floating-point numbers, nothing is lost in the JSON value of a value. -/
theorem isExact_toJson :
    ∀ value : Value, isFloatFree value = true → Json.isExact (toJson value) = true
  | null, _ => rfl
  | bool _, _ => rfl
  | int n, _ => by
      have least := Int64.minValue_le_toInt n
      have greatest : n.toInt ≤ 9223372036854775807 := Int64.toInt_le n
      have limit : Json.greatestWord = 18446744073709551615 := rfl
      rw [toJson, Json.isExact, decide_eq_true_eq]
      omega
  | float _, free => absurd free Bool.false_ne_true
  | text _, _ => rfl
  | list items, free => by
      rw [isFloatFree] at free
      rw [toJson, Json.isExact, itemsAreExact_toJsonItems items free]
  | record fields, free => by
      rw [isFloatFree] at free
      rw [toJson, Json.isExact, membersAreExact_toJsonMembers fields free]

theorem itemsAreExact_toJsonItems :
    ∀ items : List Value,
      itemsAreFloatFree items = true → Json.itemsAreExact (toJsonItems items) = true
  | [], _ => rfl
  | item :: rest, free => by
      rw [itemsAreFloatFree, Bool.and_eq_true] at free
      rw [toJsonItems, Json.itemsAreExact, isExact_toJson item free.1,
        itemsAreExact_toJsonItems rest free.2, Bool.and_self]

theorem membersAreExact_toJsonMembers :
    ∀ fields : List (Text × Value),
      fieldsAreFloatFree fields = true → Json.membersAreExact (toJsonMembers fields) = true
  | [], _ => rfl
  | (_, value) :: rest, free => by
      rw [fieldsAreFloatFree, Bool.and_eq_true] at free
      rw [toJsonMembers, Json.membersAreExact, isExact_toJson value free.1,
        membersAreExact_toJsonMembers rest free.2, Bool.and_self]

end

/-! ## The shape of what a JSON value stands for -/

mutual

/-- What a JSON value stands for is nested as deep as it is. -/
theorem nesting_ofJson :
    ∀ json : Json, nesting (ofJson json) = Json.nesting json
  | .null => rfl
  | .bool _ => rfl
  | .int n => by
      rw [ofJson]
      split <;> rfl
  | .float _ => rfl
  | .string _ => rfl
  | .array items => by
      rw [ofJson, nesting, Json.nesting, nestingOfItems_ofJsonItems items]
  | .object members => by
      rw [ofJson, nesting, Json.nesting, nestingOfFields_ofJsonMembers members]

theorem nestingOfItems_ofJsonItems :
    ∀ items : List Json, nestingOfItems (ofJsonItems items) = Json.nestingOfItems items
  | [] => rfl
  | item :: rest => by
      rw [ofJsonItems, nestingOfItems, Json.nestingOfItems, nesting_ofJson item,
        nestingOfItems_ofJsonItems rest]

theorem nestingOfFields_ofJsonMembers :
    ∀ members : List (Text × Json),
      nestingOfFields (ofJsonMembers members) = Json.nestingOfMembers members
  | [] => rfl
  | (_, value) :: rest => by
      rw [ofJsonMembers, nestingOfFields, Json.nestingOfMembers, nesting_ofJson value,
        nestingOfFields_ofJsonMembers rest]

end

theorem map_fst_ofJsonMembers
    (members : List (Text × Json)) :
    (ofJsonMembers members).map Prod.fst = members.map Prod.fst := by
  induction members with
  | nil => rfl
  | cons member members inductionHypothesis =>
      rw [ofJsonMembers, List.map_cons, List.map_cons, inductionHypothesis]

mutual

/-- What a JSON value stands for has distinct keys exactly when the JSON value has. -/
theorem hasDistinctKeys_ofJson :
    ∀ json : Json, hasDistinctKeys (ofJson json) = Json.hasDistinctKeys json
  | .null => rfl
  | .bool _ => rfl
  | .int n => by
      rw [ofJson]
      split <;> rfl
  | .float _ => rfl
  | .string _ => rfl
  | .array items => by
      rw [ofJson, hasDistinctKeys, Json.hasDistinctKeys,
        itemsHaveDistinctKeys_ofJsonItems items]
  | .object members => by
      rw [ofJson, hasDistinctKeys, Json.hasDistinctKeys, map_fst_ofJsonMembers,
        fieldsHaveDistinctKeys_ofJsonMembers members]

theorem itemsHaveDistinctKeys_ofJsonItems :
    ∀ items : List Json,
      itemsHaveDistinctKeys (ofJsonItems items) = Json.itemsHaveDistinctKeys items
  | [] => rfl
  | item :: rest => by
      rw [ofJsonItems, itemsHaveDistinctKeys, Json.itemsHaveDistinctKeys,
        hasDistinctKeys_ofJson item, itemsHaveDistinctKeys_ofJsonItems rest]

theorem fieldsHaveDistinctKeys_ofJsonMembers :
    ∀ members : List (Text × Json),
      fieldsHaveDistinctKeys (ofJsonMembers members) = Json.membersHaveDistinctKeys members
  | [] => rfl
  | (_, value) :: rest => by
      rw [ofJsonMembers, fieldsHaveDistinctKeys, Json.membersHaveDistinctKeys,
        hasDistinctKeys_ofJson value, fieldsHaveDistinctKeys_ofJsonMembers rest]

end

end Kata.Value
