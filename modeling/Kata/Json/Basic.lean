import Kata.Text.Basic

/-!
# JSON values

Objects keep their members in the order in which they were written. A text may give one key
several times; `collapse` then keeps the last value at the place of the first.
-/

namespace Kata

/-- A JSON value. Integers that fit into 64 bits stay apart from other numbers. -/
inductive Json where
  | null
  | bool (value : Bool)
  | int (value : Int)
  | float (value : Float)
  | string (value : Text)
  | array (items : List Json)
  | object (members : List (Text × Json))

namespace Json

instance : Inhabited Json := ⟨null⟩

/-- Set the value of a key: at its place if the key is there, else at the end. -/
def setMember {κ α : Type} [DecidableEq κ] (key : κ) (value : α) : List (κ × α) → List (κ × α)
  | [] => [(key, value)]
  | (k, old) :: rest =>
    if k = key then (k, value) :: rest else (k, old) :: setMember key value rest

/-- Keep the last value of each key, at the place of the first. -/
def collapseMembers {κ α : Type} [DecidableEq κ] (members : List (κ × α)) : List (κ × α) :=
  members.foldl (fun kept (key, value) => setMember key value kept) []

mutual

/-- Make the keys of each object distinct. -/
def collapse : Json → Json
  | array items => array (collapseAll items)
  | object members => object (collapseMembers (collapseValues members))
  | other => other

/-- `collapse` on each of a list of values. -/
def collapseAll : List Json → List Json
  | [] => []
  | item :: rest => collapse item :: collapseAll rest

/-- `collapse` on the value of each member. -/
def collapseValues : List (Text × Json) → List (Text × Json)
  | [] => []
  | (key, value) :: rest => (key, collapse value) :: collapseValues rest

end

/-- The value of a key of an object. -/
def get? (key : Text) : Json → Option Json
  | object members => members.lookup key
  | _ => none

/-- The text of a text value. -/
def asText? : Json → Option Text
  | string value => some value
  | _ => none

/-- The members of an array. -/
def asArray? : Json → Option (List Json)
  | array items => some items
  | _ => none

/-- A value or, if there is none, null. -/
def ofOption (value : Option Json) : Json :=
  value.getD null

end Json

end Kata
