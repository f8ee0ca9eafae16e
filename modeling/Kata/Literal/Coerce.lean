import Kata.DataType.Shape
import Kata.Decimal.Reading
import Kata.Json.Printer

/-!
# Values as data of a type

Test cases are loosely written, so a value is bent into the declared type wherever a sensible
reading exists. The languages share these readings: each of them writes the same data in its own
notation.
-/

namespace Kata.Value

/-! ## Scalars -/

/-- A value as an integer. Fractions are cut off, and what is no number is zero. -/
def toInt (value : Value) : Int64 :=
  match value.asInt? with
  | some n => n
  | none =>
    match value.asFloat? with
    | some x => if x.isFinite then x.toInt64 else 0
    | none => 0

/-- A value as a floating-point number; what is no number is zero. -/
def toFloat : Value → Float
  | bool b => if b then 1.0 else 0.0
  | text t => (Decimal.readFloat? (Text.trim t)).getD 0.0
  | int n => Float.ofInt n.toInt
  | float x => x
  | _ => 0.0

/-- A value as a truth value: a number other than zero and the word `true` hold. -/
def toBool : Value → Bool
  | bool b => b
  | int n => n != 0
  | float x => x != 0.0
  | text t => Text.equalsIgnoringCase t "true"
  | _ => false

/-- A value as a character: the first of a text, or a single digit, else a blank. -/
def toChar : Value → Char
  | text (c :: _) => c
  | int n => if 0 ≤ n.toInt ∧ n.toInt ≤ 9 then Char.ofNat (48 + n.toInt.toNat) else ' '
  | _ => ' '

mutual

/-- A value on one line of JSON. A number that is not finite has no JSON text and is written as
its name. -/
def compact : Value → Text
  | null => "null"
  | bool b => boolText b
  | int n => Text.ofInt n.toInt
  | float x => Decimal.writeFloat .exact x
  | text t => Json.quote t
  | list items => '[' :: Text.joinWith [','] (compactItems items) ++ [']']
  | record fields => '\x7b' :: Text.joinWith [','] (compactFields fields) ++ ['\x7d']

/-- The texts of a list of values. -/
def compactItems : List Value → List Text
  | [] => []
  | item :: rest => compact item :: compactItems rest

/-- The texts of a list of fields. -/
def compactFields : List (Text × Value) → List Text
  | [] => []
  | (key, value) :: rest => (Json.quote key ++ ':' :: compact value) :: compactFields rest

end

/-- A value as a text: null is empty, and what is made of other values is its JSON text. -/
def toText (value : Value) : Text :=
  match value.asText? with
  | some t => t
  | none => if value.isNull then [] else value.compact

/-! ## Lists and structures -/

/-- A value as a list: null is empty, and a single value is a list of one item. -/
def items : Value → List Value
  | list items => items
  | null => []
  | value => [value]

/-- A value as a list of integers. -/
def listInts (value : Value) : List Int64 :=
  value.items.map toInt

/-- An item of a tree in level order: an integer, or a gap for null and the word for it. -/
def treeSlot : Value → Option Int64
  | null => none
  | text t => if Text.equalsIgnoringCase t "null" then none else some (toInt (text t))
  | value => some value.toInt

/-- A value as the slots of a tree in level order. -/
def treeSlots (value : Value) : List (Option Int64) :=
  value.items.map treeSlot

/-- A row of a graph; what is no list is an empty row. -/
def adjacencyRow : Value → List Int64
  | list items => (list items).listInts
  | _ => []

/-- A value as the rows of a graph: for each node the numbers of its neighbours. -/
def adjacencyRows (value : Value) : List (List Int64) :=
  value.items.map adjacencyRow

/-! ## Types of values -/

/-- Whether a value is an integer of 32 bits when read as an integer. -/
def fitsShort (value : Value) : Bool :=
  isShort value.toInt

/-- The type of a value that is declared with a type. `any` is narrowed by the shape of the value,
except to a structure: a bare list is data. Integers of 32 bits are widened where the value does
not fit. -/
def resolve (value : Value) : DataType → DataType
  | .any =>
    match DataType.ofValue? value .unset with
    | some type => if type.isStructural then .any else type
    | none => .any
  | .int => if value.fitsShort then .int else .long
  | .intArray => if value.items.all fitsShort then .intArray else .longArray
  | type => type

end Kata.Value
