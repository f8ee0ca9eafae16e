import Kata.Json.Basic
import Kata.Decimal.Layout
import Kata.Text.Blank

/-!
# Test values

A test value is what one line of a test case stands for, free of any programming language. This
module holds the type and the views of a value as a list, a number or a text.
-/

namespace Kata

/-- A value of a test case. -/
inductive Value where
  | null
  | bool (value : Bool)
  | int (value : Int64)
  | float (value : Float)
  | text (value : Text)
  | list (items : List Value)
  | record (fields : List (Text × Value))

namespace Value

instance : Inhabited Value := ⟨null⟩

/-! ## Integers of 64 bits -/

/-- An integer, if it fits into 64 bits with a sign. -/
def word? (n : Int) : Option Int64 :=
  if Int64.minValue.toInt ≤ n ∧ n ≤ Int64.maxValue.toInt then some (Int64.ofInt n) else none

/-- Read an integer that fits into 64 bits. -/
def readWord? (text : Text) : Option Int64 :=
  (Text.toInt? text).bind word?

/-- Whether an integer fits into 32 bits with a sign. -/
def isShort (n : Int64) : Bool :=
  Int32.minValue.toInt ≤ n.toInt && n.toInt ≤ Int32.maxValue.toInt

/-! ## Views -/

/-- Whether a value is null. -/
def isNull : Value → Bool
  | null => true
  | _ => false

/-- The number of items of a list. -/
def listLength? : Value → Option Nat
  | list items => some items.length
  | _ => none

/-- A number as a floating-point number. -/
def asFloat? : Value → Option Float
  | int n => some (Float.ofInt n.toInt)
  | float x => some x
  | _ => none

/-- Whether a floating-point number is whole. -/
def isWhole (x : Float) : Bool :=
  x.isFinite && x.floor == x

/-- A value as an integer: whole floating-point numbers, truth values and texts that hold an
integer count too. -/
def asInt? : Value → Option Int64
  | int n => some n
  | float x => if isWhole x then some x.toInt64 else none
  | bool b => some (if b then 1 else 0)
  | text t => readWord? (Text.trim t)
  | _ => none

/-- The words for the truth values. -/
def boolText (b : Bool) : Text :=
  if b then "true" else "false"

/-- The text of a value that is neither null nor made of other values. -/
def asText? : Value → Option Text
  | text t => some t
  | int n => some (Text.ofInt n.toInt)
  | float x => some (Decimal.writeFloat .plain x)
  | bool b => some (boolText b)
  | _ => none

/-! ## From JSON -/

mutual

/-- The value that a JSON value stands for. An integer beyond 64 bits with a sign becomes a
floating-point number. -/
def ofJson : Json → Value
  | .null => null
  | .bool b => bool b
  | .int n =>
    match word? n with
    | some n => int n
    | none => float (Float.ofInt n)
  | .float x => float x
  | .string t => text t
  | .array items => list (ofJsonItems items)
  | .object members => record (ofJsonMembers members)

/-- The values of a list of JSON values. -/
def ofJsonItems : List Json → List Value
  | [] => []
  | item :: rest => ofJson item :: ofJsonItems rest

/-- The fields of a list of JSON members. -/
def ofJsonMembers : List (Text × Json) → List (Text × Value)
  | [] => []
  | (key, value) :: rest => (key, ofJson value) :: ofJsonMembers rest

end

end Value

end Kata
