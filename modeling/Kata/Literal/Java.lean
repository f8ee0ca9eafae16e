import Kata.DataType.Written
import Kata.Fragment.Java
import Kata.Literal.Bracketed
import Kata.Literal.Escape

/-!
# Literals of Java

Arrays name their type and stand in braces. A value of no settled type is handed over as a text
that holds its JSON.
-/

namespace Kata.Literal.Java

/-- A floating-point number. -/
def float (x : Float) : Text :=
  floatWord "Double.NaN" "Double.POSITIVE_INFINITY" "Double.NEGATIVE_INFINITY" x

/-- A text. -/
def text (t : Text) : Text :=
  quotedText .hexadecimal t

/-- A value of a type that holds no other values. -/
def scalar (type : DataType) (value : Value) : Text :=
  match type with
  | .long => intText value.toInt ++ "L"
  | .double => float value.toFloat
  | .boolean => Value.boolText value.toBool
  | .char => if value.isNull then "'\\0'" else quotedChar .hexadecimal value.toChar
  | .string => if value.isNull then "null" else text value.toText
  | _ => intText value.toInt

/-- The items of a list in braces. -/
def braced (pieces : List Text) : Text :=
  enclosed '\x7b' '\x7d' pieces

/-- The items of a value in braces, each of a type. -/
def bracedItems (element : DataType) (value : Value) : Text :=
  braced (value.items.map (scalar element))

/-- A new array of the items of a value. -/
def array (arrayType : Text) (pieces : Value → Text) (value : Value) : Text :=
  "new " ++ arrayType ++ braced (value.items.map pieces)

/-- A value of an array type. -/
def arrayOf (element : DataType) (value : Value) : Text :=
  if value.isNull then "null" else array (element.inJava ++ "[]") (scalar element) value

/-- A matrix of integers, as a list of lists. -/
def matrix (value : Value) : Text :=
  if value.isNull then "null"
  else "toNestedList(" ++ array "int[][]" (bracedItems .int) value ++ ")"

/-- An integer, or the word for a gap. -/
def slot : Option Int64 → Text
  | some n => intText n
  | none => "null"

/-- A row of integers. -/
def row (ints : List Int64) : Text :=
  braced (ints.map intText)

/-- A call of the function that builds a structure, on a new array. -/
def build (kind : Structure) (arrayType data : Text) : Text :=
  Fragment.Java.library.builder kind ++ "(new " ++ arrayType ++ data ++ ")"

/-- A value of no settled type. -/
def dynamic (value : Value) : Text :=
  if value.isNull then "null" else text value.compact

/-- A value of a type that is settled. -/
def settled (value : Value) : DataType → Text
  | .intArray => arrayOf .int value
  | .longArray => arrayOf .long value
  | .doubleArray => arrayOf .double value
  | .booleanArray => arrayOf .boolean value
  | .charArray => arrayOf .char value
  | .stringArray => arrayOf .string value
  | .intMatrix => matrix value
  | .listNode => build .linkedList "int[]" (row value.listInts)
  | .treeNode => build .binaryTree "Integer[]" (braced (value.treeSlots.map slot))
  | .graphNode => build .graph "int[][]" (braced (value.adjacencyRows.map row))
  | .any => dynamic value
  | type => scalar type value

/-- A value as a literal of a type; `any` is settled by the shape of the value. -/
def literal (value : Value) (type : DataType) : Text :=
  settled value (if type = .any then value.resolve .any else type)

end Kata.Literal.Java
