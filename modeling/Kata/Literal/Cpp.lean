import Kata.DataType.Written
import Kata.Fragment.Cpp
import Kata.Literal.Java

/-!
# Literals of C++

Vectors name their type and stand in braces. The slots of a tree are texts, so that a gap can
stand among them, and a value of no settled type is handed over as a text that holds its JSON.
-/

namespace Kata.Literal.Cpp

/-- A floating-point number. -/
def float (x : Float) : Text :=
  floatWord "numeric_limits<double>::quiet_NaN()" "numeric_limits<double>::infinity()"
    "-numeric_limits<double>::infinity()" x

/-- A text. -/
def text (t : Text) : Text :=
  quotedText .octal t

/-- A character of one byte; any other is replaced by a question mark. -/
def byteChar (c : Char) : Char :=
  if c.toNat < 128 then c else '?'

/-- A value of a type that holds no other values. -/
def scalar (type : DataType) (value : Value) : Text :=
  match type with
  | .long => intText value.toInt ++ "LL"
  | .double => float value.toFloat
  | .boolean => Value.boolText value.toBool
  | .char => if value.isNull then "'\\0'" else quotedChar .octal (byteChar value.toChar)
  | .string => text value.toText
  | _ => intText value.toInt

/-- The items of a value in braces, each of a type. -/
def bracedItems (element : DataType) (value : Value) : Text :=
  Java.braced (value.items.map (scalar element))

/-- A value of a vector type. -/
def vectorOf (element vector : DataType) (value : Value) : Text :=
  vector.inCpp ++ bracedItems element value

/-- A matrix of integers. -/
def matrix (value : Value) : Text :=
  DataType.inCpp .intMatrix ++ Java.braced (value.items.map (bracedItems .int))

/-- An integer or the word for a gap, as a text. -/
def slot : Option Int64 → Text
  | some n => "\"" ++ intText n ++ "\""
  | none => "\"null\""

/-- A call of the function that builds a structure, on a vector. -/
def build (kind : Structure) (vectorType data : Text) : Text :=
  Fragment.Cpp.library.builder kind ++ "(" ++ vectorType ++ data ++ ")"

/-- A value of no settled type. -/
def dynamic (value : Value) : Text :=
  if value.isNull then "nullptr" else "string(" ++ text value.compact ++ ")"

/-- A value of a type that is settled. -/
def settled (value : Value) : DataType → Text
  | .intArray => vectorOf .int .intArray value
  | .longArray => vectorOf .long .longArray value
  | .doubleArray => vectorOf .double .doubleArray value
  | .booleanArray => vectorOf .boolean .booleanArray value
  | .charArray => vectorOf .char .charArray value
  | .stringArray => vectorOf .string .stringArray value
  | .intMatrix => matrix value
  | .listNode => build .linkedList "vector<int>" (bracedItems .int value)
  | .treeNode => build .binaryTree "vector<string>" (Java.braced (value.treeSlots.map slot))
  | .graphNode =>
    build .graph "vector<vector<int>>" (Java.braced (value.adjacencyRows.map Java.row))
  | .any => dynamic value
  | type => scalar type value

/-- A value as a literal of a type; `any` is settled by the shape of the value. -/
def literal (value : Value) (type : DataType) : Text :=
  settled value (if type = .any then value.resolve .any else type)

end Kata.Literal.Cpp
