import Kata.Fragment.Python
import Kata.Fragment.JavaScript
import Kata.Literal.Coerce

/-!
# Literals of Python and JavaScript

Both languages take a value of any shape: lists stand in square brackets, records in braces, and
texts are quoted as in JSON. They differ in a few words and in the names of the functions that
build structures.
-/

namespace Kata.Literal

/-- The words in which the two languages differ. -/
structure Vocabulary where
  nullWord : Text
  trueWord : Text
  falseWord : Text
  notANumber : Text
  infinite : Text
  negativeInfinite : Text
  builder : Structure → Text

/-- The words of Python. -/
def Vocabulary.python : Vocabulary where
  nullWord := "None"
  trueWord := "True"
  falseWord := "False"
  notANumber := "float('nan')"
  infinite := "float('inf')"
  negativeInfinite := "float('-inf')"
  builder := Fragment.Python.library.builder

/-- The words of JavaScript. -/
def Vocabulary.javaScript : Vocabulary where
  nullWord := "null"
  trueWord := "true"
  falseWord := "false"
  notANumber := "NaN"
  infinite := "Infinity"
  negativeInfinite := "-Infinity"
  builder := Fragment.JavaScript.library.builder

/-- The pieces between brackets, with a comma and a blank between neighbours. -/
def enclosed (opening closing : Char) (pieces : List Text) : Text :=
  opening :: Text.joinWith ", " pieces ++ [closing]

/-- The decimal digits of an integer. -/
def intText (n : Int64) : Text :=
  Text.ofInt n.toInt

/-- A floating-point literal, with words of their own for what is not finite. -/
def floatWord (notANumber infinite negativeInfinite : Text) (x : Float) : Text :=
  if x.isNaN then notANumber
  else if x.isInf then if x < 0.0 then negativeInfinite else infinite
  else Decimal.writeFloat .exact x

namespace Vocabulary

/-- A truth value. -/
def boolWord (words : Vocabulary) (b : Bool) : Text :=
  if b then words.trueWord else words.falseWord

/-- A floating-point number. -/
def float (words : Vocabulary) (x : Float) : Text :=
  floatWord words.notANumber words.infinite words.negativeInfinite x

mutual

/-- A value as it is, whatever its shape. -/
def dynamic (words : Vocabulary) : Value → Text
  | .null => words.nullWord
  | .bool b => words.boolWord b
  | .int n => intText n
  | .float x => words.float x
  | .text t => Json.quote t
  | .list items => enclosed '[' ']' (dynamicItems words items)
  | .record fields => enclosed '\x7b' '\x7d' (dynamicFields words fields)

/-- The texts of a list of values. -/
def dynamicItems (words : Vocabulary) : List Value → List Text
  | [] => []
  | item :: rest => dynamic words item :: dynamicItems words rest

/-- The texts of a list of fields. -/
def dynamicFields (words : Vocabulary) : List (Text × Value) → List Text
  | [] => []
  | (key, value) :: rest =>
    (Json.quote key ++ ": " ++ dynamic words value) :: dynamicFields words rest

end

/-- A value of a type that holds no other values. -/
def scalar (words : Vocabulary) (type : DataType) (value : Value) : Text :=
  if value.isNull then words.nullWord
  else
    match type with
    | .double => words.float value.toFloat
    | .boolean => words.boolWord value.toBool
    | .char => Json.quote [value.toChar]
    | .string => Json.quote value.toText
    | _ => intText value.toInt

/-- An array whose items have a type. -/
def array (words : Vocabulary) (element : DataType) (value : Value) : Text :=
  if value.isNull then words.nullWord
  else enclosed '[' ']' (value.items.map (words.scalar element))

/-- A matrix of integers. -/
def matrix (words : Vocabulary) (value : Value) : Text :=
  if value.isNull then words.nullWord
  else enclosed '[' ']' (value.items.map (words.array .int))

/-- An integer, or the word for a gap. -/
def slot (words : Vocabulary) : Option Int64 → Text
  | some n => intText n
  | none => words.nullWord

/-- A row of integers. -/
def row (ints : List Int64) : Text :=
  enclosed '[' ']' (ints.map intText)

/-- A call of the function that builds a structure. -/
def build (words : Vocabulary) (kind : Structure) (data : Text) : Text :=
  words.builder kind ++ "(" ++ data ++ ")"

/-- A value of a type that is settled. -/
def settled (words : Vocabulary) (value : Value) : DataType → Text
  | .intArray => words.array .int value
  | .longArray => words.array .long value
  | .doubleArray => words.array .double value
  | .booleanArray => words.array .boolean value
  | .charArray => words.array .char value
  | .stringArray => words.array .string value
  | .intMatrix => words.matrix value
  | .listNode => words.build .linkedList (row value.listInts)
  | .treeNode =>
    words.build .binaryTree (enclosed '[' ']' (value.treeSlots.map words.slot))
  | .graphNode => words.build .graph (enclosed '[' ']' (value.adjacencyRows.map row))
  | .any => words.dynamic value
  | type => words.scalar type value

/-- A value as a literal of a type; `any` is settled by the shape of the value. -/
def literal (words : Vocabulary) (value : Value) (type : DataType) : Text :=
  words.settled value (if type = .any then value.resolve .any else type)

end Vocabulary

end Kata.Literal
