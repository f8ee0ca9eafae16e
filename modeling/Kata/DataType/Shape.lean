import Kata.DataType.Basic
import Kata.Topic
import Kata.Value.Basic

/-!
# Data types of values

The shape of a value suggests a data type. The topic decides between an array and a structure
that is written as one: `[1,2,3]` is a linked list where the exercise is about linked lists.
-/

namespace Kata.DataType

/-! ## Shapes of items -/

/-- Whether a value is a list. -/
def isList : Value → Bool
  | .list _ => true
  | _ => false

/-- Whether a value is an integer. -/
def isInt : Value → Bool
  | .int _ => true
  | _ => false

/-- Whether a value is an integer of 32 bits. -/
def isShortInt : Value → Bool
  | .int n => Value.isShort n
  | _ => false

/-- Whether a value is an integer or null. -/
def isIntOrNull : Value → Bool
  | .int _ => true
  | .null => true
  | _ => false

/-- Whether a value is a number. -/
def isNumber : Value → Bool
  | .int _ => true
  | .float _ => true
  | _ => false

/-- Whether a value is a truth value. -/
def isBool : Value → Bool
  | .bool _ => true
  | _ => false

/-- Whether a value is a text. -/
def isText : Value → Bool
  | .text _ => true
  | _ => false

/-! ## Inference -/

/-- The data type that a list of items suggests. -/
def ofItems? (items : List Value) (topic : Topic) : Option DataType :=
  if items.isEmpty then some ((topic.structure?.map Structure.dataType).getD intArray)
  else if items.all isList then some (if topic = .graph then graphNode else intMatrix)
  else if topic = .linkedList ∧ items.all isInt then some listNode
  else if topic = .binaryTree ∧ items.all isIntOrNull then some treeNode
  else if items.all isInt then some (if items.all isShortInt then intArray else longArray)
  else if items.all isIntOrNull then some treeNode
  else if items.all isNumber then some doubleArray
  else if items.all isBool then some booleanArray
  else if items.all isText then some stringArray
  else none

/-- The data type that the shape of a value suggests, if it suggests any. -/
def ofValue? (value : Value) (topic : Topic) : Option DataType :=
  match value with
  | .null => topic.structure?.map Structure.dataType
  | .bool _ => some boolean
  | .int n => some (if Value.isShort n then int else long)
  | .float _ => some double
  | .text _ => some string
  | .record _ => none
  | .list items => ofItems? items topic

end Kata.DataType
