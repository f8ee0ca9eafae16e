import Kata.DataType.Basic
import Kata.Text.Blank
import Kata.Json.Record

/-!
# Topics

The topic of an exercise decides which data types its parameters and its result have when nothing
else says so.
-/

namespace Kata

/-- What an exercise is about. -/
inductive Topic where
  | array
  | string
  | primitives
  | math
  | matrix
  | linkedList
  | binaryTree
  | graph
  | customClass
  | unset
deriving DecidableEq, Repr, Inhabited

namespace Topic

/-- The name of a topic. -/
def name : Topic → Text
  | array => "array"
  | string => "string"
  | primitives => "primitives"
  | math => "math"
  | matrix => "matrix"
  | linkedList => "linked_list"
  | binaryTree => "binary_tree"
  | graph => "graph"
  | customClass => "custom_class"
  | unset => "unset"

/-- The words that a topic is known by. -/
def spellings : Topic → List Text
  | array => ["array", "arrays"]
  | string => ["string", "strings"]
  | primitives => ["primitives", "primitive"]
  | math => ["math"]
  | matrix => ["matrix"]
  | linkedList => ["linked_list", "linkedlist"]
  | binaryTree => ["binary_tree", "binarytree", "tree"]
  | graph => ["graph"]
  | customClass => ["custom_class", "customclass"]
  | unset => []

/-- All topics that have words. -/
def every : List Topic :=
  [array, string, primitives, math, matrix, linkedList, binaryTree, graph, customClass]

/-- The topic that a text names. Letter case and blanks at the ends do not matter, and a hyphen or
a blank counts as an underscore; an unknown topic counts as unset. -/
def ofText (text : Text) : Topic :=
  let key := (Text.lowercase (Text.trim text)).map fun c => if c = '-' ∨ c = ' ' then '_' else c
  (every.find? fun topic => topic.spellings.contains key).getD unset

/-- The topic of a JSON value: null and unknown texts count as unset. -/
def ofJson (value : Json) : Except Json.Mismatch Topic :=
  (Json.asOptional Json.asText value).map fun text => (text.map ofText).getD unset

/-- The data type that the parameters and the result have for lack of other knowledge. -/
def defaultType? : Topic → Option DataType
  | array => some .intArray
  | string => some .string
  | primitives => some .int
  | math => some .int
  | matrix => some .intMatrix
  | linkedList => some .listNode
  | binaryTree => some .treeNode
  | graph => some .graphNode
  | customClass => some .any
  | unset => none

/-- The structure that a topic is about. -/
def structure? : Topic → Option Structure
  | linkedList => some .linkedList
  | binaryTree => some .binaryTree
  | graph => some .graph
  | _ => none

end Topic

end Kata
