import Kata.Text.Basic

/-!
# Data types

Every parameter and every result has one of seventeen data types, from which each language
derives its own notation. Three of them are structures made of nodes.
-/

namespace Kata

/-- The structures made of nodes. -/
inductive Structure where
  | linkedList
  | binaryTree
  | graph
deriving DecidableEq, Repr

/-- The type of a parameter or a result, free of any programming language. -/
inductive DataType where
  | int
  | long
  | double
  | boolean
  | char
  | string
  | intArray
  | longArray
  | doubleArray
  | booleanArray
  | charArray
  | stringArray
  | intMatrix
  | listNode
  | treeNode
  | graphNode
  | any
deriving DecidableEq, Repr, Inhabited

namespace Structure

/-- All structures, in the order in which their helpers are laid out. -/
def every : List Structure := [linkedList, binaryTree, graph]

/-- The name of the node type of a structure, the same in all languages. -/
def typeName : Structure → Text
  | linkedList => "ListNode"
  | binaryTree => "TreeNode"
  | graph => "GraphNode"

/-- The data type of a structure. -/
def dataType : Structure → DataType
  | linkedList => .listNode
  | binaryTree => .treeNode
  | graph => .graphNode

/-- The name of a structure itself. -/
def name : Structure → Text
  | linkedList => "LinkedList"
  | binaryTree => "BinaryTree"
  | graph => "Graph"

end Structure

namespace DataType

/-- All data types. -/
def every : List DataType :=
  [int, long, double, boolean, char, string, intArray, longArray, doubleArray, booleanArray,
    charArray, stringArray, intMatrix, listNode, treeNode, graphNode, any]

/-- The name of a data type. -/
def name : DataType → Text
  | int => "int"
  | long => "long"
  | double => "double"
  | boolean => "boolean"
  | char => "char"
  | string => "String"
  | intArray => "int[]"
  | longArray => "long[]"
  | doubleArray => "double[]"
  | booleanArray => "boolean[]"
  | charArray => "char[]"
  | stringArray => "String[]"
  | intMatrix => "List<List<Integer>>"
  | listNode => "ListNode"
  | treeNode => "TreeNode"
  | graphNode => "GraphAdjList"
  | any => "Any"

/-- The type of the items of an array. -/
def element? : DataType → Option DataType
  | intArray => some int
  | longArray => some long
  | doubleArray => some double
  | booleanArray => some boolean
  | charArray => some char
  | stringArray => some string
  | intMatrix => some intArray
  | _ => none

/-- Whether a data type is an array or a matrix. -/
def isArray (type : DataType) : Bool :=
  type.element?.isSome

/-- The structure that a data type stands for. -/
def structure? : DataType → Option Structure
  | listNode => some .linkedList
  | treeNode => some .binaryTree
  | graphNode => some .graph
  | _ => none

/-- Whether a data type is a structure. -/
def isStructural (type : DataType) : Bool :=
  type.structure?.isSome

end DataType

end Kata
