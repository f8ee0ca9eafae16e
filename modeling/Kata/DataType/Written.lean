import Kata.DataType.Basic
import Kata.Language

/-!
# Data types in the languages

How each language writes a data type. C++ passes vectors by reference, so there a type can be
written in one way for a parameter and in another for a value.
-/

namespace Kata.DataType

/-- Where a type is written. -/
inductive Position where
  | parameter
  | value
deriving DecidableEq, Repr

/-- A data type in Python. -/
def inPython : DataType → Text
  | int => "int"
  | long => "int"
  | double => "float"
  | boolean => "bool"
  | char => "str"
  | string => "str"
  | intArray => "List[int]"
  | longArray => "List[int]"
  | doubleArray => "List[float]"
  | booleanArray => "List[bool]"
  | charArray => "List[str]"
  | stringArray => "List[str]"
  | intMatrix => "List[List[int]]"
  | listNode => "Optional[ListNode]"
  | treeNode => "Optional[TreeNode]"
  | graphNode => "Optional[GraphNode]"
  | any => "Any"

/-- A data type in the comments of JavaScript. -/
def inJavaScript : DataType → Text
  | int => "number"
  | long => "number"
  | double => "number"
  | boolean => "boolean"
  | char => "character"
  | string => "string"
  | intArray => "number[]"
  | longArray => "number[]"
  | doubleArray => "number[]"
  | booleanArray => "boolean[]"
  | charArray => "character[]"
  | stringArray => "string[]"
  | intMatrix => "number[][]"
  | listNode => "ListNode"
  | treeNode => "TreeNode"
  | graphNode => "GraphNode"
  | any => "*"

/-- A data type in Java. -/
def inJava : DataType → Text
  | int => "int"
  | long => "long"
  | double => "double"
  | boolean => "boolean"
  | char => "char"
  | string => "String"
  | intArray => "int[]"
  | longArray => "long[]"
  | doubleArray => "double[]"
  | booleanArray => "boolean[]"
  | charArray => "char[]"
  | stringArray => "String[]"
  | intMatrix => "List<List<Integer>>"
  | listNode => "ListNode"
  | treeNode => "TreeNode"
  | graphNode => "GraphNode"
  | any => "Object"

/-- A data type in C++, for a value. -/
def inCpp : DataType → Text
  | int => "int"
  | long => "long long"
  | double => "double"
  | boolean => "bool"
  | char => "char"
  | string => "string"
  | intArray => "vector<int>"
  | longArray => "vector<long long>"
  | doubleArray => "vector<double>"
  | booleanArray => "vector<bool>"
  | charArray => "vector<char>"
  | stringArray => "vector<string>"
  | intMatrix => "vector<vector<int>>"
  | listNode => "ListNode*"
  | treeNode => "TreeNode*"
  | graphNode => "GraphNode*"
  | any => "auto"

/-- A data type as a language writes it. -/
def written (language : Language) (position : Position) (type : DataType) : Text :=
  match language with
  | .python => type.inPython
  | .javaScript => type.inJavaScript
  | .java => type.inJava
  | .cpp =>
    if position = .parameter ∧ type.isArray then type.inCpp ++ "&" else type.inCpp

end Kata.DataType
