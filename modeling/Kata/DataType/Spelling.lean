import Kata.DataType.Basic
import Kata.Text.Blank
import Kata.Json.Record

/-!
# Spellings of data types

A data type is recognised in the notation of any of the languages. Blanks do not matter, nor do
the marks of pointers and references at the end, and a type that may be absent stands for the
type itself.
-/

namespace Kata.DataType

/-- The spellings of a data type in the languages, its own name first. -/
def spellings : DataType → List Text
  | int => ["int", "Integer", "integer", "i32", "number"]
  | long => ["long", "Long", "longlong", "int64_t", "i64", "bigint"]
  | double => ["double", "Double", "float", "Float", "f64"]
  | boolean => ["boolean", "Boolean", "bool"]
  | char => ["char", "Character", "character"]
  | string => ["String", "string", "str"]
  | intArray =>
    ["int[]", "Integer[]", "vector<int>", "List<Integer>", "List[int]", "list[int]", "number[]"]
  | longArray => ["long[]", "Long[]", "vector<long>", "vector<longlong>", "List<Long>"]
  | doubleArray =>
    ["double[]", "Double[]", "vector<double>", "List<Double>", "List[float]", "list[float]"]
  | booleanArray =>
    ["boolean[]", "Boolean[]", "vector<bool>", "List<Boolean>", "List[bool]", "list[bool]"]
  | charArray => ["char[]", "Character[]", "vector<char>", "List<Character>"]
  | stringArray =>
    ["String[]", "string[]", "vector<string>", "List<String>", "List[str]", "list[str]"]
  | intMatrix =>
    ["List<List<Integer>>", "int[][]", "Integer[][]", "vector<vector<int>>", "List[List[int]]",
      "list[list[int]]", "number[][]"]
  | listNode => ["ListNode"]
  | treeNode => ["TreeNode"]
  | graphNode => ["GraphAdjList", "GraphNode", "Node"]
  | any => ["Any", "any", "Object", "object", "auto"]

/-- What stands between an opening and a closing part. -/
def between? (opening closing text : Text) : Option Text :=
  (Text.after? opening text).bind (Text.before? closing)

/-- The words for an absent value. -/
def absentWords : List Text := ["null", "undefined", "None"]

/-- The type itself, of a type that may be absent. -/
def unwrapOptional (text : Text) : Text :=
  match between? "Optional[" "]" text with
  | some inner => inner
  | none =>
    match between? "Optional<" ">" text with
    | some inner => inner
    | none =>
      if text.contains '|' then
        ((Text.splitOn '|' text).find? fun part => !absentWords.contains part).getD text
      else text

/-- The mark of a pointer or a reference. -/
def isPointerMark (c : Char) : Bool :=
  c == '*' || c == '&'

/-- A spelling without blanks, pointer marks and the wrapping of an optional type. -/
def spellingKey (spelling : Text) : Text :=
  Text.dropEndWhile isPointerMark
    (unwrapOptional (spelling.filter fun c => !Text.isBlank c))

/-- The data type that a spelling stands for. -/
def ofSpelling? (spelling : Text) : Option DataType :=
  every.find? fun type => type.spellings.contains (spellingKey spelling)

/-- The data type of a JSON value: an unknown spelling stands for any type. -/
def ofJson (value : Json) : Except Json.Mismatch DataType :=
  (Json.asText value).map fun spelling => (ofSpelling? spelling).getD any

end Kata.DataType
