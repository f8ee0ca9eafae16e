import Kata.DataType.Written
import Kata.Fragment.Cpp
import Kata.Fragment.Java
import Kata.Fragment.JavaScript
import Kata.Fragment.Python
import Kata.Schema
import Kata.Text.Lines

/-!
# Starter templates

A template is what somebody who is about to solve an exercise is given: the head of the function,
with the definitions of the structures that it deals with as comments ahead of it.
-/

namespace Kata.Template

/-! ## Comments -/

/-- The structures whose definitions a template shows. -/
def shownStructures (schema : Schema) (topic : Topic) : List Structure :=
  Structure.every.filter fun kind =>
    topic.structure? == some kind || schema.allTypes.any fun type => type.structure? == some kind

/-- The heading of the definition of a structure. -/
def heading : Structure → Text
  | .linkedList => "Definition for singly-linked list."
  | .binaryTree => "Definition for a binary tree node."
  | .graph => "Definition for a graph node (built from a 1-indexed adjacency list)."

/-- Each line of a text behind a mark; an empty line keeps the mark without its blank. -/
def commentLines (mark content : Text) : Text :=
  Text.joinWith ['\n']
    ((Text.lines content).map fun line => if line = [] then Text.trimEnd mark else mark ++ line)

/-- A parameter and its type. -/
def parameterNote (language : Language) (param : Schema.Param) : Text :=
  param.name ++ ": " ++ param.type.written language .parameter

/-- What is said about the parameters and the result of an exercise about a class. -/
def shapeNote (language : Language) (schema : Schema) : Text :=
  Text.joinWith ['\n']
    ["Custom class problem: implement the method below on your class.",
     "Parameters: " ++ Text.joinWith ", " (schema.params.map (parameterNote language)),
     "Returns: " ++ schema.returnType.written language .value]

/-- A comment between `/**` and `*/`. -/
def blockComment (content : Text) : Text :=
  "/**\n" ++ content ++ "\n */\n"

/-- The definition of a structure as a comment between `/**` and `*/`. -/
def definitionComment (library : Fragment.Library) (kind : Structure) : Text :=
  blockComment
    (" * " ++ heading kind ++ "\n" ++ commentLines " * " (Text.trimEnd (library.definition kind)))

/-- The definitions of the structures that a template shows. -/
def definitionComments (library : Fragment.Library) (schema : Schema) (topic : Topic) : Text :=
  (shownStructures schema topic).flatMap (definitionComment library)

/-- What a template says about an exercise about a class, as a comment. -/
def shapeComment (language : Language) (schema : Schema) (topic : Topic) : Text :=
  if topic = .customClass then blockComment (commentLines " * " (shapeNote language schema))
  else []

/-! ## The languages -/

/-- The definition of a structure as Python comments. -/
def pythonDefinition (kind : Structure) : Text :=
  "# " ++ heading kind ++ "\n" ++
    commentLines "# " (Text.trimEnd (Fragment.Python.library.definition kind)) ++ "\n"

/-- What a template says about an exercise about a class, as Python comments. -/
def pythonShape (schema : Schema) (topic : Topic) : Text :=
  if topic = .customClass then commentLines "# " (shapeNote .python schema) ++ "\n" else []

/-- A parameter behind the receiver. -/
def pythonParameter (param : Schema.Param) : Text :=
  ", " ++ param.name ++ ": " ++ param.type.inPython

/-- The template in Python. -/
def python (entryName : Text) (schema : Schema) (topic : Topic) : Text :=
  (shownStructures schema topic).flatMap pythonDefinition ++ pythonShape schema topic ++
    "class Solution:\n    def " ++ entryName ++ "(self" ++
    schema.params.flatMap pythonParameter ++ ") -> " ++ schema.returnType.inPython ++
    ":\n        # Write your code here\n        pass\n"

/-- The comment on a parameter. -/
def javaScriptParameter (param : Schema.Param) : Text :=
  " * @param \x7b" ++ param.type.inJavaScript ++ "\x7d " ++ param.name ++ "\n"

/-- The template in JavaScript. -/
def javaScript (entryName : Text) (schema : Schema) (topic : Topic) : Text :=
  let shape :=
    if topic = .customClass then commentLines " * " (shapeNote .javaScript schema) ++ ['\n'] else []
  definitionComments Fragment.JavaScript.library schema topic ++ "/**\n" ++ shape ++
    schema.params.flatMap javaScriptParameter ++
    " * @return \x7b" ++ schema.returnType.inJavaScript ++ "\x7d\n */\nvar " ++ entryName ++
    " = function(" ++ Text.joinWith ", " (schema.params.map Schema.Param.name) ++
    ") \x7b\n    // Write your code here\n\x7d;\n"

/-- A type and the name of the parameter that has it. -/
def typedParameter (type name : Text) : Text :=
  type ++ " " ++ name

/-- The template in Java. -/
def java (entryName : Text) (schema : Schema) (topic : Topic) : Text :=
  let params := schema.params.map fun param => typedParameter param.type.inJava param.name
  definitionComments Fragment.Java.library schema topic ++ shapeComment .java schema topic ++
    "class Solution \x7b\n    public " ++ schema.returnType.inJava ++ " " ++ entryName ++ "(" ++
    Text.joinWith ", " params ++
    ") \x7b\n        // Write your code here\n    \x7d\n\x7d\n"

/-- The name of the type parameter of a number. -/
def typeParameter (number : Nat) : Text :=
  "T" ++ Text.ofNat number

/-- The parameters in C++. One that can be anything gets a type parameter of its own; `count` of
them were given out. -/
def cppParameters (count : Nat) : List Schema.Param → List Text
  | [] => []
  | param :: rest =>
    if param.type = .any then
      typedParameter (typeParameter (count + 1)) param.name :: cppParameters (count + 1) rest
    else
      typedParameter (param.type.written .cpp .parameter) param.name :: cppParameters count rest

/-- The head of a C++ function with type parameters, if there are any. -/
def cppGenerics (schema : Schema) : Text :=
  let count := schema.params.countP fun param => param.type == .any
  let names := (List.range count).map fun index =>
    "typename ".toList ++ typeParameter (index + 1)
  if count = 0 then [] else "    template <" ++ Text.joinWith ", " names ++ ">\n"

/-- The template in C++. -/
def cpp (entryName : Text) (schema : Schema) (topic : Topic) : Text :=
  definitionComments Fragment.Cpp.library schema topic ++ shapeComment .cpp schema topic ++
    "class Solution \x7b\npublic:\n" ++ cppGenerics schema ++ "    " ++
    schema.returnType.inCpp ++ " " ++ entryName ++ "(" ++
    Text.joinWith ", " (cppParameters 0 schema.params) ++
    ") \x7b\n        // Write your code here\n    \x7d\n\x7d;\n"

/-- The template in a language. -/
def render (language : Language) (entryName : Text) (schema : Schema) (topic : Topic) : Text :=
  match language with
  | .python => python entryName schema topic
  | .javaScript => javaScript entryName schema topic
  | .java => java entryName schema topic
  | .cpp => cpp entryName schema topic

end Kata.Template
