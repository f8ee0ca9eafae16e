import Kata.Problem.Basic
import Kata.Prototype.Reading
import Kata.DataType.Shape
import Kata.Value.Line

/-!
# Schemas

A schema names and types all parameters of the function to be written, and types its result. It
is put together from what is stored with a problem: for each parameter, the stored description
counts first, then the first prototype that can be read, then the shape of the first test case,
then the topic. There is always a schema.
-/

namespace Kata

/-- A parameter of the function to be written. -/
structure Schema.Param where
  name : Text
  type : DataType
deriving DecidableEq, Repr

/-- The parameters of the function to be written and the type of its result. -/
structure Schema where
  params : List Schema.Param
  returnType : DataType
deriving DecidableEq, Repr

namespace Schema

/-- All types of a schema, that of the result last. -/
def allTypes (schema : Schema) : List DataType :=
  schema.params.map Param.type ++ [schema.returnType]

/-! ## Stored descriptions -/

/-- The text and the data type of a JSON value that spells one. -/
def spelledType? (value : Option Json) : Option DataType :=
  (value.bind Json.asText?).bind DataType.ofSpelling?

/-- A stored parameter: a spelling of its type, or an object with a name and a type. -/
def readParameter : Json → Prototype.Parameter
  | .string spelling => ⟨none, DataType.ofSpelling? spelling⟩
  | .object members =>
    ⟨((Json.object members).get? "name").bind Json.asText?,
      spelledType? ((Json.object members).get? "type")⟩
  | _ => ⟨none, none⟩

/-- What a stored description says about the parameters and the result. -/
structure Stored where
  parameters : List Prototype.Parameter
  returnType? : Option DataType
deriving DecidableEq, Repr

/-- A description that says nothing. -/
def Stored.nothing : Stored := ⟨[], none⟩

/-- The stored description in an object; any other value says nothing. -/
def Stored.ofObject : Json → Stored
  | .object members =>
    let value := Json.object members
    let entries := ((value.get? "params").or (value.get? "parameters")).bind Json.asArray?
    let result :=
      (value.get? "returnType").or ((value.get? "return_type").or (value.get? "return"))
    ⟨(entries.getD []).map readParameter, spelledType? result⟩
  | _ => nothing

/-- The stored description in any value: an object, or a text that holds one. -/
def Stored.ofJson? : Option Json → Stored
  | none => nothing
  | some (.string text) =>
    match Json.parse text with
    | .ok value => ofObject value
    | .error _ => nothing
  | some value => ofObject value

/-! ## Prototypes -/

/-- The languages in the order in which their prototypes are consulted. -/
def prototypeOrder : List Language := [.java, .cpp, .python, .javaScript]

/-- The first prototype of a problem that can be read. -/
def firstPrototype? (problem : Problem) : Option Prototype :=
  prototypeOrder.findSome? fun language =>
    (problem.signatures.lookup language).bind (Prototype.ofText? language)

/-! ## The schema of a problem -/

/-- The name of a parameter that has none, by its place. -/
def positionalName : (index : Nat) → Text
  | 0 => "param"
  | index + 1 => "param" ++ Text.ofNat (index + 2)

/-- All that is known about the parameters and the result of the function to be written. -/
structure Sources where
  stored : Stored
  prototype? : Option Prototype
  inputs : List Value
  output? : Option Value
  topic : Topic

/-- The parameters of the prototype. -/
def Sources.prototypeParameters (sources : Sources) : List Prototype.Parameter :=
  (sources.prototype?.map Prototype.parameters).getD []

/-- What a problem says. -/
def Sources.ofProblem (problem : Problem) : Sources where
  stored := Stored.ofJson? problem.parameterSchema?
  prototype? := firstPrototype? problem
  inputs := (problem.testCases.head?.map fun case => Value.ofInput case.input).getD []
  output? := problem.testCases.head?.bind fun case =>
    match Text.trim case.expectedOutput with
    | [] => none
    | output => some (Value.ofLine output)
  topic := problem.topic

/-- The names of the parameters, from the first source that tells their number. There is at least
one parameter. -/
def Sources.names (sources : Sources) : List (Option Text) :=
  if !sources.stored.parameters.isEmpty then
    sources.stored.parameters.map Prototype.Parameter.name?
  else if !sources.prototypeParameters.isEmpty then
    sources.prototypeParameters.map Prototype.Parameter.name?
  else List.replicate (max sources.inputs.length 1) none

/-- The type of the parameter at an index, from the first source that tells it. -/
def Sources.paramType (sources : Sources) (index : Nat) : DataType :=
  let stored := sources.stored.parameters[index]?.bind Prototype.Parameter.type?
  let prototype := sources.prototypeParameters[index]?.bind Prototype.Parameter.type?
  let shape := sources.inputs[index]?.bind fun value => DataType.ofValue? value sources.topic
  (stored.or (prototype.or (shape.or sources.topic.defaultType?))).getD .int

/-- The type of the result, from the first source that tells it. -/
def Sources.returnType (sources : Sources) : DataType :=
  let prototype := sources.prototype?.bind Prototype.returnType?
  let shape := sources.output?.bind fun value => DataType.ofValue? value sources.topic
  (sources.stored.returnType?.or (prototype.or (shape.or sources.topic.defaultType?))).getD .any

/-- The parameter at an index. -/
def Sources.param (sources : Sources) (name? : Option Text) (index : Nat) : Param where
  name := (name?.bind Name.identifier?).getD (positionalName index)
  type := sources.paramType index

/-- The schema that the sources make up. -/
def Sources.schema (sources : Sources) : Schema where
  params := sources.names.zipIdx.map fun (name?, index) => sources.param name? index
  returnType := sources.returnType

/-- The schema of a problem. -/
def ofProblem (problem : Problem) : Schema :=
  (Sources.ofProblem problem).schema

/-- A schema in JSON. -/
def toJson (schema : Schema) : Json :=
  .object
    [("params", .array (schema.params.map fun param =>
      .object [("name", .string param.name), ("type", .string param.type.name)])),
     ("returnType", .string schema.returnType.name)]

end Schema

end Kata
