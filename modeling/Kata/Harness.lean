import Kata.Program.Compose
import Kata.Template

/-!
# From a problem to a program

A solution of a problem is made into a program that runs it on the input of a test case.
-/

namespace Kata

/-- A program, and the name of the function that it calls. -/
structure Harness where
  language : Language
  entryName : Text
  program : Text
deriving DecidableEq, Repr

namespace Harness

/-- The type of the argument at an index: that of the parameter, or for a surplus argument what
its shape suggests. -/
def argumentType (topic : Topic) (schema : Schema) (index : Nat) (value : Value) : DataType :=
  match schema.params[index]? with
  | some param => param.type
  | none => (DataType.ofValue? value topic).getD .any

/-- The argument at an index. A missing one is null. -/
def argument (language : Language) (topic : Topic) (schema : Schema) (values : List Value)
    (index : Nat) : Argument :=
  let value := values[index]?.getD .null
  Argument.ofValue language value (argumentType topic schema index value)

/-- The arguments of a call: as many as there are parameters or values. -/
def arguments (language : Language) (topic : Topic) (schema : Schema) (values : List Value) :
    List Argument :=
  (List.range (max schema.params.length values.length)).map
    (argument language topic schema values)

/-- The starter template of a problem. -/
def template (language : Language) (problem : Problem) : Text :=
  Template.render language problem.entryName (Schema.ofProblem problem) problem.topic

/-- The name of the function that a solution of a problem means to be called. -/
def entryNameIn (language : Language) (problem : Problem) (source : Text) : Text :=
  Detection.entryName language source problem.entryName

/-- What a program is made from, with the schema of the problem given. -/
def requestWith (schema : Schema) (language : Language) (problem : Problem)
    (source input : Text) : Request :=
  Request.make source (entryNameIn language problem source)
    (arguments language problem.topic schema (Value.ofInput input)) schema.returnType

/-- The program that runs a solution of a problem on an input. -/
def build (language : Language) (problem : Problem) (source input : Text) : Harness :=
  let request := requestWith (Schema.ofProblem problem) language problem source input
  { language, entryName := request.entryName, program := Program.compose language request }

end Harness

end Kata
