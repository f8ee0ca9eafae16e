import Kata.Language
import Kata.Name
import Kata.Topic
import Kata.Json.Basic

/-!
# Problems

A problem is an exercise as it is stored: its title, what is known about the function to be
written, and the test cases.
-/

namespace Kata

/-- A test case: the arguments, one a line, and the output that a right solution prints. The
expected output of a hidden case is not shown to those who solve the exercise. -/
structure TestCase where
  input : Text
  expectedOutput : Text
  isHidden : Bool
deriving DecidableEq, Repr

/-- An exercise as it is stored. -/
structure Problem where
  title : Text
  functionName? : Option Text
  topic : Topic
  /-- A description of the parameters and the result, of varying quality. -/
  parameterSchema? : Option Json
  /-- Prototypes of the function in several languages, at most one each. -/
  signatures : List (Language × Text)
  testCases : List TestCase

namespace Problem

/-- A problem of which nothing but the title is known. -/
def titled (title : Text) : Problem :=
  { title, functionName? := none, topic := .unset, parameterSchema? := none, signatures := [],
    testCases := [] }

/-- The name of the function to be written: the one that is stored, else the one that the title
suggests. -/
def entryName (problem : Problem) : Text :=
  match problem.functionName?.map Text.trim with
  | none => Name.ofTitle problem.title
  | some [] => Name.ofTitle problem.title
  | some name => name

end Problem

end Kata
