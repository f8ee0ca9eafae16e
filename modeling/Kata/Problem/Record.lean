import Kata.Problem.Basic
import Kata.Json.Record

/-!
# Problems in JSON

The fields of stored problems and test cases, and the names that they go by.
-/

namespace Kata

open Json

/-- The record of a test case. -/
def TestCase.record : Json.Record TestCase where
  title := "TestCase"
  blank := { input := [], expectedOutput := [], isHidden := false }
  fields :=
    [{ name := "input", otherNames := [], isRequired := true
       put := fun value case => (asText value).map fun input => { case with input } },
     { name := "expected_output", otherNames := ["expectedOutput", "expected"], isRequired := true
       put := fun value case =>
         (asText value).map fun expectedOutput => { case with expectedOutput } },
     { name := "hidden", otherNames := ["isHidden"], isRequired := false
       put := fun value case => (asFlag value).map fun isHidden => { case with isHidden } }]

/-- Prototypes by language; of two for one language the later counts. -/
def Problem.readSignatures : Json → Except Mismatch (List (Language × Text))
  | .object members => do
    let entries ← members.mapM fun (key, value) => do
      let language ← Language.ofKey key
      let signature ← asText value
      return (language, signature)
    return collapseMembers entries
  | other => mismatch .map other

/-- The record of a problem. -/
def Problem.record : Json.Record Problem where
  title := "ProblemSpec"
  blank := Problem.titled []
  fields :=
    [{ name := "title", otherNames := [], isRequired := true
       put := fun value problem => (asText value).map fun title => { problem with title } },
     { name := "function_name", otherNames := ["functionName"], isRequired := false
       put := fun value problem =>
         (asOptional asText value).map fun functionName? => { problem with functionName? } },
     { name := "question_type", otherNames := ["questionType"], isRequired := false
       put := fun value problem =>
         (Topic.ofJson value).map fun topic => { problem with topic } },
     { name := "parameter_schema", otherNames := ["parameterSchema"], isRequired := false
       put := fun value problem =>
         (asOptional (fun value => .ok value.collapse) value).map fun parameterSchema? =>
           { problem with parameterSchema? } },
     { name := "signatures", otherNames := [], isRequired := false
       put := fun value problem =>
         (Problem.readSignatures value).map fun signatures => { problem with signatures } },
     { name := "test_cases", otherNames := ["testCases"], isRequired := false
       put := fun value problem =>
         (asList TestCase.record.read value).map fun testCases => { problem with testCases } }]

end Kata
