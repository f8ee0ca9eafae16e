import Kata.Problem.Basic
import Kata.Run.Outcome
import Kata.Text.Blank

/-!
# Reports

A case passes if the output is the expected one, blanks at the ends apart, and nothing went wrong.
The report on a hidden case does not show what was expected. A submission passes if it has cases
and all of them pass.
-/

namespace Kata.Run

open Json

/-! ## Cases -/

/-- The report on one test case. -/
structure CaseReport where
  input : Text
  expectedOutput : Text
  actualOutput : Text
  error : Text
  isPassed : Bool
  isHidden : Bool
deriving DecidableEq, Repr

/-- A text without blanks at its ends, empty if there is none. -/
def trimmed (text : Option Text) : Text :=
  Text.trim (text.getD [])

/-- What stands in place of the expected output of a hidden case. -/
def hiddenMark : Text := "Hidden"

/-- The expected output as it is shown. -/
def shownOutput (case : TestCase) : Text :=
  if case.isHidden then hiddenMark else Text.trim case.expectedOutput

/-- What went wrong: the error output, else that of the compiler, else what a bad end is called.
Empty if nothing went wrong. -/
def errorText (outcome : Outcome) : Text :=
  if trimmed outcome.stderr? ≠ [] then trimmed outcome.stderr?
  else if trimmed outcome.compileOutput? ≠ [] then trimmed outcome.compileOutput?
  else
    match outcome.status? with
    | none => []
    | some status =>
      if status.isTerminal && !status.isAccepted then
        if trimmed outcome.message? ≠ [] then trimmed outcome.message?
        else Text.trim status.description
      else []

/-- The report on a case whose program was run. -/
def grade (case : TestCase) (outcome : Outcome) : CaseReport where
  input := case.input
  expectedOutput := shownOutput case
  actualOutput := trimmed outcome.stdout?
  error := errorText outcome
  isPassed :=
    errorText outcome == [] && trimmed outcome.stdout? == Text.trim case.expectedOutput
  isHidden := case.isHidden

/-- The report on a case whose program has no outcome. -/
def failureReport (case : TestCase) (failure : Failure) : CaseReport where
  input := case.input
  expectedOutput := shownOutput case
  actualOutput := []
  error := failure.message
  isPassed := false
  isHidden := case.isHidden

/-- The report on a case, from the answer of the judge. -/
def caseReport (case : TestCase) : Answer → CaseReport
  | .ok outcome => grade case outcome
  | .error failure => failureReport case failure

/-! ## Submissions -/

/-- The report on all test cases. -/
structure Report where
  isPassed : Bool
  passedCount : Nat
  total : Nat
  cases : List CaseReport
deriving DecidableEq, Repr

/-- The report that the reports on the cases make up. -/
def Report.ofCases (cases : List CaseReport) : Report :=
  let passedCount := cases.countP CaseReport.isPassed
  { isPassed := 0 < cases.length && passedCount == cases.length
    passedCount
    total := cases.length
    cases }

/-! ## JSON -/

/-- The report on a case in JSON. -/
def CaseReport.toJson (report : CaseReport) : Json :=
  .object
    [("input", .string report.input), ("expectedOutput", .string report.expectedOutput),
     ("actualOutput", .string report.actualOutput), ("error", .string report.error),
     ("passed", .bool report.isPassed), ("hidden", .bool report.isHidden)]

/-- The report on a submission in JSON. -/
def Report.toJson (report : Report) : Json :=
  .object
    [("passed", .bool report.isPassed), ("passedCount", .int report.passedCount),
     ("total", .int report.total), ("cases", .array (report.cases.map CaseReport.toJson))]

/-- A field that has to be there. -/
def requiredField {α : Type} (name : Text) (read : Json → Except Mismatch α)
    (set : α → CaseReport → CaseReport) : RecordField CaseReport where
  name := name
  otherNames := []
  isRequired := true
  put value report := (read value).map fun content => set content report

/-- The record of the report on a case. -/
def CaseReport.record : Json.Record CaseReport where
  title := "CaseReport"
  blank := ⟨[], [], [], [], false, false⟩
  fields :=
    [requiredField "input" asText fun input report => { report with input },
     requiredField "expectedOutput" asText fun expectedOutput report =>
       { report with expectedOutput },
     requiredField "actualOutput" asText fun actualOutput report => { report with actualOutput },
     requiredField "error" asText fun error report => { report with error },
     requiredField "passed" asFlag fun isPassed report => { report with isPassed },
     requiredField "hidden" asFlag fun isHidden report => { report with isHidden }]

end Kata.Run
