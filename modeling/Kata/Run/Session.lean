import Kata.Harness
import Kata.Run.Report

/-!
# Sessions

A session runs a solution on the test cases of a problem, one after the other, each in an
execution of its own. The judge is given by its answers: the n-th answer belongs to the n-th
submission. A session can be followed by its events, and it can be cancelled; a case that is
under way when that happens is still finished.
-/

namespace Kata.Run

/-- A program that is handed to the judge, and its input. -/
structure Submission where
  language : Language
  program : Text
  stdin : Text
deriving DecidableEq, Repr

/-- A solution of a problem. -/
structure Solution where
  problem : Problem
  language : Language
  source : Text

/-- The submission for a test case. -/
def Solution.submission (solution : Solution) (case : TestCase) : Submission where
  language := solution.language
  program :=
    (Harness.build solution.language solution.problem solution.source case.input).program
  stdin := case.input

/-- The name of the function that the solution means to be called. -/
def Solution.entryName (solution : Solution) : Text :=
  Harness.entryNameIn solution.language solution.problem solution.source

/-! ## Without events -/

/-- The reports on the cases. -/
def caseReports (answers : Nat → Answer) (cases : List TestCase) : List CaseReport :=
  cases.zipIdx.map fun (case, index) => caseReport case (answers index)

/-- Run a solution on all test cases: the report, and what was submitted. -/
def validate (solution : Solution) (answers : Nat → Answer) : Report × List Submission :=
  let cases := solution.problem.testCases
  (Report.ofCases (caseReports answers cases), cases.map solution.submission)

/-! ## With events -/

/-- What happens in a session. -/
inductive Event where
  | started (total : Nat) (entryName : Text)
  | caseStarted (current total : Nat)
  | caseFinished (current total : Nat) (report : CaseReport)
  | done (report : Report)
  | cancelled
deriving DecidableEq, Repr

/-- When a session is cancelled: while the submission of this number is under way, or at 0 ahead
of the first; or never. -/
abbrev Cancellation := Option Nat

/-- Whether a session is cancelled by the time that some submissions are finished. -/
def isCancelled (cancellation : Cancellation) (finished : Nat) : Bool :=
  cancellation.any (· ≤ finished)

/-- The events and submissions of the cases that are left, when `reports` are the reports on those
that are finished. -/
def follow (solution : Solution) (answers : Nat → Answer) (cancellation : Cancellation)
    (total : Nat) : (reports : List CaseReport) → List TestCase → List Event × List Submission
  | reports, [] => ([.done (Report.ofCases reports)], [])
  | reports, case :: rest =>
    let finished := reports.length
    if isCancelled cancellation finished then ([.cancelled], [])
    else
      let report := caseReport case (answers finished)
      let (events, submissions) :=
        follow solution answers cancellation total (reports ++ [report]) rest
      (.caseStarted (finished + 1) total :: .caseFinished (finished + 1) total report :: events,
        solution.submission case :: submissions)

/-- Run a solution on all test cases: the events, and what was submitted. -/
def stream (solution : Solution) (answers : Nat → Answer) (cancellation : Cancellation) :
    List Event × List Submission :=
  let cases := solution.problem.testCases
  let (events, submissions) := follow solution answers cancellation cases.length [] cases
  (.started cases.length solution.entryName :: events, submissions)

/-- An event in JSON. -/
def Event.toJson : Event → Json
  | started total entryName =>
    .object
      [("type", .string "started"), ("total", .int total), ("entry_point", .string entryName)]
  | caseStarted current total =>
    .object [("type", .string "case_started"), ("current", .int current), ("total", .int total)]
  | caseFinished current total report =>
    .object
      [("type", .string "case_finished"), ("current", .int current), ("total", .int total),
       ("report", report.toJson)]
  | done report => .object [("type", .string "done"), ("report", report.toJson)]
  | cancelled => .object [("type", .string "cancelled")]

end Kata.Run
