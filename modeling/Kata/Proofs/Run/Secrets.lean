import Kata.Proofs.Run.Streaming

/-!
# Secrets of hidden cases

The expected output of a hidden case decides whether that case is passed, and with it whether the
submission is. Nothing else that is reported depends on it: two problems that differ in such outputs
only have the same events and the same report, up to those verdicts. What is submitted does depend
on it if the first case is hidden, whose output may tell the type of the result.
-/

namespace Kata

/-! ## What is shown of a problem -/

/-- A test case without what is not shown of it. -/
def TestCase.shown (case : TestCase) : TestCase :=
  if case.isHidden then { case with expectedOutput := [] } else case

/-- A problem without the expected outputs of its hidden cases. -/
def Problem.shown (problem : Problem) : Problem :=
  { problem with testCases := problem.testCases.map TestCase.shown }

/-- Whether two problems expect different outputs for the case of a number, counted from 1. -/
def Problem.differsAt (problem other : Problem) (number : Nat) : Bool :=
  problem.testCases[number - 1]?.map TestCase.expectedOutput !=
    other.testCases[number - 1]?.map TestCase.expectedOutput

namespace TestCase

variable {case twin : TestCase}

@[simp]
theorem input_shown
    (case : TestCase) :
    case.shown.input = case.input := by
  rw [shown]
  split <;> rfl

@[simp]
theorem isHidden_shown
    (case : TestCase) :
    case.shown.isHidden = case.isHidden := by
  rw [shown]
  split <;> rfl

theorem shown_of_not_isHidden
    (visible : case.isHidden = false) :
    case.shown = case := by
  rw [shown, visible]
  rfl

theorem input_eq
    (same : case.shown = twin.shown) :
    case.input = twin.input := by
  rw [← input_shown case, same, input_shown]

theorem isHidden_eq
    (same : case.shown = twin.shown) :
    case.isHidden = twin.isHidden := by
  rw [← isHidden_shown case, same, isHidden_shown]

/-- Cases of which the same is shown are the same unless they are hidden. -/
theorem eq_of_not_isHidden
    (same : case.shown = twin.shown) (visible : case.isHidden = false) :
    case = twin := by
  have twinVisible : twin.isHidden = false := isHidden_eq same ▸ visible
  rw [← shown_of_not_isHidden visible, same, shown_of_not_isHidden twinVisible]

/-- Cases of which the same is shown are the same if they expect the same output. -/
theorem eq_of_expectedOutput
    (same : case.shown = twin.shown) (outputs : case.expectedOutput = twin.expectedOutput) :
    case = twin := by
  have inputs := input_eq same
  have flags := isHidden_eq same
  cases case
  cases twin
  simp only at inputs flags outputs
  rw [inputs, flags, outputs]

end TestCase

/-- Problems of which the same is shown differ in their cases only. -/
theorem Problem.eq_withCases
    {problem other : Problem} (same : problem.shown = other.shown) :
    problem = { other with testCases := problem.testCases } := by
  cases problem
  cases other
  simp only [Problem.shown, Problem.mk.injEq] at same ⊢
  exact ⟨same.1, same.2.1, same.2.2.1, same.2.2.2.1, same.2.2.2.2.1, trivial⟩

theorem Problem.entryName_eq
    {problem other : Problem} (same : problem.shown = other.shown) :
    problem.entryName = other.entryName :=
  (congrArg Problem.entryName (Problem.eq_withCases same)).trans rfl

theorem Problem.map_shown_eq
    {problem other : Problem} (same : problem.shown = other.shown) :
    problem.testCases.map TestCase.shown = other.testCases.map TestCase.shown :=
  congrArg Problem.testCases same

theorem Problem.differsAt_succ
    {problem other : Problem} {index : Nat} {case twin : TestCase}
    (found : problem.testCases[index]? = some case)
    (twinFound : other.testCases[index]? = some twin) :
    problem.differsAt other (index + 1) = (case.expectedOutput != twin.expectedOutput) := by
  rw [Problem.differsAt, Nat.add_sub_cancel, found, twinFound]
  rfl

namespace Run

/-! ## Erasing verdicts -/

/-- The report on the case of a number, without its verdict if that is erased. -/
def CaseReport.erased (isErased : Nat → Bool) (number : Nat) (report : CaseReport) : CaseReport :=
  if isErased number then { report with isPassed := false } else report

/-- The reports on the cases from a number on, without the verdicts that are erased. -/
def eraseVerdicts (isErased : Nat → Bool) (current : Nat) (reports : List CaseReport) :
    List CaseReport :=
  (reports.zipIdx current).map fun (report, number) => report.erased isErased number

/-- A report without the verdict on the submission and those on the cases that are erased. -/
def Report.erased (isErased : Nat → Bool) (report : Report) : Report :=
  { report with
    isPassed := false
    passedCount := 0
    cases := eraseVerdicts isErased 1 report.cases }

/-- An event without the verdicts that are erased. -/
def Event.erased (isErased : Nat → Bool) : Event → Event
  | started total entryName => started total entryName
  | caseStarted current total => caseStarted current total
  | caseFinished current total report => caseFinished current total (report.erased isErased current)
  | done report => done (report.erased isErased)
  | cancelled => cancelled

section Erasing

variable (isErased : Nat → Bool)

theorem getElem?_eraseVerdicts
    (current : Nat) (reports : List CaseReport) (index : Nat) :
    (eraseVerdicts isErased current reports)[index]? =
      reports[index]?.map (CaseReport.erased isErased (current + index)) := by
  rw [eraseVerdicts, List.getElem?_map, List.getElem?_zipIdx, Option.map_map]
  rfl

theorem eraseVerdicts_take
    (current count : Nat) (reports : List CaseReport) :
    eraseVerdicts isErased current (reports.take count) =
      (eraseVerdicts isErased current reports).take count := by
  refine List.ext_getElem? fun index => ?_
  rw [getElem?_eraseVerdicts, List.getElem?_take, List.getElem?_take, getElem?_eraseVerdicts]
  split <;> rfl

/-- Erasing verdicts in the events of the cases erases them in the reports. -/
theorem map_erased_caseEvents
    (total : Nat) (reports : List CaseReport) :
    ∀ current : Nat,
      (caseEvents current total reports).map (Event.erased isErased) =
        caseEvents current total (eraseVerdicts isErased current reports) := by
  induction reports with
  | nil => exact fun _ => rfl
  | cons report reports inductionHypothesis =>
      intro current
      have onward := inductionHypothesis (current + 1)
      rw [caseEvents] at onward ⊢
      rw [List.zipIdx_cons, List.flatMap_cons, List.map_append, onward]
      rfl

theorem erased_lastEvent
    (cancellation : Cancellation) (total : Nat) (report : Report) :
    (lastEvent cancellation total report).erased isErased =
      lastEvent cancellation total (report.erased isErased) := by
  rw [lastEvent, lastEvent]
  split <;> rfl

/-- What is left of the events of a session is made from what is left of the report. -/
theorem map_erased_stream
    (solution : Solution) (answers : Nat → Answer) (cancellation : Cancellation) :
    let total := solution.problem.testCases.length
    let report := (validate solution answers).1.erased isErased
    (stream solution answers cancellation).1.map (Event.erased isErased) =
      .started total solution.entryName ::
        (caseEvents 1 total (report.cases.take (casesRun cancellation total)) ++
          [lastEvent cancellation total report]) := by
  intro total report
  rw [stream_eq, List.map_cons, List.map_append, map_erased_caseEvents, eraseVerdicts_take,
    List.map_singleton, erased_lastEvent]
  rfl

end Erasing

/-! ## Reports on one case -/

section Case

variable {case twin : TestCase}

/-- What is shown of the expected output does not depend on what is hidden. -/
theorem shownOutput_eq
    (same : case.shown = twin.shown) :
    shownOutput case = shownOutput twin := by
  cases visible : case.isHidden with
  | false => rw [TestCase.eq_of_not_isHidden same visible]
  | true =>
      have twinHidden : twin.isHidden = true := TestCase.isHidden_eq same ▸ visible
      rw [shownOutput, shownOutput, visible, twinHidden]
      rfl

/-- Up to the verdict, the report on a case depends on what is shown of the case only. -/
theorem caseReport_eq
    (same : case.shown = twin.shown) (answer : Answer) :
    ({ caseReport case answer with isPassed := false } : CaseReport) =
      { caseReport twin answer with isPassed := false } := by
  have inputs := TestCase.input_eq same
  have flags := TestCase.isHidden_eq same
  have outputs := shownOutput_eq same
  cases answer with
  | ok outcome => simp only [caseReport, grade, inputs, flags, outputs]
  | error failure => simp only [caseReport, failureReport, inputs, flags, outputs]

/-- The reports on two cases are the same without their verdicts, and with them if the cases expect
the same output. -/
theorem erased_caseReport
    (same : case.shown = twin.shown) {isErased : Nat → Bool} {number : Nat}
    (kept : isErased number = false → case.expectedOutput = twin.expectedOutput)
    (answer : Answer) :
    (caseReport case answer).erased isErased number =
      (caseReport twin answer).erased isErased number := by
  rw [CaseReport.erased, CaseReport.erased]
  cases erased : isErased number with
  | true => exact caseReport_eq same answer
  | false => rw [TestCase.eq_of_expectedOutput same (kept erased)]

end Case

/-! ## Whole runs -/

section Runs

variable {problem other : Problem} (same : problem.shown = other.shown)
include same

theorem exists_twin
    {index : Nat} {case : TestCase} (found : problem.testCases[index]? = some case) :
    ∃ twin, other.testCases[index]? = some twin ∧ case.shown = twin.shown := by
  have here := congrArg (fun cases => cases[index]?) (Problem.map_shown_eq same)
  simp only [List.getElem?_map, found, Option.map_some] at here
  obtain ⟨twin, twinFound, shown⟩ := Option.map_eq_some_iff.1 here.symm
  exact ⟨twin, twinFound, shown.symm⟩

theorem length_testCases_eq :
    problem.testCases.length = other.testCases.length := by
  have lengths := congrArg List.length (Problem.map_shown_eq same)
  rw [List.length_map, List.length_map] at lengths
  exact lengths

/-- The problems differ in hidden cases only. -/
theorem isHidden_of_differsAt
    {index : Nat} {case : TestCase} (found : problem.testCases[index]? = some case)
    (differs : problem.differsAt other (index + 1) = true) :
    case.isHidden = true := by
  by_contra visible
  obtain ⟨twin, twinFound, shown⟩ := exists_twin same found
  have equal := TestCase.eq_of_not_isHidden shown (Bool.eq_false_iff.2 visible)
  rw [Problem.differsAt_succ found twinFound, equal, bne_self_eq_false] at differs
  exact Bool.false_ne_true differs

/-- The reports on the cases are the same up to the verdicts on the cases that differ. -/
theorem eraseVerdicts_caseReports
    (answers : Nat → Answer) :
    eraseVerdicts (problem.differsAt other) 1 (caseReports answers problem.testCases) =
      eraseVerdicts (problem.differsAt other) 1 (caseReports answers other.testCases) := by
  refine List.ext_getElem? fun index => ?_
  rw [getElem?_eraseVerdicts, getElem?_eraseVerdicts, getElem?_caseReports,
    getElem?_caseReports, Nat.add_comm 1 index]
  cases found : problem.testCases[index]? with
  | none =>
      rw [List.getElem?_eq_none_iff, length_testCases_eq same] at found
      rw [List.getElem?_eq_none_iff.2 found]
  | some case =>
      obtain ⟨twin, twinFound, shown⟩ := exists_twin same found
      rw [twinFound]
      refine congrArg some (erased_caseReport shown (fun kept => ?_) _)
      rw [Problem.differsAt_succ found twinFound, bne_eq_false_iff_eq] at kept
      exact kept

/-! ## Programs -/

theorem head?_testCases_eq
    (visible : ∀ case, problem.testCases.head? = some case → case.isHidden = false) :
    problem.testCases.head? = other.testCases.head? := by
  rw [List.head?_eq_getElem?, List.head?_eq_getElem?]
  cases found : problem.testCases[0]? with
  | none =>
      rw [List.getElem?_eq_none_iff, length_testCases_eq same] at found
      rw [List.getElem?_eq_none_iff.2 found]
  | some first =>
      obtain ⟨twin, twinFound, shown⟩ := exists_twin same found
      rw [twinFound, TestCase.eq_of_not_isHidden shown (visible first ?_)]
      rw [List.head?_eq_getElem?, found]

/-- A program depends on the cases of its problem through the first one only. -/
theorem build_eq
    (heads : problem.testCases.head? = other.testCases.head?)
    (language : Language) (source input : Text) :
    Harness.build language problem source input = Harness.build language other source input := by
  have names := Problem.entryName_eq same
  have onlyCases := Problem.eq_withCases same
  have topics : problem.topic = other.topic := (congrArg Problem.topic onlyCases).trans rfl
  have prototypes : Schema.firstPrototype? problem = Schema.firstPrototype? other :=
    (congrArg Schema.firstPrototype? onlyCases).trans rfl
  have stored : problem.parameterSchema? = other.parameterSchema? :=
    (congrArg Problem.parameterSchema? onlyCases).trans rfl
  have schemas : Schema.ofProblem problem = Schema.ofProblem other := by
    rw [Schema.ofProblem, Schema.ofProblem, Schema.Sources.ofProblem, Schema.Sources.ofProblem,
      heads, topics, prototypes, stored]
  rw [Harness.build, Harness.build, schemas, Harness.requestWith, Harness.requestWith,
    Harness.entryNameIn, Harness.entryNameIn, names, topics]

/-- What is submitted is the same too if the first case is not hidden. -/
theorem submissions_eq
    (visible : ∀ case, problem.testCases.head? = some case → case.isHidden = false)
    (language : Language) (source : Text) (answers : Nat → Answer) :
    (validate ⟨problem, language, source⟩ answers).2 =
      (validate ⟨other, language, source⟩ answers).2 := by
  have programs := build_eq same (head?_testCases_eq same visible) language source
  have inputs : problem.testCases.map TestCase.input = other.testCases.map TestCase.input := by
    have shownInputs :=
      congrArg (List.map TestCase.input) (Problem.map_shown_eq same)
    simp only [List.map_map, Function.comp_def, TestCase.input_shown] at shownInputs
    exact shownInputs
  calc problem.testCases.map (Solution.submission ⟨problem, language, source⟩)
      = (problem.testCases.map TestCase.input).map fun input =>
          ⟨language, (Harness.build language problem source input).program, input⟩ := by
        rw [List.map_map]
        rfl
    _ = (other.testCases.map TestCase.input).map fun input =>
          ⟨language, (Harness.build language other source input).program, input⟩ := by
        rw [inputs]
        simp only [programs]
    _ = other.testCases.map (Solution.submission ⟨other, language, source⟩) := by
        rw [List.map_map]
        rfl

/-! ## Events and reports -/

end Runs

end Run

end Kata
