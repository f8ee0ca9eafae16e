import Mathlib.Logic.Function.Basic
import Kata.Run.Session

/-!
# Followed sessions

A session that is followed by its events does what one without events does, as long as it is not
cancelled. Each case that is run is announced, run once and reported, in order; then the session
ends, with the report of the other kind of session if every case was run. An answer of the judge
has a part in the report on its own case only.
-/

namespace Kata.Run

/-! ## What is expected of a session -/

/-- The number of cases that are run: those whose turn comes before the session is cancelled. -/
def casesRun (cancellation : Cancellation) (total : Nat) : Nat :=
  min total (cancellation.getD total)

/-- The events of the cases, from a case number on. -/
def caseEvents (current total : Nat) (reports : List CaseReport) : List Event :=
  (reports.zipIdx current).flatMap fun (report, current) =>
    [.caseStarted current total, .caseFinished current total report]

/-- The last event: a report if every case was run. -/
def lastEvent (cancellation : Cancellation) (total : Nat) (report : Report) : Event :=
  if casesRun cancellation total < total then .cancelled else .done report

/-- The numbers that an event carries. -/
def Event.counters : Event → List Nat
  | started total _ => [total]
  | caseStarted current total => [current, total]
  | caseFinished current total _ => [current, total]
  | done report => [report.passedCount, report.total]
  | cancelled => []

/-! ## Reports -/

/-- The reports on the cases from an index on. -/
def reportsFrom (answers : Nat → Answer) (index : Nat) (cases : List TestCase) :
    List CaseReport :=
  (cases.zipIdx index).map fun (case, index) => caseReport case (answers index)

theorem reportsFrom_cons
    (answers : Nat → Answer) (index : Nat) (case : TestCase) (rest : List TestCase) :
    reportsFrom answers index (case :: rest) =
      caseReport case (answers index) :: reportsFrom answers (index + 1) rest := by
  rw [reportsFrom, List.zipIdx_cons, List.map_cons]
  rfl

theorem length_caseReports
    (answers : Nat → Answer) (cases : List TestCase) :
    (caseReports answers cases).length = cases.length := by
  rw [caseReports, List.length_map, List.length_zipIdx]

/-- The report on a case comes from the case and its own answer. -/
theorem getElem?_caseReports
    (answers : Nat → Answer) (cases : List TestCase) (index : Nat) :
    (caseReports answers cases)[index]? =
      cases[index]?.map fun case => caseReport case (answers index) := by
  rw [caseReports, List.getElem?_map, List.getElem?_zipIdx, Option.map_map, Nat.zero_add]
  rfl

/-! ## One step -/

section Steps

variable {solution : Solution} {answers : Nat → Answer} {cancellation : Cancellation}
  {total : Nat} {reports : List CaseReport} {case : TestCase} {rest : List TestCase}

theorem follow_of_cancelled
    (cancelled : isCancelled cancellation reports.length = true) :
    follow solution answers cancellation total reports (case :: rest) = ([.cancelled], []) := by
  rw [follow]
  exact if_pos cancelled

/-- A case is announced, submitted and reported, and the session goes on. -/
theorem follow_of_running
    {events : List Event} {submissions : List Submission}
    (running : isCancelled cancellation reports.length = false)
    (later :
      follow solution answers cancellation total
        (reports ++ [caseReport case (answers reports.length)]) rest = (events, submissions)) :
    follow solution answers cancellation total reports (case :: rest) =
      (.caseStarted (reports.length + 1) total ::
        .caseFinished (reports.length + 1) total (caseReport case (answers reports.length)) ::
          events,
        solution.submission case :: submissions) := by
  rw [follow]
  simp only [running, later]
  rfl

end Steps

theorem isCancelled_iff
    (cancellation : Cancellation) (finished total : Nat) (left : finished < total) :
    isCancelled cancellation finished = true ↔ casesRun cancellation total ≤ finished := by
  cases cancellation with
  | none =>
      constructor
      · intro impossible
        exact absurd impossible Bool.false_ne_true
      · intro reached
        rw [casesRun, Option.getD_none, Nat.min_self] at reached
        exact absurd left (Nat.not_lt.2 reached)
  | some moment =>
      rw [isCancelled, Option.any_some, decide_eq_true_eq, casesRun, Option.getD_some]
      omega

/-! ## Whole runs -/

/-- What is left of a session, at any moment at which it still runs. -/
theorem follow_eq
    (solution : Solution) (answers : Nat → Answer) (cancellation : Cancellation) (total : Nat)
    (rest : List TestCase) :
    ∀ reports : List CaseReport,
      reports.length + rest.length = total →
        reports.length ≤ casesRun cancellation total →
          follow solution answers cancellation total reports rest =
            (caseEvents (reports.length + 1) total
                ((reportsFrom answers reports.length rest).take
                  (casesRun cancellation total - reports.length)) ++
              [lastEvent cancellation total
                (Report.ofCases (reports ++ reportsFrom answers reports.length rest))],
              (rest.map solution.submission).take
                (casesRun cancellation total - reports.length)) := by
  induction rest with
  | nil =>
      intro reports whole reached
      rw [List.length_nil, Nat.add_zero] at whole
      have finished : ¬casesRun cancellation total < total := by omega
      have nothing : reportsFrom answers reports.length [] = [] := rfl
      rw [follow, nothing, List.append_nil, lastEvent, if_neg finished, List.map_nil,
        List.take_nil, List.take_nil]
      rfl
  | cons case rest inductionHypothesis =>
      intro reports whole reached
      rw [List.length_cons] at whole
      have left : reports.length < total := by omega
      have cancelledIff := isCancelled_iff cancellation reports.length total left
      by_cases cancelled : isCancelled cancellation reports.length = true
      · have stop := cancelledIff.1 cancelled
        have short : casesRun cancellation total < total := by omega
        have none : casesRun cancellation total - reports.length = 0 := by omega
        rw [follow_of_cancelled cancelled, none, List.take_zero, List.take_zero, lastEvent,
          if_pos short]
        rfl
      · have next : reports.length < casesRun cancellation total := by
          rw [cancelledIff] at cancelled
          omega
        have grown :
            (reports ++ [caseReport case (answers reports.length)]).length =
              reports.length + 1 := by
          rw [List.length_append, List.length_singleton]
        have later :=
          inductionHypothesis (reports ++ [caseReport case (answers reports.length)])
            (by omega) (by omega)
        have one :
            casesRun cancellation total - reports.length =
              casesRun cancellation total - (reports.length + 1) + 1 := by
          omega
        rw [grown] at later
        rw [follow_of_running (Bool.eq_false_iff.2 cancelled) later, reportsFrom_cons, one,
          List.take_succ_cons, List.map_cons, List.take_succ_cons, List.append_assoc,
          List.singleton_append]
        rfl

/-- The events and the submissions of a whole session. -/
theorem stream_eq
    (solution : Solution) (answers : Nat → Answer) (cancellation : Cancellation) :
    stream solution answers cancellation =
      (.started solution.problem.testCases.length solution.entryName ::
        (caseEvents 1 solution.problem.testCases.length
            ((validate solution answers).1.cases.take
              (casesRun cancellation solution.problem.testCases.length)) ++
          [lastEvent cancellation solution.problem.testCases.length
            (validate solution answers).1]),
        (validate solution answers).2.take
          (casesRun cancellation solution.problem.testCases.length)) := by
  have run :=
    follow_eq solution answers cancellation solution.problem.testCases.length
      solution.problem.testCases [] (Nat.zero_add _) (Nat.zero_le _)
  rw [stream, run]
  rfl

/-! ## Numbers -/

theorem counters_caseEvents
    {current total : Nat} {reports : List CaseReport} {event : Event}
    (member : event ∈ caseEvents current total reports)
    (fits : current + reports.length ≤ total + 1) :
    ∀ counter ∈ event.counters, counter ≤ total := by
  rw [caseEvents, List.mem_flatMap] at member
  obtain ⟨⟨report, number⟩, numbered, same⟩ := member
  have bound : number < current + reports.length := List.snd_lt_add_of_mem_zipIdx numbered
  have small : number ≤ total := by omega
  have both : ∀ counter ∈ [number, total], counter ≤ total := by
    rw [List.forall_mem_cons, List.forall_mem_singleton]
    exact ⟨small, Nat.le_refl total⟩
  rcases List.mem_cons.1 same with isStart | isFinish
  · rw [isStart]
    exact both
  · rw [List.mem_singleton.1 isFinish]
    exact both

/-- No number in an event is greater than the number of test cases. -/
theorem counters_stream
    (solution : Solution) (answers : Nat → Answer) (cancellation : Cancellation) :
    ∀ event ∈ (stream solution answers cancellation).1,
      ∀ counter ∈ event.counters, counter ≤ solution.problem.testCases.length := by
  have whole := length_caseReports answers solution.problem.testCases
  rw [stream_eq, List.forall_mem_cons]
  refine ⟨?_, ?_⟩
  · rw [Event.counters]
    exact List.forall_mem_singleton.2 (Nat.le_refl _)
  · intro event member
    rcases List.mem_append.1 member with isCase | isLast
    · apply counters_caseEvents isCase
      have fewer :=
        List.length_take_le' (casesRun cancellation solution.problem.testCases.length)
          (validate solution answers).1.cases
      have same : (validate solution answers).1.cases.length = _ := whole
      omega
    · rw [List.mem_singleton.1 isLast, lastEvent]
      split
      · exact fun counter impossible => absurd impossible List.not_mem_nil
      · rw [Event.counters, List.forall_mem_cons, List.forall_mem_singleton]
        refine ⟨?_, Nat.le_of_eq whole⟩
        exact Nat.le_trans List.countP_le_length (Nat.le_of_eq whole)

/-! ## Agreement -/

/-- The report and the submission of validation for one case. -/
theorem validate_of_getElem?
    (solution : Solution) (answers : Nat → Answer) {index : Nat} {case : TestCase}
    (found : solution.problem.testCases[index]? = some case) :
    (validate solution answers).1.cases[index]? = some (caseReport case (answers index)) ∧
      (validate solution answers).2[index]? = some (solution.submission case) := by
  refine ⟨?_, ?_⟩
  · refine (getElem?_caseReports answers solution.problem.testCases index).trans ?_
    rw [found, Option.map_some]
  · rw [validate, List.getElem?_map, found, Option.map_some]

/-- The answer to one submission has no part in the report on another case. -/
theorem validate_update
    (solution : Solution) (answers : Nat → Answer) {index other : Nat} (answer : Answer)
    (different : other ≠ index) :
    (validate solution (Function.update answers index answer)).1.cases[other]? =
      (validate solution answers).1.cases[other]? := by
  refine (getElem?_caseReports _ _ other).trans (Eq.symm ?_)
  refine (getElem?_caseReports _ _ other).trans ?_
  rw [Function.update_of_ne different]

end Kata.Run
