import Mathlib.Logic.Basic
import Kata.Run.Report

/-!
# Grading

A case passes if the program printed what is expected, no error was reported, and the execution
did not end badly. A bad end is only seen by its wording, though: if the judge has no words for it,
then the case passes all the same.
-/

namespace Kata.Run

/-! ## What a grade depends on -/

/-- That an execution has ended, and not well. -/
def Outcome.EndedBadly (outcome : Outcome) : Prop :=
  ∃ status, outcome.status? = some status ∧ status.isTerminal = true ∧ status.isAccepted = false

/-- That a judge has no words for an execution: neither the message nor the description of the
status has anything but blanks. -/
def Outcome.IsWordless (outcome : Outcome) : Prop :=
  trimmed outcome.message? = [] ∧
    ∀ status, outcome.status? = some status → Text.trim status.description = []

/-- That a program printed what a case expects, blanks at the ends apart, and that neither the
program nor the compiler reported an error. -/
structure Solves (case : TestCase) (outcome : Outcome) : Prop where
  output : trimmed outcome.stdout? = Text.trim case.expectedOutput
  noErrors : trimmed outcome.stderr? = []
  noCompilerErrors : trimmed outcome.compileOutput? = []

/-! ## Error texts -/

/-- With a status, a bad end is what the test on the status says. -/
theorem endedBadly_iff
    {outcome : Outcome} {status : Status} (known : outcome.status? = some status) :
    outcome.EndedBadly ↔ (status.isTerminal && !status.isAccepted) = true := by
  rw [Bool.and_eq_true, Bool.not_eq_true']
  constructor
  · rintro ⟨other, isKnown, ended, notWell⟩
    obtain rfl : status = other := Option.some.inj (known.symm.trans isKnown)
    exact ⟨ended, notWell⟩
  · rintro ⟨ended, notWell⟩
    exact ⟨status, known, ended, notWell⟩

theorem isWordless_iff
    {outcome : Outcome} {status : Status} (known : outcome.status? = some status) :
    outcome.IsWordless ↔
      trimmed outcome.message? = [] ∧ Text.trim status.description = [] := by
  refine and_congr_right fun _ => ⟨fun wordless => wordless status known, ?_⟩
  intro noDescription other isKnown
  obtain rfl : status = other := Option.some.inj (known.symm.trans isKnown)
  exact noDescription

/-- There is no error text exactly if no error was reported and a bad end, if there is one, has no
words. -/
theorem errorText_eq_nil_iff
    (outcome : Outcome) :
    errorText outcome = [] ↔
      trimmed outcome.stderr? = [] ∧ trimmed outcome.compileOutput? = [] ∧
        (outcome.EndedBadly → outcome.IsWordless) := by
  rw [errorText]
  by_cases noErrors : trimmed outcome.stderr? = []
  · by_cases noCompilerErrors : trimmed outcome.compileOutput? = []
    · rw [if_neg (not_not_intro noErrors), if_neg (not_not_intro noCompilerErrors)]
      simp only [noErrors, noCompilerErrors, true_and]
      cases known : outcome.status? with
      | none =>
          refine iff_of_true rfl ?_
          rintro ⟨status, isKnown, _⟩
          exact absurd (known.symm.trans isKnown) (Option.some_ne_none status).symm
      | some status =>
          rw [endedBadly_iff known, isWordless_iff known]
          by_cases bad : (status.isTerminal && !status.isAccepted) = true
          · by_cases noMessage : trimmed outcome.message? = []
            · simp only [bad, noMessage, ne_eq, not_true_eq_false, if_true, if_false, true_and,
                forall_const]
            · simp only [bad, noMessage, ne_eq, not_false_eq_true, if_true, false_and,
                forall_const]
          · dsimp only
            rw [if_neg bad]
            exact iff_of_true rfl fun isBad => absurd isBad bad
    · rw [if_neg (not_not_intro noErrors), if_pos noCompilerErrors]
      exact iff_of_false noCompilerErrors fun all => noCompilerErrors all.2.1
  · rw [if_pos noErrors]
    exact iff_of_false noErrors fun all => noErrors all.1

/-! ## Grades -/

/-- A case passes exactly if the program solves it and a bad end, if there is one, has no words. -/
theorem isPassed_grade_iff
    (case : TestCase) (outcome : Outcome) :
    (grade case outcome).isPassed = true ↔
      Solves case outcome ∧ (outcome.EndedBadly → outcome.IsWordless) := by
  rw [grade, Bool.and_eq_true, beq_iff_eq, beq_iff_eq, errorText_eq_nil_iff]
  constructor
  · rintro ⟨⟨noErrors, noCompilerErrors, wordless⟩, output⟩
    exact ⟨⟨output, noErrors, noCompilerErrors⟩, wordless⟩
  · rintro ⟨solves, wordless⟩
    exact ⟨⟨solves.noErrors, solves.noCompilerErrors, wordless⟩, solves.output⟩

/-- A grade tells whether the program solves the case and the execution did not end badly, except
for a program that solves the case and ends badly without a word: that one passes. So a bad end
makes a case fail exactly if the program does not solve it or the judge has words for the end. -/
theorem grade_is_exact_iff
    (case : TestCase) (outcome : Outcome) :
    (((grade case outcome).isPassed = true ↔ Solves case outcome ∧ ¬outcome.EndedBadly) ↔
        ¬(Solves case outcome ∧ outcome.EndedBadly ∧ outcome.IsWordless)) ∧
      (outcome.EndedBadly →
        ((grade case outcome).isPassed = false ↔
          ¬Solves case outcome ∨ ¬outcome.IsWordless)) := by
  have passed := isPassed_grade_iff case outcome
  constructor
  · rw [passed]
    by_cases bad : outcome.EndedBadly <;> simp [bad]
  · intro bad
    rw [← Bool.not_eq_true, passed, not_and_or]
    simp [bad]

/-- A program that prints the right answer and is stopped at the time limit passes if the status
has no description. -/
theorem silent_timeout_passes :
    let case : TestCase := ⟨"4", "16", false⟩
    let outcome : Outcome :=
      { Outcome.empty with stdout? := some "16\n".toList, status? := some ⟨5, []⟩ }
    ¬((grade case outcome).isPassed = true ↔ Solves case outcome ∧ ¬outcome.EndedBadly) := by
  intro case outcome same
  have passes : (grade case outcome).isPassed = true := by decide
  exact (same.1 passes).2 ⟨⟨5, []⟩, rfl, by decide, by decide⟩

end Kata.Run
