import Kata.Source.Blocks
import Kata.Proofs.Text.Lines

/-!
# Removing nothing

Where no line is pulled out of a text and no block begins, the lines stay what they are.
-/

namespace Kata.Source

theorem hoistLines_of_none
    {isHoisted : Text → Bool} {text : Text}
    (untouched : ∀ line ∈ Text.lines text, isHoisted (Text.trim line) = false) :
    (hoistLines isHoisted text).2 = Text.joinWith ['\n'] (Text.lines text) := by
  have all : (Text.lines text).filter (fun line => !isHoisted (Text.trim line)) =
      Text.lines text := by
    rw [List.filter_eq_self]
    intro line member
    rw [untouched line member]
    rfl
  rw [hoistLines, all]

theorem linesOutsideBraces_of_none
    {isStart : Text → Bool} (lines : List Text)
    (untouched : ∀ line ∈ lines, isStart (Text.trim line) = false) :
    linesOutsideBraces isStart none lines = lines := by
  induction lines with
  | nil => rfl
  | cons line lines inductionHypothesis =>
      rw [List.forall_mem_cons] at untouched
      rw [linesOutsideBraces, untouched.1, if_neg Bool.false_ne_true, inductionHypothesis untouched.2]

theorem linesOutsideIndents_of_none
    {isStart : Text → Bool} (lines : List Text)
    (untouched : ∀ line ∈ lines, (!isIndented line && isStart line) = false) :
    linesOutsideIndents isStart false lines = lines := by
  induction lines with
  | nil => rfl
  | cons line lines inductionHypothesis =>
      rw [List.forall_mem_cons] at untouched
      rw [linesOutsideIndents, Bool.false_and, if_neg Bool.false_ne_true, untouched.1,
        if_neg Bool.false_ne_true, inductionHypothesis untouched.2]

end Kata.Source
