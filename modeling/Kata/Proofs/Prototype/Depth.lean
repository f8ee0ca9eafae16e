import Kata.Proofs.Prototype.Splitting

/-!
# Depth in brackets

The depth behind a text is the number of brackets that it opens less the number of those that it
closes, of all kinds together. The parts of a parameter list that are at depth zero behind their
last character, and nowhere else ahead of a comma, come back when the list is split.
-/

namespace Kata.Prototype

def isOpening (c : Char) : Bool :=
  "<[(\x7b".toList.contains c

def isClosing (c : Char) : Bool :=
  ">])\x7d".toList.contains c

/-- The depth behind a text that begins at depth zero. -/
def bracketDepth (text : Text) : Int :=
  (text.countP isOpening : Int) - text.countP isClosing

/-- A bracket counts for one, whichever kind it is. -/
theorem bracketStep_eq
    (c : Char) :
    bracketStep c =
      (if isOpening c = true then 1 else 0) - (if isClosing c = true then 1 else 0) := by
  have opening : isOpening c = true ↔ c = '<' ∨ c = '[' ∨ c = '(' ∨ c = '\x7b' := by
    simp [isOpening]
  have closing : isClosing c = true ↔ c = '>' ∨ c = ']' ∨ c = ')' ∨ c = '\x7d' := by
    simp [isClosing]
  rw [bracketStep]
  by_cases opens : c = '<' ∨ c = '[' ∨ c = '(' ∨ c = '\x7b'
  · have notClosing : ¬isClosing c = true := by
      rcases opens with rfl | rfl | rfl | rfl <;> decide
    rw [if_pos opens, if_pos (opening.2 opens), if_neg notClosing]
    rfl
  · rw [if_neg opens, if_neg (mt opening.1 opens)]
    by_cases closes : c = '>' ∨ c = ']' ∨ c = ')' ∨ c = '\x7d'
    · rw [if_pos closes, if_pos (closing.2 closes)]
      rfl
    · rw [if_neg closes, if_neg (mt closing.1 closes)]
      rfl

theorem bracketDepth_cons
    (c : Char) (rest : Text) :
    bracketDepth (c :: rest) = bracketStep c + bracketDepth rest := by
  rw [bracketDepth, bracketDepth, bracketStep_eq, List.countP_cons, List.countP_cons]
  split <;> split <;> omega

/-- The depth is counted from left to right, from any depth on. -/
theorem endDepth_eq
    (text : Text) :
    ∀ depth : Int, endDepth depth text = depth + bracketDepth text := by
  induction text with
  | nil => exact fun depth => (Int.add_zero depth).symm
  | cons c rest inductionHypothesis =>
      intro depth
      rw [endDepth, inductionHypothesis, bracketDepth_cons, Int.add_assoc]

/-- Commas stand in brackets only, if the depth ahead of none of them is zero. -/
theorem hasInnerCommas_iff
    {part : Text} :
    ∀ {depth : Int},
      hasInnerCommas depth part = true ↔
        ∀ front behind, part = front ++ ',' :: behind → depth + bracketDepth front ≠ 0 := by
  induction part with
  | nil =>
      intro depth
      refine iff_of_true rfl ?_
      intro front behind split
      exact absurd split (by simp)
  | cons c part inductionHypothesis =>
      intro depth
      rw [hasInnerCommas_cons, inductionHypothesis]
      constructor
      · rintro ⟨inner, later⟩ front behind split
        cases front with
        | nil =>
            intro outside
            injection split with comma _
            exact inner ⟨comma, (Int.add_zero depth).symm.trans outside⟩
        | cons d front =>
            injection split with same split
            rw [bracketDepth_cons, ← same, ← Int.add_assoc]
            exact later front behind split
      · intro inner
        constructor
        · rintro ⟨rfl, outside⟩
          exact inner [] part rfl ((Int.add_zero depth).trans outside)
        · intro front behind split
          have further := inner (c :: front) behind (congrArg (c :: ·) split)
          rwa [bracketDepth_cons, ← Int.add_assoc] at further

/-- A part of a parameter list: it is not blank at its ends, all of its brackets are closed, and its
commas stand in brackets. -/
structure IsSeparate (part : Text) : Prop where
  nonempty : part ≠ []
  trimmed : Text.trim part = part
  closed : bracketDepth part = 0
  enclosed : ∀ front behind, part = front ++ ',' :: behind → bracketDepth front ≠ 0

theorem isSeparate_iff
    {part : Text} :
    IsSeparate part ↔ (part ≠ [] ∧ Text.trim part = part) ∧ isOnePart 0 part = true := by
  have commas :
      hasInnerCommas 0 part = true ↔
        ∀ front behind, part = front ++ ',' :: behind → bracketDepth front ≠ 0 := by
    simpa only [Int.zero_add] using @hasInnerCommas_iff part 0
  rw [isOnePart_iff, endDepth_eq, Int.zero_add, commas]
  constructor
  · intro separate
    exact ⟨⟨separate.nonempty, separate.trimmed⟩, separate.enclosed, separate.closed⟩
  · rintro ⟨⟨nonempty, trimmed⟩, enclosed, closed⟩
    exact ⟨nonempty, trimmed, closed, enclosed⟩

instance (part : Text) : Decidable (IsSeparate part) :=
  decidable_of_iff' _ isSeparate_iff

/-- Splitting a parameter list gives back the parts that it was joined from. -/
theorem joined_parts_are_split_again
    {parts : List Text} (separate : ∀ part ∈ parts, IsSeparate part) :
    splitTopLevel (Text.joinWith ", " parts) = parts := by
  apply splitTopLevel_joinWith
  · intro part member
    exact (isSeparate_iff.1 (separate part member)).2
  · intro part member
    exact (isSeparate_iff.1 (separate part member)).1

/-- Parts with commas in brackets of all kinds, with a character of two bytes ahead of one, and with
brackets that are closed by another kind or ahead of being opened. -/
def nestedParts : List Text :=
  ["Map<Größe, List<int>> m", "(a, [b, \x7bc, d\x7d])", "f(x, y]", "a>, <b"]

theorem joined_parts_are_split_again_nested :
    (∀ part ∈ nestedParts, IsSeparate part) ∧
      splitTopLevel (Text.joinWith ", " nestedParts) = nestedParts := by
  have separate : ∀ part ∈ nestedParts, IsSeparate part := by decide +kernel
  exact ⟨separate, joined_parts_are_split_again separate⟩

end Kata.Prototype
