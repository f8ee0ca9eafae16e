import Kata.Source.Blocks

/-!
# Blocks by indentation

Whether a line is removed is settled by the lines ahead of it: there is a line, that one or an
earlier one, that begins a block, and all lines since are indented or blank. The lines are read
once, with one mark of whether they are within a block; the mark says that of the lines so far.
-/

namespace Kata.Source

section Indents

variable (isStart : Text → Bool)

/-- Whether the line in a place begins a block. -/
def BeginsBlock (lines : List Text) (i : Nat) : Prop :=
  lines[i]?.any (fun line => !isIndented line && isStart line) = true

/-- Whether the line in a place is indented or blank, as the further lines of a block are. -/
def ContinuesBlock (lines : List Text) (i : Nat) : Prop :=
  lines[i]?.any (fun line => isIndented line || isBlankLine line) = true

/-- Whether the line in a place lies in a block: a line up to it begins one, and every line behind
that one and up to this place continues it. -/
def LiesInBlock (lines : List Text) (i : Nat) : Prop :=
  ∃ j ≤ i, BeginsBlock isStart lines j ∧ ∀ k ≤ i, j < k → ContinuesBlock lines k

/-- Whether the lines ahead of a place end within a block. -/
def EndsInBlock (lines : List Text) (n : Nat) : Prop :=
  ∃ j < n, BeginsBlock isStart lines j ∧ ∀ k < n, j < k → ContinuesBlock lines k

instance (lines : List Text) (i : Nat) : Decidable (BeginsBlock isStart lines i) :=
  inferInstanceAs (Decidable (_ = _))

instance (lines : List Text) (i : Nat) : Decidable (ContinuesBlock lines i) :=
  inferInstanceAs (Decidable (_ = _))

instance (lines : List Text) : DecidablePred (LiesInBlock isStart lines) :=
  fun i =>
    inferInstanceAs
      (Decidable
        (∃ j ≤ i, BeginsBlock isStart lines j ∧ ∀ k ≤ i, j < k → ContinuesBlock lines k))

variable {isStart} {lines : List Text}

theorem not_endsInBlock_zero :
    ¬EndsInBlock isStart lines 0 := by
  rintro ⟨j, below, _⟩
  exact Nat.not_lt_zero j below

theorem endsInBlock_succ
    {i : Nat} :
    EndsInBlock isStart lines (i + 1) ↔ LiesInBlock isStart lines i := by
  simp only [EndsInBlock, LiesInBlock, Nat.lt_succ_iff]

/-- One line: it lies in a block if it begins one, or if it continues the block in which the lines
ahead of it end. -/
theorem liesInBlock_iff
    {i : Nat} :
    LiesInBlock isStart lines i ↔
      ContinuesBlock lines i ∧ EndsInBlock isStart lines i ∨ BeginsBlock isStart lines i := by
  constructor
  · rintro ⟨j, upTo, begins, further⟩
    by_cases here : j = i
    · subst j
      exact Or.inr begins
    · have ahead : j < i := Nat.lt_of_le_of_ne upTo here
      refine Or.inl ⟨further i (Nat.le_refl i) ahead, j, ahead, begins, ?_⟩
      intro k below behind
      exact further k (Nat.le_of_lt below) behind
  · rintro (⟨continues, j, ahead, begins, further⟩ | begins)
    · refine ⟨j, Nat.le_of_lt ahead, begins, ?_⟩
      intro k upTo behind
      by_cases here : k = i
      · subst k
        exact continues
      · exact further k (Nat.lt_of_le_of_ne upTo here) behind
    · refine ⟨i, Nat.le_refl i, begins, ?_⟩
      intro k upTo behind
      omega

theorem linesOutsideIndents_cons
    (isInside : Bool) (line : Text) (rest : List Text) :
    linesOutsideIndents isStart isInside (line :: rest) =
      if (isInside && (isIndented line || isBlankLine line)) || (!isIndented line && isStart line)
      then linesOutsideIndents isStart true rest
      else line :: linesOutsideIndents isStart false rest := by
  rw [linesOutsideIndents]
  cases isInside && (isIndented line || isBlankLine line) with
  | true => rfl
  | false => rfl

/-- From a place on, with the mark for the lines ahead of it. -/
theorem linesOutsideIndents_from
    {rest : List Text} :
    ∀ {ahead : List Text} {isInside : Bool},
      ahead ++ rest = lines →
        (isInside = true ↔ EndsInBlock isStart lines ahead.length) →
          linesOutsideIndents isStart isInside rest =
            ((rest.zipIdx ahead.length).filter fun place =>
              ¬LiesInBlock isStart lines place.2).map Prod.fst := by
  induction rest with
  | nil => exact fun _ _ => rfl
  | cons line rest inductionHypothesis =>
      intro ahead isInside split inside
      have found : lines[ahead.length]? = some line := by
        rw [← split, List.getElem?_append_right (Nat.le_refl _), Nat.sub_self]
        rfl
      have next : (ahead ++ [line]) ++ rest = lines := by
        rw [List.append_assoc, List.singleton_append, split]
      have length : (ahead ++ [line]).length = ahead.length + 1 := by
        rw [List.length_append, List.length_singleton]
      have lies :
          ((isInside && (isIndented line || isBlankLine line)) ||
              (!isIndented line && isStart line)) = true ↔
            LiesInBlock isStart lines ahead.length := by
        rw [liesInBlock_iff, ← inside, ContinuesBlock, BeginsBlock, found, Bool.or_eq_true,
          Bool.and_eq_true isInside, and_comm]
        rfl
      rw [linesOutsideIndents_cons, List.zipIdx_cons]
      have behind :
          EndsInBlock isStart lines (ahead ++ [line]).length ↔
            LiesInBlock isStart lines ahead.length := by
        rw [length]
        exact endsInBlock_succ
      by_cases removed : LiesInBlock isStart lines ahead.length
      · have onward := inductionHypothesis next (iff_of_true rfl (behind.2 removed))
        rw [if_pos (lies.2 removed), onward, length,
          List.filter_cons_of_neg (by simpa using removed)]
      · have onward :=
          inductionHypothesis next (iff_of_false Bool.false_ne_true (mt behind.1 removed))
        rw [if_neg (mt lies.1 removed), onward, length,
          List.filter_cons_of_pos (by simpa using removed), List.map_cons]

end Indents

/-- The lines that are left of a text are those that lie in no block, in their order. -/
theorem lines_in_no_block_are_left
    (isStart : Text → Bool) (text : Text) :
    stripIndentedBlocks isStart text =
      Text.joinWith ['\n']
        (((Text.lines text).zipIdx.filter fun place =>
          ¬LiesInBlock isStart (Text.lines text) place.2).map Prod.fst) := by
  have start : false = true ↔ EndsInBlock isStart (Text.lines text) ([] : List Text).length :=
    iff_of_false Bool.false_ne_true not_endsInBlock_zero
  rw [stripIndentedBlocks, linesOutsideIndents_from (List.nil_append (Text.lines text)) start]
  rfl

/-- A block holds the blank lines behind it, and ends with a line that begins the next. -/
example :
    stripIndentedBlocks ("if __name__".toList.isPrefixOf ·)
        "f = 1\n  if __name__:\n\nif __name__:\n  f\n\n\tf\nif __name__: f\n \nx = 1".toList =
      "f = 1\n  if __name__:\n\nx = 1".toList := by
  decide +kernel

end Kata.Source
