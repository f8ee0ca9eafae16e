import Kata.Proofs.Detection.Names
import Kata.Proofs.Pattern.Captures

/-!
# The order of the names that are offered

What several patterns capture is put in order by where it begins, and captures that begin together
stay in the order of the patterns. Of each name only the first capture counts. So every captured
name is offered once, by where it is captured first.
-/

namespace Kata.Detection

open Pattern

/-! ## Sorting -/

/-- That captures follow each other by where they begin. -/
def IsSorted (captures : List Capture) : Prop :=
  captures.Pairwise fun capture other => capture.start ≤ other.start

/-- The captures among others that begin at one place. -/
def beginningAt (start : Nat) (captures : List Capture) : List Capture :=
  captures.filter fun capture => capture.start == start

section Sorting

variable {captures : List Capture}

theorem isSorted_insertCapture
    (capture : Capture) (sorted : IsSorted captures) :
    IsSorted (insertCapture capture captures) := by
  induction captures with
  | nil => exact List.pairwise_singleton _ capture
  | cons first captures inductionHypothesis =>
      obtain ⟨leads, sortedRest⟩ := List.pairwise_cons.1 sorted
      rw [insertCapture]
      by_cases earlier : capture.start < first.start
      · rw [if_pos earlier]
        apply List.Pairwise.cons
        · intro other member
          rcases List.mem_cons.1 member with isFirst | isLater
          · rw [isFirst]
            omega
          · have later := leads other isLater
            omega
        · exact sorted
      · rw [if_neg earlier]
        apply List.Pairwise.cons
        · intro other member
          rcases mem_insertCapture.1 member with isNew | isOld
          · rw [isNew]
            omega
          · exact leads other isOld
        · exact inductionHypothesis sortedRest

theorem beginningAt_cons
    (start : Nat) (first : Capture) (captures : List Capture) :
    beginningAt start (first :: captures) =
      beginningAt start [first] ++ beginningAt start captures :=
  List.filter_append [first] captures

/-- A capture is inserted behind those that begin together with it. -/
theorem beginningAt_insertCapture
    (capture : Capture) (sorted : IsSorted captures) (start : Nat) :
    beginningAt start (insertCapture capture captures) =
      beginningAt start captures ++ beginningAt start [capture] := by
  induction captures with
  | nil => rfl
  | cons first captures inductionHypothesis =>
      obtain ⟨leads, sortedRest⟩ := List.pairwise_cons.1 sorted
      rw [insertCapture]
      by_cases earlier : capture.start < first.start
      · rw [if_pos earlier, beginningAt_cons]
        by_cases here : capture.start = start
        · have none : beginningAt start (first :: captures) = [] := by
            apply List.filter_eq_nil_iff.2
            intro other member
            have notBefore : first.start ≤ other.start := by
              rcases List.mem_cons.1 member with isFirst | isLater
              · rw [isFirst]
              · exact leads other isLater
            rw [beq_iff_eq]
            omega
          rw [none, List.append_nil, List.nil_append]
        · have none : beginningAt start [capture] = [] := by simp [beginningAt, here]
          rw [none, List.append_nil, List.nil_append]
      · rw [if_neg earlier, beginningAt_cons, inductionHypothesis sortedRest, ← List.append_assoc,
          ← beginningAt_cons]

/-- Sorting puts captures in the order of where they begin, and those that begin together keep
their order. -/
theorem isSorted_sortCaptures
    (captures : List Capture) :
    IsSorted (sortCaptures captures) ∧
      ∀ start, beginningAt start (sortCaptures captures) = beginningAt start captures := by
  have onward :
      ∀ {sorted : List Capture}, IsSorted sorted →
        IsSorted (captures.foldl (fun sorted other => insertCapture other sorted) sorted) ∧
          ∀ start,
            beginningAt start
                (captures.foldl (fun sorted other => insertCapture other sorted) sorted) =
              beginningAt start sorted ++ beginningAt start captures := by
    induction captures with
    | nil =>
        intro sorted isSorted
        exact ⟨isSorted, fun start => (List.append_nil _).symm⟩
    | cons first captures inductionHypothesis =>
        intro sorted isSorted
        obtain ⟨sortedAll, kept⟩ :=
          inductionHypothesis (isSorted_insertCapture first isSorted)
        refine ⟨sortedAll, fun start => ?_⟩
        rw [List.foldl_cons, kept, beginningAt_insertCapture first isSorted, List.append_assoc,
          ← beginningAt_cons]
  exact onward List.Pairwise.nil

end Sorting

/-! ## Dropping repetitions -/

theorem nodup_distinct
    (names : List Text) :
    (distinct names).Nodup := by
  induction names with
  | nil => exact List.nodup_nil
  | cons name names inductionHypothesis =>
      rw [distinct, List.nodup_cons]
      constructor
      · simp
      · exact inductionHypothesis.filter _

/-- The captures among others that are the first ones of their names. -/
def firstCaptures : List Capture → List Capture
  | [] => []
  | capture :: rest =>
    capture :: (firstCaptures rest).filter fun other => other.text != capture.text

theorem map_text_firstCaptures
    (captures : List Capture) :
    (firstCaptures captures).map Capture.text = distinct (captures.map Capture.text) := by
  induction captures with
  | nil => rfl
  | cons capture captures inductionHypothesis =>
      rw [firstCaptures, List.map_cons, List.map_cons, distinct, ← inductionHypothesis,
        List.filter_map]
      rfl

section FirstCaptures

variable {captures : List Capture} {capture other : Capture}

theorem mem_of_mem_firstCaptures
    (member : capture ∈ firstCaptures captures) :
    capture ∈ captures := by
  induction captures with
  | nil => exact member
  | cons first captures inductionHypothesis =>
      rcases List.mem_cons.1 member with isFirst | isLater
      · rw [isFirst]
        exact List.mem_cons_self
      · exact List.mem_cons_of_mem first (inductionHypothesis (List.mem_filter.1 isLater).1)

theorem start_le_of_mem_firstCaptures
    (sorted : IsSorted captures) (member : capture ∈ firstCaptures captures)
    (inside : other ∈ captures) (same : other.text = capture.text) :
    capture.start ≤ other.start := by
  induction captures with
  | nil => exact absurd inside List.not_mem_nil
  | cons first captures inductionHypothesis =>
      obtain ⟨leads, sortedRest⟩ := List.pairwise_cons.1 sorted
      rcases List.mem_cons.1 member with isFirst | isLater
      · rw [isFirst]
        rcases List.mem_cons.1 inside with isFirstToo | isBehind
        · rw [isFirstToo]
        · exact leads other isBehind
      · obtain ⟨onward, different⟩ := List.mem_filter.1 isLater
        rw [bne_iff_ne, ← same] at different
        have isBehind : other ∈ captures := by
          apply (List.mem_cons.1 inside).resolve_left
          intro isFirst
          exact different (congrArg Capture.text isFirst)
        exact inductionHypothesis sortedRest onward isBehind

end FirstCaptures

/-- First captures come in the order in which the captures occur for the first time. -/
theorem pairwise_firstCaptures
    (captures : List Capture) :
    (firstCaptures captures).Pairwise fun capture other =>
      captures.idxOf capture < captures.idxOf other := by
  induction captures with
  | nil => exact List.Pairwise.nil
  | cons first captures inductionHypothesis =>
      have behind :
          ∀ other ∈ (firstCaptures captures).filter (fun other => other.text != first.text),
            (first :: captures).idxOf other = captures.idxOf other + 1 := by
        intro other member
        have different := (List.mem_filter.1 member).2
        rw [bne_iff_ne] at different
        apply List.idxOf_cons_ne
        intro same
        exact different (congrArg Capture.text same.symm)
      apply List.Pairwise.cons
      · intro other member
        rw [behind other member, List.idxOf_cons_self]
        omega
      · apply (inductionHypothesis.filter _).imp_of_mem
        intro capture other member memberToo ahead
        rw [behind capture member, behind other memberToo]
        omega

/-! ## The order of first captures -/

/-- That a capture comes before another: it begins earlier, or they begin together and it occurs
earlier among all the captures. -/
def ComesBefore (captures : List Capture) (capture other : Capture) : Prop :=
  capture.start < other.start ∨
    capture.start = other.start ∧ captures.idxOf capture < captures.idxOf other

/-- Leaving out the captures that begin elsewhere does not change which of two occurs first. -/
theorem idxOf_beginningAt_lt_iff
    {start : Nat} {capture other : Capture} (begins : capture.start = start)
    (beginsToo : other.start = start) (captures : List Capture) :
    (beginningAt start captures).idxOf capture < (beginningAt start captures).idxOf other ↔
      captures.idxOf capture < captures.idxOf other := by
  induction captures with
  | nil => rfl
  | cons first captures inductionHypothesis =>
      by_cases here : first.start = start
      · have kept : beginningAt start (first :: captures) = first :: beginningAt start captures := by
          simp [beginningAt, here]
        rw [kept]
        by_cases isFirst : first = capture
        · by_cases isFirstToo : first = other
          · simp [← isFirst, ← isFirstToo]
          · simp [← isFirst, List.idxOf_cons_ne, isFirstToo]
        · by_cases isFirstToo : first = other
          · simp [← isFirstToo]
          · simpa [List.idxOf_cons_ne, isFirst, isFirstToo] using inductionHypothesis
      · have left : beginningAt start (first :: captures) = beginningAt start captures := by
          simp [beginningAt, here]
        have different : first ≠ capture := by
          intro same
          exact here (same ▸ begins)
        have differentToo : first ≠ other := by
          intro same
          exact here (same ▸ beginsToo)
        rw [left, inductionHypothesis, List.idxOf_cons_ne captures different,
          List.idxOf_cons_ne captures differentToo]
        omega

/-- Captures that are sorted come before each other by their places in the sorted list. -/
theorem comesBefore_of_idxOf_sortCaptures
    {captures : List Capture} {capture other : Capture} (member : other ∈ captures)
    (ahead : (sortCaptures captures).idxOf capture < (sortCaptures captures).idxOf other) :
    ComesBefore captures capture other := by
  obtain ⟨sorted, kept⟩ := isSorted_sortCaptures captures
  have otherInside := List.idxOf_lt_length_iff.2 (mem_sortCaptures.2 member)
  have inOrder : capture.start ≤ other.start := by
    have here := List.pairwise_iff_getElem.1 sorted _ _ (ahead.trans otherInside) otherInside ahead
    rwa [List.getElem_idxOf, List.getElem_idxOf] at here
  by_cases together : capture.start = other.start
  · refine Or.inr ⟨together, ?_⟩
    rwa [← idxOf_beginningAt_lt_iff together rfl, kept, idxOf_beginningAt_lt_iff together rfl]
      at ahead
  · exact Or.inl (by omega)

/-! ## The names that patterns offer -/

section Names

variable {patterns : List Pattern} {text : Text}

theorem standsIn_of_isCaptured
    {capture : Capture} (captured : IsCaptured patterns text capture) :
    capture.StandsIn text := by
  obtain ⟨_, _, _, found, remembers⟩ := captured
  exact standsIn_of_capture? found remembers

/-- That a capture is one of a name at the smallest place at which the name is captured, and that
the name stands there in the text. -/
structure IsFirstOfName (patterns : List Pattern) (text : Text) (first : Capture) : Prop where
  captured : IsCaptured patterns text first
  stands : first.StandsIn text
  earliest :
    ∀ other, IsCaptured patterns text other → other.text = first.text →
      first.start ≤ other.start

theorem mem_captures_of_mem_firstCaptures
    {first : Capture} (member : first ∈ firstCaptures (sortCaptures (captures patterns text))) :
    first ∈ captures patterns text :=
  mem_sortCaptures.1 (mem_of_mem_firstCaptures member)

theorem isFirstOfName_of_mem_firstCaptures
    {first : Capture} (member : first ∈ firstCaptures (sortCaptures (captures patterns text))) :
    IsFirstOfName patterns text first := by
  have captured : IsCaptured patterns text first :=
    mem_captures.1 (mem_captures_of_mem_firstCaptures member)
  refine ⟨captured, standsIn_of_isCaptured captured, ?_⟩
  intro other capturedToo same
  have inside : other ∈ sortCaptures (captures patterns text) :=
    mem_sortCaptures.2 (mem_captures.2 capturedToo)
  exact start_le_of_mem_firstCaptures (isSorted_sortCaptures _).1 member inside same

end Names

/-- The names that patterns offer are all different, they are just those that one of the patterns
captures, and they come in the order of their first captures. -/
theorem names_are_merged_in_order
    (patterns : List Pattern) (text : Text) :
    (namesInOrder patterns text).Nodup ∧
      (∀ name,
        name ∈ namesInOrder patterns text ↔ ∃ start, IsCaptured patterns text ⟨start, name⟩) ∧
        ∃ firsts : List Capture,
          firsts.map Capture.text = namesInOrder patterns text ∧
            (∀ first ∈ firsts, IsFirstOfName patterns text first) ∧
              firsts.Pairwise (ComesBefore (captures patterns text)) := by
  refine ⟨nodup_distinct _, fun name => mem_namesInOrder_iff, ?_⟩
  refine ⟨firstCaptures (sortCaptures (captures patterns text)), map_text_firstCaptures _,
    fun first member => isFirstOfName_of_mem_firstCaptures member, ?_⟩
  apply (pairwise_firstCaptures _).imp_of_mem
  intro capture other _ member ahead
  exact comesBefore_of_idxOf_sortCaptures (mem_captures_of_mem_firstCaptures member) ahead

/-- The second pattern captures the first name, which both patterns capture again further on. -/
example :
    namesInOrder [boundFunction, namedFunction]
        "function b() {}\nvar a = function() {};\nvar b = function b() {};\n" =
      ["b".toList, "a".toList] := by
  decide +kernel

end Kata.Detection
