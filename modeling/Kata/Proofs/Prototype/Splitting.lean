import Kata.Prototype.Basic
import Kata.Proofs.Text.Lines

/-!
# Splitting between brackets

Parts whose brackets are closed, and whose commas all stand in brackets, can be joined by commas
and are split there again. The depth is one count for all kinds of brackets; a part that begins and
ends at depth zero leaves it to the next part as it was.
-/

namespace Kata.Prototype

/-- Whether a text from a given depth on has commas in brackets only, and ends at depth zero. -/
def isOnePart (depth : Int) : Text → Bool
  | [] => depth == 0
  | c :: rest => (c != ',' || depth != 0) && isOnePart (depth + bracketStep c) rest

/-- The depth behind a text that begins at a given depth. -/
def endDepth (depth : Int) : Text → Int
  | [] => depth
  | c :: rest => endDepth (depth + bracketStep c) rest

/-- Whether a text from a given depth on has commas in brackets only. -/
def hasInnerCommas (depth : Int) : Text → Bool
  | [] => true
  | c :: rest => (c != ',' || depth != 0) && hasInnerCommas (depth + bracketStep c) rest

/-- A character that is neither a comma nor a bracket does not count. -/
def isFlat (c : Char) : Bool :=
  c != ',' && bracketStep c == 0

theorem isOnePart_cons
    {depth : Int} {c : Char} {rest : Text} :
    isOnePart depth (c :: rest) = true ↔
      ¬(c = ',' ∧ depth = 0) ∧ isOnePart (depth + bracketStep c) rest = true := by
  rw [isOnePart, Bool.and_eq_true, Bool.or_eq_true, bne_iff_ne, bne_iff_ne,
    ← Decidable.not_and_iff_not_or_not]

theorem hasInnerCommas_cons
    {depth : Int} {c : Char} {rest : Text} :
    hasInnerCommas depth (c :: rest) = true ↔
      ¬(c = ',' ∧ depth = 0) ∧ hasInnerCommas (depth + bracketStep c) rest = true := by
  rw [hasInnerCommas, Bool.and_eq_true, Bool.or_eq_true, bne_iff_ne, bne_iff_ne,
    ← Decidable.not_and_iff_not_or_not]

/-- A part has its commas in brackets, and it closes its brackets. -/
theorem isOnePart_iff
    {part : Text} :
    ∀ {depth : Int},
      isOnePart depth part = true ↔ hasInnerCommas depth part = true ∧ endDepth depth part = 0 := by
  induction part with
  | nil =>
      intro depth
      rw [isOnePart, beq_iff_eq, endDepth]
      exact ⟨fun level => ⟨rfl, level⟩, fun both => both.2⟩
  | cons c part inductionHypothesis =>
      intro depth
      rw [isOnePart_cons, inductionHypothesis, hasInnerCommas_cons, endDepth, and_assoc]

theorem hasInnerCommas_of_not_mem
    {part : Text} (absent : ',' ∉ part) :
    ∀ depth : Int, hasInnerCommas depth part = true := by
  induction part with
  | nil => exact fun _ => rfl
  | cons c part inductionHypothesis =>
      intro depth
      rw [List.mem_cons, not_or] at absent
      exact hasInnerCommas_cons.2
        ⟨fun comma => absent.1 comma.1.symm, inductionHypothesis absent.2 _⟩

/-- Within brackets, characters that are no brackets change nothing. -/
theorem isOnePart_append_of_level
    {depth : Int} (inner : depth ≠ 0) {front : Text} (level : ∀ c ∈ front, bracketStep c = 0)
    (rest : Text) :
    isOnePart depth (front ++ rest) = isOnePart depth rest := by
  induction front with
  | nil => rfl
  | cons c front inductionHypothesis =>
      rw [List.forall_mem_cons] at level
      rw [List.cons_append, isOnePart, bne_iff_ne.2 inner, Bool.or_true, Bool.true_and, level.1,
        Int.add_zero, inductionHypothesis level.2]

/-- Flat characters ahead of a text change nothing. -/
theorem isOnePart_append_of_flat
    {depth : Int} {front : Text} (flat : ∀ c ∈ front, isFlat c = true) (rest : Text) :
    isOnePart depth (front ++ rest) = isOnePart depth rest := by
  induction front with
  | nil => rfl
  | cons c front inductionHypothesis =>
      rw [List.forall_mem_cons, isFlat, Bool.and_eq_true, bne_iff_ne, beq_iff_eq] at flat
      have comma : (c != ',') = true := bne_iff_ne.2 flat.1.1
      rw [List.cons_append, isOnePart, comma, Bool.true_or, Bool.true_and, flat.1.2, Int.add_zero,
        inductionHypothesis flat.2]

theorem isOnePart_of_flat
    {part : Text} (flat : ∀ c ∈ part, isFlat c = true) :
    isOnePart 0 part = true := by
  rw [← List.append_nil part, isOnePart_append_of_flat flat]
  rfl

/-- A part that is closed can be followed by another. -/
theorem isOnePart_append
    {left right : Text} (rightPart : isOnePart 0 right = true) :
    ∀ {depth : Int}, isOnePart depth left = true → isOnePart depth (left ++ right) = true := by
  induction left with
  | nil =>
      intro depth leftPart
      rw [isOnePart, beq_iff_eq] at leftPart
      rw [leftPart]
      exact rightPart
  | cons c left inductionHypothesis =>
      intro depth leftPart
      rw [isOnePart_cons] at leftPart
      rw [List.cons_append, isOnePart_cons]
      exact ⟨leftPart.1, inductionHypothesis leftPart.2⟩

/-! ## Splitting undoes joining -/

theorem splitFrom_cons_of_inner
    {depth : Int} {c : Char} (inner : ¬(c = ',' ∧ depth = 0)) {rest piece : Text}
    {pieces : List Text} (split : splitFrom (depth + bracketStep c) rest = piece :: pieces) :
    splitFrom depth (c :: rest) = (c :: piece) :: pieces := by
  rw [splitFrom, if_neg inner, split]

theorem splitFrom_of_hasInnerCommas
    {part : Text} :
    ∀ {depth : Int}, hasInnerCommas depth part = true → splitFrom depth part = [part] := by
  induction part with
  | nil => exact fun _ => rfl
  | cons c part inductionHypothesis =>
      intro depth commas
      rw [hasInnerCommas_cons] at commas
      exact splitFrom_cons_of_inner commas.1 (inductionHypothesis commas.2)

theorem splitFrom_append_comma
    {part : Text} (rest : Text) :
    ∀ {depth : Int},
      isOnePart depth part = true →
        splitFrom depth (part ++ ',' :: rest) = part :: splitFrom 0 rest := by
  induction part with
  | nil =>
      intro depth onePart
      rw [isOnePart, beq_iff_eq] at onePart
      rw [List.nil_append, splitFrom, if_pos ⟨rfl, onePart⟩, onePart]
  | cons c part inductionHypothesis =>
      intro depth onePart
      rw [isOnePart_cons] at onePart
      exact splitFrom_cons_of_inner onePart.1 (inductionHypothesis onePart.2)

theorem joinWith_cons_cons
    (first next : Text) (later : List Text) :
    Text.joinWith ", " (first :: next :: later) =
      first ++ ',' :: ' ' :: Text.joinWith ", " (next :: later) := by
  rw [Text.joinWith]
  simp

/-- Behind a comma and a blank a part is split off with the blank. The last part need not close its
brackets. -/
theorem splitFrom_joinWith_of_closed
    {first : Text} {later : List Text}
    (commas : ∀ part ∈ first :: later, hasInnerCommas 0 part = true)
    (closed : ∀ part ∈ (first :: later).dropLast, endDepth 0 part = 0) :
    splitFrom 0 (Text.joinWith ", " (first :: later)) = first :: later.map (' ' :: ·) := by
  induction later generalizing first with
  | nil => exact splitFrom_of_hasInnerCommas (commas first List.mem_cons_self)
  | cons next later inductionHypothesis =>
      rw [List.forall_mem_cons] at commas
      rw [List.dropLast_cons_cons, List.forall_mem_cons] at closed
      have blank : ¬(' ' = ',' ∧ (0 : Int) = 0) := by decide
      rw [joinWith_cons_cons, splitFrom_append_comma _ (isOnePart_iff.2 ⟨commas.1, closed.1⟩),
        List.map_cons, splitFrom_cons_of_inner blank (inductionHypothesis commas.2 closed.2)]

theorem splitFrom_joinWith
    {first : Text} {later : List Text}
    (oneParts : ∀ part ∈ first :: later, isOnePart 0 part = true) :
    splitFrom 0 (Text.joinWith ", " (first :: later)) = first :: later.map (' ' :: ·) :=
  splitFrom_joinWith_of_closed (fun part member => (isOnePart_iff.1 (oneParts part member)).1)
    fun part member =>
      (isOnePart_iff.1 (oneParts part ((List.dropLast_sublist _).subset member))).2

theorem trim_blank_cons
    (part : Text) :
    Text.trim (' ' :: part) = Text.trim part := by
  rw [Text.trim, Text.trim, Text.trimStart, List.dropWhile_cons_of_pos (by decide)]
  rfl

/-- Splitting a list of parts at its top level leaves the parts without the blanks at their ends. -/
theorem splitTopLevel_joinWith_trim
    {parts : List Text} (commas : ∀ part ∈ parts, hasInnerCommas 0 part = true)
    (closed : ∀ part ∈ parts.dropLast, endDepth 0 part = 0)
    (solid : ∀ part ∈ parts, Text.trim part ≠ []) :
    splitTopLevel (Text.joinWith ", " parts) = parts.map Text.trim := by
  cases parts with
  | nil => rfl
  | cons first later =>
      have laterTrimmed : later.map (Text.trim ∘ (' ' :: ·)) = later.map Text.trim :=
        List.map_congr_left fun part _ => trim_blank_cons part
      have nonempty :
          ((first :: later).map Text.trim).filter (· != []) = (first :: later).map Text.trim := by
        refine List.filter_eq_self.2 fun part member => ?_
        obtain ⟨whole, wholeMember, rfl⟩ := List.mem_map.1 member
        exact bne_iff_ne.2 (solid whole wholeMember)
      rw [splitTopLevel, splitFrom_joinWith_of_closed commas closed, List.map_cons, List.map_map,
        laterTrimmed]
      exact nonempty

/-- Splitting a list of parts at its top level undoes joining the parts. -/
theorem splitTopLevel_joinWith
    {parts : List Text} (oneParts : ∀ part ∈ parts, isOnePart 0 part = true)
    (trimmed : ∀ part ∈ parts, part ≠ [] ∧ Text.trim part = part) :
    splitTopLevel (Text.joinWith ", " parts) = parts := by
  rw [splitTopLevel_joinWith_trim (fun part member => (isOnePart_iff.1 (oneParts part member)).1)
    (fun part member =>
      (isOnePart_iff.1 (oneParts part ((List.dropLast_sublist parts).subset member))).2)
    fun part member => (trimmed part member).2.symm ▸ (trimmed part member).1]
  exact (List.map_congr_left fun part member => (trimmed part member).2).trans (List.map_id parts)

/-! ## Unclosed parts -/

theorem splitFrom_ne_nil
    (depth : Int) (text : Text) :
    splitFrom depth text ≠ [] := by
  cases text with
  | nil => exact List.cons_ne_nil _ _
  | cons c rest =>
      rw [splitFrom]
      split
      · exact List.cons_ne_nil _ _
      · split <;> exact List.cons_ne_nil _ _

/-- A character that splits nothing off leaves the number of pieces. -/
theorem length_splitFrom_cons
    {depth : Int} {c : Char} (inner : ¬(c = ',' ∧ depth = 0)) (rest : Text) :
    (splitFrom depth (c :: rest)).length = (splitFrom (depth + bracketStep c) rest).length := by
  obtain ⟨piece, pieces, split⟩ :=
    List.exists_cons_of_ne_nil (splitFrom_ne_nil (depth + bracketStep c) rest)
  rw [splitFrom_cons_of_inner inner split, split]
  rfl

/-- A part without commas leaves to what follows it the depth behind it. -/
theorem length_splitFrom_append
    {part : Text} (absent : ',' ∉ part) (rest : Text) :
    ∀ depth : Int,
      (splitFrom depth (part ++ rest)).length = (splitFrom (endDepth depth part) rest).length := by
  induction part with
  | nil => exact fun _ => rfl
  | cons c part inductionHypothesis =>
      intro depth
      rw [List.mem_cons, not_or] at absent
      rw [List.cons_append, length_splitFrom_cons fun comma => absent.1 comma.1.symm,
        inductionHypothesis absent.2, endDepth]

/-- A comma splits off a piece exactly outside of brackets. -/
theorem length_splitFrom_comma
    (depth : Int) (rest : Text) :
    (splitFrom depth (',' :: ' ' :: rest)).length =
      (splitFrom depth rest).length + if depth = 0 then 1 else 0 := by
  have blank : (splitFrom depth (' ' :: rest)).length = (splitFrom depth rest).length := by
    rw [length_splitFrom_cons fun comma => absurd comma.1 (by decide)]
    exact congrArg (fun other => (splitFrom other rest).length) (Int.add_zero depth)
  by_cases outside : depth = 0
  · rw [splitFrom, if_pos ⟨rfl, outside⟩, List.length_cons, blank, if_pos outside]
  · rw [length_splitFrom_cons fun comma => outside comma.2, if_neg outside, Nat.add_zero]
    have same :=
      congrArg (fun other => (splitFrom other (' ' :: rest)).length) (Int.add_zero depth)
    exact same.trans blank

/-- Parts without commas are split into no more pieces than there are parts. -/
theorem length_splitFrom_joinWith_le
    {first : Text} {later : List Text} (absent : ∀ part ∈ first :: later, ',' ∉ part) :
    ∀ depth : Int,
      (splitFrom depth (Text.joinWith ", " (first :: later))).length ≤ later.length + 1 := by
  induction later generalizing first with
  | nil =>
      intro depth
      have whole := hasInnerCommas_of_not_mem (absent first List.mem_cons_self) depth
      rw [Text.joinWith, splitFrom_of_hasInnerCommas whole]
      exact Nat.le_refl 1
  | cons next later inductionHypothesis =>
      intro depth
      rw [List.forall_mem_cons] at absent
      rw [joinWith_cons_cons, length_splitFrom_append absent.1, length_splitFrom_comma,
        List.length_cons]
      have short := inductionHypothesis absent.2 (endDepth depth first)
      split <;> omega

theorem closed_of_length_splitFrom
    {first : Text} {later : List Text} (absent : ∀ part ∈ first :: later, ',' ∉ part)
    (same : (splitFrom 0 (Text.joinWith ", " (first :: later))).length = later.length + 1) :
    ∀ part ∈ (first :: later).dropLast, endDepth 0 part = 0 := by
  induction later generalizing first with
  | nil => exact List.forall_mem_nil _
  | cons next later inductionHypothesis =>
      rw [List.forall_mem_cons] at absent
      rw [joinWith_cons_cons, length_splitFrom_append absent.1, length_splitFrom_comma,
        List.length_cons] at same
      have short := length_splitFrom_joinWith_le absent.2 (endDepth 0 first)
      have closed : endDepth 0 first = 0 := by
        refine Decidable.byContradiction fun opened => ?_
        rw [if_neg opened] at same
        omega
      rw [closed, if_pos rfl] at same
      rw [List.dropLast_cons_cons, List.forall_mem_cons]
      exact ⟨closed, inductionHypothesis absent.2 (by omega)⟩

/-- Parts without commas are split into as many parts only if each of them but the last closes its
brackets. -/
theorem closed_of_length_splitTopLevel
    {parts : List Text} (absent : ∀ part ∈ parts, ',' ∉ part)
    (same : (splitTopLevel (Text.joinWith ", " parts)).length = parts.length) :
    ∀ part ∈ parts.dropLast, endDepth 0 part = 0 := by
  cases parts with
  | nil => exact List.forall_mem_nil _
  | cons first later =>
      refine closed_of_length_splitFrom absent
        (Nat.le_antisymm (length_splitFrom_joinWith_le absent 0) ?_)
      have kept := List.length_filter_le (· != [])
        ((splitFrom 0 (Text.joinWith ", " (first :: later))).map Text.trim)
      rw [List.length_map] at kept
      exact Nat.le_trans (Nat.le_of_eq same.symm) kept

end Kata.Prototype
