import Kata.Source.Blocks
import Kata.Source.Comments
import Kata.Proofs.Text.Lines

/-!
# Definitions among the lines of a source text

A definition begins with a line that satisfies a predicate, and ends with the line on which its body
is closed, or on which a semicolon stands in place of a body. Only braces in code count for that.
The blocks that are removed begin with the same lines, but end where all braces of the lines, taken
together, are even. Both are trackers of the same lines, and what they leave outside is compared.
-/

namespace Kata.Source

open Kata.Language (CommentStyle)

/-! ## Lines with their code -/

/-- A line of a source text, and what of it is code. -/
structure Line where
  text : Text
  code : Text
deriving DecidableEq, Repr

/-- A text ahead of the first line. -/
def extendFirst (front : Text) : List Text → List Text
  | [] => [front]
  | line :: later => (front ++ line) :: later

/-- What the scanner keeps of each line of a text, from a state on. A line feed that it skips ends
a line all the same. -/
def Scanner.keepLines (style : CommentStyle) : Scanner → Text → List Text
  | _, [] => [[]]
  | scanner, c :: rest =>
    if c = '\n' then [] :: keepLines style (scanner.step style c rest).2 rest
    else
      extendFirst (scanner.step style c rest).1
        (keepLines style (scanner.step style c rest).2 rest)

/-- The lines of a source text with their code. -/
def codedLines (style : CommentStyle) (text : Text) : List Line :=
  ((Text.lines text).zip (Scanner.start.keepLines style text)).map fun (line, code) => ⟨line, code⟩

theorem flatten_extendFirst
    (front : Text) (lines : List Text) :
    (extendFirst front lines).flatten = front ++ lines.flatten := by
  cases lines with
  | nil => rfl
  | cons line later => exact List.append_assoc front line later.flatten

section Feeds

variable {c : Char}

theorem isFeed_of_mem_stepCode
    (style : CommentStyle) (rest : Text) :
    ∀ d ∈ (stepCode style c rest).1, d = '\n' ↔ c = '\n' := by
  rw [stepCode.eq_def]
  split
  · exact List.forall_mem_nil _
  · split
    · exact List.forall_mem_nil _
    · split
      · next opens =>
        rw [opens.2.1]
        exact List.forall_mem_singleton.2 (by decide)
      · split
        · split <;> simp
        · exact List.forall_mem_singleton.2 Iff.rfl

theorem isFeed_of_mem_stepQuoted
    (quote : Char) :
    ∀ d ∈ (stepQuoted quote c).1, d = '\n' ↔ c = '\n' := by
  rw [stepQuoted.eq_def]
  split
  · exact List.forall_mem_nil _
  · split
    · next ends => exact List.forall_mem_singleton.2 (iff_of_true rfl ends.1)
    · split
      · exact List.forall_mem_singleton.2 Iff.rfl
      · split
        · next feed => exact List.forall_mem_singleton.2 (iff_of_true rfl feed)
        · exact List.forall_mem_nil _

theorem isFeed_of_mem_stepTripleQuoted
    (quote : Char) (rest : Text) :
    ∀ d ∈ (stepTripleQuoted quote c rest).1, d = '\n' ↔ c = '\n' := by
  rw [stepTripleQuoted.eq_def]
  split
  · exact List.forall_mem_nil _
  · split
    · next closes =>
      rw [← closes.1]
      simp
    · split
      · next feed => exact List.forall_mem_singleton.2 (iff_of_true rfl feed)
      · exact List.forall_mem_nil _

/-- What is kept of a line feed are line feeds, and what is kept of another character is none. -/
theorem isFeed_of_mem_step
    (style : CommentStyle) (scanner : Scanner) (rest : Text) :
    ∀ d ∈ (scanner.step style c rest).1, d = '\n' ↔ c = '\n' := by
  obtain ⟨mode, skip⟩ := scanner
  cases skip with
  | succ skip => exact List.forall_mem_nil _
  | zero =>
      cases mode with
      | code => exact isFeed_of_mem_stepCode style rest
      | quoted quote => exact isFeed_of_mem_stepQuoted quote
      | tripleQuoted quote => exact isFeed_of_mem_stepTripleQuoted quote rest
      | lineComment =>
          change ∀ d ∈ (stepLineComment c).1, d = '\n' ↔ c = '\n'
          rw [stepLineComment.eq_def]
          split
          · next feed => exact List.forall_mem_singleton.2 (iff_of_true rfl feed)
          · exact List.forall_mem_nil _
      | blockComment =>
          change ∀ d ∈ (stepBlockComment c rest).1, d = '\n' ↔ c = '\n'
          rw [stepBlockComment.eq_def]
          split
          · exact List.forall_mem_nil _
          · split
            · next feed => exact List.forall_mem_singleton.2 (iff_of_true rfl feed)
            · exact List.forall_mem_nil _

theorem filter_step
    (style : CommentStyle) (scanner : Scanner) (rest : Text) :
    (scanner.step style c rest).1.filter (· != '\n') =
      if c = '\n' then [] else (scanner.step style c rest).1 := by
  have feeds : ∀ d ∈ (scanner.step style c rest).1, d = '\n' ↔ c = '\n' :=
    isFeed_of_mem_step style scanner rest
  split
  · next feed =>
    refine List.filter_eq_nil_iff.2 fun d member => ?_
    rw [(feeds d member).2 feed]
    decide
  · next other =>
    exact List.filter_eq_self.2 fun d member => bne_iff_ne.2 (mt (feeds d member).1 other)

end Feeds

/-- The code of the lines is what is left of the text without comments, line feeds apart. -/
theorem flatten_keepLines
    (style : CommentStyle) (scanner : Scanner) (text : Text) :
    (scanner.keepLines style text).flatten = (scanner.keep style text).filter (· != '\n') := by
  induction text generalizing scanner with
  | nil => rfl
  | cons c rest inductionHypothesis =>
      rw [Scanner.keep, List.filter_append, filter_step, ← inductionHypothesis, Scanner.keepLines]
      split
      · rfl
      · exact flatten_extendFirst _ _

theorem length_keepLines
    (style : CommentStyle) (scanner : Scanner) (text : Text) :
    (scanner.keepLines style text).length = (Text.splitOn '\n' text).length := by
  induction text generalizing scanner with
  | nil => rfl
  | cons c rest inductionHypothesis =>
      have same := inductionHypothesis (scanner.step style c rest).2
      obtain ⟨part, parts, split⟩ :=
        List.exists_cons_of_ne_nil (Text.joinWith_splitOn '\n' rest).1
      rw [split] at same
      rw [Scanner.keepLines]
      by_cases feed : c = '\n'
      · rw [if_pos feed, List.length_cons, same, feed, ← split]
        rfl
      · obtain ⟨line, later, kept⟩ := List.exists_cons_of_length_eq_add_one same
        rw [if_neg feed, Text.splitOn_cons_of_ne feed split, kept]
        rw [kept] at same
        exact same

theorem length_lines_le
    (text : Text) :
    (Text.lines text).length ≤ (Text.splitOn '\n' text).length := by
  rw [Text.lines]
  generalize Text.splitOn '\n' text = parts
  induction parts with
  | nil => exact Nat.le_refl 0
  | cons part parts inductionHypothesis =>
      cases parts with
      | nil =>
          rw [Text.lines.go]
          split <;> simp
      | cons next rest => exact Nat.succ_le_succ inductionHypothesis

/-- No line is lost. -/
theorem map_text_codedLines
    (style : CommentStyle) (text : Text) :
    (codedLines style text).map Line.text = Text.lines text := by
  have enough :
      (Text.lines text).length ≤ (Scanner.start.keepLines style text).length := by
    rw [length_keepLines]
    exact length_lines_le text
  rw [codedLines, List.map_map]
  exact List.map_fst_zip enough

/-! ## Trackers -/

/-- A way to follow what a line begins: how it stands ahead of that line, and how it stands behind
a further line, unless it has ended there. -/
structure Tracker (σ : Type) where
  fresh : σ
  behind? : σ → Line → Option σ

section Lines

variable {σ τ : Type} (isStart : Text → Bool)

/-- Whether a line is outside, where something may have been begun ahead of it. -/
def Line.isOutside (begun? : Option σ) (line : Line) : Bool :=
  begun?.isNone && !isStart (Text.trim line.text)

namespace Tracker

variable (tracker : Tracker σ)

/-- What is begun and not ended behind a line. -/
def next? : Option σ → Line → Option σ
  | some state, line => tracker.behind? state line
  | none, line => if isStart (Text.trim line.text) then tracker.behind? tracker.fresh line else none

/-- Which lines are outside. -/
def marks : (begun? : Option σ) → List Line → List Bool
  | _, [] => []
  | begun?, line :: rest =>
    line.isOutside isStart begun? :: marks (tracker.next? isStart begun? line) rest

/-- The unbroken runs of lines that are not outside, each up to the next line that is; `run` holds
the lines of the run so far. -/
def runs : (begun? : Option σ) → (run : List Line) → List Line → List (List Line)
  | _, _, [] => []
  | begun?, run, line :: rest =>
    if line.isOutside isStart begun? then run :: runs none [] rest
    else runs (tracker.next? isStart begun? line) (run ++ [line]) rest

/-- Whether nothing is left open behind a run of lines. -/
def isEven (run : List Line) : Bool :=
  (run.foldl (tracker.next? isStart) none).isNone

end Tracker

theorem isOutside_eq_true_iff
    {begun? : Option σ} {line : Line} :
    line.isOutside isStart begun? = true ↔
      begun? = none ∧ isStart (Text.trim line.text) = false := by
  rw [Line.isOutside, Bool.and_eq_true, Option.isNone_iff_eq_none, Bool.not_eq_true']

/-- Behind a line outside, nothing is begun. -/
theorem next?_of_isOutside
    (tracker : Tracker σ) {line : Line} (plain : isStart (Text.trim line.text) = false) :
    tracker.next? isStart none line = none := by
  rw [Tracker.next?, plain, if_neg Bool.false_ne_true]

/-- What one tracker leaves outside, another leaves outside as well, just if that one leaves nothing
open behind any run of lines between lines that are outside for the first. -/
theorem marks_le_iff
    (inner : Tracker σ) (outer : Tracker τ) (lines : List Line) :
    (∀ i : Nat, (inner.marks isStart none lines)[i]? = some true →
        (outer.marks isStart none lines)[i]? = some true) ↔
      ∀ run ∈ inner.runs isStart none [] lines, outer.isEven isStart run = true := by
  -- In lockstep: the outer tracker stands as the lines of the run so far have left it.
  suffices lockstep :
      ∀ (begun? : Option σ) (pending : List Line),
        (∀ i : Nat, (inner.marks isStart begun? lines)[i]? = some true →
            (outer.marks isStart (pending.foldl (outer.next? isStart) none) lines)[i]? =
              some true) ↔
          ∀ run ∈ inner.runs isStart begun? pending lines, outer.isEven isStart run = true from
    lockstep none []
  induction lines with
  | nil =>
      intro begun? pending
      simp [Tracker.marks, Tracker.runs]
  | cons line rest inductionHypothesis =>
      intro begun? pending
      rw [Tracker.marks, Tracker.marks, Tracker.runs.eq_def, ← Nat.and_forall_add_one]
      simp only [List.getElem?_cons_zero, List.getElem?_cons_succ, Option.some.injEq]
      by_cases outside : line.isOutside isStart begun? = true
      · rw [if_pos outside, List.forall_mem_cons]
        obtain ⟨rfl, plain⟩ := (isOutside_eq_true_iff isStart).1 outside
        have even :
            line.isOutside isStart (pending.foldl (outer.next? isStart) none) = true ↔
              outer.isEven isStart pending = true := by
          rw [isOutside_eq_true_iff, Tracker.isEven, Option.isNone_iff_eq_none]
          exact and_iff_left plain
        rw [imp_iff_right outside, even]
        refine and_congr_right fun isEven => ?_
        rw [Option.isNone_iff_eq_none.1 isEven, next?_of_isOutside isStart inner plain,
          next?_of_isOutside isStart outer plain]
        exact inductionHypothesis none []
      · have further := inductionHypothesis (inner.next? isStart begun? line) (pending ++ [line])
        rw [List.foldl_append] at further
        rw [if_neg outside, ← further]
        exact and_iff_right fun isOutside => absurd isOutside outside

end Lines

/-! ## Two trackers -/

/-- Blocks end where the braces of their lines are even. -/
def byBraces : Tracker BraceDepth where
  fresh := ⟨0, false⟩
  behind? state line := (state.behind (Text.trim line.text)).open?

/-- How far a definition has been read. -/
inductive Reading where
  | head
  /-- In the body, with this many braces open inside of it. -/
  | body (depth : Nat)
  | over
deriving DecidableEq, Repr

/-- A further character of code. A semicolon in place of a body ends a mere declaration. -/
def Reading.step : Reading → Char → Reading
  | .head, c => if c = '\x7b' then .body 0 else if c = ';' then .over else .head
  | .body depth, c =>
    if c = '\x7b' then .body (depth + 1)
    else if c = '\x7d' then
      match depth with
      | 0 => .over
      | outer + 1 => .body outer
    else .body depth
  | .over, _ => .over

/-- Definitions end where their bodies are closed in the code. -/
def byCode : Tracker Reading where
  fresh := .head
  behind? reading line :=
    match line.code.foldl Reading.step reading with
    | .over => none
    | reading => some reading

/-- The texts of the marked lines. -/
def marked (marks : List Bool) (lines : List Line) : List Text :=
  ((lines.zip marks).filter (·.2)).map (·.1.text)

/-- Removing blocks leaves the lines that are outside of them. -/
theorem linesOutsideBraces_eq
    (isStart : Text → Bool) (lines : List Line) :
    ∀ begun? : Option BraceDepth,
      linesOutsideBraces isStart begun? (lines.map Line.text) =
        marked (byBraces.marks isStart begun? lines) lines := by
  induction lines with
  | nil => exact fun _ => rfl
  | cons line rest inductionHypothesis =>
      intro begun?
      cases begun? with
      | some block => exact inductionHypothesis (block.behind (Text.trim line.text)).open?
      | none =>
          rw [List.map_cons, linesOutsideBraces, Tracker.marks, Line.isOutside, Tracker.next?]
          by_cases starts : isStart (Text.trim line.text) = true
          · rw [if_pos starts, if_pos starts, starts]
            exact inductionHypothesis _
          · rw [if_neg starts, if_neg starts, Bool.eq_false_iff.2 starts]
            exact congrArg (line.text :: ·) (inductionHypothesis none)

end Kata.Source
