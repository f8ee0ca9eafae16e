import Kata.Text.Blank
import Kata.Proofs.Source.Scanning
import Kata.Proofs.Text.Lines

/-!
# What is left without comments

Blanks at the ends of a text leave only blanks behind when its comments are dropped. Code in which
no comment and no quoted text begins is kept as it is, and of a comment only its line feeds are
kept, with one blank for its opening mark if it has a closing one.
-/

namespace Kata.Source

open Kata.Language (CommentStyle)

/-! ## Plain code -/

/-- Whether a character begins no comment and no quoted text, in whatever style. -/
def isPlainCode (c : Char) : Bool :=
  !(['#', '/', '"', '\'', '\x60'] : Text).contains c

/-- Whether no character of a text begins a comment or a quoted text. -/
def isCode (text : Text) : Bool :=
  text.all isPlainCode

theorem isCode_append
    (left right : Text) :
    isCode (left ++ right) = (isCode left && isCode right) :=
  List.all_append

theorem isCode_joinWith
    {separator : Text} {parts : List Text} (separatorCode : isCode separator = true)
    (partsCode : ∀ part ∈ parts, isCode part = true) :
    isCode (Text.joinWith separator parts) = true :=
  Text.all_joinWith separatorCode partsCode

theorem isCode_flatMap
    {α : Type} {piece : α → Text} {items : List α}
    (pieceCode : ∀ item ∈ items, isCode (piece item) = true) :
    isCode (items.flatMap piece) = true := by
  refine List.all_eq_true.2 fun c member => ?_
  obtain ⟨item, itemMember, inPiece⟩ := List.mem_flatMap.1 member
  exact List.all_eq_true.1 (pieceCode item itemMember) c inPiece

theorem ne_of_isPlainCode
    {c other : Char} (plain : isPlainCode c = true) (special : isPlainCode other = false) :
    c ≠ other := by
  rintro rfl
  rw [plain] at special
  exact Bool.noConfusion special

theorem opensQuote_of_isPlainCode
    (style : CommentStyle) {c : Char} (plain : isPlainCode c = true) :
    ¬opensQuote style c = true := by
  simp only [opensQuote, Bool.or_eq_true, beq_iff_eq, Bool.and_eq_true]
  rintro ((isDouble | isSingle) | ⟨_, isBacktick⟩)
  · exact ne_of_isPlainCode plain (by decide) isDouble
  · exact ne_of_isPlainCode plain (by decide) isSingle
  · exact ne_of_isPlainCode plain (by decide) isBacktick

theorem stepCode_of_isPlainCode
    (style : CommentStyle) {c : Char} (plain : isPlainCode c = true) (rest : Text) :
    stepCode style c rest = ([c], .entering .code) := by
  have notHash : c ≠ '#' := ne_of_isPlainCode plain (by decide)
  have notSlash : c ≠ '/' := ne_of_isPlainCode plain (by decide)
  rw [stepCode, if_neg fun both => notHash both.2, if_neg fun all => notSlash all.2.1,
    if_neg fun all => notSlash all.2.1, if_neg (opensQuote_of_isPlainCode style plain)]

/-- Plain code ahead of a text is kept. -/
theorem stripComments_append_of_plain
    (style : CommentStyle) {code : Text} (plain : isCode code = true) (text : Text) :
    stripComments style (code ++ text) = code ++ stripComments style text := by
  rw [stripComments, stripComments]
  induction code with
  | nil => rfl
  | cons c code inductionHypothesis =>
      rw [isCode, List.all_cons, Bool.and_eq_true] at plain
      have step :
          Scanner.start.step style c (code ++ text) = ([c], Scanner.start) :=
        stepCode_of_isPlainCode style plain.1 (code ++ text)
      rw [List.cons_append, keep_cons, step, inductionHypothesis plain.2]
      rfl

/-! ## Whole comments -/

/-- Of the inside of a comment that ends with the line, only the line feed is kept. -/
theorem keep_lineComment
    (style : CommentStyle) {content : Text} (oneLine : '\n' ∉ content) (text : Text) :
    (Scanner.entering .lineComment).keep style (content ++ '\n' :: text) =
      '\n' :: stripComments style text := by
  induction content with
  | nil => rfl
  | cons c content inductionHypothesis =>
      rw [List.mem_cons, not_or] at oneLine
      have step :
          (Scanner.entering .lineComment).step style c (content ++ '\n' :: text) =
            ([], .entering .lineComment) :=
        if_neg (Ne.symm oneLine.1)
      rw [List.cons_append, keep_cons, step, inductionHypothesis oneLine.2]
      rfl

/-- Of a comment behind a hash only the line feed is kept. -/
theorem stripComments_hashComment
    {content : Text} (oneLine : '\n' ∉ content) (text : Text) :
    stripComments .hash ('#' :: content ++ '\n' :: text) = '\n' :: stripComments .hash text :=
  keep_lineComment .hash oneLine text

/-- A comment goes on until its closing mark, and of its inside only line feeds are kept. -/
theorem keep_blockComment
    (style : CommentStyle) {content : Text} (unclosed : ¬['*', '/'] <:+: content) (text : Text) :
    (Scanner.entering .blockComment).keep style (content ++ '*' :: '/' :: text) =
      content.filter (· == '\n') ++ stripComments style text := by
  induction content with
  | nil => rfl
  | cons c content inductionHypothesis =>
      have unclosedBehind : ¬['*', '/'] <:+: content :=
        fun inside => unclosed (List.infix_cons inside)
      have noClosing : ¬(c = '*' ∧ (content ++ '*' :: '/' :: text).head? = some '/') := by
        rintro ⟨isStar, slash⟩
        cases content with
        | nil => exact absurd slash (by simp)
        | cons d content =>
            rw [List.cons_append, List.head?_cons, Option.some.injEq] at slash
            subst isStar slash
            exact unclosed ⟨[], content, rfl⟩
      have kept := inductionHypothesis unclosedBehind
      rw [List.cons_append, keep_cons]
      change (stepBlockComment c (content ++ '*' :: '/' :: text)).1 ++
          (stepBlockComment c (content ++ '*' :: '/' :: text)).2.keep style
            (content ++ '*' :: '/' :: text) =
        (c :: content).filter (· == '\n') ++ stripComments style text
      rw [stepBlockComment, if_neg noClosing]
      by_cases lineFeed : c = '\n'
      · subst lineFeed
        rw [if_pos rfl, kept]
        rfl
      · have dropped : (c == '\n') = false := beq_eq_false_iff_ne.2 lineFeed
        rw [if_neg lineFeed, kept, List.filter_cons_of_neg (by simp [dropped])]
        rfl

/-! ## Texts that leave only blanks -/

/-- That only blanks are kept of a piece of text, and behind it the scanner is back in code. -/
def LeavesBlanks (style : CommentStyle) (piece : Text) : Prop :=
  ∀ text, ∃ left, (∀ c ∈ left, Text.isBlank c = true) ∧
    stripComments style (piece ++ text) = left ++ stripComments style text

theorem leavesBlanks_nil
    (style : CommentStyle) :
    LeavesBlanks style [] :=
  fun _ => ⟨[], List.forall_mem_nil _, rfl⟩

theorem leavesBlanks_append
    {style : CommentStyle} {first second : Text} (firstLeaves : LeavesBlanks style first)
    (secondLeaves : LeavesBlanks style second) :
    LeavesBlanks style (first ++ second) := by
  intro text
  obtain ⟨left, leftBlank, leftKept⟩ := firstLeaves (second ++ text)
  obtain ⟨right, rightBlank, rightKept⟩ := secondLeaves text
  refine ⟨left ++ right, List.forall_mem_append.2 ⟨leftBlank, rightBlank⟩, ?_⟩
  rw [List.append_assoc, leftKept, rightKept, List.append_assoc]

theorem leavesBlanks_flatMap
    {style : CommentStyle} {α : Type} {piece : α → Text} (items : List α)
    (leaves : ∀ item ∈ items, LeavesBlanks style (piece item)) :
    LeavesBlanks style (items.flatMap piece) := by
  induction items with
  | nil => exact leavesBlanks_nil style
  | cons item items inductionHypothesis =>
      rw [List.forall_mem_cons] at leaves
      rw [List.flatMap_cons]
      exact leavesBlanks_append leaves.1 (inductionHypothesis leaves.2)

theorem leavesBlanks_hashComment
    {content : Text} (oneLine : '\n' ∉ content) :
    LeavesBlanks .hash ('#' :: content ++ ['\n']) := by
  intro text
  refine ⟨['\n'], List.forall_mem_singleton.2 (by decide), ?_⟩
  rw [List.append_assoc]
  exact stripComments_hashComment oneLine text

/-- A comment between its marks and the end of its line. -/
theorem leavesBlanks_blockComment
    {content : Text} (noSlash : '/' ∉ content) :
    LeavesBlanks .slash ('/' :: '*' :: content ++ ['*', '/', '\n']) := by
  intro text
  have unclosed : ¬['*', '/'] <:+: content :=
    fun inside => noSlash (inside.subset (by simp))
  have kept := keep_blockComment .slash unclosed ('\n' :: text)
  have lineFeed : stripComments .slash ('\n' :: text) = '\n' :: stripComments .slash text :=
    rfl
  have blank : ∀ c ∈ content.filter (· == '\n') ++ ['\n'], Text.isBlank c = true := by
    refine List.forall_mem_append.2 ⟨?_, List.forall_mem_singleton.2 (by decide)⟩
    intro c member
    rw [eq_of_beq (List.mem_filter.1 member).2]
    decide
  refine ⟨' ' :: (content.filter (· == '\n') ++ ['\n']),
    List.forall_mem_cons.2 ⟨by decide, blank⟩, ?_⟩
  have regrouped :
      ' ' :: (content.filter (· == '\n') ++ ['\n']) ++ stripComments .slash text =
        ' ' :: (content.filter (· == '\n') ++ '\n' :: stripComments .slash text) := by
    rw [List.cons_append, List.append_assoc, List.singleton_append]
  rw [lineFeed] at kept
  rw [List.append_assoc, regrouped]
  exact congrArg (' ' :: ·) kept

/-! ## Blanks -/

theorem isPlainCode_of_isBlank
    {c : Char} (blank : Text.isBlank c = true) :
    isPlainCode c = true := by
  rw [isPlainCode, Text.contains_of_outside (by decide) blank]
  rfl

theorem isBlank_eq_false_of_isQuote
    {c : Char} (quote : isQuote c = true) :
    Text.isBlank c = false := by
  simp only [isQuote, Bool.or_eq_true, beq_iff_eq] at quote
  rcases quote with (isDouble | isSingle) | isBacktick
  · rw [isDouble]; decide
  · rw [isSingle]; decide
  · rw [isBacktick]; decide

theorem forall_isBlank_lineFeed :
    ∀ d ∈ (['\n'] : Text), Text.isBlank d = true :=
  List.forall_mem_singleton.2 (by decide)

section Steps

variable {c : Char} (blank : Text.isBlank c = true)
include blank

theorem isBlank_of_mem_stepQuoted
    (quote : Char) :
    ∀ d ∈ (stepQuoted quote c).1, Text.isBlank d = true := by
  rw [stepQuoted.eq_def]
  split
  · exact List.forall_mem_nil _
  · split
    · exact forall_isBlank_lineFeed
    · split
      · exact List.forall_mem_singleton.2 blank
      · split
        · exact forall_isBlank_lineFeed
        · exact List.forall_mem_nil _

theorem isBlank_of_mem_stepTripleQuoted
    (quote : Char) (rest : Text) :
    ∀ d ∈ (stepTripleQuoted quote c rest).1, Text.isBlank d = true := by
  rw [stepTripleQuoted.eq_def]
  split
  · exact List.forall_mem_nil _
  · split
    · next closes =>
      rw [← closes.1]
      simp [blank]
    · split
      · exact forall_isBlank_lineFeed
      · exact List.forall_mem_nil _

/-- Of a blank character only blanks are kept. -/
theorem isBlank_of_mem_step
    (style : CommentStyle) (scanner : Scanner) (rest : Text) :
    ∀ d ∈ (scanner.step style c rest).1, Text.isBlank d = true := by
  obtain ⟨mode, skip⟩ := scanner
  cases skip with
  | succ skip => exact List.forall_mem_nil _
  | zero =>
      cases mode with
      | code =>
          change ∀ d ∈ (stepCode style c rest).1, Text.isBlank d = true
          rw [stepCode_of_isPlainCode style (isPlainCode_of_isBlank blank)]
          exact List.forall_mem_singleton.2 blank
      | quoted quote => exact isBlank_of_mem_stepQuoted blank quote
      | tripleQuoted quote => exact isBlank_of_mem_stepTripleQuoted blank quote rest
      | lineComment =>
          change ∀ d ∈ (stepLineComment c).1, Text.isBlank d = true
          rw [stepLineComment.eq_def]
          split
          · exact forall_isBlank_lineFeed
          · exact List.forall_mem_nil _
      | blockComment =>
          change ∀ d ∈ (stepBlockComment c rest).1, Text.isBlank d = true
          rw [stepBlockComment.eq_def]
          split
          · exact List.forall_mem_nil _
          · split
            · exact forall_isBlank_lineFeed
            · exact List.forall_mem_nil _

end Steps

section Blanks

variable {gap : Text} (blank : ∀ c ∈ gap, Text.isBlank c = true)
include blank

/-- Blanks ahead of a text are kept. -/
theorem stripComments_append_of_blank
    (style : CommentStyle) (text : Text) :
    stripComments style (gap ++ text) = gap ++ stripComments style text :=
  stripComments_append_of_plain style
    (List.all_eq_true.2 fun c member => isPlainCode_of_isBlank (blank c member)) text

theorem isBlank_of_mem_keep
    (style : CommentStyle) (scanner : Scanner) :
    ∀ c ∈ scanner.keep style gap, Text.isBlank c = true := by
  induction gap generalizing scanner with
  | nil => exact List.forall_mem_nil _
  | cons c gap inductionHypothesis =>
      rw [List.forall_mem_cons] at blank
      rw [keep_cons, List.forall_mem_append]
      exact ⟨isBlank_of_mem_step blank.1 style scanner gap, inductionHypothesis blank.2 _⟩

/-- The scanner does not look into blanks behind a text. -/
theorem overlooks_of_blank
    (style : CommentStyle) (scanner : Scanner) (text : Text) :
    scanner.Overlooks style text gap := by
  have headDifferent : ∀ {d : Char}, Text.isBlank d = false → gap.head? ≠ some d := by
    intro d solid begins
    obtain ⟨others, rfl⟩ := List.head?_eq_some_iff.1 begins
    rw [blank d List.mem_cons_self] at solid
    exact Bool.noConfusion solid
  refine ⟨headDifferent (by decide), fun begins => ?_, fun quote isQuote begins => ?_⟩
  · exact absurd begins (headDifferent (by decide))
  · exact absurd begins (headDifferent (isBlank_eq_false_of_isQuote isQuote))

/-- Of blanks behind a text only blanks are kept, and of the text what is kept without them. -/
theorem exists_stripComments_append
    (style : CommentStyle) (text : Text) :
    ∃ left, (∀ c ∈ left, Text.isBlank c = true) ∧
      stripComments style (text ++ gap) = stripComments style text ++ left :=
  ⟨_, isBlank_of_mem_keep blank style _,
    keep_append (isSound_start text) (overlooks_of_blank blank style _ text)⟩

end Blanks

end Kata.Source
