import Kata.Proofs.Source.Scanning

/-!
# Line feeds of a source text

A source text is stripped of its comments and of the contents of its quoted texts, but its line feeds
stay. The exception are those that a backslash hides in a quoted text: they are lost, and no others
are. So a stripped text has as many line feeds as the text just if no line feed of the text is
hidden.
-/

namespace Kata.Source

open Kata.Language (CommentStyle)

/-! ## Hidden line feeds -/

/-- Whether the scanner is inside of a quoted text, and the next character is not skipped. -/
def Scanner.readsQuoted (scanner : Scanner) : Bool :=
  match scanner with
  | ⟨.quoted _, 0⟩ => true
  | ⟨.tripleQuoted _, 0⟩ => true
  | _ => false

/-- Whether a character is a backslash of a quoted text with a line feed behind it. -/
def Scanner.hidesFeed (scanner : Scanner) (c : Char) (rest : Text) : Bool :=
  scanner.readsQuoted && c == '\\' && rest.head? == some '\n'

/-- How many line feeds of a text are hidden by a backslash, from a state on. -/
def Scanner.hiddenFeeds (style : CommentStyle) : Scanner → Text → Nat
  | _, [] => 0
  | scanner, c :: rest =>
    (if scanner.hidesFeed c rest then 1 else 0) +
      hiddenFeeds style (scanner.step style c rest).2 rest

/-! ## One character -/

/-- That of a character and of the characters that are skipped behind it as many line feeds are kept
as there are, but for a hidden one. -/
def Scanner.IsBalanced (scanner : Scanner) (c : Char) (rest : Text) (kept : Text × Scanner) : Prop :=
  kept.1.count '\n' + (if scanner.hidesFeed c rest then 1 else 0) =
    [c].count '\n' + (rest.take kept.2.skip).count '\n'

section Steps

variable (c : Char) (rest : Text)

theorem isBalanced_of_count
    {scanner : Scanner} (reads : scanner.readsQuoted = false) {kept : Text × Scanner}
    (same : kept.1.count '\n' = [c].count '\n' + (rest.take kept.2.skip).count '\n') :
    scanner.IsBalanced c rest kept := by
  rw [Scanner.IsBalanced, Scanner.hidesFeed, reads, Bool.false_and, Bool.false_and,
    if_neg Bool.false_ne_true]
  exact same

theorem isBalanced_stepCode
    (style : CommentStyle) :
    Scanner.start.IsBalanced c rest (stepCode style c rest) := by
  apply isBalanced_of_count c rest rfl
  rw [stepCode]
  split
  · next hash =>
    rw [hash.2]
    rfl
  · split
    · next opens =>
      rw [opens.2.1]
      change _ = _ + (rest.take 1).count '\n'
      rw [List.take_one, opens.2.2]
      rfl
    · split
      · next opens =>
        rw [opens.2.1]
        change _ = _ + (rest.take 1).count '\n'
        rw [List.take_one, opens.2.2]
        rfl
      · split
        · split
          · next triple =>
            change _ = _ + (rest.take 2).count '\n'
            rw [eq_of_beq triple.2, ← List.count_append]
            rfl
          · rfl
        · rfl

/-- Behind a backslash a line feed is skipped, and so it is lost. -/
theorem isBalanced_backslash
    {scanner : Scanner} (reads : scanner.readsQuoted = true) (mode : Mode) :
    scanner.IsBalanced '\\' rest ([], .skipping 1 mode) := by
  rw [Scanner.IsBalanced, Scanner.hidesFeed, reads]
  cases rest with
  | nil => rfl
  | cons d rest =>
      by_cases feed : d = '\n'
      · subst feed
        rfl
      · simp [Scanner.skipping, feed]

theorem isBalanced_of_not_backslash
    {scanner : Scanner} (other : c ≠ '\\') {kept : Text × Scanner}
    (same : kept.1.count '\n' = [c].count '\n' + (rest.take kept.2.skip).count '\n') :
    scanner.IsBalanced c rest kept := by
  have shown : scanner.hidesFeed c rest = false := by
    rw [Scanner.hidesFeed, beq_eq_false_iff_ne.2 other, Bool.and_false, Bool.false_and]
  rw [Scanner.IsBalanced, shown, if_neg Bool.false_ne_true]
  exact same

theorem count_of_ne
    (other : c ≠ '\n') :
    [c].count '\n' = 0 := by
  rw [List.count_singleton, if_neg fun same => other (eq_of_beq same)]

theorem isBalanced_stepQuoted
    (quote : Char) :
    (Scanner.entering (.quoted quote)).IsBalanced c rest (stepQuoted quote c) := by
  rw [stepQuoted.eq_def]
  split
  · next backslash =>
    rw [backslash]
    exact isBalanced_backslash rest rfl _
  · next other =>
    apply isBalanced_of_not_backslash c rest other
    split
    · next ends => rw [ends.1]; rfl
    · split
      · rfl
      · split
        · next feed => rw [feed]; rfl
        · next noFeed => rw [count_of_ne c noFeed]; rfl

theorem isBalanced_stepTripleQuoted
    (quote : Char) :
    (Scanner.entering (.tripleQuoted quote)).IsBalanced c rest (stepTripleQuoted quote c rest) := by
  rw [stepTripleQuoted.eq_def]
  split
  · next backslash =>
    rw [backslash]
    exact isBalanced_backslash rest rfl _
  · next other =>
    apply isBalanced_of_not_backslash c rest other
    split
    · next closes =>
      change _ = _ + (rest.take 2).count '\n'
      rw [closes.1, eq_of_beq closes.2, ← List.count_append]
      rfl
    · split
      · next feed => rw [feed]; rfl
      · next noFeed => rw [count_of_ne c noFeed]; rfl

theorem isBalanced_stepLineComment :
    (Scanner.entering .lineComment).IsBalanced c rest (stepLineComment c) := by
  apply isBalanced_of_count c rest rfl
  rw [stepLineComment.eq_def]
  split
  · next feed => rw [feed]; rfl
  · next noFeed => rw [count_of_ne c noFeed]; rfl

theorem isBalanced_stepBlockComment :
    (Scanner.entering .blockComment).IsBalanced c rest (stepBlockComment c rest) := by
  apply isBalanced_of_count c rest rfl
  rw [stepBlockComment.eq_def]
  split
  · next closes =>
    change _ = _ + (rest.take 1).count '\n'
    rw [closes.1, List.take_one, closes.2]
    rfl
  · split
    · next feed => rw [feed]; rfl
    · next noFeed => rw [count_of_ne c noFeed]; rfl

/-- One step, where nothing is skipped. -/
theorem isBalanced_step
    (style : CommentStyle) (mode : Mode) :
    (Scanner.mk mode 0).IsBalanced c rest ((Scanner.mk mode 0).step style c rest) := by
  cases mode with
  | code => exact isBalanced_stepCode c rest style
  | quoted quote => exact isBalanced_stepQuoted c rest quote
  | tripleQuoted quote => exact isBalanced_stepTripleQuoted c rest quote
  | lineComment => exact isBalanced_stepLineComment c rest
  | blockComment => exact isBalanced_stepBlockComment c rest

end Steps

/-! ## Whole texts -/

theorem hidesFeed_of_skip
    (mode : Mode) (skip : Nat) (c : Char) (rest : Text) :
    (Scanner.mk mode (skip + 1)).hidesFeed c rest = false := by
  cases mode <;> rfl

/-- Every line feed of a text is kept, or hidden, or skipped at its front. -/
theorem count_keep
    (style : CommentStyle) (scanner : Scanner) (text : Text) :
    (scanner.keep style text).count '\n' + scanner.hiddenFeeds style text +
        (text.take scanner.skip).count '\n' =
      text.count '\n' := by
  induction text generalizing scanner with
  | nil => rw [List.take_nil]; rfl
  | cons c rest inductionHypothesis =>
      obtain ⟨mode, skip⟩ := scanner
      have later := inductionHypothesis ((Scanner.mk mode skip).step style c rest).2
      have split : (c :: rest).count '\n' = [c].count '\n' + rest.count '\n' := by
        rw [← List.count_append, List.singleton_append]
      rw [keep_cons, Scanner.hiddenFeeds, List.count_append, split]
      cases skip with
      | zero =>
          -- The step is balanced with what is skipped behind it, and so is the rest of the run.
          have step := isBalanced_step c rest style mode
          rw [Scanner.IsBalanced] at step
          rw [List.take_zero, List.count_nil]
          omega
      | succ skip =>
          have skipped :
              ((c :: rest).take (skip + 1)).count '\n' =
                [c].count '\n' + (rest.take skip).count '\n' := by
            rw [List.take_succ_cons, ← List.count_append, List.singleton_append]
          rw [hidesFeed_of_skip, if_neg Bool.false_ne_true, skipped]
          change _ + _ + (rest.take skip).count '\n' = _ at later
          change ([] : Text).count '\n' + _ + _ + _ = _
          rw [List.count_nil]
          omega

/-! ## Where line feeds are hidden -/

/-- That a text ends inside of a quoted text, and what follows is not skipped. -/
def EndsInQuotes (style : CommentStyle) (text : Text) : Prop :=
  (Scanner.start.behind style text).readsQuoted = true

instance (style : CommentStyle) (text : Text) : Decidable (EndsInQuotes style text) :=
  inferInstanceAs (Decidable (_ = _))

/-- The scanner does not look at a backslash behind a text. -/
theorem overlooks_backslash
    (style : CommentStyle) (scanner : Scanner) (text behind : Text) :
    scanner.Overlooks style text ('\\' :: behind) := by
  refine ⟨by simp, fun begins => ?_, fun quote quoteIsQuote begins => ?_⟩
  · exact absurd begins (by simp)
  · have same : '\\' = quote := by simpa using begins
    exact absurd same (ne_of_isQuote quoteIsQuote (by decide)).symm

theorem hiddenFeeds_eq_zero_iff
    {style : CommentStyle} {text : Text} :
    ∀ {scanner : Scanner}, scanner.IsSound text →
      (scanner.hiddenFeeds style text = 0 ↔
        ∀ ahead behind, text = ahead ++ '\\' :: '\n' :: behind →
          (scanner.behind style ahead).readsQuoted = false) := by
  induction text with
  | nil => simp [Scanner.hiddenFeeds]
  | cons c rest inductionHypothesis =>
      intro scanner sound
      -- Behind a character a step looks for a slash, a star or quotes, never for a backslash.
      have onward :
          ∀ ahead behind, rest = ahead ++ '\\' :: behind →
            scanner.step style c rest = scanner.step style c ahead := by
        rintro ahead behind rfl
        exact step_append sound.quote (overlooks_backslash style scanner (c :: ahead) behind)
      rw [Scanner.hiddenFeeds, Nat.add_eq_zero_iff, inductionHypothesis (isSound_step sound)]
      constructor
      · rintro ⟨shown, later⟩ ahead behind whole
        cases ahead with
        | nil =>
            obtain ⟨rfl, rfl⟩ := List.cons.inj whole
            simpa [Scanner.hidesFeed, Scanner.behind] using shown
        | cons d ahead =>
            obtain ⟨rfl, isRest⟩ := List.cons.inj whole
            rw [behind_cons, ← onward ahead _ isRest]
            exact later ahead behind isRest
      · intro none
        constructor
        · by_cases hides : scanner.hidesFeed c rest = true
          · rw [Scanner.hidesFeed, Bool.and_eq_true, Bool.and_eq_true, beq_iff_eq, beq_iff_eq]
              at hides
            obtain ⟨⟨reads, rfl⟩, begins⟩ := hides
            obtain ⟨others, rfl⟩ := List.head?_eq_some_iff.1 begins
            exact absurd reads (Bool.eq_false_iff.1 (none [] others rfl))
          · exact if_neg hides
        · intro ahead behind isRest
          have here := none (c :: ahead) behind (congrArg (c :: ·) isRest)
          rw [behind_cons, ← onward ahead _ isRest] at here
          exact here

/-- A text loses just its hidden line feeds when it is stripped of its comments. So it keeps the
number of its line feeds just if none of them stands behind a backslash of a quoted text. -/
theorem line_feeds_are_kept_iff
    (style : CommentStyle) (text : Text) :
    (stripComments style text).count '\n' + Scanner.start.hiddenFeeds style text =
        text.count '\n' ∧
      ((stripComments style text).count '\n' = text.count '\n' ↔
        ∀ ahead behind, text = ahead ++ '\\' :: '\n' :: behind → ¬EndsInQuotes style ahead) := by
  have counted :
      (stripComments style text).count '\n' + Scanner.start.hiddenFeeds style text =
        text.count '\n' :=
    count_keep style Scanner.start text
  refine ⟨counted, ?_⟩
  have none :
      (stripComments style text).count '\n' = text.count '\n' ↔
        Scanner.start.hiddenFeeds style text = 0 := by
    omega
  rw [none, hiddenFeeds_eq_zero_iff (isSound_start text)]
  simp only [EndsInQuotes, Bool.not_eq_true]

/-- A text that is quoted over two lines. -/
def continuedText : Text :=
  "text = \"one\\\ntwo\"\n"

/-- Of its two lines one is left, in either style. -/
theorem continued_line_is_lost :
    (stripComments .hash continuedText).count '\n' ≠ continuedText.count '\n' ∧
      (stripComments .slash continuedText).count '\n' ≠ continuedText.count '\n' := by
  decide

end Kata.Source
