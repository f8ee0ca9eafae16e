import Kata.Proofs.Source.Scanning
import Kata.Proofs.Text.Lines

/-!
# Lines without their comments

Each line of a source text begins in a state of the scanner, and from there it is known what of the
line stands outside of comments. Quoted texts are kept here, unlike where a source is searched for
declarations. A line without a slash is kept whole or lies in a comment.
-/

namespace Kata.Source

/-! ## What stands outside of comments -/

/-- What of a character stands outside of comments. A comment in a line leaves a blank. -/
def Scanner.uncomment (scanner : Scanner) (c : Char) (rest : Text) : Text :=
  match scanner.mode with
  | .code => (scanner.step .slash c rest).1
  | .quoted _ | .tripleQuoted _ => [c]
  | .lineComment | .blockComment => []

/-- What of a text stands outside of comments, from a state on. -/
def Scanner.uncommented : Scanner → Text → Text
  | _, [] => []
  | scanner, c :: rest =>
    scanner.uncomment c rest ++ uncommented (scanner.step .slash c rest).2 rest

/-- Whether a text lies in a comment with marks at both ends, from a state on, and does not end
it. -/
def Scanner.staysInBlock : Scanner → Text → Bool
  | scanner, [] => scanner.mode == .blockComment
  | scanner, c :: rest =>
    scanner.mode == .blockComment && staysInBlock (scanner.step .slash c rest).2 rest

/-- A line of a source text, with the state of the scanner ahead of it. -/
structure ScannedLine where
  scanner : Scanner
  text : Text
deriving DecidableEq, Repr

namespace ScannedLine

/-- The line without its comments. -/
def uncommented (line : ScannedLine) : Text :=
  line.scanner.uncommented line.text

/-- Whether the line lies in a comment with marks at both ends. -/
def isCommented (line : ScannedLine) : Bool :=
  line.scanner.staysInBlock line.text

end ScannedLine

/-- The lines of a text with a character ahead of the first one, where the scanner stands. -/
def leadLines (scanner : Scanner) (c : Char) : List ScannedLine → List ScannedLine
  | [] => [⟨scanner, [c]⟩]
  | line :: later => ⟨scanner, c :: line.text⟩ :: later

/-- The lines of a text, from a state on. -/
def Scanner.linesFrom : Scanner → Text → List ScannedLine
  | scanner, [] => [⟨scanner, []⟩]
  | scanner, c :: rest =>
    let later := linesFrom (scanner.step .slash c rest).2 rest
    if c = '\n' then ⟨scanner, []⟩ :: later else leadLines scanner c later

/-- The lines of a source text. -/
def scannedLines (source : Text) : List ScannedLine :=
  Scanner.start.linesFrom source

/-! ## States at the starts of lines -/

/-- What holds of every state that is reached: no text is quoted three times, and a line feed is
skipped only in a quoted text. -/
structure Scanner.IsReady (scanner : Scanner) (ahead : Text) : Prop where
  single : ∀ quote, scanner.mode ≠ .tripleQuoted quote
  skip :
    scanner.skip = 0 ∨
      (scanner.skip = 1 ∧
        ((∃ quote, scanner.mode = .quoted quote) ∨ ∃ c rest, ahead = c :: rest ∧ c ≠ '\n'))

theorem isReady_entering
    {mode : Mode} (single : ∀ quote, mode ≠ .tripleQuoted quote) (ahead : Text) :
    (Scanner.entering mode).IsReady ahead :=
  ⟨single, Or.inl rfl⟩

theorem isReady_start
    (ahead : Text) :
    Scanner.start.IsReady ahead :=
  @isReady_entering .code (by simp) ahead

theorem isReady_skipping
    {mode : Mode} (single : ∀ quote, mode ≠ .tripleQuoted quote) {ahead : Text} {c : Char}
    (begins : ahead.head? = some c) (other : c ≠ '\n') :
    (Scanner.skipping 1 mode).IsReady ahead := by
  obtain ⟨rest, rfl⟩ := List.head?_eq_some_iff.1 begins
  exact ⟨single, Or.inr ⟨rfl, Or.inr ⟨c, rest, rfl, other⟩⟩⟩

theorem isReady_stepCode
    (c : Char) (rest : Text) :
    (stepCode .slash c rest).2.IsReady rest := by
  rw [stepCode]
  split
  · next hash => exact absurd hash.1 (by decide)
  · split
    · next opens => exact isReady_skipping (by simp) opens.2.2 (by decide)
    · split
      · next opens => exact isReady_skipping (by simp) opens.2.2 (by decide)
      · split
        · split
          · next hash => exact absurd hash.1 (by decide)
          · exact isReady_entering (by simp) rest
        · exact isReady_entering (by simp) rest

theorem isReady_stepQuoted
    (quote c : Char) (rest : Text) :
    (stepQuoted quote c).2.IsReady rest := by
  rw [stepQuoted.eq_def]
  split
  · exact ⟨by simp [Scanner.skipping], Or.inr ⟨rfl, Or.inl ⟨quote, rfl⟩⟩⟩
  · split
    · exact isReady_entering (by simp) rest
    · split
      · exact isReady_entering (by simp) rest
      · split
        · exact isReady_entering (by simp) rest
        · exact isReady_entering (by simp) rest

theorem isReady_stepLineComment
    (c : Char) (rest : Text) :
    (stepLineComment c).2.IsReady rest := by
  rw [stepLineComment.eq_def]
  split
  · exact isReady_entering (by simp) rest
  · exact isReady_entering (by simp) rest

theorem isReady_stepBlockComment
    (c : Char) (rest : Text) :
    (stepBlockComment c rest).2.IsReady rest := by
  rw [stepBlockComment.eq_def]
  split
  · next closes => exact isReady_skipping (by simp) closes.2 (by decide)
  · split
    · exact isReady_entering (by simp) rest
    · exact isReady_entering (by simp) rest

theorem isReady_step
    {scanner : Scanner} {c : Char} {rest : Text} (ready : scanner.IsReady (c :: rest)) :
    (scanner.step .slash c rest).2.IsReady rest := by
  obtain ⟨mode, skip⟩ := scanner
  cases skip with
  | succ skip =>
      obtain none | ⟨one, _⟩ := ready.skip
      · exact absurd none (Nat.succ_ne_zero skip)
      · exact ⟨ready.single, Or.inl (Nat.succ.inj one)⟩
  | zero =>
      cases mode with
      | code => exact isReady_stepCode c rest
      | quoted quote => exact isReady_stepQuoted quote c rest
      | tripleQuoted quote => exact absurd rfl (ready.single quote)
      | lineComment => exact isReady_stepLineComment c rest
      | blockComment => exact isReady_stepBlockComment c rest

/-- The states in which lines begin. -/
inductive Scanner.BeginsLine : Scanner → Prop
  | code : BeginsLine (entering .code)
  | quoted (quote : Char) : BeginsLine (entering (.quoted quote))
  | blockComment : BeginsLine (entering .blockComment)

/-- Behind a line feed the scanner is in one of them. -/
theorem beginsLine_step
    {scanner : Scanner} {rest : Text} (ready : scanner.IsReady ('\n' :: rest)) :
    (scanner.step .slash '\n' rest).2.BeginsLine := by
  obtain ⟨mode, skip⟩ := scanner
  cases skip with
  | succ skip =>
      obtain none | ⟨one, ⟨quote, inQuote⟩ | ⟨c, others, same, other⟩⟩ := ready.skip
      · exact absurd none (Nat.succ_ne_zero skip)
      · obtain rfl : skip = 0 := Nat.succ.inj one
        obtain rfl : mode = .quoted quote := inQuote
        exact Scanner.BeginsLine.quoted quote
      · exact absurd (List.cons.inj same).1.symm other
  | zero =>
      cases mode with
      | code => exact Scanner.BeginsLine.code
      | quoted quote =>
          change (stepQuoted quote '\n').2.BeginsLine
          rw [stepQuoted, if_neg (by decide)]
          split
          · exact Scanner.BeginsLine.code
          · split
            · exact Scanner.BeginsLine.code
            · exact Scanner.BeginsLine.quoted quote
      | tripleQuoted quote => exact absurd rfl (ready.single quote)
      | lineComment => exact Scanner.BeginsLine.code
      | blockComment => exact Scanner.BeginsLine.blockComment

/-- The lines are those of the text, and each but the first begins behind a line feed. -/
theorem exists_linesFrom
    (text : Text) :
    ∀ {scanner : Scanner}, scanner.IsReady text →
      ∃ line later,
        scanner.linesFrom text = ⟨scanner, line⟩ :: later ∧
          Text.splitOn '\n' text = line :: later.map ScannedLine.text ∧
            ∀ other ∈ later, other.scanner.BeginsLine := by
  induction text with
  | nil => exact fun _ => ⟨[], [], rfl, rfl, List.forall_mem_nil _⟩
  | cons c rest inductionHypothesis =>
      intro scanner ready
      obtain ⟨line, later, lines, split, begin⟩ := inductionHypothesis (isReady_step ready)
      rw [Scanner.linesFrom, lines]
      by_cases feed : c = '\n'
      · subst feed
        refine ⟨[], _, if_pos rfl, ?_, List.forall_mem_cons.2 ⟨beginsLine_step ready, begin⟩⟩
        rw [List.map_cons, ← split]
        exact Text.splitOn_append_cons List.not_mem_nil rest
      · exact ⟨c :: line, later, if_neg feed, Text.splitOn_cons_of_ne feed split, begin⟩

theorem map_text_scannedLines
    (source : Text) :
    (scannedLines source).map ScannedLine.text = Text.splitOn '\n' source := by
  obtain ⟨line, later, lines, split, _⟩ :=
    exists_linesFrom source (isReady_start source)
  rw [scannedLines, lines, split]
  rfl

theorem beginsLine_of_mem_scannedLines
    {source : Text} {line : ScannedLine} (member : line ∈ scannedLines source) :
    line.scanner.BeginsLine := by
  obtain ⟨first, later, lines, _, begin⟩ :=
    exists_linesFrom source (isReady_start source)
  rw [scannedLines, lines] at member
  rcases List.mem_cons.1 member with rfl | isLater
  · exact Scanner.BeginsLine.code
  · exact begin line isLater

/-! ## Lines without slashes -/

/-- The states outside of comments. -/
inductive Scanner.IsOutside : Scanner → Prop
  | code : IsOutside (entering .code)
  | quoted (quote : Char) (skip : Nat) : IsOutside ⟨.quoted quote, skip⟩

theorem isOutside_stepCode
    {c : Char} (noSlash : c ≠ '/') (rest : Text) :
    (stepCode .slash c rest).1 = [c] ∧ (stepCode .slash c rest).2.IsOutside := by
  have notHash : Language.CommentStyle.slash ≠ .hash := by decide
  rw [stepCode, if_neg (fun hash => notHash hash.1), if_neg (fun opens => noSlash opens.2.1),
    if_neg (fun opens => noSlash opens.2.1)]
  split
  · rw [if_neg (fun hash => notHash hash.1)]
    exact ⟨rfl, Scanner.IsOutside.quoted c 0⟩
  · exact ⟨rfl, Scanner.IsOutside.code⟩

theorem isOutside_stepQuoted
    (quote c : Char) :
    (stepQuoted quote c).2.IsOutside := by
  rw [stepQuoted.eq_def]
  split
  · exact Scanner.IsOutside.quoted quote 1
  · split
    · exact Scanner.IsOutside.code
    · split
      · exact Scanner.IsOutside.code
      · split
        · exact Scanner.IsOutside.quoted quote 0
        · exact Scanner.IsOutside.quoted quote 0

/-- Without a slash no comment begins. -/
theorem uncommented_of_isOutside
    {text : Text} (noSlash : '/' ∉ text) :
    ∀ {scanner : Scanner}, scanner.IsOutside → scanner.uncommented text = text := by
  induction text with
  | nil => exact fun _ => rfl
  | cons c rest inductionHypothesis =>
      rw [List.mem_cons, not_or] at noSlash
      intro scanner outside
      rw [Scanner.uncommented]
      cases outside with
      | code =>
          obtain ⟨kept, onward⟩ := isOutside_stepCode (Ne.symm noSlash.1) rest
          change (stepCode .slash c rest).1 ++ (stepCode .slash c rest).2.uncommented rest = _
          rw [kept, inductionHypothesis noSlash.2 onward]
          rfl
      | quoted quote skip =>
          have onward :
              ((Scanner.mk (.quoted quote) skip).step .slash c rest).2.IsOutside := by
            cases skip with
            | zero => exact isOutside_stepQuoted quote c
            | succ skip => exact Scanner.IsOutside.quoted quote skip
          rw [inductionHypothesis noSlash.2 onward]
          rfl

/-- Without a slash no comment ends. -/
theorem uncommented_blockComment
    {text : Text} (noSlash : '/' ∉ text) :
    (Scanner.entering .blockComment).uncommented text = [] := by
  induction text with
  | nil => rfl
  | cons c rest inductionHypothesis =>
      rw [List.mem_cons, not_or] at noSlash
      have onward : (stepBlockComment c rest).2 = Scanner.entering .blockComment := by
        rw [stepBlockComment, if_neg]
        · split <;> rfl
        · rintro ⟨_, closes⟩
          obtain ⟨others, rfl⟩ := List.head?_eq_some_iff.1 closes
          exact noSlash.2 List.mem_cons_self
      rw [Scanner.uncommented]
      change (stepBlockComment c rest).2.uncommented rest = []
      rw [onward]
      exact inductionHypothesis noSlash.2

/-- A line without a slash is kept whole, or nothing of it is. -/
theorem uncommented_cases
    {source : Text} {line : ScannedLine} (member : line ∈ scannedLines source)
    (noSlash : '/' ∉ line.text) :
    line.uncommented = line.text ∨ line.uncommented = [] := by
  obtain ⟨scanner, text⟩ := line
  have begins : scanner.BeginsLine := beginsLine_of_mem_scannedLines member
  cases begins with
  | code => exact Or.inl (uncommented_of_isOutside noSlash Scanner.IsOutside.code)
  | quoted quote =>
      exact Or.inl (uncommented_of_isOutside noSlash (Scanner.IsOutside.quoted quote 0))
  | blockComment => exact Or.inr (uncommented_blockComment noSlash)

end Kata.Source
