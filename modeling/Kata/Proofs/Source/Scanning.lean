import Kata.Source.Comments

/-!
# The scanner over two texts

What the scanner keeps of two texts in a row is what it keeps of the first and, from the state
behind it, of the second, unless it looks from the first into the second. It looks ahead for the
marks of comments and for a quote that stands three times. A text that ends in code can be followed
by anything that begins neither with the character that the text ends with nor with a star.
-/

namespace Kata.Source

open Kata.Language (CommentStyle)

theorem keep_cons
    (style : CommentStyle) (scanner : Scanner) (c : Char) (rest : Text) :
    scanner.keep style (c :: rest) =
      (scanner.step style c rest).1 ++ (scanner.step style c rest).2.keep style rest :=
  rfl

/-- The state of the scanner behind a text. -/
def Scanner.behind (style : CommentStyle) : Scanner → Text → Scanner
  | scanner, [] => scanner
  | scanner, c :: rest => behind style (scanner.step style c rest).2 rest

theorem behind_cons
    (style : CommentStyle) (scanner : Scanner) (c : Char) (rest : Text) :
    scanner.behind style (c :: rest) = (scanner.step style c rest).2.behind style rest :=
  rfl

/-! ## States that are reached -/

/-- Whether a character is a quote in some style. -/
def isQuote (c : Char) : Bool :=
  c == '"' || c == '\'' || c == '\x60'

theorem isQuote_of_opensQuote
    {style : CommentStyle} {c : Char} (opens : opensQuote style c = true) :
    isQuote c = true := by
  simp only [opensQuote, Bool.or_eq_true, Bool.and_eq_true] at opens
  simp only [isQuote, Bool.or_eq_true]
  rcases opens with plain | ⟨_, backtick⟩
  · exact Or.inl plain
  · exact Or.inr backtick

theorem ne_of_isQuote
    {quote other : Char} (opens : isQuote quote = true) (notQuote : isQuote other = false) :
    quote ≠ other := by
  rintro rfl
  rw [opens] at notQuote
  exact Bool.noConfusion notQuote

/-- Whether a scanner that is inside of a quoted text is inside of one that a quote opened. -/
def Scanner.hasQuote (scanner : Scanner) : Bool :=
  match scanner.mode with
  | .quoted quote => isQuote quote
  | .tripleQuoted quote => isQuote quote
  | _ => true

/-- What holds of every state that is reached, with the text ahead of it: quoted texts have a quote,
and in code only characters that are there are skipped. -/
structure Scanner.IsSound (scanner : Scanner) (ahead : Text) : Prop where
  quote : scanner.hasQuote = true
  skip : scanner.mode = .code → scanner.skip ≤ ahead.length

theorem isSound_start
    (ahead : Text) :
    Scanner.start.IsSound ahead :=
  ⟨rfl, fun _ => Nat.zero_le _⟩

theorem isSound_stepCode
    (style : CommentStyle) (c : Char) (rest : Text) :
    (stepCode style c rest).2.IsSound rest := by
  rw [stepCode]
  split
  · exact ⟨rfl, fun code => nomatch code⟩
  · split
    · exact ⟨rfl, fun code => nomatch code⟩
    · split
      · exact ⟨rfl, fun code => nomatch code⟩
      · split
        · next opens =>
          have quote := isQuote_of_opensQuote opens
          split
          · exact ⟨quote, fun code => nomatch code⟩
          · exact ⟨quote, fun code => nomatch code⟩
        · exact isSound_start rest

theorem isSound_stepQuoted
    {quote : Char} (isQuote : isQuote quote = true) (c : Char) (rest : Text) :
    (stepQuoted quote c).2.IsSound rest := by
  rw [stepQuoted.eq_def]
  split
  · exact ⟨isQuote, fun code => nomatch code⟩
  · split
    · exact isSound_start rest
    · split
      · exact isSound_start rest
      · split
        · exact ⟨isQuote, fun code => nomatch code⟩
        · exact ⟨isQuote, fun code => nomatch code⟩

theorem length_of_isTripled
    {quote : Char} {rest : Text} (tripled : isTripled quote rest = true) :
    2 ≤ rest.length := by
  have two : (rest.take 2).length = 2 := by
    rw [eq_of_beq tripled]
    rfl
  rw [List.length_take] at two
  omega

theorem isSound_stepTripleQuoted
    {quote : Char} (isQuote : isQuote quote = true) (c : Char) (rest : Text) :
    (stepTripleQuoted quote c rest).2.IsSound rest := by
  rw [stepTripleQuoted.eq_def]
  split
  · exact ⟨isQuote, fun code => nomatch code⟩
  · split
    · next closes => exact ⟨rfl, fun _ => length_of_isTripled closes.2⟩
    · split
      · exact ⟨isQuote, fun code => nomatch code⟩
      · exact ⟨isQuote, fun code => nomatch code⟩

theorem isSound_stepLineComment
    (c : Char) (rest : Text) :
    (stepLineComment c).2.IsSound rest := by
  rw [stepLineComment.eq_def]
  split
  · exact isSound_start rest
  · exact ⟨rfl, fun code => nomatch code⟩

theorem isSound_stepBlockComment
    (c : Char) (rest : Text) :
    (stepBlockComment c rest).2.IsSound rest := by
  rw [stepBlockComment.eq_def]
  split
  · next closes =>
    obtain ⟨others, written⟩ := List.head?_eq_some_iff.1 closes.2
    refine ⟨rfl, fun _ => ?_⟩
    rw [written, List.length_cons]
    exact Nat.le_add_left 1 _
  · split
    · exact ⟨rfl, fun code => nomatch code⟩
    · exact ⟨rfl, fun code => nomatch code⟩

theorem isSound_step
    {style : CommentStyle} {scanner : Scanner} {c : Char} {rest : Text}
    (sound : scanner.IsSound (c :: rest)) :
    (scanner.step style c rest).2.IsSound rest := by
  obtain ⟨mode, skip⟩ := scanner
  cases skip with
  | succ skip => exact ⟨sound.quote, fun code => Nat.le_of_succ_le_succ (sound.skip code)⟩
  | zero =>
      cases mode with
      | code => exact isSound_stepCode style c rest
      | quoted quote => exact isSound_stepQuoted sound.quote c rest
      | tripleQuoted quote => exact isSound_stepTripleQuoted sound.quote c rest
      | lineComment => exact isSound_stepLineComment c rest
      | blockComment => exact isSound_stepBlockComment c rest

theorem isSound_behind
    (style : CommentStyle) {text : Text} :
    ∀ {scanner : Scanner}, scanner.IsSound text → (scanner.behind style text).IsSound [] := by
  induction text with
  | nil => exact fun sound => sound
  | cons c text inductionHypothesis => exact fun sound => inductionHypothesis (isSound_step sound)

/-- That a text ends neither inside of a comment nor inside of a quoted text. -/
def EndsInCode (style : CommentStyle) (text : Text) : Prop :=
  (Scanner.start.behind style text).mode = .code

instance (style : CommentStyle) (text : Text) : Decidable (EndsInCode style text) :=
  inferInstanceAs (Decidable (_ = _))

/-- Behind a text that ends in code the scanner is as at the start. -/
theorem behind_of_endsInCode
    {style : CommentStyle} {text : Text} (ends : EndsInCode style text) :
    Scanner.start.behind style text = Scanner.start := by
  have sound := isSound_behind style (isSound_start text)
  have noSkip := Nat.le_zero.1 (sound.skip ends)
  rw [EndsInCode] at ends
  generalize Scanner.start.behind style text = scanner at ends noSkip
  obtain ⟨mode, skip⟩ := scanner
  cases ends
  cases noSkip
  rfl

/-! ## Looking ahead -/

/-- That the scanner, going through a text, does not look at the front of what follows. -/
structure Scanner.Overlooks (style : CommentStyle) (scanner : Scanner) (text next : Text) :
    Prop where
  star : next.head? ≠ some '*'
  slash :
    next.head? = some '/' →
      text.getLast? ≠ some '/' ∧ (scanner.behind style text).mode = .code
  quote : ∀ quote, isQuote quote = true → next.head? = some quote → text.getLast? ≠ some quote

theorem getLast?_of_cons
    {c d : Char} {rest : Text} (different : (c :: rest).getLast? ≠ some d) :
    rest.getLast? ≠ some d := by
  cases rest with
  | nil => exact fun impossible => nomatch impossible
  | cons e rest =>
      rw [List.getLast?_cons_cons] at different
      exact different

theorem overlooks_of_cons
    {style : CommentStyle} {scanner : Scanner} {c : Char} {rest next : Text}
    (overlooks : scanner.Overlooks style (c :: rest) next) :
    (scanner.step style c rest).2.Overlooks style rest next where
  star := overlooks.star
  slash begins := ⟨getLast?_of_cons (overlooks.slash begins).1, (overlooks.slash begins).2⟩
  quote quote isQuote begins := getLast?_of_cons (overlooks.quote quote isQuote begins)

theorem head?_append_iff
    {c : Char} {rest next : Text} (unseen : rest = [] → next.head? ≠ some c) :
    (rest ++ next).head? = some c ↔ rest.head? = some c := by
  cases rest with
  | nil =>
      have notNext := unseen rfl
      simp [notNext]
  | cons d rest => simp

theorem isTripled_append
    {quote : Char} {rest next : Text}
    (unseen : next.head? = some quote → rest ≠ [] ∧ rest.getLast? ≠ some quote) :
    isTripled quote (rest ++ next) = isTripled quote rest := by
  match rest with
  | [] =>
      cases next with
      | nil => rfl
      | cons d next =>
          have different : d ≠ quote := by
            rintro rfl
            exact (unseen rfl).1 rfl
          simp [isTripled, different]
  | [a] =>
      cases next with
      | nil => rfl
      | cons d next =>
          by_cases same : a = quote
          · have different : d ≠ quote := by
              rintro rfl
              exact (unseen rfl).2 (congrArg some same)
            simp [isTripled, different]
          · simp [isTripled, same]
  | a :: b :: rest => simp [isTripled]

/-- A quote does not stand three times across the end of a text if the scanner overlooks what
follows. -/
theorem isTripled_append_of_overlooks
    {style : CommentStyle} {scanner : Scanner} {c : Char} {rest next : Text}
    (overlooks : scanner.Overlooks style (c :: rest) next) (quote : isQuote c = true) :
    isTripled c (rest ++ next) = isTripled c rest := by
  apply isTripled_append
  intro begins
  have notLast := overlooks.quote c quote begins
  refine ⟨?_, getLast?_of_cons notLast⟩
  rintro rfl
  exact notLast rfl

theorem stepCode_append
    {style : CommentStyle} {scanner : Scanner} {c : Char} {rest next : Text}
    (overlooks : scanner.Overlooks style (c :: rest) next) :
    stepCode style c (rest ++ next) = stepCode style c rest := by
  have star : (rest ++ next).head? = some '*' ↔ rest.head? = some '*' :=
    head?_append_iff fun _ => overlooks.star
  have slash : c = '/' → ((rest ++ next).head? = some '/' ↔ rest.head? = some '/') := by
    intro isSlash
    apply head?_append_iff
    rintro rfl begins
    exact (overlooks.slash begins).1 (congrArg some isSlash)
  have slashMark :
      (c = '/' ∧ (rest ++ next).head? = some '/') ↔ (c = '/' ∧ rest.head? = some '/') :=
    and_congr_right slash
  by_cases opens : opensQuote style c = true
  · have tripled := isTripled_append_of_overlooks overlooks (isQuote_of_opensQuote opens)
    simp only [stepCode, slashMark, star, tripled]
  · simp only [stepCode, slashMark, star, if_neg opens]

theorem stepTripleQuoted_append
    {style : CommentStyle} {scanner : Scanner} {quote c : Char} {rest next : Text}
    (overlooks : scanner.Overlooks style (c :: rest) next) (isQuote : isQuote quote = true) :
    stepTripleQuoted quote c (rest ++ next) = stepTripleQuoted quote c rest := by
  by_cases same : c = quote
  · subst same
    have tripled := isTripled_append_of_overlooks overlooks isQuote
    simp only [stepTripleQuoted, tripled]
  · simp only [stepTripleQuoted, same, false_and]

theorem stepBlockComment_append
    {style : CommentStyle} {c : Char} {rest next : Text}
    (overlooks : (Scanner.entering .blockComment).Overlooks style (c :: rest) next) :
    stepBlockComment c (rest ++ next) = stepBlockComment c rest := by
  have slash : c = '*' → ((rest ++ next).head? = some '/' ↔ rest.head? = some '/') := by
    intro isStar
    apply head?_append_iff
    rintro rfl begins
    -- A comment whose text ends with a star is not closed, so the text does not end in code.
    have ends := (overlooks.slash begins).2
    subst isStar
    exact nomatch ends
  have closing :
      (c = '*' ∧ (rest ++ next).head? = some '/') ↔ (c = '*' ∧ rest.head? = some '/') :=
    and_congr_right slash
  simp only [stepBlockComment, closing]

theorem step_append
    {style : CommentStyle} {scanner : Scanner} {c : Char} {rest next : Text}
    (quoting : scanner.hasQuote = true) (overlooks : scanner.Overlooks style (c :: rest) next) :
    scanner.step style c (rest ++ next) = scanner.step style c rest := by
  obtain ⟨mode, skip⟩ := scanner
  cases skip with
  | succ skip => rfl
  | zero =>
      cases mode with
      | code => exact stepCode_append overlooks
      | quoted quote => rfl
      | tripleQuoted quote => exact stepTripleQuoted_append overlooks quoting
      | lineComment => rfl
      | blockComment => exact stepBlockComment_append overlooks

/-- Two texts in a row are scanned one after the other if the scanner overlooks the second on its
way through the first. -/
theorem keep_append
    {style : CommentStyle} {text next : Text} :
    ∀ {scanner : Scanner}, scanner.IsSound text → scanner.Overlooks style text next →
      scanner.keep style (text ++ next) =
        scanner.keep style text ++ (scanner.behind style text).keep style next := by
  induction text with
  | nil => exact fun _ _ => rfl
  | cons c text inductionHypothesis =>
      intro scanner sound overlooks
      have step := step_append sound.quote overlooks
      have later := inductionHypothesis (isSound_step sound) (overlooks_of_cons overlooks)
      rw [List.cons_append, keep_cons, step, later, keep_cons, behind_cons, List.append_assoc]

/-- A text that ends in code and what follows are stripped of their comments one by one. -/
theorem stripComments_append
    {style : CommentStyle} {text : Text} {d : Char} (next : Text)
    (ends : EndsInCode style text) (notStar : d ≠ '*')
    (different : d = '/' ∨ isQuote d = true → text.getLast? ≠ some d) :
    stripComments style (text ++ d :: next) =
      stripComments style text ++ stripComments style (d :: next) := by
  have overlooks : Scanner.start.Overlooks style text (d :: next) := by
    refine ⟨?_, ?_, ?_⟩
    · simpa using notStar
    · intro begins
      have isSlash : d = '/' := by simpa using begins
      exact ⟨isSlash ▸ different (Or.inl isSlash), ends⟩
    · intro quote quoteIsQuote begins
      have isQuote : d = quote := by simpa using begins
      subst isQuote
      exact different (Or.inr quoteIsQuote)
  have kept := keep_append (isSound_start text) overlooks
  rw [behind_of_endsInCode ends] at kept
  exact kept

end Kata.Source
