import Kata.Proofs.Source.Uncommented

/-!
# Texts with nothing to strip

A text is bare if no comment opens in it and nothing but line feeds stands inside of its quoted
texts. In the slash style the scanner leaves a bare text behind, and it keeps a bare text as it is.
So stripping a text of its comments for a second time changes nothing, and the texts that are kept
as they are are the bare ones.
-/

namespace Kata.Source

/-! ## Bare texts -/

/-- Whether a character opens a comment ahead of a text. -/
def opensComment (c : Char) (rest : Text) : Bool :=
  c == '/' && (rest.head? == some '/' || rest.head? == some '*')

/-- Whether a text is bare, from outside of quoted texts on or from inside of one with a quote. A
line feed ends a quoted text unless its quote is a backtick. -/
def isBareFrom : (quote? : Option Char) → Text → Bool
  | _, [] => true
  | none, c :: rest =>
    if isQuote c then isBareFrom (some c) rest
    else !opensComment c rest && isBareFrom none rest
  | some quote, c :: rest =>
    if c = quote then isBareFrom none rest
    else c == '\n' && isBareFrom (if quote = '\x60' then some quote else none) rest

/-- Whether a text is bare. -/
def isBare (text : Text) : Bool :=
  isBareFrom none text

/-! ## Steps in code -/

section Code

variable {c : Char} {rest : Text}

theorem stepCode_slash :
    stepCode .slash c rest =
      if opensComment c rest then
        if rest.head? = some '/' then ([], .skipping 1 .lineComment)
        else ([' '], .skipping 1 .blockComment)
      else if isQuote c then ([c], .entering (.quoted c))
      else ([c], .start) := by
  by_cases slash : c = '/'
  · subst slash
    by_cases line : rest.head? = some '/'
    · simp [stepCode, opensComment, line]
    · by_cases block : rest.head? = some '*'
      · simp [stepCode, opensComment, block]
      · simp [stepCode, opensComment, opensQuote, isQuote, line, block, Scanner.start,
          Scanner.entering]
  · simp [stepCode, opensComment, opensQuote, isQuote, slash, Scanner.start, Scanner.entering]

/-- What is kept begins like the text, unless that begins with a slash. -/
theorem head?_keep
    (noSlash : rest.head? ≠ some '/') :
    (Scanner.start.keep .slash rest).head? = rest.head? := by
  cases rest with
  | nil => rfl
  | cons d rest =>
      have notSlash : d ≠ '/' := by
        rintro rfl
        exact noSlash rfl
      have kept : (stepCode .slash d rest).1 = [d] := (isOutside_stepCode notSlash rest).1
      rw [keep_cons]
      change ((stepCode .slash d rest).1 ++ _).head? = some d
      rw [kept]
      rfl

/-- Two characters that open no comment open none when what follows is stripped. -/
theorem opensComment_keep
    (noComment : opensComment c rest = false) :
    opensComment c (Scanner.start.keep .slash rest) = false := by
  by_cases slash : c = '/'
  · have noSlash : rest.head? ≠ some '/' := by
      intro begins
      simp [opensComment, slash, begins] at noComment
    rw [opensComment, head?_keep noSlash]
    exact noComment
  · simp [opensComment, slash]

end Code

/-! ## Bare texts are kept -/

theorem keep_of_isBareFrom
    (text : Text) :
    (isBareFrom none text = true → Scanner.start.keep .slash text = text) ∧
      ∀ quote, isQuote quote = true → isBareFrom (some quote) text = true →
        (Scanner.entering (.quoted quote)).keep .slash text = text := by
  -- Quotes lead from one of the two states to the other, so both are carried along.
  induction text with
  | nil => exact ⟨fun _ => rfl, fun _ _ _ => rfl⟩
  | cons c rest inductionHypothesis =>
      obtain ⟨inCode, inQuotes⟩ := inductionHypothesis
      constructor
      · intro bare
        rw [keep_cons]
        change (stepCode .slash c rest).1 ++ (stepCode .slash c rest).2.keep .slash rest = c :: rest
        rw [isBareFrom] at bare
        by_cases quote : isQuote c = true
        · have noComment : opensComment c rest = false := by
            have notSlash : c ≠ '/' := ne_of_isQuote quote (by decide)
            simp [opensComment, notSlash]
          rw [if_pos quote] at bare
          rw [stepCode_slash, noComment, if_neg Bool.false_ne_true, if_pos quote]
          exact congrArg (c :: ·) (inQuotes c quote bare)
        · rw [if_neg quote, Bool.and_eq_true, Bool.not_eq_true'] at bare
          rw [stepCode_slash, bare.1, if_neg Bool.false_ne_true, if_neg quote]
          exact congrArg (c :: ·) (inCode bare.2)
      · intro quote quoteIsQuote bare
        have notBackslash : quote ≠ '\\' := ne_of_isQuote quoteIsQuote (by decide)
        have notLineFeed : quote ≠ '\n' := ne_of_isQuote quoteIsQuote (by decide)
        rw [keep_cons]
        change (stepQuoted quote c).1 ++ (stepQuoted quote c).2.keep .slash rest = c :: rest
        rw [isBareFrom] at bare
        by_cases closes : c = quote
        · subst closes
          rw [if_pos rfl] at bare
          rw [stepQuoted, if_neg notBackslash, if_neg fun both => notLineFeed both.1, if_pos rfl]
          exact congrArg (c :: ·) (inCode bare)
        · rw [if_neg closes, Bool.and_eq_true, beq_iff_eq] at bare
          obtain ⟨rfl, later⟩ := bare
          by_cases backtick : quote = '\x60'
          · rw [if_pos backtick] at later
            rw [stepQuoted, if_neg (by decide), if_neg fun both => both.2 backtick, if_neg closes,
              if_pos rfl]
            exact congrArg ('\n' :: ·) (inQuotes quote quoteIsQuote later)
          · rw [if_neg backtick] at later
            rw [stepQuoted, if_neg (by decide), if_pos ⟨rfl, backtick⟩]
            exact congrArg ('\n' :: ·) (inCode later)

/-! ## Bare texts are left -/

/-- The quote of the quoted text that the scanner is inside of. -/
def Scanner.quote? (scanner : Scanner) : Option Char :=
  match scanner.mode with
  | .quoted quote => some quote
  | _ => none

/-- That what the scanner keeps of a text is bare from where it stands. -/
def Scanner.LeavesBare (scanner : Scanner) (text : Text) : Prop :=
  isBareFrom scanner.quote? (scanner.keep .slash text) = true

section Steps

variable {c : Char} {rest : Text}

theorem leavesBare_code
    (later : (stepCode .slash c rest).2.LeavesBare rest) :
    Scanner.start.LeavesBare (c :: rest) := by
  rw [Scanner.LeavesBare, keep_cons]
  change isBareFrom none
    ((stepCode .slash c rest).1 ++ (stepCode .slash c rest).2.keep .slash rest) = true
  rw [Scanner.LeavesBare] at later
  rw [stepCode_slash] at later ⊢
  by_cases comment : opensComment c rest = true
  · rw [if_pos comment] at later ⊢
    by_cases line : rest.head? = some '/'
    · rw [if_pos line] at later ⊢
      exact later
    · rw [if_neg line] at later ⊢
      exact later
  · rw [if_neg comment] at later ⊢
    by_cases quote : isQuote c = true
    · rw [if_pos quote] at later ⊢
      rw [List.singleton_append, isBareFrom, if_pos quote]
      exact later
    · rw [if_neg quote] at later ⊢
      -- A slash that is kept is not followed by another, nor by a star, when the rest is stripped.
      rw [List.singleton_append, isBareFrom, if_neg quote,
        opensComment_keep (Bool.eq_false_iff.2 comment), Bool.not_false, Bool.true_and]
      exact later

theorem leavesBare_quoted
    {quote : Char} (quoteIsQuote : isQuote quote = true)
    (later : (stepQuoted quote c).2.LeavesBare rest) :
    (Scanner.entering (.quoted quote)).LeavesBare (c :: rest) := by
  have notLineFeed : '\n' ≠ quote := (ne_of_isQuote quoteIsQuote (by decide)).symm
  rw [Scanner.LeavesBare, keep_cons]
  change isBareFrom (some quote)
    ((stepQuoted quote c).1 ++ (stepQuoted quote c).2.keep .slash rest) = true
  rw [Scanner.LeavesBare] at later
  by_cases escapes : c = '\\'
  · rw [stepQuoted, if_pos escapes] at later ⊢
    exact later
  · by_cases closes : c = quote
    · have noFeed : ¬(c = '\n' ∧ quote ≠ '\x60') := by
        rintro ⟨rfl, _⟩
        exact notLineFeed closes
      rw [stepQuoted, if_neg escapes, if_neg noFeed, if_pos closes] at later ⊢
      rw [List.singleton_append, isBareFrom, if_pos closes]
      exact later
    · by_cases feed : c = '\n'
      · subst feed
        by_cases backtick : quote = '\x60'
        · rw [stepQuoted, if_neg escapes, if_neg fun both => both.2 backtick, if_neg closes,
            if_pos rfl] at later ⊢
          rw [List.singleton_append, isBareFrom, if_neg closes, if_pos backtick]
          exact later
        · rw [stepQuoted, if_neg escapes, if_pos ⟨rfl, backtick⟩] at later ⊢
          rw [List.singleton_append, isBareFrom, if_neg closes, if_neg backtick]
          exact later
      · rw [stepQuoted, if_neg escapes, if_neg fun both => feed both.1, if_neg closes, if_neg feed]
          at later ⊢
        exact later

theorem leavesBare_lineComment
    (later : (stepLineComment c).2.LeavesBare rest) :
    (Scanner.entering .lineComment).LeavesBare (c :: rest) := by
  rw [Scanner.LeavesBare, keep_cons]
  change isBareFrom none
    ((stepLineComment c).1 ++ (stepLineComment c).2.keep .slash rest) = true
  by_cases feed : c = '\n'
  · rw [stepLineComment, if_pos feed] at later ⊢
    exact later
  · rw [stepLineComment, if_neg feed] at later ⊢
    exact later

theorem leavesBare_blockComment
    (later : (stepBlockComment c rest).2.LeavesBare rest) :
    (Scanner.entering .blockComment).LeavesBare (c :: rest) := by
  rw [Scanner.LeavesBare, keep_cons]
  change isBareFrom none
    ((stepBlockComment c rest).1 ++ (stepBlockComment c rest).2.keep .slash rest) = true
  by_cases closes : c = '*' ∧ rest.head? = some '/'
  · rw [stepBlockComment, if_pos closes] at later ⊢
    exact later
  · by_cases feed : c = '\n'
    · rw [stepBlockComment, if_neg closes, if_pos feed] at later ⊢
      exact later
    · rw [stepBlockComment, if_neg closes, if_neg feed] at later ⊢
      exact later

end Steps

/-- One step: what is left of a text is bare if what is left behind its first character is. -/
theorem leavesBare_cons
    {scanner : Scanner} {c : Char} {rest : Text} (ready : scanner.IsReady (c :: rest))
    (quoting : scanner.hasQuote = true)
    (later : (scanner.step .slash c rest).2.LeavesBare rest) :
    scanner.LeavesBare (c :: rest) := by
  obtain ⟨mode, skip⟩ := scanner
  cases skip with
  | succ skip => exact later
  | zero =>
      cases mode with
      | code => exact leavesBare_code later
      | quoted quote => exact leavesBare_quoted quoting later
      | tripleQuoted quote => exact absurd rfl (ready.single quote)
      | lineComment => exact leavesBare_lineComment later
      | blockComment => exact leavesBare_blockComment later

/-- The whole run, from any state that is reached. -/
theorem leavesBare
    {text : Text} :
    ∀ {scanner : Scanner}, scanner.IsReady text → scanner.IsSound text →
      scanner.LeavesBare text := by
  induction text with
  | nil => exact fun _ _ => by rw [Scanner.LeavesBare, Scanner.keep, isBareFrom]
  | cons c rest inductionHypothesis =>
      intro scanner ready sound
      exact leavesBare_cons ready sound.quote
        (inductionHypothesis (isReady_step ready) (isSound_step sound))

theorem isBare_stripComments
    (text : Text) :
    isBare (stripComments .slash text) = true :=
  leavesBare (isReady_start text) (isSound_start text)

theorem stripComments_of_isBare
    {text : Text} (bare : isBare text = true) :
    stripComments .slash text = text :=
  (keep_of_isBareFrom text).1 bare

/-- Stripping a text of its comments for a second time changes nothing, and a text is kept as it is
just if it is bare. -/
theorem stripped_is_settled
    (text : Text) :
    stripComments .slash (stripComments .slash text) = stripComments .slash text ∧
      (stripComments .slash text = text ↔ isBare text = true) := by
  refine ⟨stripComments_of_isBare (isBare_stripComments text), ?_, stripComments_of_isBare⟩
  intro kept
  rw [← kept]
  exact isBare_stripComments text

/-- It is otherwise in the hash style, where the quotes of two texts in a row can be read as the
marks of one that is quoted three times. -/
example :
    stripComments .hash (stripComments .hash "\"a\"\"b\"c") ≠ stripComments .hash "\"a\"\"b\"c" := by
  decide

end Kata.Source
