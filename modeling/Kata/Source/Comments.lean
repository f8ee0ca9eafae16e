import Kata.Language

/-!
# Comments and quoted texts

Source text is inspected only after its comments and the contents of its quoted texts are gone, so
that neither can look like a declaration. The scanner goes through the text character by
character; it looks at most two characters ahead, and then skips what it has already dealt with.
-/

namespace Kata.Source

open Kata.Language (CommentStyle)

/-! ## The scanner -/

/-- What the scanner is inside of. -/
inductive Mode where
  | code
  /-- A text quoted by this character. -/
  | quoted (quote : Char)
  /-- A text quoted three times by this character. -/
  | tripleQuoted (quote : Char)
  | lineComment
  | blockComment
deriving DecidableEq, Repr

/-- The state of the scanner: what it is inside of, and how many characters to skip. -/
structure Scanner where
  mode : Mode
  skip : Nat
deriving DecidableEq, Repr

/-- The scanner at the start of a text. -/
def Scanner.start : Scanner := ⟨.code, 0⟩

/-- The scanner in a mode, with nothing to skip. -/
def Scanner.entering (mode : Mode) : Scanner := ⟨mode, 0⟩

/-- The scanner in a mode, about to skip some characters. -/
def Scanner.skipping (skip : Nat) (mode : Mode) : Scanner := ⟨mode, skip⟩

/-- Whether the same quote follows twice more. -/
def isTripled (quote : Char) (rest : Text) : Bool :=
  rest.take 2 == [quote, quote]

/-- Whether a character opens a quoted text. -/
def opensQuote (style : CommentStyle) (c : Char) : Bool :=
  c == '"' || c == '\'' || (style == .slash && c == '\x60')

/-- A character of code: what is kept of it, and the state behind it. -/
def stepCode (style : CommentStyle) (c : Char) (rest : Text) : Text × Scanner :=
  if style = .hash ∧ c = '#' then ([], .entering .lineComment)
  else if style = .slash ∧ c = '/' ∧ rest.head? = some '/' then ([], .skipping 1 .lineComment)
  else if style = .slash ∧ c = '/' ∧ rest.head? = some '*' then
    ([' '], .skipping 1 .blockComment)
  else if opensQuote style c then
    if style = .hash ∧ isTripled c rest then ([c, c, c], .skipping 2 (.tripleQuoted c))
    else ([c], .entering (.quoted c))
  else ([c], .entering .code)

/-- A character of a quoted text. A backslash hides the next character; a line end closes the
text unless its quote is a backtick. -/
def stepQuoted (quote c : Char) : Text × Scanner :=
  if c = '\\' then ([], .skipping 1 (.quoted quote))
  else if c = '\n' ∧ quote ≠ '\x60' then (['\n'], .entering .code)
  else if c = quote then ([c], .entering .code)
  else if c = '\n' then (['\n'], .entering (.quoted quote))
  else ([], .entering (.quoted quote))

/-- A character of a text quoted three times. -/
def stepTripleQuoted (quote c : Char) (rest : Text) : Text × Scanner :=
  if c = '\\' then ([], .skipping 1 (.tripleQuoted quote))
  else if c = quote ∧ isTripled quote rest then
    ([quote, quote, quote], .skipping 2 .code)
  else if c = '\n' then (['\n'], .entering (.tripleQuoted quote))
  else ([], .entering (.tripleQuoted quote))

/-- A character of a comment that ends with the line. -/
def stepLineComment (c : Char) : Text × Scanner :=
  if c = '\n' then (['\n'], .entering .code) else ([], .entering .lineComment)

/-- A character of a comment that ends at a mark. -/
def stepBlockComment (c : Char) (rest : Text) : Text × Scanner :=
  if c = '*' ∧ rest.head? = some '/' then ([], .skipping 1 .code)
  else if c = '\n' then (['\n'], .entering .blockComment)
  else ([], .entering .blockComment)

/-- One character: what is kept of it, and the state behind it. -/
def Scanner.step (style : CommentStyle) (scanner : Scanner) (c : Char) (rest : Text) :
    Text × Scanner :=
  match scanner.skip with
  | skip + 1 => ([], ⟨scanner.mode, skip⟩)
  | 0 =>
    match scanner.mode with
    | .code => stepCode style c rest
    | .quoted quote => stepQuoted quote c
    | .tripleQuoted quote => stepTripleQuoted quote c rest
    | .lineComment => stepLineComment c
    | .blockComment => stepBlockComment c rest

/-- What is kept of a text, from a state on. -/
def Scanner.keep (style : CommentStyle) : Scanner → Text → Text
  | _, [] => []
  | scanner, c :: rest =>
    (scanner.step style c rest).1 ++ keep style (scanner.step style c rest).2 rest

/-- A text without comments and without the contents of quoted texts. The quotes stay, and so do
the line ends. -/
def stripComments (style : CommentStyle) (text : Text) : Text :=
  Scanner.start.keep style text

end Kata.Source
