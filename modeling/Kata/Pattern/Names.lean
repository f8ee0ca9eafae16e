import Kata.Pattern.Search

/-!
# Patterns for names and blanks

The small patterns from which the patterns for declarations are put together.
-/

namespace Kata.Pattern

/-- A letter of the Latin alphabet or the underscore. -/
def isNameStart (c : Char) : Bool :=
  c.isAlpha || c == '_'

/-- The start of a name in which the dollar sign counts as a letter. -/
def isDollarNameStart (c : Char) : Bool :=
  isNameStart c || c == '$'

/-- A character of a name in which the dollar sign counts as a letter. -/
def isDollarName (c : Char) : Bool :=
  Text.isWord c || c == '$'

/-- Blanks, if any. -/
def blanks : Pattern :=
  many Text.isBlank

/-- At least one blank. -/
def gap : Pattern :=
  oneOrMore Text.isBlank

/-- A blank that stays on the line. -/
def isLineBlank (c : Char) : Bool :=
  c == ' ' || c == '\t'

/-- Blanks that stay on the line, if any. -/
def lineBlanks : Pattern :=
  many isLineBlank

/-- At least one blank, all staying on the line. -/
def lineGap : Pattern :=
  oneOrMore isLineBlank

/-- A name. -/
def name : Pattern :=
  seq (one isNameStart) (many Text.isWord)

/-- A name in which the dollar sign counts as a letter. -/
def dollarName : Pattern :=
  seq (one isDollarNameStart) (many isDollarName)

/-- A word with an edge at both sides. -/
def wholeWord (word : Text) : Pattern :=
  inOrder [wordEdge, text word, wordEdge]

/-- Parameters in round brackets that hold no further round brackets. -/
def flatParameters : Pattern :=
  inOrder [char '(', many fun c => c != '(' && c != ')', char ')']

end Kata.Pattern
