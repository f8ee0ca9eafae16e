import Kata.Language
import Kata.Pattern.Names

/-!
# Patterns for declarations

What definitions of functions and types look like in each language. The patterns look at the
shape of the text only. Group 1 of a pattern for functions is the name.
-/

namespace Kata.Detection

open Pattern

/-! ## Functions -/

/-- A character that can end a type ahead of a blank. -/
def isTypeTail (c : Char) : Bool :=
  Text.isWord c || c == '>' || c == ']'

/-- A word that may follow the parameters of a function. -/
def qualifier (word : Text) : Pattern :=
  optional (seq (text word) blanks)

/-- A character of a list of exceptions. -/
def isThrown (c : Char) : Bool :=
  Text.isWord c || Text.isBlank c || c == ',' || c == '.'

/-- A definition with a type ahead of the name, in Java or C++: the end of a type, the name, flat
parameters, qualifiers, and the opening brace. -/
def typedDefinition : Pattern :=
  inOrder
    [either (seq (one isTypeTail) gap) (seq (one fun c => c == '*' || c == '&') blanks),
      group 1 name, blanks, flatParameters, blanks,
      qualifier "const", qualifier "noexcept", qualifier "override",
      optional (inOrder [text "throws", gap, one isThrown, few isThrown]),
      char '\x7b']

/-- A definition in Python, at the start of a line. -/
def defStatement : Pattern :=
  inOrder
    [lineStart, lineBlanks, optional (seq (text "async") lineGap), text "def", lineGap,
      group 1 name, lineBlanks, char '(']

/-- A named function in JavaScript. -/
def namedFunction : Pattern :=
  inOrder
    [wholeWord "function", blanks, optional (char '*'), blanks, group 1 dollarName, blanks,
      char '(']

/-- A function in JavaScript that is bound to a variable. -/
def boundFunction : Pattern :=
  inOrder
    [wordEdge, oneOf ["var", "let", "const"], gap, group 1 dollarName, blanks, char '=', blanks,
      optional (seq (text "async") gap),
      anyOf
        [seq (text "function") wordEdge,
          inOrder [flatParameters, blanks, text "=>"],
          inOrder [dollarName, blanks, text "=>"]]]

/-- A method of a class in JavaScript: indented, with a body. -/
def classMethod : Pattern :=
  inOrder
    [lineStart, lineGap, optional (seq (text "static") gap), optional (seq (text "async") gap),
      group 1 dollarName, blanks, flatParameters, blanks, char '\x7b']

/-- A name in JavaScript that is exported. -/
def exportedName : Pattern :=
  seq
    (either
      (inOrder [text "module.exports", blanks, char '=', blanks, optional (char '\x7b'), blanks])
      (seq wordEdge (text "exports.")))
    (group 1 dollarName)

/-! ## Types -/

/-- One of several keywords, a gap and a type name. -/
def keywordAndName (keywords : List Text) (typeName : Text) : Pattern :=
  inOrder [wordEdge, oneOf keywords, gap, text typeName]

/-- The declaration of a type in a language. -/
def typeDeclaration (language : Language) (typeName : Text) : Pattern :=
  match language with
  | .python =>
    inOrder [lineStart, lineBlanks, text "class", lineGap, text typeName, wordEdge]
  | .javaScript =>
    either
      (seq (keywordAndName ["class", "function"] typeName) wordEdge)
      (inOrder [keywordAndName ["var", "let", "const"] typeName, blanks, char '='])
  | .java => seq (keywordAndName ["class", "interface", "record"] typeName) wordEdge
  | .cpp =>
    inOrder
      [keywordAndName ["struct", "class"] typeName, blanks,
        optional (seq (char ':') (many fun c => c != ';' && c != '\x7b')), char '\x7b']

end Kata.Detection
