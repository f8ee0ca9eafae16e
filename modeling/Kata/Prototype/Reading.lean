import Kata.Prototype.Basic
import Kata.DataType.Spelling
import Kata.Language
import Kata.Pattern.Names

/-!
# Reading prototypes

A prototype is found in a text by the first piece that looks like the head of a function in the
language at hand. In Java and C++ the type stands ahead of each name; in Python it follows the
name; in JavaScript it stands in the documentation comment.
-/

namespace Kata.Prototype

open Pattern

/-! ## Types ahead of names -/

/-- A character that can stand between the angle brackets of a type. -/
def isTypeArgument (c : Char) : Bool :=
  !("()\x7b\x7d;".toList.contains c)

/-- A type: two words for a long integer, or a name with arguments and pairs of brackets. -/
def typeText : Pattern :=
  either
    (inOrder [text "long", gap, text "long"])
    (inOrder
      [one isNameStart, many (fun c => Text.isWord c || c == ':'),
        optional (inOrder [blanks, char '<', many isTypeArgument, char '>']),
        repeated (inOrder [blanks, char '[', blanks, char ']'])])

/-- What separates a type from a name: a pointer or reference mark, or blanks. -/
def typeSeparator : Pattern :=
  either (inOrder [blanks, one DataType.isPointerMark, blanks]) gap

/-- The head of a function whose types stand ahead of the names. Its groups are the type of the
result, the separator, the name and the parameters. -/
def typedHead : Pattern :=
  inOrder
    [either textStart (one fun c => !Text.isWord c), group 1 typeText, group 2 typeSeparator,
      group 3 name, blanks, char '(', group 4 (many fun c => c != '(' && c != ')'), char ')']

/-- The last character of a type ahead of a name. -/
def isTypeEnd (c : Char) : Bool :=
  Text.isWord c || c == '>' || c == ']' || DataType.isPointerMark c

/-- A parameter with its type, as short as possible, ahead of its name. -/
def typedParameter : Pattern :=
  inOrder
    [textStart, group 1 (seq (few (· != '\n')) (one isTypeEnd)), blanks, group 2 name, textEnd]

/-- Words that are no types, so that what follows them is no function head. -/
def notReturnTypes : List Text :=
  ["return", "new", "else", "throw", "case", "class", "struct"]

/-- Whether a match is a function head: the first word is a type, and the name is not that of the
class around the function. -/
def isFunctionHead (found : Match) : Bool :=
  !notReturnTypes.contains (Text.trim (found.textOf 1)) && found.textOf 3 != "Solution"

/-- Read a parameter whose type stands ahead of its name; without a name, all of it is the
type. -/
def readTypedParameter (parameter : Text) : Parameter :=
  let bare := Text.dropRepeated "const " (Text.dropRepeated "final " parameter)
  match typedParameter.search? bare with
  | some found => ⟨found.text? 2, DataType.ofSpelling? (found.textOf 1)⟩
  | none => ⟨none, DataType.ofSpelling? bare⟩

/-- Read a prototype whose types stand ahead of the names. -/
def readTyped? (text : Text) : Option Prototype :=
  ((typedHead.matchesIn text).find? isFunctionHead).map fun found =>
    { name? := found.text? 3
      parameters := (splitTopLevel (found.textOf 4)).map readTypedParameter
      returnType? := DataType.ofSpelling? (found.textOf 1 ++ Text.trim (found.textOf 2)) }

/-! ## Types behind names -/

/-- The head of a function whose types follow the names. Its groups are the name, the parameters
and the type of the result. -/
def annotatedHead : Pattern :=
  inOrder
    [text "def", gap, group 1 name, blanks, char '(', group 2 (many (· != ')')), char ')', blanks,
      optional
        (inOrder
          [text "->", blanks, group 3 (seq (one (· != ':')) (few (· != ':')))]),
      blanks, char ':']

/-- What stands ahead of a default value. -/
def withoutDefault (parameter : Text) : Text :=
  parameter.takeWhile (· != '=')

/-- Read a parameter whose type follows its name. -/
def readAnnotatedParameter (parameter : Text) : Parameter :=
  let bare := withoutDefault parameter
  match Text.cutAt? ':' bare with
  | some (name, type) => ⟨some (Text.trim name), DataType.ofSpelling? type⟩
  | none => ⟨some (Text.trim bare), none⟩

/-- Whether a piece of a parameter list is a parameter that takes an argument of its own. -/
def isOwnParameter (parameter : Text) : Bool :=
  parameter != "self" && parameter.head? != some '*'

/-- Read a prototype whose types follow the names. -/
def readAnnotated? (text : Text) : Option Prototype :=
  (annotatedHead.search? text).map fun found =>
    { name? := found.text? 1
      parameters :=
        ((splitTopLevel (found.textOf 2)).filter isOwnParameter).map readAnnotatedParameter
      returnType? := (found.text? 3).bind DataType.ofSpelling? }

/-! ## Types in comments -/

/-- The head of a function without types. Groups 1 and 2 are the name and the parameters of a
declared function, groups 3 and 4 those of a function that is bound to a name. -/
def untypedHead : Pattern :=
  either
    (inOrder
      [text "function", gap, group 1 dollarName, blanks, char '(', group 2 (many (· != ')')),
        char ')'])
    (inOrder
      [oneOf ["var", "let", "const"], gap, group 3 dollarName, blanks, char '=', blanks,
        optional (inOrder [text "function", blanks]), char '(', group 4 (many (· != ')')),
        char ')'])

/-- The comment on a parameter: its type in braces and its name. -/
def parameterComment : Pattern :=
  inOrder
    [text "@param", blanks, char '\x7b', group 1 (oneOrMore (· != '\x7d')), char '\x7d', blanks,
      optional (char '['), group 2 dollarName]

/-- The comment on the result: its type in braces. -/
def resultComment : Pattern :=
  inOrder
    [text "@return", optional (char 's'), blanks, char '\x7b', group 1 (oneOrMore (· != '\x7d')),
      char '\x7d']

/-- The names and types of the parameters that are commented on. -/
def commentedTypes (text : Text) : List (Text × Option DataType) :=
  (parameterComment.matchesIn text).map fun found =>
    (found.textOf 2, DataType.ofSpelling? (found.textOf 1))

/-- Read a prototype whose types stand in comments. -/
def readCommented? (text : Text) : Option Prototype :=
  (untypedHead.search? text).map fun found =>
    let types := commentedTypes text
    let parameters := ((found.text? 2).or (found.text? 4)).getD []
    { name? := (found.text? 1).or (found.text? 3)
      parameters := (splitTopLevel parameters).map fun parameter =>
        let name := Text.trim (withoutDefault parameter)
        ⟨some name, (types.lookup name).join⟩
      returnType? :=
        (resultComment.search? text).bind fun found => DataType.ofSpelling? (found.textOf 1) }

/-- Read the first prototype in a text. -/
def ofText? (language : Language) (text : Text) : Option Prototype :=
  match language with
  | .java => readTyped? text
  | .cpp => readTyped? text
  | .python => readAnnotated? text
  | .javaScript => readCommented? text

end Kata.Prototype
