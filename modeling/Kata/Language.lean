import Kata.Text.Blank
import Kata.Json.Record

/-!
# Languages

The languages in which an exercise can be solved.
-/

namespace Kata

/-- A language in which an exercise can be solved. -/
inductive Language where
  | python
  | javaScript
  | java
  | cpp
deriving DecidableEq, Repr, Inhabited

namespace Language

/-- All languages, in the order in which they are listed. -/
def every : List Language := [python, javaScript, java, cpp]

/-- The name of a language, in small letters. -/
def name : Language → Text
  | python => "python"
  | javaScript => "javascript"
  | java => "java"
  | cpp => "cpp"

/-- The name of a language as people write it. -/
def label : Language → Text
  | python => "Python"
  | javaScript => "JavaScript"
  | java => "Java"
  | cpp => "C++"

/-- The ending of the names of source files. -/
def fileExtension : Language → Text
  | python => "py"
  | javaScript => "js"
  | java => "java"
  | cpp => "cpp"

/-- The number by which the judge knows a language. -/
def judgeNumber : Language → Nat
  | python => 71
  | javaScript => 63
  | java => 62
  | cpp => 54

/-- The words that a language is known by. -/
def spellings : Language → List Text
  | python => ["python", "python3", "py"]
  | javaScript => ["javascript", "js", "node", "nodejs"]
  | java => ["java"]
  | cpp => ["cpp", "c++", "cxx"]

/-- The language that a text names. Letter case and blanks at the ends do not matter. -/
def ofText? (text : Text) : Option Language :=
  every.find? fun language => language.spellings.contains (Text.lowercase (Text.trim text))

/-- The wording for a text that names no language. -/
def unsupportedMessage (text : Text) : Text :=
  (Json.Mismatch.unsupportedLanguage text).message

/-- The language of a key of an object. -/
def ofKey (key : Text) : Except Json.Mismatch Language :=
  match ofText? key with
  | some language => .ok language
  | none => .error (.unsupportedLanguage key)

/-- How comments are written. -/
inductive CommentStyle where
  /-- From `#` to the end of the line; texts may be quoted three times. -/
  | hash
  /-- From two slashes to the end of the line, or between `/*` and `*/`. -/
  | slash
deriving DecidableEq, Repr

/-- How comments are written in a language. -/
def commentStyle : Language → CommentStyle
  | python => .hash
  | javaScript => .slash
  | java => .slash
  | cpp => .slash

end Language

end Kata
