import Kata.Text.Blank

/-!
# Names

The name of the function to be written is derived from the words of a title, and any text can be
reduced to an identifier.
-/

namespace Kata.Name

/-- The maximal runs of letters and digits of a text. -/
def words (text : Text) : List Text :=
  (Text.splitWhere (fun c => !Text.isPlainAlphanumeric c) text).filter (· != [])

/-- A word with its first letter large and the others small. -/
def capitalized (word : Text) : Text :=
  match Text.lowercase word with
  | [] => []
  | first :: rest => first.toUpper :: rest

/-- The first word small, the others each with a large first letter, without anything between. -/
def camelCase : List Text → Text
  | [] => []
  | first :: rest => Text.lowercase first ++ (rest.map capitalized).flatten

/-- The name that a title suggests. A name does not begin with a digit, so such a name is led by
`solve`; a title without words suggests `solution`. -/
def ofTitle (title : Text) : Text :=
  match camelCase (words title) with
  | [] => "solution"
  | first :: rest => if first.isDigit then "solve" ++ first :: rest else first :: rest

/-- A character of an identifier. -/
def isIdentifierChar (c : Char) : Bool :=
  Text.isPlainAlphanumeric c || c == '_'

/-- The identifier that is left of a text, led by an underscore if it would begin with a digit;
none if nothing is left. -/
def identifier? (text : Text) : Option Text :=
  match (Text.trim text).filter isIdentifierChar with
  | [] => none
  | first :: rest =>
    some (if first.isDigit then '_' :: first :: rest else first :: rest)

end Kata.Name
