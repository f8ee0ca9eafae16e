import Kata.Json.Basic
import Kata.Decimal.Layout

/-!
# Writing JSON

A quoted text escapes the quote, the backslash and the characters below 32, and nothing else.
Values are written on one line without blanks, or over several lines indented by two blanks a
level.
-/

namespace Kata.Json

/-! ## Quoted texts -/

/-- A hexadecimal digit, in small letters. -/
def hexDigit (n : Nat) : Char :=
  if n < 10 then Char.ofNat (48 + n) else Char.ofNat (87 + n)

/-- The lowest four hexadecimal digits of a number. -/
def hexDigits (n : Nat) : Text :=
  [hexDigit (n / 4096 % 16), hexDigit (n / 256 % 16), hexDigit (n / 16 % 16), hexDigit (n % 16)]

/-- How a character stands inside a quoted text. -/
def quoteChar (c : Char) : Text :=
  if c = '"' then "\\\""
  else if c = '\\' then "\\\\"
  else if c = '\n' then "\\n"
  else if c = '\r' then "\\r"
  else if c = '\t' then "\\t"
  else if c = '\x08' then "\\b"
  else if c = '\x0c' then "\\f"
  else if c.toNat < 32 then '\\' :: 'u' :: hexDigits c.toNat
  else [c]

/-- A quoted text. -/
def quote (t : Text) : Text :=
  '"' :: t.flatMap quoteChar ++ ['"']

/-! ## Values -/

/-- The words for the truth values. -/
def boolText (b : Bool) : Text :=
  if b then "true" else "false"

/-- A floating-point number; one that is not finite has no JSON text and is written as null. -/
def floatText (x : Float) : Text :=
  if x.isFinite then Decimal.writeFloat .interchange x else "null"

mutual

/-- A value on one line, without blanks. -/
def compact : Json → Text
  | null => "null"
  | bool b => boolText b
  | int n => Text.ofInt n
  | float x => floatText x
  | string t => quote t
  | array items => '[' :: Text.joinWith [','] (compactItems items) ++ [']']
  | object members => '{' :: Text.joinWith [','] (compactMembers members) ++ ['}']

/-- The texts of a list of values. -/
def compactItems : List Json → List Text
  | [] => []
  | item :: rest => compact item :: compactItems rest

/-- The texts of a list of members. -/
def compactMembers : List (Text × Json) → List Text
  | [] => []
  | (key, value) :: rest => (quote key ++ ':' :: compact value) :: compactMembers rest

end

/-- A line feed and the blanks of a level. -/
def newline (level : Nat) : Text :=
  '\n' :: List.replicate (2 * level) ' '

/-- Parts on lines of their own between two brackets; without parts, only the brackets. -/
def bracketed (opening closing : Char) (level : Nat) (parts : List Text) : Text :=
  if parts.isEmpty then [opening, closing]
  else
    opening :: newline (level + 1) ++ Text.joinWith (',' :: newline (level + 1)) parts ++
      newline level ++ [closing]

mutual

/-- A value over several lines, as it stands at a level of indentation. -/
def indented (level : Nat) : Json → Text
  | null => "null"
  | bool b => boolText b
  | int n => Text.ofInt n
  | float x => floatText x
  | string t => quote t
  | array items => bracketed '[' ']' level (indentedItems (level + 1) items)
  | object members => bracketed '{' '}' level (indentedMembers (level + 1) members)

/-- The texts of a list of values. -/
def indentedItems (level : Nat) : List Json → List Text
  | [] => []
  | item :: rest => indented level item :: indentedItems level rest

/-- The texts of a list of members. -/
def indentedMembers (level : Nat) : List (Text × Json) → List Text
  | [] => []
  | (key, value) :: rest =>
    (quote key ++ ": " ++ indented level value) :: indentedMembers level rest

end

/-- A value over several lines. -/
def pretty (value : Json) : Text :=
  indented 0 value

end Kata.Json
