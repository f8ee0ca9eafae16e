import Kata.Json.Printer

/-!
# Escaped texts

Inside a literal of Java or C++ the backslash, the quote and the control characters are escaped.
The two differ only in the escape of a control character that has no letter of its own.
-/

namespace Kata.Literal

/-- How a control character is escaped by its number. -/
inductive ControlEscape where
  /-- The letter `u` and four hexadecimal digits. -/
  | hexadecimal
  /-- Three octal digits. -/
  | octal
deriving DecidableEq, Repr

/-- The lowest three octal digits of a number. -/
def octalDigits (n : Nat) : Text :=
  [Json.hexDigit (n / 64 % 8), Json.hexDigit (n / 8 % 8), Json.hexDigit (n % 8)]

/-- A control character by its number. -/
def ControlEscape.write : ControlEscape → Char → Text
  | hexadecimal, c => '\\' :: 'u' :: Json.hexDigits c.toNat
  | octal, c => '\\' :: octalDigits c.toNat

/-- How a character stands inside a literal with the given quotes. -/
def escapeChar (style : ControlEscape) (quote c : Char) : Text :=
  if c = '\\' then "\\\\"
  else if c = '\n' then "\\n"
  else if c = '\r' then "\\r"
  else if c = '\t' then "\\t"
  else if c = quote then ['\\', c]
  else if c.toNat < 32 then style.write c
  else [c]

/-- How a text stands inside a literal with the given quotes. -/
def escape (style : ControlEscape) (quote : Char) (text : Text) : Text :=
  text.flatMap (escapeChar style quote)

/-- A text literal in double quotes. -/
def quotedText (style : ControlEscape) (text : Text) : Text :=
  '"' :: escape style '"' text ++ ['"']

/-- A character literal in single quotes. -/
def quotedChar (style : ControlEscape) (c : Char) : Text :=
  '\'' :: escapeChar style '\'' c ++ ['\'']

end Kata.Literal
