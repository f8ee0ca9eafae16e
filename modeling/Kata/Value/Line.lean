import Kata.Value.Basic
import Kata.Json.Reader
import Kata.Decimal.Reading
import Kata.Text.Word

/-!
# Reading test values

A test case gives one argument a line. A line is a truth value, a number or JSON, in this order,
and else a text. Numbers come first, so that a bare `42` is never anything but a number.
-/

namespace Kata.Value

/-! ## Numerals -/

/-- Drop one sign from the front. -/
def dropSign : Text → Text
  | '+' :: rest => rest
  | '-' :: rest => rest
  | rest => rest

/-- A non-empty run of digits of any script, and nothing else. -/
def isDigitRun (text : Text) : Bool :=
  !text.isEmpty && text.all Text.isAnyDigit

/-- What may follow the digits of a numeral: an exponent or nothing. -/
def isExponent : Text → Bool
  | [] => true
  | 'e' :: rest => isDigitRun (dropSign rest)
  | 'E' :: rest => isDigitRun (dropSign rest)
  | _ => false

/-- A numeral of digits: at least one, at most one decimal point, and perhaps an exponent. -/
def isDigitNumeral (text : Text) : Bool :=
  let whole := text.takeWhile Text.isAnyDigit
  let behind := text.dropWhile Text.isAnyDigit
  match behind with
  | '.' :: rest =>
    (!whole.isEmpty || rest.head?.any Text.isAnyDigit) &&
      isExponent (rest.dropWhile Text.isAnyDigit)
  | rest => !whole.isEmpty && isExponent rest

/-- Whether a text is a numeral: an optional sign, then digits or the word for infinity or for no
number. -/
def isNumeral (text : Text) : Bool :=
  let body := dropSign text
  body == "Infinity" || body == "NaN" || isDigitNumeral body

/-- The number that a numeral stands for. An integer that does not fit into 64 bits becomes a
floating-point number, and a numeral in the digits of another script stays a text. -/
def ofNumeral (numeral : Text) : Value :=
  let isNegative := numeral.head? == some '-'
  let body := dropSign numeral
  if body = "Infinity" then float (if isNegative then -1.0 / 0.0 else 1.0 / 0.0)
  else if body = "NaN" then float (0.0 / 0.0)
  else
    match readWord? numeral with
    | some n => int n
    | none =>
      match Decimal.readFloat? numeral with
      | some x => float x
      | none => text numeral

/-! ## Lines -/

/-- The value of one line. -/
def ofLine (line : Text) : Value :=
  let content := Text.trim line
  if content = [] then null
  else if content = "true" then bool true
  else if content = "false" then bool false
  else if isNumeral content then ofNumeral content
  else
    match Json.parse content with
    | .ok value => ofJson value
    | .error _ => text content

/-- The pieces of a text between line feeds, without a carriage return at their end, that are
not blank. -/
def inputLines (input : Text) : List Text :=
  ((Text.splitOn '\n' input).map fun line => (Text.before? ['\r'] line).getD line).filter
    fun line => Text.trim line != []

/-- The arguments of a test case: the values of its lines that are not blank. -/
def ofInput (input : Text) : List Value :=
  (inputLines input).map ofLine

end Kata.Value
