import Kata.Text.Basic

/-!
# Reading floating-point numbers

A written number has an optional sign, digits with at most one decimal point among them and at
least one digit, and an optional exponent. The words for infinity and for no number are read in
any letter case. The value is the floating-point number nearest to the written one.
-/

namespace Kata.Decimal

/-- The number nearest to `digits * 10 ^ exponent`. A written number of more than 400 digits
ahead of the decimal point is infinite, and one with more than 400 zeros behind it is zero. -/
def nearest (digits : Nat) (exponent : Int) : Float :=
  let magnitude := exponent + (Nat.toDigits 10 digits).length
  if digits = 0 ∨ magnitude < -400 then 0.0
  else if 400 < magnitude then 1.0 / 0.0
  else if 0 ≤ exponent then Float.ofScientific digits false exponent.toNat
  else Float.ofScientific digits true (-exponent).toNat

/-- The digits at the front and the rest. -/
def spanDigits (text : Text) : Text × Text :=
  (text.takeWhile Char.isDigit, text.dropWhile Char.isDigit)

/-- The exponent that makes up the whole of a text, zero if it is empty. -/
def readExponent? : Text → Option Int
  | [] => some 0
  | mark :: rest => if mark = 'e' ∨ mark = 'E' then Text.toInt? rest else none

/-- A number without a sign. -/
def readMagnitude? (text : Text) : Option Float :=
  let (whole, behind) := spanDigits text
  let (fraction, rest) := match behind with
    | '.' :: rest => spanDigits rest
    | rest => ([], rest)
  if whole = [] ∧ fraction = [] then
    let word := Text.lowercase text
    if word = "inf" ∨ word = "infinity" then some (1.0 / 0.0)
    else if word = "nan" then some (0.0 / 0.0)
    else none
  else
    (readExponent? rest).map fun exponent =>
      nearest (Text.digitsValue (whole ++ fraction)) (exponent - fraction.length)

/-- A number with an optional sign. -/
def readFloat? : Text → Option Float
  | '-' :: rest => (readMagnitude? rest).map fun x => -x
  | '+' :: rest => readMagnitude? rest
  | rest => readMagnitude? rest

end Kata.Decimal
