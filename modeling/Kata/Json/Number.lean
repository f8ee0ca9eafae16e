import Kata.Json.Fault

/-!
# Numbers in a JSON text

An integer that fits into 64 bits is exact. Any other number is computed in floating point: as
many of its digits as fit into 64 bits make up a significand, which is then scaled by the power
of ten that is left, in steps of at most 308. A number beyond the greatest floating-point number
is refused.
-/

namespace Kata.Json

/-- The greatest number that fits into 64 bits. -/
def greatestWord : Nat := UInt64.size - 1

/-- Append digits to a significand as long as it fits into 64 bits; the second result counts the
digits that are left. -/
def absorb (significand : Nat) : Text → Nat × Nat
  | [] => (significand, 0)
  | c :: digits =>
    let grown := 10 * significand + Text.digitValue c
    if grown ≤ greatestWord then absorb grown digits else (significand, digits.length + 1)

/-- Scale by a power of ten, by at most `10 ^ 308` at once. Three divisions take any significand
to zero. -/
def scale : (rounds : Nat) → Float → Int → Option Float
  | 0, x, _ => some x
  | rounds + 1, x, exponent =>
    if exponent.natAbs ≤ 308 then
      let power := Float.ofScientific 1 false exponent.natAbs
      if 0 ≤ exponent then
        let product := x * power
        if product.isInf then none else some product
      else some (x / power)
    else if x == 0.0 then some x
    else if 0 ≤ exponent then none
    else scale rounds (x / Float.ofScientific 1 false 308) (exponent + 308)

/-- A floating-point number from its parts, or a fault behind it. -/
def floatFromParts (negative : Bool) (significand : Nat) (exponent : Int) (rest : Text) :
    Except Fault (Json × Text) :=
  match scale 8 (Float.ofNat significand) exponent with
  | some x => .ok (.float (if negative then -x else x), rest)
  | none => Fault.here .numberTooLarge rest

/-- The greatest exponent that can be written. -/
def greatestExponent : Int := Int32.maxValue.toInt

/-- Read the digits of an exponent. An exponent beyond 31 bits makes the number zero or too
large; `none` stands for it, with the text behind the digit that exceeds the limit. -/
def readExponentDigits (value : Nat) : Text → Option Nat × Text
  | [] => (some value, [])
  | c :: rest =>
    if c.isDigit then
      let grown := 10 * value + Text.digitValue c
      if (grown : Int) ≤ greatestExponent then readExponentDigits grown rest else (none, rest)
    else (some value, c :: rest)

/-- Read the exponent behind its mark. -/
def readExponent (negative : Bool) (significand : Nat) (exponent : Int) (text : Text) :
    Except Fault (Json × Text) :=
  let (isNegative, text) := match text with
    | '+' :: rest => (false, rest)
    | '-' :: rest => (true, rest)
    | rest => (false, rest)
  match text with
  | [] => Fault.here .endInValue []
  | c :: rest =>
    if c.isDigit then
      match readExponentDigits (Text.digitValue c) rest with
      | (some value, rest) =>
        let sum := if isNegative then exponent - value else exponent + value
        floatFromParts negative significand (max (-greatestExponent - 1) (min greatestExponent sum))
          rest
      | (none, rest) =>
        if significand ≠ 0 ∧ !isNegative then Fault.here .numberTooLarge rest
        else .ok (.float (if negative then -0.0 else 0.0), rest.dropWhile Char.isDigit)
    else Fault.here .badNumber rest

/-- Read what may follow the digits of a significand: an exponent or nothing. -/
def readScaled (negative : Bool) (significand : Nat) (exponent : Int) (text : Text) :
    Except Fault (Json × Text) :=
  match text with
  | 'e' :: rest => readExponent negative significand exponent rest
  | 'E' :: rest => readExponent negative significand exponent rest
  | rest => floatFromParts negative significand exponent rest

/-- Read the digits behind the decimal point. -/
def readFraction (negative : Bool) (significand : Nat) (exponent : Int) (text : Text) :
    Except Fault (Json × Text) :=
  let digits := text.takeWhile Char.isDigit
  let rest := text.dropWhile Char.isDigit
  if digits.isEmpty then
    if rest.isEmpty then Fault.ahead .endInValue rest else Fault.ahead .badNumber rest
  else
    let (significand, left) := absorb significand digits
    readScaled negative significand (exponent - (digits.length - left : Nat)) rest

/-- An integer that fits into 64 bits. Minus zero is a floating-point number, and so is a negative
number below the least one of 64 bits. -/
def exactInteger (negative : Bool) (n : Nat) : Json :=
  if !negative then .int n
  else if 0 < n ∧ Int64.minValue.toInt ≤ -n then .int (-n)
  else .float (-Float.ofNat n)

/-- Read what follows the integer part. -/
def readBehindInteger (negative : Bool) (significand skipped : Nat) (rest : Text) :
    Except Fault (Json × Text) :=
  match rest with
  | '.' :: fraction => readFraction negative significand skipped fraction
  | _ =>
    if skipped = 0 ∧ rest.head? ≠ some 'e' ∧ rest.head? ≠ some 'E' then
      .ok (exactInteger negative significand, rest)
    else readScaled negative significand skipped rest

/-- Read a number without its sign. -/
def readNumber (negative : Bool) : Text → Except Fault (Json × Text)
  | [] => Fault.here .endInValue []
  | '0' :: rest =>
    if rest.head?.any Char.isDigit then Fault.ahead .badNumber rest
    else readBehindInteger negative 0 0 rest
  | c :: rest =>
    if c.isDigit then
      let digits := c :: rest.takeWhile Char.isDigit
      let (significand, skipped) := absorb 0 digits
      readBehindInteger negative significand skipped (rest.dropWhile Char.isDigit)
    else Fault.here .badNumber rest

end Kata.Json
