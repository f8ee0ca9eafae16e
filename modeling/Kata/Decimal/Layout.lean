import Kata.Decimal.Shortest
import Kata.Text.Basic

/-!
# Writing floating-point numbers

A number is written with the shortest digits that read back. A layout says for which magnitudes
the digits stand around a decimal point, whether a whole number keeps a fractional zero, whether
an exponent has a plus sign, and which of two equally near decimals is written. All other
magnitudes are written with an exponent.
-/

namespace Kata.Decimal

/-! ## Layouts -/

/-- The decisions of a written form. The bounds speak of the exponent that the first digit
has. -/
structure Layout where
  leastPositional : Option Int
  greatestPositional : Option Int
  keepsFraction : Bool
  marksPlus : Bool
  tie : Tie

/-- Never an exponent, and no fraction for a whole number. -/
def Layout.plain : Layout := ⟨none, none, false, false, .larger⟩

/-- Positional from `0.0001` up to but not including `10 ^ 16`, with a fraction. -/
def Layout.exact : Layout := ⟨some (-4), some 15, true, false, .larger⟩

/-- Positional from `0.00001` up to but not including `10 ^ 16`, with a fraction, and a plus sign
ahead of an exponent that is not negative. This is the layout of JSON. -/
def Layout.interchange : Layout := ⟨some (-5), some 15, true, true, .even⟩

/-- Whether a number whose first digit has this exponent is written without an exponent. -/
def Layout.isPositional (layout : Layout) (exponent : Int) : Bool :=
  layout.leastPositional.all (· ≤ exponent) && layout.greatestPositional.all (exponent ≤ ·)

/-- Digits with the decimal point at its place. -/
def positional (keepsFraction : Bool) (d : Decimal) : Text :=
  let digits := Text.ofNat d.digits
  if 0 ≤ d.exponent then
    let whole := digits ++ List.replicate d.exponent.toNat '0'
    if keepsFraction then whole ++ ".0" else whole
  else
    let places := (-d.exponent).toNat
    let padded := Text.padLeft (places + 1) '0' digits
    padded.take (padded.length - places) ++ '.' :: padded.drop (padded.length - places)

/-- The exponent of a written number, with its sign if it has one. -/
def exponentText (marksPlus : Bool) (exponent : Int) : Text :=
  let text := Text.ofInt exponent
  if marksPlus && decide (0 ≤ exponent) then '+' :: text else text

/-- One digit, the others behind the decimal point, and the exponent. -/
def scientific (marksPlus : Bool) (d : Decimal) : Text :=
  match Text.ofNat d.digits with
  | [] => []
  | first :: others =>
    let fraction := if others.isEmpty then [] else '.' :: others
    first :: fraction ++ 'e' :: exponentText marksPlus (d.exponent + others.length)

/-- A positive decimal in a layout. -/
def write (layout : Layout) (d : Decimal) : Text :=
  if layout.isPositional (d.exponent + (Text.ofNat d.digits).length - 1) then
    positional layout.keepsFraction d
  else scientific layout.marksPlus d

/-! ## Floating-point numbers -/

/-- The parts of a floating-point number. -/
inductive Parts where
  | notANumber
  | infinite (negative : Bool)
  | zero (negative : Bool)
  | finite (negative : Bool) (magnitude : Binary)
deriving DecidableEq, Repr

/-- The leading bit of a significand, which is not written. -/
def hiddenBit : Nat :=
  1 <<< 52

/-- Take the 64 bits of a floating-point number apart: the sign, 11 bits of exponent, and 52 bits
of significand. -/
def Parts.ofBits (bits : UInt64) : Parts :=
  let n : Nat := bits.toNat
  let negative := n >>> 63 = 1
  let exponent : Nat := (n >>> 52) % 2048
  let fraction := n % hiddenBit
  if exponent = 2047 then if fraction = 0 then .infinite negative else .notANumber
  else if exponent = 0 then
    if fraction = 0 then .zero negative else .finite negative ⟨fraction, -1074, false⟩
  else
    .finite negative
      ⟨hiddenBit + fraction, Int.ofNat exponent - 1075, fraction = 0 && exponent != 1⟩

/-- A minus sign ahead of the text of a negative number. -/
def signed (negative : Bool) (text : Text) : Text :=
  if negative then '-' :: text else text

/-- The text of the parts of a number. -/
def Parts.write (layout : Layout) : Parts → Text
  | .notANumber => "NaN"
  | .infinite negative => signed negative "inf"
  | .zero negative => signed negative (if layout.keepsFraction then "0.0" else "0")
  | .finite negative magnitude =>
    signed negative (Decimal.write layout (magnitude.shortest layout.tie))

/-- The text of a floating-point number. -/
def writeFloat (layout : Layout) (x : Float) : Text :=
  (Parts.ofBits x.toBits).write layout

end Kata.Decimal
