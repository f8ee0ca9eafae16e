/-!
# The shortest decimal that reads back

A positive binary number `m * 2 ^ q` stands for all reals that round to it: from half a step
below to half a step above, where the step below a power of two is half as wide. Both ends belong
to it exactly if `m` is even. `shortest` finds the decimal with the fewest digits among these
reals, and of several with that many digits the nearest. A `Tie` says which of two equally near
ones it takes.
-/

namespace Kata

/-- The number `digits * 10 ^ exponent`. -/
structure Decimal where
  digits : Nat
  exponent : Int
deriving DecidableEq, Repr

namespace Decimal

/-- Move trailing zeros of the digits into the exponent, at most `rounds` of them. -/
def stripZeros : (rounds : Nat) → Decimal → Decimal
  | 0, d => d
  | rounds + 1, d =>
    if d.digits % 10 = 0 ∧ d.digits ≠ 0 then
      stripZeros rounds ⟨d.digits / 10, d.exponent + 1⟩
    else d

/-- Which of two equally near neighbours is taken. -/
inductive Tie where
  | larger
  | even
deriving DecidableEq, Repr

/-- Whether the lower of two neighbours is taken, from its digits and the two distances. -/
def Tie.takesLower (tie : Tie) (lower toLower toUpper : Nat) : Bool :=
  toLower < toUpper || (toLower = toUpper && tie = .even && lower % 2 = 0)

/-- A positive binary number, and whether it is the least one of its width: then the step below
it is half the step above. -/
structure Binary where
  significand : Nat
  exponent : Int
  leastOfWidth : Bool
deriving DecidableEq, Repr

namespace Binary

/-- Four times the significand counts quarters of a step. -/
def quarters (b : Binary) : Nat :=
  4 * b.significand

/-- The lower end of the reals that round to the number, in quarters of a step. -/
def lowest (b : Binary) : Nat :=
  b.quarters - if b.leastOfWidth then 1 else 2

/-- The upper end of the reals that round to the number, in quarters of a step. -/
def highest (b : Binary) : Nat :=
  b.quarters + 2

/-- The factors `(a, c)` with which `x` quarters of a step compare to `y * 10 ^ k` as `x * a`
compares to `y * c`. -/
def scales (b : Binary) (k : Int) : Nat × Nat :=
  (Nat.pow 10 (-k).toNat <<< (b.exponent - 2).toNat, Nat.pow 10 k.toNat <<< (2 - b.exponent).toNat)

/-- The number of digits ahead of the decimal point, or minus the number of zeros behind it. The
least positive number is above `10 ^ (-400)`. -/
def magnitude (b : Binary) : Int :=
  let scaled := (b.significand * Nat.pow 10 400) <<< b.exponent.toNat >>> (-b.exponent).toNat
  ((Nat.toDigits 10 scaled).length : Int) - 400

/-- The nearest multiple of `10 ^ k` that rounds to the number, if one of the two neighbours
does. -/
def onGrid? (b : Binary) (tie : Tie) (k : Int) : Option Decimal :=
  let (a, c) := b.scales k
  let value := b.quarters * a
  let below := value / c
  let above := below + 1
  let inside (candidate : Nat) : Bool :=
    if b.significand % 2 = 0 then
      b.lowest * a ≤ candidate * c && candidate * c ≤ b.highest * a
    else b.lowest * a < candidate * c && candidate * c < b.highest * a
  match inside below, inside above with
  | true, true =>
    if tie.takesLower below (value - below * c) (above * c - value) then some ⟨below, k⟩
    else some ⟨above, k⟩
  | true, false => some ⟨below, k⟩
  | false, true => some ⟨above, k⟩
  | false, false => none

/-- The decimal with the fewest digits that reads back, without trailing zeros. -/
def shortest (b : Binary) (tie : Tie) : Decimal :=
  let magnitude := b.magnitude
  let grids := (List.range 18).map fun (count : Nat) => magnitude - (count + 1)
  let found := (grids.findSome? (b.onGrid? tie)).getD ⟨b.significand, b.exponent⟩
  found.stripZeros 400

end Binary

end Decimal

end Kata
