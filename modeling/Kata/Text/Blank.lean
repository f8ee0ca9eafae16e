import Kata.Text.Basic

/-!
# Blank characters

The characters with the property White_Space, and trimming them from the ends of a text.
-/

namespace Kata.Text

/-- The ranges of the characters with the property White_Space. -/
def blankRanges : List (Nat × Nat) :=
  [(0x9, 0xd), (0x20, 0x20), (0x85, 0x85), (0xa0, 0xa0), (0x1680, 0x1680), (0x2000, 0x200a),
   (0x2028, 0x2029), (0x202f, 0x202f), (0x205f, 0x205f), (0x3000, 0x3000)]

/-- Whether a code point lies in one of the ranges. -/
def inRanges (ranges : List (Nat × Nat)) (code : Nat) : Bool :=
  ranges.any fun (low, high) => low ≤ code && code ≤ high

/-- Whether a character has the property White_Space. -/
def isBlank (c : Char) : Bool :=
  inRanges blankRanges c.toNat

/-- Drop the blank characters from the front. -/
def trimStart (text : Text) : Text :=
  text.dropWhile isBlank

/-- Drop the blank characters from the end. -/
def trimEnd (text : Text) : Text :=
  dropEndWhile isBlank text

/-- Drop the blank characters from both ends. -/
def trim (text : Text) : Text :=
  trimEnd (trimStart text)

end Kata.Text
