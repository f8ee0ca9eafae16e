/-!
# Texts

A text is a list of characters. This module holds the small operations on texts that every
other module shares: joining and splitting, testing for a leading part, and the letter case of
the Latin alphabet.
-/

namespace Kata

/-- A text, as the list of its characters. -/
abbrev Text := List Char

instance : Coe String Text := ⟨String.toList⟩

namespace Text

/-! ## Joining -/

/-- The parts in order, with the separator between neighbours. -/
def joinWith (separator : Text) : List Text → Text
  | [] => []
  | [part] => part
  | part :: next :: rest => part ++ separator ++ joinWith separator (next :: rest)

/-- The lines in order, each ended by a line feed. -/
def ofLines : List String → Text
  | [] => []
  | line :: rest => line.toList ++ '\n' :: ofLines rest

/-! ## Splitting -/

/-- The parts between the characters that satisfy `isSeparator`; there is always at least one. -/
def splitWhere (isSeparator : Char → Bool) : Text → List Text
  | [] => [[]]
  | c :: rest =>
    match isSeparator c, splitWhere isSeparator rest with
    | true, parts => [] :: parts
    | false, [] => [[c]]
    | false, part :: parts => (c :: part) :: parts

/-- The parts between the occurrences of one character. -/
def splitOn (separator : Char) (text : Text) : List Text :=
  splitWhere (· == separator) text

/-- What follows `head` in a text that begins with it. -/
def after? : (head : Text) → Text → Option Text
  | [], text => some text
  | _ :: _, [] => none
  | h :: head, c :: text => if h = c then after? head text else none

/-- What precedes `tail` in a text that ends with it. -/
def before? (tail text : Text) : Option Text :=
  (after? tail.reverse text.reverse).map List.reverse

/-- Drop `head` from the front as often as it occurs there. -/
def dropRepeated (head : Text) (text : Text) : Text :=
  go text.length text
where
  /-- At most as many rounds as there are characters. -/
  go : Nat → Text → Text
    | 0, text => text
    | rounds + 1, text =>
      match after? head text with
      | some rest => if head = [] then text else go rounds rest
      | none => text

/-- The part of a text ahead of its first `c` and the part behind it. -/
def cutAt? (c : Char) : Text → Option (Text × Text)
  | [] => none
  | d :: rest =>
    if d = c then some ([], rest)
    else (cutAt? c rest).map fun (ahead, behind) => (d :: ahead, behind)

/-- Drop the characters that satisfy `isDropped` from the end. -/
def dropEndWhile (isDropped : Char → Bool) (text : Text) : Text :=
  (text.reverse.dropWhile isDropped).reverse

/-! ## Letters of the Latin alphabet -/

/-- Write the letters `A` to `Z` small. -/
def lowercase (text : Text) : Text :=
  text.map Char.toLower

/-- Equality up to the case of the letters `A` to `Z`. -/
def equalsIgnoringCase (left right : Text) : Bool :=
  lowercase left == lowercase right

/-- A letter `A` to `Z` or `a` to `z`, or a digit `0` to `9`. -/
def isPlainAlphanumeric (c : Char) : Bool :=
  c.isAlpha || c.isDigit

/-! ## Numbers -/

/-- The decimal digits of a natural number. -/
def ofNat (n : Nat) : Text :=
  Nat.toDigits 10 n

/-- The decimal digits of an integer, with a minus sign ahead of a negative one. -/
def ofInt : Int → Text
  | .ofNat n => ofNat n
  | .negSucc n => '-' :: ofNat (n + 1)

/-- Fill up with `fill` on the left to at least `width` characters. -/
def padLeft (width : Nat) (fill : Char) (text : Text) : Text :=
  List.replicate (width - text.length) fill ++ text

/-- Fill up with blanks on the right to at least `width` characters. -/
def padRight (width : Nat) (text : Text) : Text :=
  text ++ List.replicate (width - text.length) ' '

/-- The value of a digit `0` to `9`. -/
def digitValue (c : Char) : Nat :=
  c.toNat - '0'.toNat

/-- The number that a list of decimal digits denotes. -/
def digitsValue (digits : Text) : Nat :=
  digits.foldl (fun value c => 10 * value + digitValue c) 0

/-- Read a natural number: at least one digit and nothing else. -/
def toNat? (text : Text) : Option Nat :=
  if text ≠ [] ∧ text.all Char.isDigit then some (digitsValue text) else none

/-- Read an integer: an optional sign, then at least one digit. -/
def toInt? : Text → Option Int
  | '-' :: digits => (toNat? digits).map fun n => -(n : Int)
  | '+' :: digits => (toNat? digits).map fun n => (n : Int)
  | digits => (toNat? digits).map fun n => (n : Int)

/-- The number of bytes that a text takes in UTF-8. -/
def byteCount (text : Text) : Nat :=
  text.foldl (fun count c => count + c.utf8Size) 0

/-! ## Order -/

/-- Order by the first difference, a shorter text first. -/
def before : Text → Text → Bool
  | [], _ => true
  | _ :: _, [] => false
  | a :: left, b :: right => if a = b then before left right else a.toNat < b.toNat

end Text

end Kata
