import Kata.Json.Reader

/-!
# Skipping JSON

A value that nobody asks for is skipped. It has to be well formed, but numbers may be of any size,
surrogates need not be paired, and nesting has no limit.
-/

namespace Kata.Json

/-! ## Numbers and texts -/

/-- Skip the digits at the front. -/
def skipDigits (text : Text) : Text :=
  text.dropWhile Char.isDigit

/-- The fault of a text that ought to begin with a digit and does not. -/
def digitFault {α : Type} : Text → Except Fault α
  | [] => Fault.here .badNumber []
  | _ :: rest => Fault.here .badNumber rest

/-- Skip an exponent behind its mark. -/
def skipExponent (text : Text) : Except Fault Text :=
  let digits := match text with
    | '+' :: rest => rest
    | '-' :: rest => rest
    | rest => rest
  if digits.head?.any Char.isDigit then .ok (skipDigits digits) else digitFault digits

/-- Skip an exponent, if there is one. -/
def skipScale : Text → Except Fault Text
  | 'e' :: rest => skipExponent rest
  | 'E' :: rest => skipExponent rest
  | rest => .ok rest

/-- Skip what follows the integer part of a number. -/
def skipBehindInteger : Text → Except Fault Text
  | '.' :: rest =>
    if rest.head?.any Char.isDigit then skipScale (skipDigits rest)
    else Fault.ahead .badNumber rest
  | rest => skipScale rest

/-- Skip a number without its sign. -/
def skipNumber : Text → Except Fault Text
  | '0' :: rest =>
    if rest.head?.any Char.isDigit then Fault.ahead .badNumber rest else skipBehindInteger rest
  | text =>
    if text.head?.any Char.isDigit then skipBehindInteger (skipDigits text) else digitFault text

/-- Skip a quoted text behind its opening quote. -/
def skipQuoted : Text → Except Fault Text
  | [] => Fault.here .endInText []
  | '"' :: rest => .ok rest
  | '\\' :: [] => Fault.here .endInText []
  | '\\' :: 'u' :: a :: b :: c :: d :: rest =>
    match hexWord? a b c d with
    | none => hexFault (a :: b :: c :: d :: rest)
    | some _ => skipQuoted rest
  | '\\' :: c :: rest =>
    if (escapedChar? c).isSome then skipQuoted rest
    else if c = 'u' then hexFault rest
    else Fault.here .badEscape rest
  | c :: rest => if c.toNat < 32 then Fault.here .controlCharacter rest else skipQuoted rest

/-! ## Values -/

/-- What is being skipped: a list or an object. -/
inductive Container where
  | list
  | object
deriving DecidableEq, Repr

/-- The character that ends a container. -/
def Container.closing : Container → Char
  | list => ']'
  | object => '\x7d'

/-- The cause of a container that is never ended. -/
def Container.endCause : Container → Cause
  | list => .endInList
  | object => .endInObject

/-- The cause of a missing comma. -/
def Container.commaCause : Container → Cause
  | list => .missingListComma
  | object => .missingObjectComma

/-- Skip a key of an object and the colon behind it; in a list there is nothing to skip. -/
def skipKey : Container → Text → Except Fault Text
  | .list, text => .ok text
  | .object, text =>
    match skipSpace text with
    | [] => Fault.here .endInObject []
    | '"' :: rest => do behindColon (← skipQuoted rest)
    | other => Fault.ahead .keyNotText other

mutual

/-- Skip a value. `steps` bounds the work, and two for each character are enough. -/
def skipValue (steps : Nat) (text : Text) : Except Fault Text :=
  match steps with
  | 0 => Fault.here .tooDeep text
  | steps + 1 =>
    match skipSpace text with
    | [] => Fault.here .endInValue []
    | 'n' :: rest => readWord "ull" rest
    | 't' :: rest => readWord "rue" rest
    | 'f' :: rest => readWord "alse" rest
    | '-' :: rest => skipNumber rest
    | '"' :: rest => skipQuoted rest
    | '[' :: rest => skipItems steps .list true rest
    | '{' :: rest => skipItems steps .object true rest
    | c :: rest =>
      if c.isDigit then skipNumber (c :: rest) else Fault.ahead .missingValue (c :: rest)

/-- Skip the items of a container and its end. -/
def skipItems (steps : Nat) (container : Container) (isFirst : Bool) (text : Text) :
    Except Fault Text :=
  match steps with
  | 0 => Fault.here .tooDeep text
  | steps + 1 =>
    match skipSpace text with
    | [] => Fault.here container.endCause []
    | c :: rest =>
      if c = container.closing then .ok rest
      else if isFirst then do
        let text ← skipKey container (c :: rest)
        let text ← skipValue steps text
        skipItems steps container false text
      else if c = ',' then do
        let text ← skipKey container rest
        let text ← skipValue steps text
        skipItems steps container false text
      else Fault.ahead container.commaCause (c :: rest)

end

/-- Skip a value of any size. -/
def skip (text : Text) : Except Fault Text :=
  skipValue (2 * text.length + 2) text

end Kata.Json
