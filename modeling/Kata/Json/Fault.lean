import Kata.Json.Mismatch

/-!
# Faults of a JSON text

A text can end too early, be malformed, or be well formed and of the wrong shape. A fault says
what is wrong and where; the place is counted in bytes from the end, so that a reader that only
knows what is left can give it.
-/

namespace Kata.Json

/-- What is wrong with a text. -/
inductive Cause where
  | endInList
  | endInObject
  | endInText
  | endInValue
  | missingColon
  | missingListComma
  | missingObjectComma
  | wrongWord
  | missingValue
  | badEscape
  | badNumber
  | numberTooLarge
  | controlCharacter
  | keyNotText
  | loneSurrogate
  | unfinishedSurrogate
  | trailingComma
  | trailingText
  | tooDeep
  | mismatch (reason : Mismatch)

/-- The kinds of faults. -/
inductive FaultClass where
  | syntactic
  | unfinished
  | shape
deriving DecidableEq, Repr

/-- The kind of a cause. -/
def Cause.faultClass : Cause → FaultClass
  | endInList | endInObject | endInText | endInValue => .unfinished
  | mismatch _ => .shape
  | _ => .syntactic

/-- The wording of a cause. -/
def Cause.message : Cause → Text
  | endInList => "EOF while parsing a list"
  | endInObject => "EOF while parsing an object"
  | endInText => "EOF while parsing a string"
  | endInValue => "EOF while parsing a value"
  | missingColon => "expected `:`"
  | missingListComma => "expected `,` or `]`"
  | missingObjectComma => "expected `,` or `\x7d`"
  | wrongWord => "expected ident"
  | missingValue => "expected value"
  | badEscape => "invalid escape"
  | badNumber => "invalid number"
  | numberTooLarge => "number out of range"
  | controlCharacter =>
    "control character (\\u0000-\\u001F) found while parsing a string"
  | keyNotText => "key must be a string"
  | loneSurrogate => "lone leading surrogate in hex escape"
  | unfinishedSurrogate => "unexpected end of hex escape"
  | trailingComma => "trailing comma"
  | trailingText => "trailing characters"
  | tooDeep => "recursion limit exceeded"
  | mismatch reason => reason.message

/-- A cause and the number of bytes that lie behind its place. -/
structure Fault where
  cause : Cause
  bytesBehind : Nat

namespace Fault

/-- A fault at the place where the rest of the text begins. -/
def here {α : Type} (cause : Cause) (rest : Text) : Except Fault α :=
  .error ⟨cause, Text.byteCount rest⟩

/-- A fault of the first byte of the rest of the text. -/
def ahead {α : Type} (cause : Cause) (rest : Text) : Except Fault α :=
  .error ⟨cause, Text.byteCount rest - 1⟩

/-- The line, and the number of bytes in it, that a number of bytes leads to. -/
def locate : (line column : Nat) → (bytes : Nat) → Text → Nat × Nat
  | line, column, _, [] => (line, column)
  | line, column, bytes, c :: rest =>
    if bytes < c.utf8Size then (line, column + bytes)
    else if c = '\n' then locate (line + 1) 0 (bytes - 1) rest
    else locate line (column + c.utf8Size) (bytes - c.utf8Size) rest

/-- The cause and its place in the text that was read. -/
def message (text : Text) (fault : Fault) : Text :=
  let (line, column) := locate 1 0 (Text.byteCount text - fault.bytesBehind) text
  fault.cause.message ++ " at line " ++ Text.ofNat line ++ " column " ++ Text.ofNat column

end Fault

end Kata.Json
