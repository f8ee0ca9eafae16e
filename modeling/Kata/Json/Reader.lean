import Kata.Json.Number

/-!
# Reading JSON

Values are read strictly: blanks are the space, the tab, the carriage return and the line feed,
and arrays and objects nest at most 127 deep. A key that is given several times is kept as
often; `parse` then collapses it.
-/

namespace Kata.Json

/-! ## Blanks and words -/

/-- A blank between the parts of a JSON text. -/
def isSpace (c : Char) : Bool :=
  c == ' ' || c == '\n' || c == '\t' || c == '\r'

/-- Drop the blanks at the front. -/
def skipSpace (text : Text) : Text :=
  text.dropWhile isSpace

/-- Read a given word. -/
def readWord : (word : Text) → Text → Except Fault Text
  | [], text => .ok text
  | _ :: _, [] => Fault.here .endInValue []
  | w :: word, c :: rest => if w = c then readWord word rest else Fault.here .wrongWord rest

/-! ## Quoted texts -/

/-- The value of a hexadecimal digit. -/
def hexValue? (c : Char) : Option Nat :=
  if c.isDigit then some (c.toNat - 48)
  else if 'a' ≤ c ∧ c ≤ 'f' then some (c.toNat - 87)
  else if 'A' ≤ c ∧ c ≤ 'F' then some (c.toNat - 55)
  else none

/-- The value of four hexadecimal digits. -/
def hexWord? (a b c d : Char) : Option Nat := do
  let a ← hexValue? a
  let b ← hexValue? b
  let c ← hexValue? c
  let d ← hexValue? d
  return 4096 * a + 256 * b + 16 * c + d

/-- The fault of a text that ought to begin with four hexadecimal digits and does not. -/
def hexFault {α : Type} (text : Text) : Except Fault α :=
  if Text.byteCount text < 4 then Fault.here .endInText []
  else .error ⟨.badEscape, Text.byteCount text - 4⟩

/-- The character of an escape of one letter. -/
def escapedChar? (c : Char) : Option Char :=
  if c = '"' then some '"'
  else if c = '\\' then some '\\'
  else if c = '/' then some '/'
  else if c = 'b' then some '\x08'
  else if c = 'f' then some '\x0c'
  else if c = 'n' then some '\n'
  else if c = 'r' then some '\r'
  else if c = 't' then some '\t'
  else none

/-- The fault of a leading surrogate that no trailing one follows. -/
def surrogateFault {α : Type} (text : Text) : Except Fault α :=
  match text with
  | [] => Fault.here .endInText []
  | '\\' :: [] => Fault.here .endInText []
  | '\\' :: 'u' :: rest => hexFault rest
  | '\\' :: _ => Fault.ahead .unfinishedSurrogate (text.drop 1)
  | _ => Fault.ahead .unfinishedSurrogate text

/-- Read a quoted text behind its opening quote. -/
def readQuoted : Text → Except Fault (Text × Text)
  | [] => Fault.here .endInText []
  | '"' :: rest => .ok ([], rest)
  | '\\' :: [] => Fault.here .endInText []
  | '\\' :: 'u' :: a :: b :: c :: d :: rest =>
    match hexWord? a b c d with
    | none => hexFault (a :: b :: c :: d :: rest)
    | some high =>
      if 0xdc00 ≤ high ∧ high ≤ 0xdfff then Fault.here .loneSurrogate rest
      else if high < 0xd800 ∨ 0xdbff < high then
        (readQuoted rest).map fun (t, behind) => (Char.ofNat high :: t, behind)
      else
        match rest with
        | '\\' :: 'u' :: e :: f :: g :: h :: rest =>
          match hexWord? e f g h with
          | none => hexFault (e :: f :: g :: h :: rest)
          | some low =>
            if low < 0xdc00 ∨ 0xdfff < low then Fault.here .loneSurrogate rest
            else
              let code := (high - 0xd800) * 1024 + (low - 0xdc00) + 0x10000
              (readQuoted rest).map fun (t, behind) => (Char.ofNat code :: t, behind)
        | rest => surrogateFault rest
  | '\\' :: c :: rest =>
    match escapedChar? c with
    | some plain => (readQuoted rest).map fun (t, behind) => (plain :: t, behind)
    | none => if c = 'u' then hexFault rest else Fault.here .badEscape rest
  | c :: rest =>
    if c.toNat < 32 then Fault.here .controlCharacter rest
    else (readQuoted rest).map fun (t, behind) => (c :: t, behind)

/-! ## Values -/

/-- The place of the next item of a list, or none where the list ends. -/
def nextItem (isFirst : Bool) (text : Text) : Except Fault (Option Text) :=
  match skipSpace text with
  | [] => Fault.here .endInList []
  | ']' :: _ => .ok none
  | c :: rest =>
    if isFirst then .ok (some (c :: rest))
    else if c = ',' then
      match skipSpace rest with
      | [] => Fault.here .endInValue []
      | ']' :: rest => Fault.here .trailingComma rest
      | item => .ok (some item)
    else Fault.ahead .missingListComma (c :: rest)

/-- The text behind the opening quote of the next key of an object, or none where the object
ends. -/
def nextKey (isFirst : Bool) (text : Text) : Except Fault (Option Text) :=
  match skipSpace text with
  | [] => Fault.here .endInObject []
  | '}' :: _ => .ok none
  | c :: rest =>
    if isFirst then
      if c = '"' then .ok (some rest) else Fault.ahead .keyNotText (c :: rest)
    else if c = ',' then
      match skipSpace rest with
      | [] => Fault.here .endInValue []
      | '"' :: key => .ok (some key)
      | '}' :: rest => Fault.here .trailingComma rest
      | other => Fault.ahead .keyNotText other
    else Fault.ahead .missingObjectComma (c :: rest)

/-- The text behind the colon that follows a key. -/
def behindColon (text : Text) : Except Fault Text :=
  match skipSpace text with
  | [] => Fault.here .endInObject []
  | ':' :: rest => .ok rest
  | other => Fault.ahead .missingColon other

mutual

/-- Read a value. `depth` is one more than the number of levels that may still be opened; `steps`
bounds the work, and two for each character are enough. -/
def readValue (steps depth : Nat) (text : Text) : Except Fault (Json × Text) :=
  match steps with
  | 0 => Fault.here .tooDeep text
  | steps + 1 =>
    match skipSpace text with
    | [] => Fault.here .endInValue []
    | 'n' :: rest => (readWord "ull" rest).map fun rest => (null, rest)
    | 't' :: rest => (readWord "rue" rest).map fun rest => (bool true, rest)
    | 'f' :: rest => (readWord "alse" rest).map fun rest => (bool false, rest)
    | '-' :: rest => readNumber true rest
    | '"' :: rest => (readQuoted rest).map fun (t, rest) => (string t, rest)
    | '[' :: rest =>
      if depth ≤ 1 then Fault.ahead .tooDeep ('[' :: rest)
      else (readItems steps (depth - 1) true rest).map fun (items, rest) => (array items, rest)
    | '{' :: rest =>
      if depth ≤ 1 then Fault.ahead .tooDeep ('{' :: rest)
      else
        (readMembers steps (depth - 1) true rest).map fun (members, rest) =>
          (object members, rest)
    | c :: rest =>
      if c.isDigit then readNumber false (c :: rest) else Fault.ahead .missingValue (c :: rest)

/-- Read the items of a list and its end. -/
def readItems (steps depth : Nat) (isFirst : Bool) (text : Text) :
    Except Fault (List Json × Text) :=
  match steps with
  | 0 => Fault.here .tooDeep text
  | steps + 1 => do
    match ← nextItem isFirst text with
    | none => .ok ([], (skipSpace text).drop 1)
    | some text =>
      let (item, text) ← readValue steps depth text
      let (items, text) ← readItems steps depth false text
      .ok (item :: items, text)

/-- Read the members of an object and its end. -/
def readMembers (steps depth : Nat) (isFirst : Bool) (text : Text) :
    Except Fault (List (Text × Json) × Text) :=
  match steps with
  | 0 => Fault.here .tooDeep text
  | steps + 1 => do
    match ← nextKey isFirst text with
    | none => .ok ([], (skipSpace text).drop 1)
    | some text =>
      let (key, text) ← readQuoted text
      let text ← behindColon text
      let (value, text) ← readValue steps depth text
      let (members, text) ← readMembers steps depth false text
      .ok ((key, value) :: members, text)

end

/-- The number of levels that may be opened, plus one. -/
def depthLimit : Nat := 128

/-- Nothing but blanks may follow a whole text. -/
def finish {α : Type} (value : α) (rest : Text) : Except Fault α :=
  match skipSpace rest with
  | [] => .ok value
  | other => Fault.ahead .trailingText other

/-- Read a whole text as one value, keeping each key as often as it is given. -/
def parseAll (text : Text) : Except Fault Json := do
  let (value, rest) ← readValue (2 * text.length + 2) depthLimit text
  finish value rest

/-- Read a whole text as one value. -/
def parse (text : Text) : Except Fault Json :=
  (parseAll text).map collapse

end Kata.Json
