import Kata.Json.Record
import Kata.Json.Skip

/-!
# Records read directly from text

A record can be read while its text is being scanned, without a value between the two. The first
fault in the text then decides, be it of the form or of the shape; members of unknown names are
skipped, and a key that is given twice is noticed.
-/

namespace Kata.Json

/-- A mismatch at the place where the rest of the text begins. -/
def mismatchHere {α : Type} (reason : Mismatch) (rest : Text) : Except Fault α :=
  Fault.here (.mismatch reason) rest

/-! ## Plain values -/

/-- The fault of a text whose next value is not what is expected. A single value is read to its
end first; a list or an object is not entered. -/
def unexpected {α : Type} (expected : Expected) (text : Text) : Except Fault α :=
  match skipSpace text with
  | [] => Fault.here .endInValue []
  | '[' :: rest => mismatchHere (.wrongType .list expected) ('[' :: rest)
  | '{' :: rest => mismatchHere (.wrongType .map expected) ('{' :: rest)
  | other => do
    let (value, rest) ← readValue 2 depthLimit other
    mismatchHere (.wrongType (Found.of value) expected) rest

/-- Scan a text. -/
def scanText (text : Text) : Except Fault (Text × Text) :=
  match skipSpace text with
  | '"' :: rest => readQuoted rest
  | other => unexpected .text other

/-- Scan null for nothing, or a value. -/
def scanOptional {α : Type} (scan : Text → Except Fault (α × Text)) (text : Text) :
    Except Fault (Option α × Text) :=
  match skipSpace text with
  | 'n' :: rest => (readWord "ull" rest).map fun rest => (none, rest)
  | other => (scan other).map fun (value, rest) => (some value, rest)

/-- Scan a number that is then read from its value. -/
def scanNumber {α : Type} (read : Json → Except Mismatch α) (expected : Expected) (text : Text) :
    Except Fault (α × Text) := do
  let (value, rest) ← match skipSpace text with
    | '-' :: rest => readNumber true rest
    | c :: rest =>
      if c.isDigit then readNumber false (c :: rest) else unexpected expected (c :: rest)
    | [] => unexpected expected []
  match read value with
  | .ok number => .ok (number, rest)
  | .error reason => mismatchHere reason rest

/-! ## Records -/

/-- A field that can be read from a value and scanned from a text. -/
structure DirectField (σ : Type) where
  name : Text
  isRequired : Bool
  put : Json → σ → Except Mismatch σ
  scan : Text → σ → Except Fault (σ × Text)

/-- The field without its scanner. -/
def DirectField.field {σ : Type} (field : DirectField σ) : RecordField σ where
  name := field.name
  otherNames := []
  isRequired := field.isRequired
  put := field.put

/-- A kind of record whose fields can be scanned. -/
structure DirectRecord (σ : Type) where
  title : Text
  fields : List (DirectField σ)
  blank : σ

namespace DirectRecord

variable {σ : Type}

/-- The record without its scanners. -/
def record (r : DirectRecord σ) : Record σ where
  title := r.title
  fields := r.fields.map DirectField.field
  blank := r.blank

/-- Where the text goes on behind the end of an object or a list, if the end comes next. -/
def behindEnd (closing : Char) (text : Text) : Text :=
  match skipSpace text with
  | [] => []
  | c :: rest => if c = closing then rest else c :: rest

/-- Scan the members of an object and its end; `seen` lists the names of the fields that were
set. -/
def scanMembers (r : DirectRecord σ) : (steps : Nat) → (isFirst : Bool) → (seen : List Text) →
    Text → σ → Except Fault (σ × Text)
  | 0, _, _, text, _ => Fault.here .tooDeep text
  | steps + 1, isFirst, seen, text, state => do
    match ← nextKey isFirst text with
    | none =>
      let rest := behindEnd '\x7d' text
      match r.fields.find? fun field => field.isRequired && !seen.contains field.name with
      | some field => mismatchHere (.missingField field.name) rest
      | none => .ok (state, rest)
    | some text =>
      let (key, text) ← readQuoted text
      match r.fields.find? fun field => field.name == key with
      | none =>
        let text ← behindColon text
        let text ← skip text
        scanMembers r steps false seen text state
      | some field =>
        if seen.contains field.name then
          mismatchHere (.duplicateField field.name) (behindEnd '\x7d' text)
        else
          let text ← behindColon text
          let (state, text) ← field.scan text state
          scanMembers r steps false (field.name :: seen) text state

/-- Scan the end of a list that has no further items. -/
def scanListEnd (text : Text) : Except Fault Text :=
  match skipSpace text with
  | [] => Fault.here .endInList []
  | ']' :: rest => .ok rest
  | ',' :: rest =>
    match skipSpace rest with
    | ']' :: rest => Fault.here .trailingComma rest
    | other => Fault.ahead .trailingText other
  | other => Fault.ahead .trailingText other

/-- Scan the items of a list, one for each field, and its end; `index` counts the fields. -/
def scanItems (r : DirectRecord σ) : List (DirectField σ) → (index : Nat) → Text → σ →
    Except Fault (σ × Text)
  | [], _, text, state => (scanListEnd text).map fun rest => (state, rest)
  | field :: fields, index, text, state => do
    match ← nextItem (index == 0) text with
    | none =>
      if field.isRequired then
        mismatchHere (.wrongLength index (.recordOf r.title r.fields.length)) (behindEnd ']' text)
      else scanItems r fields (index + 1) text state
    | some text =>
      let (state, text) ← field.scan text state
      scanItems r fields (index + 1) text state

/-- Scan a record. -/
def scan (r : DirectRecord σ) (text : Text) : Except Fault (σ × Text) :=
  match skipSpace text with
  | '{' :: rest => r.scanMembers (rest.length + 1) true [] rest r.blank
  | '[' :: rest => r.scanItems r.fields 0 rest r.blank
  | other => unexpected (.record r.title) other

/-- Read a whole text as a record. -/
def readText (r : DirectRecord σ) (text : Text) : Except Fault σ := do
  let (state, rest) ← r.scan text
  finish state rest

end DirectRecord

namespace DirectField

variable {σ : Type}

/-- A field from a reader of values and a scanner of texts. -/
def make {α : Type} (name : Text) (isRequired : Bool) (read : Json → Except Mismatch α)
    (scanValue : Text → Except Fault (α × Text)) (set : α → σ → σ) : DirectField σ where
  name := name
  isRequired := isRequired
  put value state := (read value).map fun content => set content state
  scan text state := (scanValue text).map fun (content, rest) => (set content state, rest)

/-- A field that holds a text. -/
def text (name : Text) (isRequired : Bool) (set : Text → σ → σ) : DirectField σ :=
  make name isRequired asText scanText set

/-- A field that holds a text or nothing. -/
def optionalText (name : Text) (set : Option Text → σ → σ) : DirectField σ :=
  make name false (asOptional asText) (scanOptional scanText) set

/-- A field that holds a natural number of 32 bits. -/
def word32 (name : Text) (set : UInt32 → σ → σ) : DirectField σ :=
  make name false asWord32 (scanNumber asWord32 .word32) set

/-- A field that holds a natural number of 64 bits. -/
def word64 (name : Text) (set : UInt64 → σ → σ) : DirectField σ :=
  make name false asWord64 (scanNumber asWord64 .word64) set

/-- A field that holds a record. -/
def nested {τ : Type} (name : Text) (r : DirectRecord τ) (set : τ → σ → σ) : DirectField σ :=
  make name false r.record.read r.scan set

end DirectField

end Kata.Json
