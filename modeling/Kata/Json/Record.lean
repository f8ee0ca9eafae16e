import Kata.Json.Mismatch

/-!
# Records in JSON

A record is an object whose members are found by name, in any order, or an array whose items are
the fields in their declared order. Members are visited as they are written and the first
mismatch decides; what is missing is noticed at the end. Members of unknown names are ignored.
-/

namespace Kata.Json

/-! ## Plain values -/

/-- A text. -/
def asText : Json → Except Mismatch Text
  | string t => .ok t
  | other => mismatch .text other

/-- A truth value. -/
def asFlag : Json → Except Mismatch Bool
  | bool b => .ok b
  | other => mismatch .flag other

/-- A natural number of at most the given size. -/
def asNatural (limit : Nat) (expected : Expected) : Json → Except Mismatch Nat
  | int n =>
    if 0 ≤ n ∧ n < limit then .ok n.toNat else .error (.wrongValue (.int n) expected)
  | other => mismatch expected other

/-- A natural number of 32 bits. -/
def asWord32 (value : Json) : Except Mismatch UInt32 :=
  (asNatural UInt32.size .word32 value).map UInt32.ofNat

/-- A natural number of 64 bits. -/
def asWord64 (value : Json) : Except Mismatch UInt64 :=
  (asNatural UInt64.size .word64 value).map UInt64.ofNat

/-- Null for nothing, else a value. -/
def asOptional {α : Type} (read : Json → Except Mismatch α) : Json → Except Mismatch (Option α)
  | null => .ok none
  | value => (read value).map some

/-- A list. -/
def asList {α : Type} (read : Json → Except Mismatch α) : Json → Except Mismatch (List α)
  | array items => items.mapM read
  | other => mismatch .list other

/-! ## Records -/

/-- A field of a record: its name, the other names that it goes by, whether it has to be there,
and how its value enters the record. -/
structure RecordField (σ : Type) where
  name : Text
  otherNames : List Text
  isRequired : Bool
  put : Json → σ → Except Mismatch σ

/-- Whether a field goes by a name. -/
def RecordField.goesBy {σ : Type} (field : RecordField σ) (name : Text) : Bool :=
  field.name == name || field.otherNames.contains name

/-- A kind of record: its title, its fields, and the record in which no field is set. -/
structure Record (σ : Type) where
  title : Text
  fields : List (RecordField σ)
  blank : σ

namespace Record

variable {σ : Type}

/-- Visit the members of an object; `seen` lists the names of the fields that were set. -/
def visitMembers (r : Record σ) :
    List (Text × Json) → (seen : List Text) → σ → Except Mismatch (List Text × σ)
  | [], seen, state => .ok (seen, state)
  | (key, value) :: rest, seen, state =>
    match r.fields.find? (·.goesBy key) with
    | none => visitMembers r rest seen state
    | some field =>
      if seen.contains field.name then .error (.duplicateField field.name)
      else do
        let state ← field.put value state
        visitMembers r rest (field.name :: seen) state

/-- The first field that has to be there and was not set. -/
def missing? (r : Record σ) (seen : List Text) : Option (RecordField σ) :=
  r.fields.find? fun field => field.isRequired && !seen.contains field.name

/-- Visit the items of an array, one for each field; `index` counts the fields. -/
def visitItems (r : Record σ) (count : Nat) :
    List (RecordField σ) → (index : Nat) → List Json → σ → Except Mismatch σ
  | [], _, [], state => .ok state
  | [], _, _ :: _, _ => .error (.wrongLength count .fewerItems)
  | field :: fields, index, [], state =>
    if field.isRequired then
      .error (.wrongLength index (.recordOf r.title r.fields.length))
    else visitItems r count fields (index + 1) [] state
  | field :: fields, index, item :: items, state => do
    let state ← field.put item state
    visitItems r count fields (index + 1) items state

/-- Read a record. -/
def read (r : Record σ) : Json → Except Mismatch σ
  | object members => do
    let (seen, state) ← r.visitMembers members [] r.blank
    match r.missing? seen with
    | some field => .error (.missingField field.name)
    | none => .ok state
  | array items => r.visitItems items.length r.fields 0 items r.blank
  | other => mismatch (.record r.title) other

end Record

end Kata.Json
