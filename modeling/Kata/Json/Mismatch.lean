import Kata.Json.Printer
import Kata.Text.Quoted

/-!
# Values of the wrong shape

Why a JSON value does not stand for a record, and the wording of each reason.
-/

namespace Kata.Json

/-- What a place of a record takes. -/
inductive Expected where
  | text
  | flag
  | list
  | map
  | word32
  | word64
  /-- A record, by its title. -/
  | record (title : Text)
  /-- A record written as a list of a given number of values. -/
  | recordOf (title : Text) (count : Nat)
  /-- A list without further items. -/
  | fewerItems

/-- What was found in place of what was expected. -/
inductive Found where
  | null
  | flag (value : Bool)
  | int (value : Int)
  | float (value : Float)
  | text (value : Text)
  | list
  | map

/-- Why a value does not stand for a record. -/
inductive Mismatch where
  /-- A member that has to be there is not. -/
  | missingField (name : Text)
  /-- A member is given twice. -/
  | duplicateField (name : Text)
  | wrongType (found : Found) (expected : Expected)
  | wrongValue (found : Found) (expected : Expected)
  | wrongLength (count : Nat) (expected : Expected)
  /-- A text that names no language. -/
  | unsupportedLanguage (name : Text)

/-- What a value is when it stands in the wrong place. -/
def Found.of : Json → Found
  | .null => null
  | .bool b => flag b
  | .int n => int n
  | .float x => float x
  | .string t => text t
  | .array _ => list
  | .object _ => map

/-- The words for what was found. -/
def Found.words : Found → Text
  | null => "null"
  | flag b => "boolean `" ++ boolText b ++ "`"
  | int n => "integer `" ++ Text.ofInt n ++ "`"
  | float x => "floating point `" ++ floatText x ++ "`"
  | text t => "string " ++ Text.reportQuoted t
  | list => "sequence"
  | map => "map"

/-- The words for what was expected. -/
def Expected.words : Expected → Text
  | text => "a string"
  | flag => "a boolean"
  | list => "a sequence"
  | map => "a map"
  | word32 => "u32"
  | word64 => "u64"
  | record title => "struct " ++ title
  | recordOf title count =>
    "struct " ++ title ++ " with " ++ Text.ofNat count ++
      (if count = 1 then " element" else " elements")
  | fewerItems => "fewer elements in array"

/-- The wording of a mismatch. -/
def Mismatch.message : Mismatch → Text
  | missingField name => "missing field `" ++ name ++ "`"
  | duplicateField name => "duplicate field `" ++ name ++ "`"
  | wrongType found expected => "invalid type: " ++ found.words ++ ", expected " ++ expected.words
  | wrongValue found expected =>
    "invalid value: " ++ found.words ++ ", expected " ++ expected.words
  | wrongLength count expected =>
    "invalid length " ++ Text.ofNat count ++ ", expected " ++ expected.words
  | unsupportedLanguage name => "Unsupported language: " ++ name

/-- A value in a place that takes something else. -/
def mismatch {α : Type} (expected : Expected) (value : Json) : Except Mismatch α :=
  .error (.wrongType (Found.of value) expected)

end Kata.Json
