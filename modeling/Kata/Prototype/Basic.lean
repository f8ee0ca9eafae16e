import Kata.DataType.Basic
import Kata.Text.Blank

/-!
# Prototypes

A prototype is the shape of a function: its name, its parameters and the type of its result, as
far as they are known.
-/

namespace Kata

/-- A parameter of a prototype. -/
structure Prototype.Parameter where
  name? : Option Text
  type? : Option DataType
deriving DecidableEq, Repr

/-- The shape of a function. -/
structure Prototype where
  name? : Option Text
  parameters : List Prototype.Parameter
  returnType? : Option DataType
deriving DecidableEq, Repr

namespace Prototype

/-! ## Splitting a parameter list -/

/-- What a character adds to the depth of brackets. -/
def bracketStep (c : Char) : Int :=
  if c = '<' ∨ c = '[' ∨ c = '(' ∨ c = '\x7b' then 1
  else if c = '>' ∨ c = ']' ∨ c = ')' ∨ c = '\x7d' then -1
  else 0

/-- The pieces between the commas at depth zero, from a given depth on. -/
def splitFrom (depth : Int) : Text → List Text
  | [] => [[]]
  | c :: rest =>
    if c = ',' ∧ depth = 0 then [] :: splitFrom depth rest
    else
      match splitFrom (depth + bracketStep c) rest with
      | [] => [[c]]
      | piece :: pieces => (c :: piece) :: pieces

/-- The pieces between the commas that stand in no brackets, trimmed; empty ones are left out. -/
def splitTopLevel (text : Text) : List Text :=
  ((splitFrom 0 text).map Text.trim).filter (· != [])

end Prototype

end Kata
