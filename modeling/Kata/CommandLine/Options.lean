import Kata.Text.Basic

/-!
# Options

The options of a command stand in any order. An option that takes a value has it in the next
argument, or behind an equals sign, or directly behind its letter. An option may be given once.
-/

namespace Kata.CommandLine

/-- An option: its name, the letter that it also goes by, and whether it takes a value. -/
structure OptionSpec where
  name : Text
  letter? : Option Char
  takesValue : Bool
deriving DecidableEq, Repr

/-- The values of options by name; an option without a value has the empty one. -/
abbrev OptionValues := List (Text × Text)

/-- Whether an argument can be the value of the option ahead of it. -/
def isValue (argument : Text) : Bool :=
  argument.head? != some '-' || argument == ['-']

/-- An option with the value that is attached to it, or else with the next argument. -/
def withValue (spec : OptionSpec) (attached? : Option Text) (rest : List Text) :
    Option ((Text × Text) × List Text) :=
  if spec.takesValue then
    match attached?, rest with
    | some value, rest => some ((spec.name, value), rest)
    | none, value :: rest => if isValue value then some ((spec.name, value), rest) else none
    | none, [] => none
  else if attached?.isNone then some ((spec.name, []), rest)
  else none

/-- The value attached to a letter. -/
def attachedToLetter : Text → Option Text
  | [] => none
  | '=' :: value => some value
  | value => some value

/-- Read one option from the front of the arguments. -/
def readOption (specs : List OptionSpec) (argument : Text) (rest : List Text) :
    Option ((Text × Text) × List Text) :=
  match argument with
  | '-' :: '-' :: body =>
    let (name, attached?) := match Text.cutAt? '=' body with
      | some (name, value) => (name, some value)
      | none => (body, none)
    (specs.find? fun spec => spec.name == name).bind fun spec => withValue spec attached? rest
  | '-' :: letter :: tail =>
    (specs.find? fun spec => spec.letter? == some letter).bind fun spec =>
      withValue spec (attachedToLetter tail) rest
  | _ => none

/-- Add an option that was not given yet. -/
def addOption (option : Text × Text) (values : OptionValues) : Option OptionValues :=
  if (values.lookup option.1).isSome then none else some (values ++ [option])

/-- Read options up to the first argument that is none; `steps` bounds the work, and one for each
argument is enough. Two hyphens alone end the options. -/
def readOptions (specs : List OptionSpec) : (steps : Nat) → List Text → OptionValues →
    Option (OptionValues × List Text)
  | _, [], values => some (values, [])
  | 0, arguments, values => some (values, arguments)
  | steps + 1, argument :: rest, values =>
    if argument.head? ≠ some '-' ∨ argument = ['-'] then some (values, argument :: rest)
    else if argument = "--" then if rest.isEmpty then some (values, []) else none
    else
      (readOption specs argument rest).bind fun (option, rest) =>
        (addOption option values).bind fun values => readOptions specs steps rest values

/-- Read arguments that are all options. -/
def readAllOptions (specs : List OptionSpec) (arguments : List Text) : Option OptionValues :=
  match readOptions specs arguments.length arguments [] with
  | some (values, []) => some values
  | _ => none

end Kata.CommandLine
