import Kata.CommandLine.Options
import Kata.Language

/-!
# Invocations

What the arguments of the command line ask for. Arguments that ask for nothing sensible are a
usage error.
-/

namespace Kata.CommandLine

/-- A problem: the file that it is in, and its title if the file holds several. -/
structure ProblemChoice where
  file : Text
  title? : Option Text
deriving DecidableEq, Repr

/-- What runs the programs. -/
inductive Backend where
  /-- A judge that is reached over the network. -/
  | judge
  /-- This machine. -/
  | machine
deriving DecidableEq, Repr

/-- What is asked for. -/
inductive Invocation where
  /-- List the languages. -/
  | languages
  /-- Print the schema of a problem. -/
  | schema (choice : ProblemChoice)
  /-- Print the starter template of a problem. -/
  | template (choice : ProblemChoice) (language : Language)
  /-- Print the program for one test case. -/
  | compose (choice : ProblemChoice) (language : Language) (source : Text) (case : Nat)
  /-- Run a solution on all test cases. -/
  | run (config? : Option Text) (choice : ProblemChoice) (language : Language) (source : Text)
      (backend : Backend) (isStreamed : Bool)
deriving DecidableEq, Repr

/-! ## Options of the commands -/

/-- The settings file; it can be given ahead of the command or behind it. -/
def configOption : OptionSpec := ⟨"config", none, true⟩

/-- The problem file. -/
def problemOption : OptionSpec := ⟨"problem", some 'p', true⟩

/-- The title of the problem. -/
def titleOption : OptionSpec := ⟨"title", some 't', true⟩

/-- The language. -/
def languageOption : OptionSpec := ⟨"language", some 'l', true⟩

/-- The file with the solution. -/
def sourceOption : OptionSpec := ⟨"source", some 's', true⟩

/-- The number of the test case. -/
def caseOption : OptionSpec := ⟨"case", none, true⟩

/-- What runs the programs. -/
def backendOption : OptionSpec := ⟨"backend", some 'b', true⟩

/-- Whether the events are printed. -/
def streamOption : OptionSpec := ⟨"stream", none, false⟩

/-! ## Values of options -/

/-- The path that an option gives; it is not empty. -/
def path? (values : OptionValues) (spec : OptionSpec) : Option Text :=
  (values.lookup spec.name).filter (· != [])

/-- Whether an option that gives a path is absent or gives one. -/
def isPathOrAbsent (values : OptionValues) (spec : OptionSpec) : Bool :=
  values.lookup spec.name != some []

/-- The problem that the options choose. -/
def problemChoice? (values : OptionValues) : Option ProblemChoice :=
  (path? values problemOption).map fun file => ⟨file, values.lookup titleOption.name⟩

/-- The language that the options choose. -/
def language? (values : OptionValues) : Option Language :=
  (values.lookup languageOption.name).bind Language.ofText?

/-- A number of 64 bits, with or without a plus sign. -/
def readIndex? (text : Text) : Option Nat :=
  let digits := (Text.after? ['+'] text).getD text
  (Text.toNat? digits).filter (· < UInt64.size)

/-- The number of the test case, zero if it is not given. -/
def case? (values : OptionValues) : Option Nat :=
  match values.lookup caseOption.name with
  | none => some 0
  | some text => readIndex? text

/-- What runs the programs, the judge if nothing is said. -/
def backend? (values : OptionValues) : Option Backend :=
  match values.lookup backendOption.name with
  | none => some .judge
  | some text =>
    if text = "judge0" then some .judge else if text = "local" then some .machine else none

/-! ## Commands -/

/-- What a command asks for, from the arguments behind it. `config?` is the settings file that was
given ahead of the command; one given behind it counts instead. -/
def ofCommand? (config? : Option Text) (command : Text) (arguments : List Text) :
    Option Invocation := do
  let specs ←
    if command = "languages" then some []
    else if command = "schema" then some [problemOption, titleOption]
    else if command = "template" then some [problemOption, titleOption, languageOption]
    else if command = "compose" then
      some [problemOption, titleOption, languageOption, sourceOption, caseOption]
    else if command = "run" then
      some [problemOption, titleOption, languageOption, sourceOption, backendOption, streamOption]
    else none
  let values ← readAllOptions (configOption :: specs) arguments
  guard (isPathOrAbsent values configOption)
  if command = "languages" then return .languages
  let choice ← problemChoice? values
  if command = "schema" then return .schema choice
  let language ← language? values
  if command = "template" then return .template choice language
  let source ← path? values sourceOption
  if command = "compose" then return .compose choice language source (← case? values)
  return .run ((path? values configOption).or config?) choice language source (← backend? values)
    (values.lookup streamOption.name).isSome

/-- What the arguments ask for. -/
def ofArguments? (arguments : List Text) : Option Invocation := do
  let (values, rest) ← readOptions [configOption] arguments.length arguments []
  guard (isPathOrAbsent values configOption)
  match rest with
  | [] => none
  | command :: rest => ofCommand? (path? values configOption) command rest

/-- The files that are read to answer an invocation. -/
def Invocation.paths : Invocation → List Text
  | languages => []
  | schema choice => [choice.file]
  | template choice _ => [choice.file]
  | compose choice _ source _ => [choice.file, source]
  | run config? choice _ source _ _ => config?.toList ++ [choice.file, source]

end Kata.CommandLine
