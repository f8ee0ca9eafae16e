import Kata.CommandLine.Invocation
import Kata.Problem.File
import Kata.Run.Session
import Kata.Settings.File

/-!
# Answers to invocations

What is printed for an invocation, and with which code the program ends. Files are given by what
reading them yields, and the judge by its answers.
-/

namespace Kata.CommandLine

/-- What is printed, and the code with which the program ends: 0 if all is well, 1 if the command
failed or the solution did not pass, 2 for a usage error. -/
structure Output where
  code : Nat
  stdout : Text
  /-- The message behind the word that announces an error. -/
  error? : Option Text
deriving DecidableEq, Repr

/-- What reading a file yields: its content, or the reason why it cannot be read. -/
abbrev Files := Text → Except Text Text

/-- All is well. -/
def Output.printed (stdout : Text) : Output := ⟨0, stdout, none⟩

/-- The command failed. -/
def Output.failed (message : Text) : Output := ⟨1, [], some message⟩

/-- The arguments make no sense. -/
def Output.usage : Output := ⟨2, [], none⟩

/-- What is written to the error output. -/
def Output.stderr (output : Output) : Text :=
  match output.error? with
  | some message => "Error: " ++ message ++ "\n"
  | none => []

/-! ## Reading files -/

/-- The message for a file that cannot be read, or not as what it should be. -/
def unreadableMessage (path : Text) : Text :=
  "reading " ++ path

/-- The chosen problem of a file: the first with the title up to letter case, or the first of
all. -/
def chosen? (problems : List Problem) : (title? : Option Text) → Option Problem
  | some title => problems.find? fun problem => Text.equalsIgnoringCase problem.title title
  | none => problems.head?

/-- The chosen problem, or why there is none. -/
def selectProblem (files : Files) (choice : ProblemChoice) : Except Text Problem :=
  match files choice.file with
  | .error _ => .error (unreadableMessage choice.file)
  | .ok content =>
    match Problem.ofFile content with
    | .error _ => .error (unreadableMessage choice.file)
    | .ok problems =>
      match chosen? problems choice.title? with
      | some problem => .ok problem
      | none => .error ("no matching problem in " ++ choice.file)

/-- The content of the file with the solution. -/
def readSource (files : Files) (path : Text) : Except Text Text :=
  match files path with
  | .ok content => .ok content
  | .error _ => .error (unreadableMessage path)

/-! ## Commands -/

/-- A row of the table of languages. -/
def tableRow (language : Language) : Text :=
  "  " ++ Text.padRight 12 language.label ++ " " ++
    Text.padRight 10 (Text.ofNat language.judgeNumber) ++ " ." ++ language.fileExtension ++ "\n"

/-- The table of languages. -/
def languageTable : Text :=
  "\n  " ++ Text.padRight 12 "Language" ++ " " ++ Text.padRight 10 "Judge0 id" ++
    " Extension\n" ++ List.replicate 40 '-' ++ "\n" ++ Language.every.flatMap tableRow ++ "\n"

/-- The program for one test case. -/
def composed (problem : Problem) (language : Language) (source : Text) (case : Nat) :
    Except Text Text :=
  match problem.testCases[case]? with
  | some testCase => .ok (Harness.build language problem source testCase.input).program
  | none =>
    .error
      (problem.title ++ " has " ++ Text.ofNat problem.testCases.length ++ " test cases, no case " ++
        Text.ofNat case)

/-- The output of a session: the report, or the events one a line. -/
def sessionOutput (solution : Run.Solution) (answers : Nat → Run.Answer) (isStreamed : Bool) :
    Output :=
  let (report, _) := Run.validate solution answers
  let (events, _) := Run.stream solution answers none
  { code := if report.isPassed then 0 else 1
    stdout :=
      if isStreamed then events.flatMap fun event => event.toJson.compact ++ ['\n']
      else report.toJson.pretty ++ ['\n']
    error? := none }

/-- The output of a run: settings come first, then the problem, then the solution. -/
def runOutput (files : Files) (answers : Nat → Run.Answer) (config? : Option Text)
    (choice : ProblemChoice) (language : Language) (source : Text) (isStreamed : Bool) :
    Except Text Output := do
  match Settings.load (fun _ => none) (config?.map files) with
  | .error reason => .error reason.message
  | .ok _ =>
    let problem ← selectProblem files choice
    let content ← readSource files source
    return sessionOutput ⟨problem, language, content⟩ answers isStreamed

/-- The output of an invocation, or the message of its error. -/
def Invocation.output (files : Files) (answers : Nat → Run.Answer) :
    Invocation → Except Text Output
  | languages => .ok (.printed languageTable)
  | schema choice => do
    let problem ← selectProblem files choice
    return .printed ((Schema.ofProblem problem).toJson.pretty ++ ['\n'])
  | template choice language => do
    let problem ← selectProblem files choice
    return .printed (Harness.template language problem)
  | compose choice language source case => do
    let problem ← selectProblem files choice
    let content ← readSource files source
    return .printed (← composed problem language content case)
  | run config? choice language source _ isStreamed =>
    runOutput files answers config? choice language source isStreamed

/-- The output for the arguments of the command line. -/
def answer (files : Files) (answers : Nat → Run.Answer) (arguments : List Text) : Output :=
  match ofArguments? arguments with
  | none => .usage
  | some invocation =>
    match invocation.output files answers with
    | .ok output => output
    | .error message => .failed message

/-! ## A directory in memory -/

/-- A path without empty parts and without steps to where it already is. -/
def pathParts (path : Text) : List Text :=
  (Text.splitOn '/' path).filter fun part => part != [] && part != ['.']

/-- Why a file that is not there cannot be read. -/
def missingReason : Text := "No such file or directory (os error 2)"

/-- Why a directory cannot be read as a file. -/
def directoryReason : Text := "Is a directory (os error 21)"

/-- Why a path that goes on behind a file cannot be read. -/
def notDirectoryReason : Text := "Not a directory (os error 20)"

/-- Whether the end of a path says that it leads to a directory. -/
def endsAsDirectory (path : Text) : Bool :=
  match (Text.splitOn '/' path).getLast? with
  | some last => last == [] || last == ['.']
  | none => false

/-- Reading from a directory that holds the given files. -/
def filesOf (directory : List (Text × Text)) : Files := fun path =>
  let parts := pathParts path
  if parts = [] then .error directoryReason
  else if path.head? = some '/' then .error missingReason
  else
    match directory.find? fun (name, _) => pathParts name == parts with
    | some (_, content) =>
      if endsAsDirectory path then .error notDirectoryReason else .ok content
    | none =>
      if directory.any fun (name, _) => (pathParts name).isPrefixOf parts then
        .error notDirectoryReason
      else .error missingReason

end Kata.CommandLine
