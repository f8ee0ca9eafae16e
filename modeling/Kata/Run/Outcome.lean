import Kata.Json.Record

/-!
# Outcomes of executions

What is known after a program was run on an input: its output and the status of the execution, or
why it was never run to an end.
-/

namespace Kata.Run

open Json

/-- The status of an execution. -/
structure Status where
  id : UInt32
  description : Text
deriving DecidableEq, Repr

/-- Whether an execution has ended. It has not while it waits (1) or runs (2). -/
def Status.isTerminal (status : Status) : Bool :=
  status.id != 1 && status.id != 2

/-- Whether an execution has ended well. -/
def Status.isAccepted (status : Status) : Bool :=
  status.id == 3

/-- The outcome of an execution, as far as it is known. -/
structure Outcome where
  stdout? : Option Text
  stderr? : Option Text
  compileOutput? : Option Text
  message? : Option Text
  status? : Option Status
  /-- The time it took, in seconds. -/
  time? : Option Text
  /-- The memory it took, in kilobytes. -/
  memory? : Option UInt64
deriving DecidableEq, Repr

namespace Outcome

/-- An outcome of which nothing is known. -/
def empty : Outcome := ⟨none, none, none, none, none, none, none⟩

/-- Whether the execution is known to have ended. -/
def isTerminal (outcome : Outcome) : Bool :=
  outcome.status?.any Status.isTerminal

end Outcome

/-! ## Failures -/

/-- Why an execution has no outcome. -/
inductive Failure where
  /-- The judge did not come to an end. -/
  | timeout (token : Text) (attempts : Nat)
  /-- The judge refused the request. -/
  | api (status : Nat) (body : Text)
  /-- A program that is needed could not be started. -/
  | toolchain (program reason : Text)
  | io (reason : Text)
deriving DecidableEq, Repr

/-- The wording of an error of input or output. -/
def ioMessage (reason : Text) : Text :=
  "IO error: " ++ reason

/-- The wording of a failure. -/
def Failure.message : Failure → Text
  | timeout token attempts =>
    "Submission " ++ token ++ " still pending after " ++ Text.ofNat attempts ++ " polls"
  | api status body => "Judge0 returned " ++ Text.ofNat status ++ ": " ++ body
  | toolchain program reason => "Failed to start " ++ program ++ ": " ++ reason
  | io reason => ioMessage reason

/-- What a judge answers to a submission. -/
abbrev Answer := Except Failure Outcome

/-! ## JSON -/

/-- The record of a status. -/
def Status.record : Json.Record Status where
  title := "ExecutionStatus"
  blank := ⟨0, []⟩
  fields :=
    [{ name := "id", otherNames := [], isRequired := true
       put := fun value status => (asWord32 value).map fun id => { status with id } },
     { name := "description", otherNames := [], isRequired := false
       put := fun value status =>
         (asText value).map fun description => { status with description } }]

/-- A field that holds a text or nothing. -/
def textField (name : Text) (set : Option Text → Outcome → Outcome) : RecordField Outcome where
  name := name
  otherNames := []
  isRequired := false
  put value outcome := (asOptional asText value).map fun text => set text outcome

/-- The record of an outcome. -/
def Outcome.record : Json.Record Outcome where
  title := "ExecutionOutcome"
  blank := Outcome.empty
  fields :=
    [textField "stdout" fun stdout? outcome => { outcome with stdout? },
     textField "stderr" fun stderr? outcome => { outcome with stderr? },
     textField "compile_output" fun compileOutput? outcome => { outcome with compileOutput? },
     textField "message" fun message? outcome => { outcome with message? },
     { name := "status", otherNames := [], isRequired := false
       put := fun value outcome =>
         (asOptional Status.record.read value).map fun status? => { outcome with status? } },
     textField "time" fun time? outcome => { outcome with time? },
     { name := "memory", otherNames := [], isRequired := false
       put := fun value outcome =>
         (asOptional asWord64 value).map fun memory? => { outcome with memory? } }]

/-- A text or null. -/
def optionalText (text : Option Text) : Json :=
  Json.ofOption (text.map Json.string)

/-- A status in JSON. -/
def Status.toJson (status : Status) : Json :=
  .object
    [("id", .int status.id.toNat), ("description", .string status.description)]

/-- An outcome in JSON. -/
def Outcome.toJson (outcome : Outcome) : Json :=
  .object
    [("stdout", optionalText outcome.stdout?), ("stderr", optionalText outcome.stderr?),
     ("compile_output", optionalText outcome.compileOutput?),
     ("message", optionalText outcome.message?),
     ("status", Json.ofOption (outcome.status?.map Status.toJson)),
     ("time", optionalText outcome.time?),
     ("memory", Json.ofOption (outcome.memory?.map fun memory => .int memory.toNat))]

end Kata.Run
