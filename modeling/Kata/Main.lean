import Kata.CommandLine.Answer

/-!
# The program

Read the files that the arguments ask for, print the answer, and end with its code. No judge is
connected, so a run of a problem that has test cases reports each of them as failed.
-/

namespace Kata

/-- Read a file, or give the reason why it cannot be read. -/
def readFile (path : Text) : IO (Text × Except Text Text) := do
  match ← (IO.FS.readFile (String.ofList path)).toBaseIO with
  | .ok content => return (path, .ok content.toList)
  | .error reason => return (path, .error (toString reason).toList)

/-- The answer of a judge that is not connected. -/
def noJudge : Run.Answer :=
  .error (.io "no judge is connected")

end Kata

open Kata in
/-- Answer the arguments of the command line. -/
def main (arguments : List String) : IO UInt32 := do
  let arguments := arguments.map String.toList
  let paths := ((CommandLine.ofArguments? arguments).map CommandLine.Invocation.paths).getD []
  let contents ← paths.mapM readFile
  let files : CommandLine.Files := fun path =>
    (contents.lookup path).getD (.error CommandLine.missingReason)
  let output := CommandLine.answer files (fun _ => noJudge) arguments
  IO.print (String.ofList output.stdout)
  IO.eprint (String.ofList output.stderr)
  return UInt32.ofNat output.code
