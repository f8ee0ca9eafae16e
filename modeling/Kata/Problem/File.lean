import Kata.Problem.Record
import Kata.Json.Reader

/-!
# Problem files

A problem file holds an object with a list of problems, a bare list of problems, or a single
problem. What fits first counts, and a list counts only if each of its items is a problem.

A directory of problem files is read in the order of the names.
-/

namespace Kata.Problem

open Json

/-! ## One file -/

/-- The record of an object with a list of problems. -/
def setRecord : Json.Record (List Problem) where
  title := "ProblemFile"
  blank := []
  fields :=
    [{ name := "problems", otherNames := [], isRequired := true
       put := fun value _ => asList Problem.record.read value }]

/-- The problems of an object with a list of problems. -/
def ofSet? : Json → Option (List Problem)
  | .object members => (setRecord.read (.object members)).toOption
  | _ => none

/-- The problems of a bare list. -/
def ofList? (value : Json) : Option (List Problem) :=
  (asList Problem.record.read value).toOption

/-- The one problem of a record. -/
def ofSingle? (value : Json) : Option (List Problem) :=
  (Problem.record.read value).toOption.map fun problem => [problem]

/-- Why a text is no problem file. -/
inductive FileError where
  | malformed (fault : Json.Fault)
  /-- The text is JSON of none of the three shapes. -/
  | noShape

/-- The wording for JSON of none of the three shapes. -/
def noShapeMessage : Text :=
  "data did not match any variant of untagged enum ProblemFile"

/-- The problems of the JSON value of a file. -/
def ofFileValue? (value : Json) : Option (List Problem) :=
  (ofSet? value).or ((ofList? value).or (ofSingle? value))

/-- The problems of a file. -/
def ofFile (content : Text) : Except FileError (List Problem) :=
  match Json.parseAll content with
  | .error fault => .error (.malformed fault)
  | .ok value =>
    match ofFileValue? value with
    | some problems => .ok problems
    | none => .error .noShape

/-! ## A directory -/

/-- The part of a file name behind its last dot. A dot at the front of the name opens no such
part. -/
def fileExtension? (name : Text) : Option Text :=
  match Text.cutAt? '.' name.reverse with
  | some (_, []) => none
  | some (ending, _) => some ending.reverse
  | none => none

/-- Whether a file name is that of a problem file. -/
def isFileName (name : Text) : Bool :=
  fileExtension? name == some "json".toList

/-- The problem files of a directory in the order of their names. -/
def sortedFiles (files : List (Text × Text)) : List (Text × Text) :=
  (files.filter fun file => isFileName file.1).mergeSort fun left right =>
    Text.before left.1 right.1

/-- The problems of all problem files of a directory, or the error of the first file that has
one. -/
def ofDirectory (files : List (Text × Text)) : Except FileError (List Problem) :=
  ((sortedFiles files).mapM fun file => ofFile file.2).map List.flatten

end Kata.Problem
