import Kata.Helper.Plan
import Kata.Fragment.Library

/-!
# Segments of a program

A program is a list of segments: the code for structures, the solution, and the text between
them. Each segment tells what it is, so that one can ask where in a program something stands.
-/

namespace Kata.Program

open Helper (Fragment Placement Plan)

/-- A segment of a program. -/
inductive Segment where
  /-- Text that the program itself needs. -/
  | glue (text : Text)
  /-- A half of the code for a structure. -/
  | helper (fragment : Fragment) (text : Text)
  /-- The solution. -/
  | user (text : Text)
deriving DecidableEq, Repr

/-- The text of a segment. -/
def Segment.text : Segment → Text
  | glue t => t
  | helper _ t => t
  | user t => t

/-- The text of a program. -/
def joined (segments : List Segment) : Text :=
  segments.flatMap Segment.text

/-- A half of the code for a structure, from the library of a language. -/
def helperSegment (library : Kata.Fragment.Library) : Fragment → Segment
  | .definition kind => .helper (.definition kind) (library.definition kind)
  | .functions kind => .helper (.functions kind) (library.functions kind)

/-- A line feed. -/
def lineFeed : Segment := .glue ['\n']

/-- The code that stands in a place, each half with a line feed ahead of it. -/
def ledHelpers (library : Kata.Fragment.Library) (plans : List Plan) (placement : Placement) :
    List Segment :=
  (Helper.fragmentsAt plans placement).flatMap fun fragment =>
    [lineFeed, helperSegment library fragment]

/-- The code that stands in a place, each half with a line feed behind it. -/
def trailedHelpers (library : Kata.Fragment.Library) (plans : List Plan) (placement : Placement) :
    List Segment :=
  (Helper.fragmentsAt plans placement).flatMap fun fragment =>
    [helperSegment library fragment, lineFeed]

/-- The names of the variables that hold the arguments. -/
def argumentNames (stem : Text) (arguments : List Argument) : List Text :=
  (List.range arguments.length).map fun index => stem ++ Text.ofNat index

/-- One piece of text for each argument, from the name of its variable and the argument. -/
def assignments (names : List Text) (arguments : List Argument)
    (assign : Text → Argument → Text) : Text :=
  (List.zipWith assign names arguments).flatten

end Kata.Program
