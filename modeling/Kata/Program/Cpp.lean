import Kata.DataType.Written
import Kata.Fragment.Cpp
import Kata.Program.Segment
import Kata.Source.Blocks

/-!
# C++ programs

The main function of the solution is dropped. The function to be called is a method if the
solution has a class for it.
-/

namespace Kata.Program.Cpp

open Fragment.Cpp (library)
open Pattern

/-! ## The solution -/

/-- The head of a main function at the start of a trimmed line. -/
def mainHead : Pattern :=
  inOrder
    [textStart, oneOf ["int", "void", "signed", "auto"], gap, text "main", blanks, char '(']

/-- Whether a trimmed line begins a main function. -/
def isMainHead (line : Text) : Bool :=
  mainHead.occursIn line

/-- The head of the class of the solution. -/
def solutionClass : Pattern :=
  inOrder [wordEdge, oneOf ["class", "struct"], gap, text "Solution", wordEdge]

/-- The solution without its main function. -/
def withoutMain (source : Text) : Text :=
  Source.stripBracedBlocks isMainHead source

/-- The solution as it stands in a program. -/
def userText (source : Text) : Text :=
  Text.trim (withoutMain source)

/-- Whether the solution has a class for the function. -/
def hasSolutionClass (source : Text) : Bool :=
  solutionClass.occursIn (Source.stripComments .slash (withoutMain source))

/-! ## The main function -/

/-- The function that prints a structure. -/
def formatOverload (kind : Structure) : Text :=
  "string pjFormat(" ++ kind.typeName ++ "* value, bool nested = false) \x7b return pjFormat(" ++
    library.serializer kind ++ "(value), nested); \x7d\n"

/-- The result, made printable. A result that can be anything is printed by the function for the
type that it has. -/
def normalized : Option Normalizer → Text
  | some (.structural kind) => library.serializer kind ++ "(result)"
  | some .dynamic => "result"
  | none => "result"

/-- The call of the function. -/
def resultText (isMethod : Bool) (call : Text) : Text :=
  if isMethod then "    Solution solution;\n    auto result = solution." ++ call ++ ";\n"
  else "    auto result = " ++ call ++ ";\n"

/-- The call of the function, and the printing of its result. -/
def callText (isMethod : Bool) (request : Request) : Text :=
  let names := argumentNames "arg" request.arguments
  "\nint main() \x7b\n" ++
    assignments names request.arguments
      (fun name argument =>
        "    " ++ argument.type.inCpp ++ " " ++ name ++ " = " ++ argument.expression ++ ";\n") ++
    resultText isMethod (request.entryName ++ "(" ++ Text.joinWith ", " names ++ ")") ++
    "    cout << pjFormat(" ++ normalized request.normalizer? ++
    ") << endl;\n    return 0;\n\x7d\n"

/-- What stands behind the code for the structures: printing, and the call. -/
def closing (plans : List Helper.Plan) (isMethod : Bool) (request : Request) : Text :=
  Fragment.Cpp.support ++ (plans.flatMap fun plan => formatOverload plan.kind) ++
    callText isMethod request

/-- The segments of a program. -/
def segments (plans : List Helper.Plan) (request : Request) : List Segment :=
  [.glue Fragment.Cpp.opening] ++ ledHelpers library plans .beforeUser ++
    [lineFeed, .user (userText request.source), .glue "\n\n"] ++
    trailedHelpers library plans .afterUser ++
    [.glue (closing plans (hasSolutionClass request.source) request)]

end Kata.Program.Cpp
