import Kata.Fragment.Python
import Kata.Program.Segment
import Kata.Source.Blocks

/-!
# Python programs

The solution stands behind the imports and the code that it names. A block that runs only when the
solution is a program of its own is dropped.
-/

namespace Kata.Program.Python

open Fragment.Python (library)

/-- The solution as it stands in a program. -/
def userText (source : Text) : Text :=
  Text.trimEnd (Source.stripIndentedBlocks ("if __name__".toList.isPrefixOf ·) source)

/-- The branch for a structure in the function below. -/
def normalizeBranch (kind : Structure) : Text :=
  "    if " ++ Fragment.Python.nodeTest kind ++ ":\n        return " ++ library.serializer kind ++
    "(value)\n"

/-- The function that finds out at run time which structure a value is. -/
def normalizeFunction (kinds : List Structure) : Text :=
  "def _pj_normalize(value):\n" ++ kinds.flatMap normalizeBranch ++ "    return value\n"

/-- The result, made printable. -/
def normalized : Option Normalizer → Text
  | some (.structural kind) => library.serializer kind ++ "(_pj_result)"
  | some .dynamic => "_pj_normalize(_pj_result)"
  | none => "_pj_result"

/-- The call of the function, and the printing of its result. -/
def callText (request : Request) : Text :=
  let names := argumentNames "_pj_arg" request.arguments
  '\n' :: assignments names request.arguments
      (fun name argument => name ++ " = " ++ argument.expression ++ "\n") ++
    "_pj_result = _pj_resolve(" ++ Json.quote request.entryName ++ ")(" ++
    Text.joinWith ", " names ++ ")\n_pj_out = " ++ normalized request.normalizer? ++
    "\nprint(_pj_format(_pj_out, floats=" ++ (if request.printsFloats then "True" else "False") ++
    "))\n"

/-- What stands behind the code for the structures: printing, normalizing, and the call. -/
def closing (plans : List Helper.Plan) (request : Request) : Text :=
  Fragment.Python.support ++
    (if request.normalizer? = some .dynamic then
      '\n' :: normalizeFunction (plans.map Helper.Plan.kind)
    else []) ++
    callText request

/-- The segments of a program. -/
def segments (plans : List Helper.Plan) (request : Request) : List Segment :=
  [.glue Fragment.Python.opening] ++ ledHelpers library plans .beforeUser ++
    [lineFeed, .user (userText request.source), .glue "\n\n"] ++
    trailedHelpers library plans .afterUser ++ [.glue (closing plans request)]

end Kata.Program.Python
