import Kata.Fragment.JavaScript
import Kata.Program.Segment
import Kata.Text.Blank

/-!
# JavaScript programs

The solution stands behind the code that it names. The function to be called is a method of the
class of the solution or a function of its own; which of the two is found out at run time.
-/

namespace Kata.Program.JavaScript

open Fragment.JavaScript (library)

/-- The solution as it stands in a program. -/
def userText (source : Text) : Text :=
  Text.trimEnd source

/-- The branch for a structure in the function below. -/
def normalizeBranch (kind : Structure) : Text :=
  "    if (value !== null && typeof value === \"object\" && " ++
    Fragment.JavaScript.nodeTest kind ++ ") return " ++ library.serializer kind ++ "(value);\n"

/-- The function that finds out at run time which structure a value is. -/
def normalizeFunction (kinds : List Structure) : Text :=
  "function __pjNormalize(value) \x7b\n" ++ kinds.flatMap normalizeBranch ++
    "    return value;\n\x7d\n"

/-- The result, made printable. -/
def normalized : Option Normalizer → Text
  | some (.structural kind) => library.serializer kind ++ "(__pjResult)"
  | some .dynamic => "__pjNormalize(__pjResult)"
  | none => "__pjResult"

/-- The function to be called. -/
def targetText (entryName : Text) : Text :=
  "\nconst __pjTarget = (typeof Solution === \"function\" && typeof Solution.prototype." ++
    entryName ++ " === \"function\")\n    ? (...args) => new Solution()." ++ entryName ++
    "(...args)\n    : " ++ entryName ++ ";\n"

/-- The call of the function, and the printing of its result. -/
def callText (request : Request) : Text :=
  let names := argumentNames "__pjArg" request.arguments
  assignments names request.arguments
      (fun name argument => "const " ++ name ++ " = " ++ argument.expression ++ ";\n") ++
    "const __pjResult = __pjTarget(" ++ Text.joinWith ", " names ++ ");\nconst __pjOut = " ++
    normalized request.normalizer? ++ ";\nconsole.log(__pjFormat(__pjOut, false, " ++
    Value.boolText request.printsFloats ++ "));\n"

/-- What stands behind the code for the structures: printing, normalizing, and the call. -/
def closing (plans : List Helper.Plan) (request : Request) : Text :=
  Fragment.JavaScript.support ++
    (if request.normalizer? = some .dynamic then
      '\n' :: normalizeFunction (plans.map Helper.Plan.kind)
    else []) ++
    targetText request.entryName ++ callText request

/-- The segments of a program. -/
def segments (plans : List Helper.Plan) (request : Request) : List Segment :=
  trailedHelpers library plans .beforeUser ++
    [.user (userText request.source), .glue "\n\n"] ++
    trailedHelpers library plans .afterUser ++ [.glue (closing plans request)]

end Kata.Program.JavaScript
