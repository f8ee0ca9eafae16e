import Kata.Fragment.Java
import Kata.Pattern.Names
import Kata.Program.Segment
import Kata.Source.Blocks

/-!
# Java programs

The imports of the solution are moved to the top, and none of its types stays public, for a
program has one public class. The functions that build and list structures stand inside that
class.
-/

namespace Kata.Program.Java

open Fragment.Java (library baseImports)
open Pattern

/-! ## The solution -/

/-- Whether a line is an import. -/
def isImport (line : Text) : Bool :=
  "import ".toList.isPrefixOf line

/-- Whether a line is an import or names a package, and nothing follows on it. -/
def isHoisted (line : Text) : Bool :=
  (isImport line || "package ".toList.isPrefixOf line) && line.getLast? == some ';'

/-- The head of a public type at the start of a line. Group 1 is the head without the word
`public`. -/
def publicType : Pattern :=
  inOrder
    [lineStart, text "public", gap,
      group 1
        (inOrder
          [repeated (seq (oneOf ["final", "abstract", "static", "sealed"]) gap),
            oneOf ["class", "interface", "enum", "record"], wordEdge])]

/-- A text whose types are not public. -/
def withoutPublicTypes (source : Text) : Text :=
  publicType.replaceAll (fun found => found.textOf 1) source

/-- The solution as it stands in a program. -/
def userText (source : Text) : Text :=
  Text.trim (withoutPublicTypes (Source.hoistLines isHoisted source).2)

/-- The imports of a program: those of every program, and those of the solution. -/
def importLines (source : Text) : List Text :=
  baseImports ++
    (Source.hoistLines isHoisted source).1.filter fun line =>
      isImport line && !baseImports.contains line

/-! ## The public class -/

/-- The branch for a structure in the function below. -/
def normalizeBranch (kind : Structure) : Text :=
  "        if (value instanceof " ++ kind.typeName ++ ") return " ++ library.serializer kind ++
    "((" ++ kind.typeName ++ ") value);\n"

/-- The function that finds out at run time which structure a value is. -/
def normalizeFunction (kinds : List Structure) : Text :=
  "    static Object pjNormalize(Object value) \x7b\n" ++ kinds.flatMap normalizeBranch ++
    "        return value;\n    \x7d\n"

/-- The result, made printable. -/
def normalized : Option Normalizer → Text
  | some (.structural kind) => library.serializer kind ++ "(result)"
  | some .dynamic => "pjNormalize(result)"
  | none => "result"

/-- The call of the function, and the printing of its result. -/
def callText (request : Request) : Text :=
  let names := argumentNames "arg" request.arguments
  "\n    public static void main(String[] args) \x7b\n" ++
    assignments names request.arguments
      (fun name argument =>
        "        " ++ argument.type.inJava ++ " " ++ name ++ " = " ++ argument.expression ++
          ";\n") ++
    "        var result = new Solution()." ++ request.entryName ++ "(" ++
    Text.joinWith ", " names ++ ");\n        Object out = " ++ normalized request.normalizer? ++
    ";\n        System.out.println(pjFormat(out, false));\n    \x7d\n\x7d\n"

/-- What stands behind the code for the structures: printing, normalizing, and the call. -/
def closing (plans : List Helper.Plan) (request : Request) : Text :=
  Fragment.Java.support ++
    (if request.normalizer? = some .dynamic then
      '\n' :: normalizeFunction (plans.map Helper.Plan.kind)
    else []) ++
    callText request

/-! ## The program -/

/-- The definitions that stand in a place. Where functions are planned for it, only a line feed
stands, for the functions stand inside the public class. -/
def definitionsAt (plans : List Helper.Plan) (placement : Helper.Placement)
    (enclose : List Segment → List Segment) : List Segment :=
  (Helper.fragmentsAt plans placement).flatMap fun
    | .definition kind => enclose [helperSegment library (.definition kind)]
    | .functions _ => enclose []

/-- The functions for the planned structures, each with a line feed behind them. -/
def functionSegments (plans : List Helper.Plan) : List Segment :=
  plans.flatMap fun plan => [helperSegment library (.functions plan.kind), lineFeed]

/-- The segments of a program. -/
def segments (plans : List Helper.Plan) (request : Request) : List Segment :=
  [.glue ((importLines request.source).flatMap (· ++ ['\n']))] ++
    definitionsAt plans .beforeUser (lineFeed :: ·) ++
    [lineFeed, .user (userText request.source), .glue "\n\n"] ++
    definitionsAt plans .afterUser (· ++ [lineFeed]) ++
    [.glue "public class Main \x7b\n"] ++ functionSegments plans ++
    [.glue (closing plans request)]

end Kata.Program.Java
