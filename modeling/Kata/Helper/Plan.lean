import Kata.Detection.Source
import Kata.Literal.Render

/-!
# Helpers of a program

A program needs the code for the structures that its arguments or its result are made of. The
code of a structure has two halves: the definition of the node type, and the functions that build
and list it. The definition is left out where the solution declares the type itself, and whatever
the solution names stands ahead of it.
-/

namespace Kata

/-! ## Requests -/

/-- How a result is made printable. -/
inductive Normalizer where
  /-- List a structure. -/
  | structural (kind : Structure)
  /-- Look at the value at run time and list whatever structure it is. -/
  | dynamic
deriving DecidableEq, Repr

/-- The normalizer for a result of a type, if it needs one. -/
def Normalizer.ofType? : DataType → Option Normalizer
  | .any => some dynamic
  | type => type.structure?.map structural

/-- What a program is made from. -/
structure Request where
  source : Text
  entryName : Text
  arguments : List Argument
  returnType : DataType
  normalizer? : Option Normalizer
deriving DecidableEq, Repr

namespace Request

/-- The request for a result of a type, with the normalizer that the type calls for. -/
def make (source entryName : Text) (arguments : List Argument) (returnType : DataType) :
    Request :=
  { source, entryName, arguments, returnType, normalizer? := Normalizer.ofType? returnType }

/-- Whether the result consists of floating-point numbers, which are printed with a fixed number
of places even if they are whole. -/
def printsFloats (request : Request) : Bool :=
  request.returnType == .double || request.returnType == .doubleArray

end Request

/-! ## Plans -/

namespace Helper

/-- Where a half of the code for a structure stands. -/
inductive Placement where
  | beforeUser
  | afterUser
  | omitted
deriving DecidableEq, Repr

/-- Where the two halves of the code for a structure stand. -/
structure Plan where
  kind : Structure
  definition : Placement
  functions : Placement
deriving DecidableEq, Repr

/-- The plan for a structure whose type the solution declares, or names, or neither. -/
def Plan.make (kind : Structure) (isDeclared isNamed : Bool) : Plan :=
  match isDeclared, isNamed with
  | true, _ => ⟨kind, .omitted, .afterUser⟩
  | false, true => ⟨kind, .beforeUser, .beforeUser⟩
  | false, false => ⟨kind, .afterUser, .afterUser⟩

/-- Whether a program needs the code for a structure: an argument is made of it, the result is
made of it, or the result can be anything and the solution knows the structure. -/
def isNeeded (request : Request) (kind : Structure) (isKnown : Bool) : Bool :=
  (request.arguments.any fun argument => argument.type.structure? == some kind) ||
    match request.normalizer? with
    | some (.structural other) => other == kind
    | some .dynamic => isKnown
    | none => false

/-- The plan for a structure, if a program needs its code. -/
def plan? (language : Language) (request : Request) (kind : Structure) : Option Plan :=
  let stripped := Detection.stripped language request.source
  let isDeclared := Detection.declaresType language stripped kind.typeName
  let isNamed := Detection.namesType stripped kind.typeName
  if isNeeded request kind (isDeclared || isNamed) then some (Plan.make kind isDeclared isNamed)
  else none

/-- The plans of a program, in the order of the structures. -/
def plans (language : Language) (request : Request) : List Plan :=
  Structure.every.filterMap (plan? language request)

/-! ## Fragments -/

/-- A half of the code for a structure. -/
inductive Fragment where
  | definition (kind : Structure)
  | functions (kind : Structure)
deriving DecidableEq, Repr

/-- The halves of a plan that stand in a place, the definition ahead of the functions. -/
def Plan.fragmentsAt (plan : Plan) (placement : Placement) : List Fragment :=
  (if plan.definition = placement then [.definition plan.kind] else []) ++
    (if plan.functions = placement then [.functions plan.kind] else [])

/-- The halves of several plans that stand in a place. -/
def fragmentsAt (plans : List Plan) (placement : Placement) : List Fragment :=
  plans.flatMap fun plan => plan.fragmentsAt placement

end Helper

end Kata
