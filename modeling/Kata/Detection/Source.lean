import Kata.Detection.Candidates
import Kata.Detection.Patterns
import Kata.Source.Comments

/-!
# Inspecting a solution

Which function a solution means to be called, and which types it declares and names. All looks at
the text without comments and without the contents of quoted texts.
-/

namespace Kata.Detection

/-- The names that a text without comments offers. In JavaScript the exported names come first. -/
def candidateNames (language : Language) (stripped : Text) : List Text :=
  match language with
  | .python => namesInOrder [defStatement] stripped
  | .javaScript =>
    namesInOrder [exportedName] stripped ++
      namesInOrder [namedFunction, boundFunction, classMethod] stripped
  | .java => namesInOrder [typedDefinition] stripped
  | .cpp => namesInOrder [typedDefinition] stripped

/-- A solution without its comments. -/
def stripped (language : Language) (source : Text) : Text :=
  Source.stripComments language.commentStyle source

/-- The name of the function that a solution means to be called. -/
def entryName (language : Language) (source expected : Text) : Text :=
  pick (candidateNames language (stripped language source)) expected

/-- Whether a text without comments declares a type. -/
def declaresType (language : Language) (stripped typeName : Text) : Bool :=
  (typeDeclaration language typeName).occursIn stripped

/-- Whether a text without comments holds the name of a type as a whole word. -/
def namesType (stripped typeName : Text) : Bool :=
  (Pattern.wholeWord typeName).occursIn stripped

end Kata.Detection
