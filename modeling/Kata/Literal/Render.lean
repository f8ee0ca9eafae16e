import Kata.Literal.Cpp

/-!
# Literals

A value as a literal of a language, and arguments: literals together with the type that they
have.
-/

namespace Kata

/-- An argument of a call: its type, and the expression that makes its value. -/
structure Argument where
  type : DataType
  expression : Text
deriving DecidableEq, Repr

/-- A value as a literal of a type in a language. -/
def Literal.render (language : Language) (value : Value) (type : DataType) : Text :=
  match language with
  | .python => Vocabulary.python.literal value type
  | .javaScript => Vocabulary.javaScript.literal value type
  | .java => Java.literal value type
  | .cpp => Cpp.literal value type

/-- A value as an argument that is declared with a type. -/
def Argument.ofValue (language : Language) (value : Value) (type : DataType) : Argument where
  type := value.resolve type
  expression := Literal.render language value (value.resolve type)

end Kata
