import Kata.DataType.Basic

/-!
# Libraries of fragments

For each structure a language has a definition of the node type, functions that build and list a
structure, and the names of these functions.
-/

namespace Kata.Fragment

/-- The code for the structures in one language. -/
structure Library where
  /-- The definition of the node type. -/
  definition : Structure → Text
  /-- The functions that build a structure and list it. -/
  functions : Structure → Text
  /-- The name of the function that builds a structure. -/
  builder : Structure → Text
  /-- The name of the function that lists a structure. -/
  serializer : Structure → Text

end Kata.Fragment
