import Kata.Proofs.Prototype.Written
import Kata.Proofs.Template.Offered
import Kata.Proofs.Template.Parameters

/-!
# Templates as prototypes

A template is searched for a prototype together with its comments. A definition that it shows there
can look like the head of a function, and then this head is what is read; otherwise it is that of
the function that the template is for.
-/

namespace Kata.Template

open Prototype (Reads annotatedHeads isHeadless isHeadless_append_of_not_mem isSpacedType
  parameterNames typedHeads untypedHeads)

/-! ## Shapes -/

/-- The names of a function and of its parameters. -/
structure Shape where
  name : Text
  params : List Text
deriving DecidableEq, Repr

/-- The shape of the function that a template is for. -/
def ownShape (entryName : Text) (schema : Schema) : Shape :=
  ⟨entryName, schema.params.map Schema.Param.name⟩

/-- That the prototype in a text has a given shape. -/
def HasShape (language : Language) (text : Text) (shape : Shape) : Prop :=
  Reads language text shape.name (shape.params.map some)

theorem HasShape.unique
    {language : Language} {text : Text} {shape other : Shape} (has : HasShape language text shape)
    (hasOther : HasShape language text other) :
    shape = other := by
  obtain ⟨prototype, read, named, params⟩ := has
  obtain ⟨same, readOther, namedOther, paramsOther⟩ := hasOther
  rw [read, Option.some.injEq] at readOther
  rw [← readOther, named, Option.some.injEq] at namedOther
  rw [← readOther, params, List.map_inj_right fun _ _ => Option.some.inj] at paramsOther
  obtain ⟨name, params⟩ := shape
  obtain ⟨otherName, otherParams⟩ := other
  rw [Shape.mk.injEq]
  exact ⟨namedOther, paramsOther⟩

/-! ## Definitions that look like functions -/

/-- The names of the fields of a structure. -/
def fieldNames : Structure → List Text
  | .linkedList => ["val", "next"]
  | .binaryTree => ["val", "left", "right"]
  | .graph => ["val", "neighbors"]

/-- The shape of the function that the definition of a structure looks like: of the constructor in
Python, of the constructor function in JavaScript, and of what the heading of a graph has around
its bracket in the other languages. -/
def shapeOf? : Language → Structure → Option Shape
  | .python, kind => some ⟨"__init__", fieldNames kind⟩
  | .javaScript, kind => some ⟨kind.typeName, fieldNames kind⟩
  | .java, .graph => some ⟨"node", ["list"]⟩
  | .cpp, .graph => some ⟨"node", ["list"]⟩
  | _, _ => none

/-- The shape of the first function that a definition in a template looks like. -/
def shownShape? (language : Language) (schema : Schema) (topic : Topic) : Option Shape :=
  (shownStructures schema topic).findSome? (shapeOf? language)

/-- What stands ahead of the constructor in Python. -/
def pythonLead (kind : Structure) : Text :=
  "# " ++ heading kind ++ "\n# class " ++ kind.typeName ++ ":\n#     "

/-- The parameters of the constructor in Python. -/
def pythonFields (kind : Structure) : Text :=
  "self, val=0".toList ++
    (fieldNames kind).tail.flatMap fun field => ", ".toList ++ (field ++ "=None".toList)

/-- In Python the constructor of a structure is read. -/
theorem hasShape_pythonDefinition
    (kind : Structure) (rest : Text) :
    HasShape .python (pythonDefinition kind ++ rest) ⟨"__init__", fieldNames kind⟩ := by
  have starts :
      (pythonLead kind ++
          ("def " ++ ("__init__".toList ++ '(' :: (pythonFields kind ++ [')', ':'])))).isPrefixOf
        (pythonDefinition kind) = true := by
    unfold pythonLead pythonFields pythonDefinition Fragment.Python.library
      Fragment.Python.listNode Fragment.Python.treeNode Fragment.Python.graphNode
    -- The literals are spelled out, so that their characters need not be decoded.
    cases kind <;> simp only [Text.ofLines] <;> repeat rw [String.toList_ofList]
    all_goals decide +kernel
  have headless : isHeadless annotatedHeads (pythonLead kind) = true := by
    cases kind <;> decide +kernel
  have flat : '(' ∉ pythonFields kind ∧ ')' ∉ pythonFields kind := by
    cases kind <;> decide
  have names : parameterNames .python (pythonFields kind) = (fieldNames kind).map some := by
    cases kind <;> decide +kernel
  obtain ⟨behind, whole⟩ := List.isPrefixOf_iff_prefix.1 starts
  have identifier : Name.isIdentifier "__init__" = true := by decide
  have reads :=
    Prototype.reads_annotated (behind ++ rest) identifier flat.1 flat.2 (Or.inl rfl) headless
  rw [names] at reads
  rw [← whole, HasShape]
  simpa only [List.append_assoc, List.cons_append, List.nil_append] using reads

/-- What stands ahead of the constructor function in JavaScript. -/
def javaScriptLead (kind : Structure) : Text :=
  "/**\n * " ++ heading kind ++ "\n * "

/-- In JavaScript the constructor function of a structure is read. -/
theorem hasShape_javaScriptDefinition
    (kind : Structure) (rest : Text) :
    HasShape .javaScript (definitionComment Fragment.JavaScript.library kind ++ rest)
      ⟨kind.typeName, fieldNames kind⟩ := by
  have starts :
      (javaScriptLead kind ++
          ("function " ++
            (kind.typeName ++ '(' :: (Text.joinWith ", " (fieldNames kind) ++ [')'])))).isPrefixOf
        (definitionComment Fragment.JavaScript.library kind) = true := by
    unfold javaScriptLead definitionComment blockComment Fragment.JavaScript.library
      Fragment.JavaScript.listNode Fragment.JavaScript.treeNode Fragment.JavaScript.graphNode
    cases kind <;> simp only [Text.ofLines] <;> repeat rw [String.toList_ofList]
    all_goals decide +kernel
  have headless : isHeadless untypedHeads (javaScriptLead kind) = true := by
    cases kind <;> decide +kernel
  have identifier : Name.isIdentifier kind.typeName = true := by
    cases kind <;> decide
  have flat :
      '(' ∉ Text.joinWith ", " (fieldNames kind) ∧ ')' ∉ Text.joinWith ", " (fieldNames kind) := by
    cases kind <;> decide
  have names :
      parameterNames .javaScript (Text.joinWith ", " (fieldNames kind)) =
        (fieldNames kind).map some := by
    cases kind <;> decide +kernel
  obtain ⟨behind, whole⟩ := List.isPrefixOf_iff_prefix.1 starts
  have reads :=
    Prototype.reads_declared (behind ++ rest) identifier flat.1 flat.2 headless
  rw [names] at reads
  rw [← whole, HasShape]
  simpa only [List.append_assoc, List.cons_append, List.nil_append] using reads

/-- In Java and C++ the heading of a graph is read, behind definitions without heads. -/
theorem hasShape_graphDefinition
    (library : Fragment.Library) {front : Text} (headless : isHeadless typedHeads front = true)
    (rest : Text) :
    HasShape .java (front ++ (definitionComment library .graph ++ rest)) ⟨"node", ["list"]⟩ := by
  have identifier : Name.isIdentifier "node" = true := by decide
  have flat :
      '(' ∉ "built from a 1-indexed adjacency list".toList ∧
        ')' ∉ "built from a 1-indexed adjacency list".toList := by
    decide
  have named : "node".toList ≠ "Solution".toList := by simp
  have spaced : isSpacedType " graph " = true := by decide
  have blank : ∀ c ∈ [' '], Text.isBlank c = true := Prototype.forall_isBlank_space
  have names :
      parameterNames .java "built from a 1-indexed adjacency list" = ["list".toList].map some := by
    decide
  have headlessToo : isHeadless typedHeads (front ++ "/**\n * Definition for a") = true :=
    isHeadless_append_of_not_mem headless (by decide)
  have start :
      "/**\n".toList ++ (" * ".toList ++ (heading .graph ++ "\n".toList)) =
        "/**\n * Definition for a".toList ++ (" graph ".toList ++ ("node".toList ++ ([' '] ++
          '(' :: ("built from a 1-indexed adjacency list".toList ++ ')' :: ['.', '\n'])))) := by
    decide +kernel
  have whole :
      definitionComment library .graph =
        "/**\n".toList ++ (" * ".toList ++ (heading .graph ++ "\n".toList)) ++
          (commentLines " * " (Text.trimEnd (library.definition .graph)) ++ "\n */\n".toList) := by
    simp only [definitionComment, blockComment, List.append_assoc]
  have reads :=
    Prototype.reads_typed
      (['.', '\n'] ++
        (commentLines " * " (Text.trimEnd (library.definition .graph)) ++
          ("\n */\n".toList ++ rest)))
      identifier flat.1 flat.2 spaced named blank headlessToo
  rw [names] at reads
  rw [whole, start, HasShape]
  simpa only [List.append_assoc, List.cons_append, List.nil_append] using reads

/-! ## The comments of a template -/

/-- The definition of a structure as it is shown in a language. -/
def shownDefinition : Language → Structure → Text
  | .python => pythonDefinition
  | .javaScript => definitionComment Fragment.JavaScript.library
  | .java => definitionComment Fragment.Java.library
  | .cpp => definitionComment Fragment.Cpp.library

/-- What a template says about its function behind the definitions. -/
def remarks (language : Language) (schema : Schema) (topic : Topic) : Text :=
  match language with
  | .python => pythonShape schema topic
  | .javaScript => blockComment (javaScriptNotes schema topic)
  | .java => shapeComment .java schema topic
  | .cpp => shapeComment .cpp schema topic

theorem comments_eq
    (language : Language) (schema : Schema) (topic : Topic) :
    comments language schema topic =
      (shownStructures schema topic).flatMap (shownDefinition language) ++
        remarks language schema topic := by
  cases language <;> rfl

theorem not_mem_commentLines
    {mark content : Text} {c : Char} (notFeed : c ≠ '\n') (notInMark : c ∉ mark)
    (absent : c ∉ content) :
    c ∉ commentLines mark content := by
  intro member
  rcases Text.mem_joinWith member with isFeed | ⟨part, partMember, inPart⟩
  · exact notFeed (List.mem_singleton.1 isFeed)
  · obtain ⟨line, lineMember, rfl⟩ := List.mem_map.1 partMember
    split at inPart
    · obtain ⟨gap, _, whole⟩ := Text.exists_trimEnd mark
      rw [whole] at notInMark
      exact notInMark (List.mem_append_left gap inPart)
    · rcases List.mem_append.1 inPart with inMark | inLine
      · exact notInMark inMark
      · exact absent (Text.mem_of_mem_lines lineMember inLine).1

section Plain

variable {schema : Schema} (plain : schema.HasPlainNames)
include plain

theorem not_mem_shapeNote
    (language : Language) :
    '(' ∉ shapeNote language schema := by
  have written : ∀ (position : DataType.Position) (type : DataType),
      '(' ∉ type.written language position :=
    fun position type => not_mem_of_isTame (isTame_written language position type) (by decide)
  have notes : '(' ∉ Text.joinWith ", " (schema.params.map (parameterNote language)) := by
    intro member
    rcases Text.mem_joinWith member with inSeparator | ⟨part, partMember, inPart⟩
    · exact absurd inSeparator (by decide)
    · obtain ⟨param, paramMember, rfl⟩ := List.mem_map.1 partMember
      rw [parameterNote, List.mem_append, List.mem_append] at inPart
      rcases inPart with (inName | inColon) | inType
      · exact not_mem_of_isTame (isTame_of_isPlain (plain param paramMember)) (by decide) inName
      · exact absurd inColon (by decide)
      · exact written .parameter param.type inType
  intro member
  rcases Text.mem_joinWith member with isFeed | ⟨part, partMember, inPart⟩
  · exact absurd isFeed (by decide)
  · rw [List.mem_cons, List.mem_cons, List.mem_singleton] at partMember
    rcases partMember with rfl | rfl | rfl
    · exact absurd inPart (by decide)
    · rcases List.mem_append.1 inPart with inLabel | inNotes
      · exact absurd inLabel (by decide)
      · exact notes inNotes
    · rcases List.mem_append.1 inPart with inLabel | inType
      · exact absurd inLabel (by decide)
      · exact written .value schema.returnType inType

theorem not_mem_shapeLines
    {mark : Text} (absent : '(' ∉ mark) (language : Language) :
    '(' ∉ commentLines mark (shapeNote language schema) :=
  not_mem_commentLines (by decide) absent (not_mem_shapeNote plain language)

theorem not_mem_javaScriptParameter
    {param : Schema.Param} (member : param ∈ schema.params) :
    '(' ∉ javaScriptParameter param := by
  have type : '(' ∉ param.type.inJavaScript :=
    not_mem_of_isTame (isTame_written .javaScript .value param.type) (by decide)
  have name : '(' ∉ param.name :=
    not_mem_of_isTame (isTame_of_isPlain (plain param member)) (by decide)
  have mark : '(' ∉ " * @param \x7b".toList := by decide
  exact List.not_mem_append
    (List.not_mem_append (List.not_mem_append (List.not_mem_append mark type) (by decide)) name)
    (by decide)

theorem not_mem_javaScriptNotes
    (topic : Topic) :
    '(' ∉ javaScriptNotes schema topic := by
  have result : '(' ∉ schema.returnType.inJavaScript :=
    not_mem_of_isTame (isTame_written .javaScript .value schema.returnType) (by decide)
  have params : '(' ∉ schema.params.flatMap javaScriptParameter := by
    intro inside
    obtain ⟨param, member, inParam⟩ := List.mem_flatMap.1 inside
    exact not_mem_javaScriptParameter plain member inParam
  have shape :
      '(' ∉
        (if topic = .customClass then
          commentLines " * " (shapeNote .javaScript schema) ++ ['\n']
        else []) := by
    split
    · rw [List.mem_append, not_or]
      exact ⟨not_mem_shapeLines plain (by decide) .javaScript, by decide⟩
    · exact List.not_mem_nil
  have mark : '(' ∉ " * @return \x7b".toList := by decide
  exact List.not_mem_append
    (List.not_mem_append (List.not_mem_append (List.not_mem_append shape params) mark) result)
    (by decide)

omit plain in
theorem not_mem_blockComment
    {content : Text} (absent : '(' ∉ content) :
    '(' ∉ blockComment content := by
  exact List.not_mem_append (List.not_mem_append (by decide) absent) (by decide)

theorem not_mem_shapeComment
    (language : Language) (topic : Topic) :
    '(' ∉ shapeComment language schema topic := by
  rw [shapeComment]
  split
  · exact not_mem_blockComment (not_mem_shapeLines plain (by decide) language)
  · exact List.not_mem_nil

/-- Behind the definitions the comments have no brackets. -/
theorem not_mem_remarks
    (language : Language) (topic : Topic) :
    '(' ∉ remarks language schema topic := by
  cases language with
  | python =>
      rw [remarks, pythonShape]
      split
      · rw [List.mem_append, not_or]
        exact ⟨not_mem_shapeLines plain (by decide) .python, by decide⟩
      · exact List.not_mem_nil
  | javaScript => exact not_mem_blockComment (not_mem_javaScriptNotes plain topic)
  | java => exact not_mem_shapeComment plain .java topic
  | cpp => exact not_mem_shapeComment plain .cpp topic

end Plain

/-! ## The head of a template -/

theorem isSpacedType_written
    (type : DataType) :
    isSpacedType (" " ++ (type.inJava ++ " ")) = true ∧
      isSpacedType (" " ++ (type.inCpp ++ " ")) = true := by
  cases type <;> decide +kernel

/-- What can stand ahead of the brackets in a language. -/
def headsIn : Language → Text → Bool
  | .python => annotatedHeads
  | .javaScript => untypedHeads
  | .java | .cpp => typedHeads

section Head

variable {schema : Schema} (identifiers : schema.HasIdentifiers)
variable {entryName : Text} (identifier : Name.isIdentifier entryName = true)
variable {front : Text} (rest : Text)
include identifiers

theorem hasPlainNames_of_hasIdentifiers :
    schema.HasPlainNames :=
  fun param member => Name.isPlain_of_isIdentifier (identifiers param member)

/-- The function of a template is read if its name and its parameter list are. -/
theorem hasShape_own_iff
    {language : Language} {text : Text} :
    HasShape language text (ownShape entryName schema) ↔
      Reads language text entryName
        (parameterNames language (Text.joinWith ", " (parameters language schema))) := by
  have params :
      (ownShape entryName schema).params.map some =
        schema.params.map fun param => some param.name :=
    List.map_map
  have name : (ownShape entryName schema).name = entryName := rfl
  rw [HasShape, name, params, parameterNames_parameters identifiers]

include identifier

theorem hasShape_python
    (headless : isHeadless annotatedHeads front = true) :
    HasShape .python (front ++ (head .python entryName schema ++ rest))
      (ownShape entryName schema) := by
  have opening :
      (frame .python schema).opening = "class Solution:\n    ".toList ++ "def ".toList :=
    rfl
  have closing :
      (frame .python schema).closing =
        " -> ".toList ++ schema.returnType.inPython ++ ':' :: "\n        ".toList :=
    rfl
  have binding : (frame .python schema).binding = [] := rfl
  have isResult : Prototype.IsResult (" -> " ++ schema.returnType.inPython) := by
    refine Or.inr ⟨_, rfl, ?_⟩
    cases schema.returnType <;> decide
  obtain ⟨opens, closes⟩ := not_mem_parameters (hasPlainNames_of_hasIdentifiers identifiers) .python
  have reads :=
    Prototype.reads_annotated ("\n        ".toList ++ rest) identifier opens closes isResult
      (isHeadless_append_of_not_mem headless (by decide : '(' ∉ "class Solution:\n    ".toList))
  rw [hasShape_own_iff identifiers]
  simpa only [head, opening, binding, closing, List.append_assoc, List.cons_append,
    List.nil_append] using reads

theorem hasShape_javaScript
    (headless : isHeadless untypedHeads front = true) :
    HasShape .javaScript (front ++ (head .javaScript entryName schema ++ rest))
      (ownShape entryName schema) := by
  have opening : (frame .javaScript schema).opening = "var ".toList := rfl
  have closing : (frame .javaScript schema).closing = " \x7b\n    ".toList := rfl
  have binding : (frame .javaScript schema).binding = " = function".toList := rfl
  obtain ⟨opens, closes⟩ :=
    not_mem_parameters (hasPlainNames_of_hasIdentifiers identifiers) .javaScript
  have reads :=
    Prototype.reads_bound (" \x7b\n    ".toList ++ rest) identifier opens closes headless
  rw [hasShape_own_iff identifiers]
  simpa only [head, opening, binding, closing, List.append_assoc, List.cons_append,
    List.nil_append] using reads

theorem hasShape_java
    (named : entryName ≠ "Solution") (headless : isHeadless typedHeads front = true) :
    HasShape .java (front ++ (head .java entryName schema ++ rest))
      (ownShape entryName schema) := by
  have opening :
      (frame .java schema).opening =
        "class Solution \x7b\n    public".toList ++
          (" ".toList ++ (schema.returnType.inJava ++ " ".toList)) :=
    rfl
  have closing : (frame .java schema).closing = " \x7b\n        ".toList := rfl
  have binding : (frame .java schema).binding = [] := rfl
  obtain ⟨opens, closes⟩ := not_mem_parameters (hasPlainNames_of_hasIdentifiers identifiers) .java
  have reads :=
    Prototype.reads_typed (" \x7b\n        ".toList ++ rest) identifier opens closes
      (isSpacedType_written schema.returnType).1 named (List.forall_mem_nil _)
      (isHeadless_append_of_not_mem headless
        (by decide : '(' ∉ "class Solution \x7b\n    public".toList))
  rw [hasShape_own_iff identifiers]
  simpa only [head, opening, binding, closing, List.append_assoc, List.cons_append,
    List.nil_append] using reads

theorem hasShape_cpp
    (named : entryName ≠ "Solution") (headless : isHeadless typedHeads front = true) :
    HasShape .cpp (front ++ (head .cpp entryName schema ++ rest))
      (ownShape entryName schema) := by
  have opening :
      (frame .cpp schema).opening =
        "class Solution \x7b\npublic:\n".toList ++ cppGenerics schema ++ "    ".toList ++
          schema.returnType.inCpp ++ " ".toList :=
    rfl
  have indent : "    ".toList = "   ".toList ++ " ".toList := by decide
  have closing : (frame .cpp schema).closing = " \x7b\n        ".toList := rfl
  have binding : (frame .cpp schema).binding = [] := rfl
  have generics : '(' ∉ cppGenerics schema :=
    not_mem_of_isTame (isTame_cppGenerics schema) (by decide)
  have ahead :
      '(' ∉ "class Solution \x7b\npublic:\n".toList ++ (cppGenerics schema ++ "   ".toList) :=
    List.not_mem_append (by decide) (List.not_mem_append generics (by decide))
  obtain ⟨opens, closes⟩ := not_mem_parameters (hasPlainNames_of_hasIdentifiers identifiers) .cpp
  have reads :=
    Prototype.reads_typed (" \x7b\n        ".toList ++ rest) identifier opens closes
      (isSpacedType_written schema.returnType).2 named (List.forall_mem_nil _)
      (isHeadless_append_of_not_mem headless ahead)
  rw [← Prototype.reads_cpp_iff, ← Prototype.parameterNames_cpp] at reads
  rw [hasShape_own_iff identifiers]
  simpa only [head, opening, indent, binding, closing, List.append_assoc, List.cons_append,
    List.nil_append] using reads

/-- Behind comments without heads the function of the template is read. -/
theorem hasShape_head
    (language : Language) (named : entryName ≠ "Solution")
    (headless : isHeadless (headsIn language) front = true) :
    HasShape language (front ++ (head language entryName schema ++ rest))
      (ownShape entryName schema) := by
  cases language with
  | python => exact hasShape_python identifiers identifier rest headless
  | javaScript => exact hasShape_javaScript identifiers identifier rest headless
  | java => exact hasShape_java identifiers identifier rest named headless
  | cpp => exact hasShape_cpp identifiers identifier rest named headless

end Head

/-! ## Whole templates -/

/-- The structures that a template can show ahead of a graph. -/
def graphlessChoices : List (List Structure) :=
  [[], [.linkedList], [.binaryTree], [.linkedList, .binaryTree]]

theorem shownStructures_cases
    (schema : Schema) (topic : Topic) :
    ∃ kinds ∈ graphlessChoices,
      shownStructures schema topic = kinds ∨ shownStructures schema topic = kinds ++ [.graph] := by
  rw [shownStructures]
  generalize (fun kind : Structure => _) = isShown
  cases list : isShown .linkedList <;> cases tree : isShown .binaryTree <;>
    cases graph : isShown .graph <;>
      simp [graphlessChoices, Structure.every, list, tree, graph]

/-- In Java and C++ the definitions of lists and trees look like no functions. -/
theorem isHeadless_definitions :
    ∀ kinds ∈ graphlessChoices,
      isHeadless typedHeads (kinds.flatMap (definitionComment Fragment.Java.library)) = true ∧
        isHeadless typedHeads (kinds.flatMap (definitionComment Fragment.Cpp.library)) = true := by
  unfold definitionComment blockComment heading Fragment.Java.library Fragment.Java.listNode
    Fragment.Java.treeNode Fragment.Cpp.library Fragment.Cpp.listNode Fragment.Cpp.treeNode
  simp only [Text.ofLines]
  repeat rw [String.toList_ofList]
  decide +kernel

theorem shapeless_definitions
    {language : Language} (typed : language = .java ∨ language = .cpp) :
    ∀ kinds ∈ graphlessChoices,
      kinds.findSome? (shapeOf? language) = none ∧
        isHeadless typedHeads (kinds.flatMap (shownDefinition language)) = true := by
  intro kinds member
  have shapeless :
      ∀ kinds ∈ graphlessChoices,
        kinds.findSome? (shapeOf? .java) = none ∧ kinds.findSome? (shapeOf? .cpp) = none := by
    decide
  rcases typed with rfl | rfl
  · exact ⟨(shapeless kinds member).1, (isHeadless_definitions kinds member).1⟩
  · exact ⟨(shapeless kinds member).2, (isHeadless_definitions kinds member).2⟩

section Render

variable {schema : Schema} (identifiers : schema.HasIdentifiers)
variable {entryName : Text} (identifier : Name.isIdentifier entryName = true)
variable (named : entryName ≠ "Solution")
include identifiers identifier named

/-- If no definition that is shown looks like a function, then the function of the template is
read. -/
theorem hasShape_render_of_headless
    {language : Language} {topic : Topic}
    (headless :
      isHeadless (headsIn language)
        ((shownStructures schema topic).flatMap (shownDefinition language)) = true) :
    HasShape language (render language entryName schema topic) (ownShape entryName schema) := by
  have plain := hasPlainNames_of_hasIdentifiers identifiers
  rw [render_eq, comments_eq]
  exact hasShape_head identifiers identifier (body language) language named
    (isHeadless_append_of_not_mem headless (not_mem_remarks plain language topic))

/-- In Java and C++ the heading of a graph is read if there is one. -/
theorem hasShape_render_of_typed
    {language : Language} (typed : language = .java ∨ language = .cpp) (topic : Topic) :
    HasShape language (render language entryName schema topic)
      ((shownShape? language schema topic).getD (ownShape entryName schema)) := by
  have heads : headsIn language = typedHeads := by
    rcases typed with rfl | rfl <;> rfl
  obtain ⟨kinds, member, shown | shown⟩ := shownStructures_cases schema topic
  · obtain ⟨none, headless⟩ := shapeless_definitions typed kinds member
    rw [shownShape?, shown, none, Option.getD_none]
    refine hasShape_render_of_headless identifiers identifier named ?_
    rw [heads, shown]
    exact headless
  · obtain ⟨none, headless⟩ := shapeless_definitions typed kinds member
    rw [shownShape?, shown, List.findSome?_append, none, render_eq, comments_eq, shown,
      List.flatMap_append, List.flatMap_singleton, List.append_assoc, List.append_assoc]
    rcases typed with rfl | rfl
    · exact hasShape_graphDefinition Fragment.Java.library headless _
    · exact Prototype.reads_cpp_iff.2
        (hasShape_graphDefinition Fragment.Cpp.library headless _)

/-- If every definition looks like a function, then the first one that is shown is read. -/
theorem hasShape_render_of_forall
    {language : Language}
    (reads : ∀ kind, ∃ shape, shapeOf? language kind = some shape ∧
      ∀ rest, HasShape language (shownDefinition language kind ++ rest) shape) (topic : Topic) :
    HasShape language (render language entryName schema topic)
      ((shownShape? language schema topic).getD (ownShape entryName schema)) := by
  cases shown : shownStructures schema topic with
  | nil =>
      rw [shownShape?, shown]
      exact hasShape_render_of_headless identifiers identifier named (by rw [shown]; rfl)
  | cons kind others =>
      obtain ⟨shape, looks, readsShape⟩ := reads kind
      rw [shownShape?, shown, List.findSome?_cons, looks, render_eq, comments_eq, shown,
        List.flatMap_cons, List.append_assoc, List.append_assoc]
      exact readsShape _

/-- A prototype is read from every template: that of the first function that a definition in its
comments looks like, or else that of its own function. -/
theorem hasShape_render
    (language : Language) (topic : Topic) :
    HasShape language (render language entryName schema topic)
      ((shownShape? language schema topic).getD (ownShape entryName schema)) := by
  cases language with
  | python =>
      exact hasShape_render_of_forall identifiers identifier named
        (fun kind => ⟨_, rfl, hasShape_pythonDefinition kind⟩) topic
  | javaScript =>
      exact hasShape_render_of_forall identifiers identifier named
        (fun kind => ⟨_, rfl, hasShape_javaScriptDefinition kind⟩) topic
  | java => exact hasShape_render_of_typed identifiers identifier named (Or.inl rfl) topic
  | cpp => exact hasShape_render_of_typed identifiers identifier named (Or.inr rfl) topic

/-- A prototype is read from every template: what the first definition that looks like a function is
taken for, or else the function that the template is for. So it is the latter just if no definition
in the comments looks like another function. -/
theorem own_shape_is_read_iff
    (language : Language) (topic : Topic) :
    HasShape language (render language entryName schema topic)
        ((shownShape? language schema topic).getD (ownShape entryName schema)) ∧
      (HasShape language (render language entryName schema topic) (ownShape entryName schema) ↔
        ∀ shape, shownShape? language schema topic = some shape →
          shape = ownShape entryName schema) := by
  have read := hasShape_render identifiers identifier named language topic
  refine ⟨read, fun own shape shown => ?_, fun same => ?_⟩
  · rw [shown, Option.getD_some] at read
    exact read.unique own
  · cases shown : shownShape? language schema topic with
    | none =>
        rw [shown] at read
        exact read
    | some shape =>
        rw [shown, Option.getD_some, same shape shown] at read
        exact read

end Render

/-- An exercise about a linked list. -/
def listSchema : Schema :=
  { params := [{ name := "head", type := .listNode }], returnType := .listNode }

/-- In Java the template for it is read as meant, and in Python as the constructor of the nodes. -/
theorem own_shape_is_read_iff_reverseList :
    (listSchema.HasIdentifiers ∧ Name.isIdentifier "reverseList" = true ∧
        ("reverseList" : Text) ≠ "Solution") ∧
      ¬HasShape .python (render .python "reverseList" listSchema .linkedList)
        (ownShape "reverseList" listSchema) ∧
      HasShape .java (render .java "reverseList" listSchema .linkedList)
        (ownShape "reverseList" listSchema) := by
  have identifiers : listSchema.HasIdentifiers := List.forall_mem_singleton.2 (by decide)
  have identifier : Name.isIdentifier "reverseList" = true := by decide
  have named : ("reverseList" : Text) ≠ "Solution" := by decide
  refine ⟨⟨identifiers, identifier, named⟩, ?_, ?_⟩
  · rw [(own_shape_is_read_iff identifiers identifier named .python .linkedList).2]
    intro same
    exact absurd (same _ rfl) (by decide)
  · rw [(own_shape_is_read_iff identifiers identifier named .java .linkedList).2]
    have unshown : shownShape? .java listSchema .linkedList = none := by decide
    intro shape shown
    rw [unshown] at shown
    exact absurd shown.symm (Option.some_ne_none shape)

/-- The function that this template is for is not the one that is read from it. -/
theorem listTemplate_is_read_as_constructor :
    (Prototype.ofText? .python (render .python "reverseList" listSchema .linkedList)).map
        Prototype.name? = some (some "__init__".toList) ∧
      ¬HasShape .python (render .python "reverseList" listSchema .linkedList)
        (ownShape "reverseList" listSchema) := by
  have read :
      (Prototype.ofText? .python (render .python "reverseList" listSchema .linkedList)).map
          Prototype.name? = some (some "__init__".toList) := by
    decide +kernel
  refine ⟨read, fun own => ?_⟩
  obtain ⟨prototype, found, named, _⟩ := own
  rw [found, Option.map_some, named] at read
  exact absurd read (by decide)

end Kata.Template
