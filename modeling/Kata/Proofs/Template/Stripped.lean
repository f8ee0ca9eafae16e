import Kata.Detection.Source
import Kata.Template
import Kata.Proofs.Name.Identifiers
import Kata.Proofs.Source.Comments
import Kata.Proofs.Text.Blank

/-!
# Templates without their comments

Ahead of its code a template has only comments, whole definitions among them, and in the body of
the function it has a remark. Nothing of this can end a comment early or begin one in the code, so
without its comments a template is the bare head of the function behind blanks.
-/

namespace Kata.Template

open Source (isCode LeavesBlanks)

/-! ## The parts of a template -/

/-- What a JavaScript template says about the parameters and the result. -/
def javaScriptNotes (schema : Schema) (topic : Topic) : Text :=
  (if topic = .customClass then commentLines " * " (shapeNote .javaScript schema) ++ ['\n']
    else []) ++
    schema.params.flatMap javaScriptParameter ++
    " * @return \x7b" ++ schema.returnType.inJavaScript ++ "\x7d"

/-- The comments ahead of the code. -/
def comments (language : Language) (schema : Schema) (topic : Topic) : Text :=
  match language with
  | .python => (shownStructures schema topic).flatMap pythonDefinition ++ pythonShape schema topic
  | .javaScript =>
    definitionComments Fragment.JavaScript.library schema topic ++
      blockComment (javaScriptNotes schema topic)
  | .java =>
    definitionComments Fragment.Java.library schema topic ++ shapeComment .java schema topic
  | .cpp => definitionComments Fragment.Cpp.library schema topic ++ shapeComment .cpp schema topic

/-- The parameters of the function. -/
def parameters (language : Language) (schema : Schema) : List Text :=
  match language with
  | .python => "self" :: schema.params.map fun param => param.name ++ (": " ++ param.type.inPython)
  | .javaScript => schema.params.map Schema.Param.name
  | .java => schema.params.map fun param => typedParameter param.type.inJava param.name
  | .cpp => cppParameters 0 schema.params

/-- The head of the function around its name and its parameters. -/
structure Frame where
  /-- What stands ahead of the name. -/
  opening : Text
  /-- What stands between the name and the bracket ahead of the parameters. -/
  binding : Text
  /-- What stands behind the bracket that follows the parameters, up to the body. -/
  closing : Text

/-- The head of the function in a language. -/
def frame (language : Language) (schema : Schema) : Frame :=
  match language with
  | .python =>
    { opening := "class Solution:\n    def "
      binding := []
      closing := " -> " ++ schema.returnType.inPython ++ ":\n        " }
  | .javaScript =>
    { opening := "var "
      binding := " = function"
      closing := " \x7b\n    " }
  | .java =>
    { opening := "class Solution \x7b\n    public " ++ schema.returnType.inJava ++ " "
      binding := []
      closing := " \x7b\n        " }
  | .cpp =>
    { opening :=
        "class Solution \x7b\npublic:\n" ++ cppGenerics schema ++ "    " ++
          schema.returnType.inCpp ++ " "
      binding := []
      closing := " \x7b\n        " }

/-- The code up to the body of the function. -/
def head (language : Language) (entryName : Text) (schema : Schema) : Text :=
  (frame language schema).opening ++
    (entryName ++
      ((frame language schema).binding ++
        '(' :: (Text.joinWith ", " (parameters language schema) ++
          ')' :: (frame language schema).closing)))

/-- The body of the function with its remark, and what stands behind it. -/
def body : Language → Text
  | .python => "# Write your code here\n        pass\n"
  | .javaScript => "// Write your code here\n\x7d;\n"
  | .java => "// Write your code here\n    \x7d\n\x7d\n"
  | .cpp => "// Write your code here\n    \x7d\n\x7d;\n"

/-- The body of the function without its remark, and what stands behind it. -/
def bareBody : Language → Text
  | .python => "\n        pass\n"
  | .javaScript => "\n\x7d;\n"
  | .java => "\n    \x7d\n\x7d\n"
  | .cpp => "\n    \x7d\n\x7d;\n"

/-- Parameters behind a first one. -/
theorem joinWith_cons_map
    {α : Type} (separator first : Text) (piece : α → Text) (items : List α) :
    Text.joinWith separator (first :: items.map piece) =
      first ++ items.flatMap fun item => separator ++ piece item := by
  induction items generalizing first with
  | nil => simp [Text.joinWith]
  | cons item items inductionHypothesis =>
      rw [List.map_cons, Text.joinWith, inductionHypothesis, List.flatMap_cons, List.append_assoc,
        List.append_assoc]

/-- A template has comments, then the head of the function, then its body. -/
theorem render_eq
    (language : Language) (entryName : Text) (schema : Schema) (topic : Topic) :
    render language entryName schema topic =
      comments language schema topic ++ (head language entryName schema ++ body language) := by
  -- The texts of the generators run over the borders of the parts.
  have bracket : ("(" : Text) = ['('] := by simp
  unfold head body frame
  cases language with
  | python =>
      have receiver : ("(self" : Text) = '(' :: "self" := by simp
      have border :
          (":\n        # Write your code here\n        pass\n" : Text) =
            ":\n        " ++ "# Write your code here\n        pass\n" := by
        simp
      have arrow : (") -> " : Text) = ')' :: " -> " := by simp
      have params :
          Text.joinWith ", " (parameters .python schema) =
            "self" ++ schema.params.flatMap pythonParameter := by
        rw [parameters, joinWith_cons_map]
        congr 2
        funext param
        simp only [pythonParameter, List.append_assoc]
      simp only [render, python, comments, params, receiver, arrow, border,
        List.append_assoc, List.cons_append, List.nil_append]
  | javaScript =>
      have bound : (" = function(" : Text) = " = function" ++ ['('] := by simp
      have border :
          (") \x7b\n    // Write your code here\n\x7d;\n" : Text) =
            ')' :: (" \x7b\n    " ++ "// Write your code here\n\x7d;\n") := by
        simp
      have notesEnd : ("\x7d\n */\nvar " : Text) = "\x7d" ++ ("\n */\n" ++ "var ") := by simp
      simp only [render, javaScript, comments, parameters, blockComment, javaScriptNotes, bound,
        border, notesEnd, List.append_assoc, List.cons_append, List.nil_append]
  | java =>
      have border :
          (") \x7b\n        // Write your code here\n    \x7d\n\x7d\n" : Text) =
            ')' :: (" \x7b\n        " ++ "// Write your code here\n    \x7d\n\x7d\n") := by
        simp
      simp only [render, java, comments, parameters, bracket, border, List.append_assoc,
        List.cons_append, List.nil_append]
  | cpp =>
      have border :
          (") \x7b\n        // Write your code here\n    \x7d\n\x7d;\n" : Text) =
            ')' :: (" \x7b\n        " ++ "// Write your code here\n    \x7d\n\x7d;\n") := by
        simp
      simp only [render, cpp, comments, parameters, bracket, border, List.append_assoc,
        List.cons_append, List.nil_append]

/-! ## Tame texts -/

/-- Marks that stand in the head of a function beside the brackets around its parameters and the
sign that binds it. -/
def tameMarks : Text := " \n,:;<>[]\x7b\x7d*&-"

/-- Whether a text has only characters of identifiers and tame marks. -/
def isTame (text : Text) : Bool :=
  text.all fun c => Name.isIdentifierChar c || tameMarks.contains c

theorem isTame_append
    (left right : Text) :
    isTame (left ++ right) = (isTame left && isTame right) :=
  List.all_append

theorem isTame_joinWith
    {separator : Text} {parts : List Text} (separatorTame : isTame separator = true)
    (partsTame : ∀ part ∈ parts, isTame part = true) :
    isTame (Text.joinWith separator parts) = true :=
  Text.all_joinWith separatorTame partsTame

/-- A tame text has none of the other marks. -/
theorem not_mem_of_isTame
    {text : Text} (tame : isTame text = true) {mark : Char}
    (wild : (Name.isIdentifierChar mark || tameMarks.contains mark) = false) :
    mark ∉ text := by
  intro member
  have inside := List.all_eq_true.1 tame mark member
  rw [wild] at inside
  exact Bool.false_ne_true inside

theorem isCode_of_isTame
    {text : Text} (tame : isTame text = true) :
    isCode text = true := by
  have outside :
      (['#', '/', '"', '\'', '\x60'] : Text).all
        (fun mark => !(Name.isIdentifierChar mark || tameMarks.contains mark)) = true := by
    decide
  refine List.all_eq_true.2 fun c member => ?_
  rw [Source.isPlainCode, Text.contains_of_outside outside (List.all_eq_true.1 tame c member)]
  rfl

theorem isTame_of_isPlain
    {name : Text} (plain : Name.isPlain name = true) :
    isTame name = true := by
  refine List.all_eq_true.2 fun c member => ?_
  rw [List.all_eq_true.1 plain c member]
  rfl

theorem isTame_written
    (language : Language) (position : DataType.Position) (type : DataType) :
    isTame (type.written language position) = true := by
  cases language <;> cases position <;> cases type <;> decide

theorem isTame_inPython
    (type : DataType) :
    isTame type.inPython = true :=
  isTame_written .python .value type

theorem isTame_inJava
    (type : DataType) :
    isTame type.inJava = true :=
  isTame_written .java .value type

theorem isTame_inCpp
    (type : DataType) :
    isTame type.inCpp = true := by
  have written := isTame_written .cpp .value type
  rw [DataType.written, if_neg fun both => DataType.Position.noConfusion both.1] at written
  exact written

theorem isTame_typedParameter
    {type name : Text} (typeTame : isTame type = true) (plain : Name.isPlain name = true) :
    isTame (typedParameter type name) = true := by
  rw [typedParameter, isTame_append, isTame_append, typeTame, isTame_of_isPlain plain]
  decide

theorem isTame_typeParameter
    (number : Nat) :
    isTame (typeParameter number) = true :=
  isTame_of_isPlain (Name.isPlain_append (by decide) (Name.isPlain_ofNat number))

/-- Every C++ parameter is a type and a name; the type is that of a parameter or the name of a type
parameter. -/
theorem exists_of_mem_cppParameters
    {params : List Schema.Param} {part : Text} :
    ∀ {count : Nat}, part ∈ cppParameters count params →
      ∃ param ∈ params, ∃ type : Text,
        part = typedParameter type param.name ∧
          (type = param.type.written .cpp .parameter ∨ ∃ number, type = typeParameter number) := by
  induction params with
  | nil => exact fun member => absurd member List.not_mem_nil
  | cons param params inductionHypothesis =>
      intro count member
      have later :
          ∀ {other : Nat}, part ∈ cppParameters other params →
            ∃ found ∈ param :: params, ∃ type : Text,
              part = typedParameter type found.name ∧
                (type = found.type.written .cpp .parameter ∨
                  ∃ number, type = typeParameter number) := by
        intro other inRest
        obtain ⟨found, foundMember, rest⟩ := inductionHypothesis inRest
        exact ⟨found, List.mem_cons_of_mem param foundMember, rest⟩
      rw [cppParameters] at member
      split at member
      · rcases List.mem_cons.1 member with isFirst | inRest
        · exact ⟨param, List.mem_cons_self, _, isFirst, Or.inr ⟨count + 1, rfl⟩⟩
        · exact later inRest
      · rcases List.mem_cons.1 member with isFirst | inRest
        · exact ⟨param, List.mem_cons_self, _, isFirst, Or.inl rfl⟩
        · exact later inRest

/-- The type parameters of a C++ function, each behind its keyword. -/
def cppTypeParameters (schema : Schema) : List Text :=
  (List.range (schema.params.countP fun param => param.type == .any)).map fun index =>
    "typename ".toList ++ typeParameter (index + 1)

theorem cppGenerics_eq
    (schema : Schema) :
    cppGenerics schema = [] ∨
      cppGenerics schema =
        "    template <" ++ (Text.joinWith ", " (cppTypeParameters schema) ++ ">\n") := by
  rw [cppGenerics]
  split
  · exact Or.inl rfl
  · exact Or.inr (List.append_assoc _ _ _)

theorem isTame_cppGenerics
    (schema : Schema) :
    isTame (cppGenerics schema) = true := by
  rcases cppGenerics_eq schema with none | some
  · rw [none]
    rfl
  · have parts : isTame (Text.joinWith ", " (cppTypeParameters schema)) = true := by
      refine isTame_joinWith (by decide) fun part member => ?_
      obtain ⟨index, _, rfl⟩ := List.mem_map.1 member
      rw [isTame_append, isTame_typeParameter]
      decide
    rw [some, isTame_append, isTame_append, parts]
    decide

section Plain

variable {schema : Schema} (plain : schema.HasPlainNames)
include plain

theorem isTame_parameters
    (language : Language) :
    isTame (Text.joinWith ", " (parameters language schema)) = true := by
  refine isTame_joinWith (by decide) ?_
  cases language with
  | python =>
      refine List.forall_mem_cons.2 ⟨by decide, ?_⟩
      intro part member
      obtain ⟨param, paramMember, rfl⟩ := List.mem_map.1 member
      rw [isTame_append, isTame_append, isTame_of_isPlain (plain param paramMember),
        isTame_inPython]
      decide
  | javaScript =>
      intro part member
      obtain ⟨param, paramMember, rfl⟩ := List.mem_map.1 member
      exact isTame_of_isPlain (plain param paramMember)
  | java =>
      intro part member
      obtain ⟨param, paramMember, rfl⟩ := List.mem_map.1 member
      exact isTame_typedParameter (isTame_inJava param.type) (plain param paramMember)
  | cpp =>
      intro part member
      obtain ⟨param, paramMember, type, rfl, written | ⟨number, rfl⟩⟩ :=
        exists_of_mem_cppParameters member
      · rw [written]
        exact isTame_typedParameter (isTame_written .cpp .parameter param.type)
          (plain param paramMember)
      · exact isTame_typedParameter (isTame_typeParameter number) (plain param paramMember)

end Plain

theorem isTame_opening
    (language : Language) (schema : Schema) :
    isTame (frame language schema).opening = true := by
  unfold frame
  cases language with
  | python =>
      dsimp only
      decide
  | javaScript =>
      dsimp only
      decide
  | java =>
      simp only [isTame_append, isTame_inJava]
      decide
  | cpp =>
      simp only [isTame_append, isTame_cppGenerics, isTame_inCpp]
      decide

theorem isTame_closing
    (language : Language) (schema : Schema) :
    isTame (frame language schema).closing = true := by
  unfold frame
  cases language with
  | python =>
      simp only [isTame_append, isTame_inPython]
      decide
  | javaScript =>
      dsimp only
      decide
  | java =>
      dsimp only
      decide
  | cpp =>
      dsimp only
      decide

theorem isTame_bareBody
    (language : Language) :
    isTame (bareBody language) = true := by
  cases language <;> decide

/-- No comment and no quoted text begins in the head of a function. -/
theorem isCode_head
    {schema : Schema} (plain : schema.HasPlainNames) {entryName : Text}
    (plainName : Name.isPlain entryName = true) (language : Language) :
    isCode (head language entryName schema) = true := by
  have opening := isCode_of_isTame (isTame_opening language schema)
  have name := isCode_of_isTame (isTame_of_isPlain plainName)
  have binding : isCode (frame language schema).binding = true := by
    unfold frame
    cases language <;> dsimp only <;> decide
  have params := isCode_of_isTame (isTame_parameters plain language)
  have closing := isCode_of_isTame (isTame_closing language schema)
  have opens : ∀ text : Text, isCode ('(' :: text) = isCode text := fun _ => rfl
  have closes : ∀ text : Text, isCode (')' :: text) = isCode text := fun _ => rfl
  simp only [head, Source.isCode_append, opens, closes, opening, name, binding, params, closing,
    Bool.and_true]

/-! ## Comments between marks -/

theorem isCode_heading
    (kind : Structure) :
    isCode (heading kind) = true := by
  cases kind <;> decide

theorem isCode_trimEnd
    {text : Text} (code : isCode text = true) :
    isCode (Text.trimEnd text) = true := by
  obtain ⟨gap, _, whole⟩ := Text.exists_trimEnd text
  rw [whole, Source.isCode_append, Bool.and_eq_true] at code
  exact code.1

theorem isCode_commentLines
    {mark content : Text} (markCode : isCode mark = true) (contentCode : isCode content = true) :
    isCode (commentLines mark content) = true := by
  refine Source.isCode_joinWith (by decide) ?_
  intro part member
  obtain ⟨line, lineMember, rfl⟩ := List.mem_map.1 member
  split
  · exact isCode_trimEnd markCode
  · rw [Source.isCode_append, markCode, Bool.true_and]
    exact List.all_eq_true.2 fun c inside =>
      List.all_eq_true.1 contentCode c (Text.mem_of_mem_lines lineMember inside).1

/-- A comment between its marks leaves only blanks if its content has no mark. -/
theorem leavesBlanks_blockComment
    {content : Text} (contentCode : isCode content = true) :
    LeavesBlanks .slash (blockComment content) := by
  have noSlash : '/' ∉ ('*' :: '\n' :: content ++ "\n ".toList : Text) := by
    have inside : isCode ('*' :: '\n' :: content ++ "\n ".toList) = true := by
      rw [Source.isCode_append, Bool.and_eq_true]
      exact ⟨contentCode, by decide⟩
    intro member
    exact absurd (List.all_eq_true.1 inside '/' member) (by decide)
  have marks :
      blockComment content =
        '/' :: '*' :: ('*' :: '\n' :: content ++ "\n ".toList) ++ ['*', '/', '\n'] := by
    simp [blockComment]
  rw [marks]
  exact Source.leavesBlanks_blockComment noSlash

theorem leavesBlanks_definitionComments
    {library : Fragment.Library}
    (definitionsCode : ∀ kind, isCode (library.definition kind) = true) (schema : Schema)
    (topic : Topic) :
    LeavesBlanks .slash (definitionComments library schema topic) := by
  refine Source.leavesBlanks_flatMap _ fun kind _ => leavesBlanks_blockComment ?_
  have lines :=
    isCode_commentLines (by decide : isCode (" * " : Text) = true)
      (isCode_trimEnd (definitionsCode kind))
  simp only [Source.isCode_append, isCode_heading, lines]
  decide

/-! ## Comments behind hashes -/

/-- Whether a line is a comment behind a hash. -/
def isHashLine (line : Text) : Bool :=
  line.head? == some '#' && !line.contains '\n'

theorem leavesBlanks_hashLine
    {line : Text} (isHash : isHashLine line = true) :
    LeavesBlanks .hash (line ++ ['\n']) := by
  rw [isHashLine, Bool.and_eq_true, beq_iff_eq, Bool.not_eq_true', ← Bool.not_eq_true,
    List.contains_iff_mem] at isHash
  cases line with
  | nil => exact absurd isHash.1 (by simp)
  | cons c content =>
      obtain rfl := Option.some.inj isHash.1
      exact Source.leavesBlanks_hashComment fun inside =>
        isHash.2 (List.mem_cons_of_mem '#' inside)

theorem leavesBlanks_hashLines
    {lines : List Text} (areHash : ∀ line ∈ lines, isHashLine line = true) :
    LeavesBlanks .hash (Text.joinWith ['\n'] lines ++ ['\n']) := by
  induction lines with
  | nil =>
      intro text
      exact ⟨['\n'], List.forall_mem_singleton.2 (by decide), rfl⟩
  | cons line lines inductionHypothesis =>
      rw [List.forall_mem_cons] at areHash
      cases lines with
      | nil => exact leavesBlanks_hashLine areHash.1
      | cons next rest =>
          rw [Text.joinWith, List.append_assoc]
          exact Source.leavesBlanks_append (leavesBlanks_hashLine areHash.1)
            (inductionHypothesis areHash.2)

theorem leavesBlanks_commentLines
    (content : Text) :
    LeavesBlanks .hash (commentLines "# " content ++ ['\n']) := by
  refine leavesBlanks_hashLines fun part member => ?_
  obtain ⟨line, lineMember, rfl⟩ := List.mem_map.1 member
  split
  · decide
  · have oneLine : '\n' ∉ ("# " : Text) ++ line := by
      rw [List.mem_append, not_or]
      exact ⟨by decide, fun inside => (Text.mem_of_mem_lines lineMember inside).2 rfl⟩
    rw [isHashLine, Bool.and_eq_true, Bool.not_eq_true', ← Bool.not_eq_true,
      List.contains_iff_mem]
    exact ⟨rfl, oneLine⟩

theorem leavesBlanks_pythonDefinition
    (kind : Structure) :
    LeavesBlanks .hash (pythonDefinition kind) := by
  have title : isHashLine ("# ".toList ++ heading kind) = true := by
    cases kind <;> decide
  have lineFeed : ("\n" : Text) = ['\n'] := by simp
  rw [pythonDefinition, lineFeed, List.append_assoc _ (commentLines _ _)]
  exact Source.leavesBlanks_append (leavesBlanks_hashLine title)
    (leavesBlanks_commentLines (Text.trimEnd (Fragment.Python.library.definition kind)))

theorem leavesBlanks_pythonShape
    (schema : Schema) (topic : Topic) :
    LeavesBlanks .hash (pythonShape schema topic) := by
  have lineFeed : ("\n" : Text) = ['\n'] := by simp
  rw [pythonShape]
  split
  · rw [lineFeed]
    exact leavesBlanks_commentLines (shapeNote .python schema)
  · exact Source.leavesBlanks_nil .hash

/-! ## All comments -/

section Plain

variable {schema : Schema} (plain : schema.HasPlainNames)
include plain

theorem isCode_shapeNote
    (language : Language) :
    isCode (shapeNote language schema) = true := by
  have notes :
      isCode (Text.joinWith ", " (schema.params.map (parameterNote language))) = true := by
    refine Source.isCode_joinWith (by decide) ?_
    intro part member
    obtain ⟨param, paramMember, rfl⟩ := List.mem_map.1 member
    rw [parameterNote, Source.isCode_append, Source.isCode_append,
      isCode_of_isTame (isTame_written language .parameter param.type),
      isCode_of_isTame (isTame_of_isPlain (plain param paramMember))]
    decide
  refine Source.isCode_joinWith (by decide) ?_
  intro part member
  rw [List.mem_cons, List.mem_cons, List.mem_singleton] at member
  rcases member with rfl | rfl | rfl
  · decide
  · rw [Source.isCode_append, notes]
    decide
  · rw [Source.isCode_append, isCode_of_isTame (isTame_written language .value schema.returnType)]
    decide

theorem isCode_shapeLines
    (language : Language) :
    isCode (commentLines " * " (shapeNote language schema)) = true :=
  isCode_commentLines (by decide) (isCode_shapeNote plain language)

theorem leavesBlanks_shapeComment
    (language : Language) (topic : Topic) :
    LeavesBlanks .slash (shapeComment language schema topic) := by
  rw [shapeComment]
  split
  · exact leavesBlanks_blockComment (isCode_shapeLines plain language)
  · exact Source.leavesBlanks_nil .slash

theorem isCode_javaScriptNotes
    (topic : Topic) :
    isCode (javaScriptNotes schema topic) = true := by
  have types : ∀ type : DataType, isCode type.inJavaScript = true :=
    fun type => isCode_of_isTame (isTame_written .javaScript .value type)
  have params : isCode (schema.params.flatMap javaScriptParameter) = true := by
    refine Source.isCode_flatMap fun param paramMember => ?_
    unfold javaScriptParameter
    simp only [Source.isCode_append, types,
      isCode_of_isTame (isTame_of_isPlain (plain param paramMember))]
    decide
  unfold javaScriptNotes
  simp only [Source.isCode_append, params, types, Bool.and_true]
  split
  · rw [Source.isCode_append, isCode_shapeLines plain]
    decide
  · decide

/-- Of all that stands ahead of the code of a template, only blanks are left. -/
theorem leavesBlanks_comments
    (language : Language) (topic : Topic) :
    LeavesBlanks language.commentStyle (comments language schema topic) := by
  cases language with
  | python =>
      exact Source.leavesBlanks_append
        (Source.leavesBlanks_flatMap _ fun kind _ => leavesBlanks_pythonDefinition kind)
        (leavesBlanks_pythonShape schema topic)
  | javaScript =>
      have definitions : ∀ kind, isCode (Fragment.JavaScript.library.definition kind) = true := by
        intro kind
        cases kind <;> decide +kernel
      exact Source.leavesBlanks_append (leavesBlanks_definitionComments definitions schema topic)
        (leavesBlanks_blockComment (isCode_javaScriptNotes plain topic))
  | java =>
      have definitions : ∀ kind, isCode (Fragment.Java.library.definition kind) = true := by
        intro kind
        cases kind <;> decide +kernel
      exact Source.leavesBlanks_append (leavesBlanks_definitionComments definitions schema topic)
        (leavesBlanks_shapeComment plain .java topic)
  | cpp =>
      have definitions : ∀ kind, isCode (Fragment.Cpp.library.definition kind) = true := by
        intro kind
        cases kind <;> decide +kernel
      exact Source.leavesBlanks_append (leavesBlanks_definitionComments definitions schema topic)
        (leavesBlanks_shapeComment plain .cpp topic)

/-! ## The template -/

/-- Without its comments a template is its head and a bare body, behind blanks. -/
theorem exists_stripped_render
    {entryName : Text} (plainName : Name.isPlain entryName = true) (language : Language)
    (topic : Topic) :
    ∃ gap, (∀ c ∈ gap, Text.isBlank c = true) ∧
      Detection.stripped language (render language entryName schema topic) =
        gap ++ (head language entryName schema ++ bareBody language) := by
  have bodyKept :
      Source.stripComments language.commentStyle (body language) = bareBody language := by
    cases language <;> decide
  obtain ⟨gap, blank, kept⟩ :=
    leavesBlanks_comments plain language topic (head language entryName schema ++ body language)
  refine ⟨gap, blank, ?_⟩
  rw [Detection.stripped, render_eq, kept,
    Source.stripComments_append_of_plain _ (isCode_head plain plainName language), bodyKept]

end Plain

end Kata.Template
