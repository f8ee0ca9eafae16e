import Kata.Proofs.Detection.Names
import Kata.Proofs.Pattern.Blank
import Kata.Proofs.Template.Stripped

/-!
# Templates offer the name of their function

In each language the head of a template is a definition of a function as the patterns know it, so
that a name is found in it.
-/

namespace Kata.Template

open Detection Pattern

section Offered

variable {schema : Schema} {entryName : Text}
variable (identifier : Name.isIdentifier entryName = true)
include identifier

/-! ## Python -/

theorem candidateNames_python_ne_nil
    (gap : Text) :
    candidateNames .python (gap ++ (head .python entryName schema ++ bareBody .python)) ≠ [] := by
  have opening :
      (frame .python schema).opening =
        "class Solution:\n".toList ++ ([] ++ ("    ".toList ++ ([] ++ ("def".toList ++ [' '])))) :=
    rfl
  have binding : (frame .python schema).binding = [] := rfl
  have whole :
      gap ++ (head .python entryName schema ++ bareBody .python) =
        (gap ++ "class Solution:\n".toList) ++
          (([] ++ ("    ".toList ++ ([] ++ ("def".toList ++ [' '])))) ++
            (entryName ++ (([] ++ ['(']) ++
              (Text.joinWith ", " (parameters .python schema) ++
                ')' :: ((frame .python schema).closing ++ bareBody .python))))) := by
    rw [head, opening, binding]
    simp only [List.append_assoc, List.cons_append, List.nil_append]
  have lineEnd : lastOf none (gap ++ "class Solution:\n".toList) = some '\n' := by
    rw [lastOf_append]
    rfl
  refine namesInOrder_ne_nil
    [lineStart, lineBlanks, optional (seq (text "async") lineGap), text "def", lineGap]
    [lineBlanks, char '('] List.mem_cons_self ⟨by decide, rfl, rfl⟩ whole ?_
    (takes_name_of_isIdentifier identifier _ _) ?_
  · rw [lineEnd]
    refine takes_inOrder_onward [] ⟨rfl, rfl, rfl⟩ ?_
    refine takes_inOrder_onward "    " ⟨List.all_eq_true.1 (by decide), rfl⟩ ?_
    refine takes_inOrder_onward [] (Or.inr ⟨rfl, rfl⟩) ?_
    refine takes_inOrder_onward "def" ((takes_text _).2 ⟨rfl, rfl⟩) ?_
    exact takes_lineGap.2
      ⟨List.cons_ne_nil _ _, List.forall_mem_singleton.2 (by decide), rfl⟩
  · refine takes_inOrder_onward [] ⟨List.forall_mem_nil _, rfl⟩ ?_
    exact takes_char.2 ⟨rfl, rfl⟩

/-! ## JavaScript -/

theorem candidateNames_javaScript_ne_nil
    {gap : Text} (blank : ∀ c ∈ gap, Text.isBlank c = true) :
    candidateNames .javaScript
      (gap ++ (head .javaScript entryName schema ++ bareBody .javaScript)) ≠ [] := by
  have opening : (frame .javaScript schema).opening = [] ++ ("var".toList ++ [' ']) := rfl
  have binding :
      (frame .javaScript schema).binding =
        [' '] ++ (['='] ++ ([' '] ++ ([] ++ ("function".toList ++ [])))) :=
    rfl
  have whole :
      gap ++ (head .javaScript entryName schema ++ bareBody .javaScript) =
        gap ++
          (([] ++ ("var".toList ++ [' '])) ++
            (entryName ++ (([' '] ++ (['='] ++ ([' '] ++ ([] ++ ("function".toList ++ []))))) ++
              ('(' :: (Text.joinWith ", " (parameters .javaScript schema) ++
                ')' :: ((frame .javaScript schema).closing ++ bareBody .javaScript)))))) := by
    rw [head, opening, binding]
    simp only [List.append_assoc, List.cons_append, List.nil_append]
  have outside : (lastOf none gap).any Text.isWord = false := by
    have same := isWord_lastOf_append blank []
    rw [List.append_nil] at same
    exact same
  have blanks : ∀ c ∈ [' '], Text.isBlank c = true := List.forall_mem_singleton.2 (by decide)
  have offered :
      namesInOrder [namedFunction, boundFunction, classMethod]
        (gap ++ (head .javaScript entryName schema ++ bareBody .javaScript)) ≠ [] := by
    refine namesInOrder_ne_nil [wordEdge, oneOf ["var", "let", "const"], Pattern.gap]
      [Pattern.blanks, char '=', Pattern.blanks, optional (seq (text "async") Pattern.gap),
        anyOf
          [seq (text "function") wordEdge,
            inOrder [flatParameters, Pattern.blanks, text "=>"],
            inOrder [dollarName, Pattern.blanks, text "=>"]]]
      (List.mem_cons_of_mem _ List.mem_cons_self) ⟨by decide, rfl, by decide⟩ whole ?_
      (takes_dollarName_of_takes_name (takes_name_of_isIdentifier identifier _ _)) ?_
    · refine takes_inOrder_onward [] ⟨?_, rfl, rfl⟩ ?_
      · rw [outside]
        change false ≠ Text.isWord 'v'
        decide
      refine takes_inOrder_onward "var" (takes_oneOf.2 ⟨List.mem_cons_self, rfl⟩) ?_
      exact takes_gap.2 ⟨List.cons_ne_nil _ _, blanks, rfl⟩
    · refine takes_inOrder_onward [' '] ⟨blanks, rfl⟩ ?_
      refine takes_inOrder_onward ['='] (takes_char.2 ⟨rfl, rfl⟩) ?_
      refine takes_inOrder_onward [' '] ⟨blanks, rfl⟩ ?_
      refine takes_inOrder_onward [] (Or.inr ⟨rfl, rfl⟩) ?_
      refine takes_inOrder_singleton.2 ((takes_anyOf _).2 ⟨_, List.mem_cons_self, ?_⟩)
      refine ⟨"function", [], [], [], (takes_text _).2 ⟨rfl, rfl⟩, ⟨?_, rfl, rfl⟩, rfl, rfl⟩
      change Text.isWord 'n' ≠ Text.isWord '('
      decide
  exact fun none => offered (List.append_eq_nil_iff.1 none).2

/-! ## Java and C++ -/

/-- Whether a written type ends with a character that can stand ahead of a blank and a name. -/
def endsType (type : Text) : Bool :=
  type.getLast?.any fun c => isTypeTail c || c == '*'

omit identifier in
theorem takes_endOfType
    {c : Char} (ends : (isTypeTail c || c == '*') = true) (previous : Option Char) (rest : Text) :
    Takes
      (inOrder
        [either (seq (one isTypeTail) Pattern.gap)
          (seq (one fun c => c == '*' || c == '&') Pattern.blanks)])
      previous ([c] ++ [' ']) rest [] := by
  have blanks : ∀ c ∈ [' '], Text.isBlank c = true := List.forall_mem_singleton.2 (by decide)
  rw [Bool.or_eq_true] at ends
  rcases ends with tail | star
  · refine Or.inl ⟨[c], [' '], [], [], ⟨⟨c, tail, rfl⟩, rfl⟩, ?_, rfl, rfl⟩
    exact takes_gap.2 ⟨List.cons_ne_nil _ _, blanks, rfl⟩
  · refine Or.inr ⟨[c], [' '], [], [], ⟨⟨c, ?_, rfl⟩, rfl⟩, ⟨blanks, rfl⟩, rfl, rfl⟩
    exact Bool.or_eq_true_iff.2 (Or.inl star)

omit identifier in
theorem takes_flatParameters
    {params : Text} (opens : '(' ∉ params) (closes : ')' ∉ params) (previous : Option Char)
    (rest : Text) :
    Takes flatParameters previous (['('] ++ (params ++ [')'])) rest [] := by
  refine takes_inOrder_onward ['('] (takes_char.2 ⟨rfl, rfl⟩) ?_
  refine takes_inOrder_onward params ⟨fun c member => ?_, rfl⟩ (takes_char.2 ⟨rfl, rfl⟩)
  rw [Bool.and_eq_true, bne_iff_ne, bne_iff_ne]
  constructor
  · rintro rfl
    exact opens member
  · rintro rfl
    exact closes member

/-- A type, the name and flat parameters ahead of a brace are a definition. -/
theorem namesInOrder_typedDefinition_ne_nil
    {source ahead type params behind : Text} (ends : endsType type = true)
    (opens : '(' ∉ params) (closes : ')' ∉ params)
    (whole :
      source =
        ahead ++ (type ++ ([' '] ++ (entryName ++
          ('(' :: (params ++ ')' :: ([' '] ++ '\x7b' :: behind))))))) :
    namesInOrder [typedDefinition] source ≠ [] := by
  obtain ⟨c, last, tail⟩ := (Option.any_eq_true _ _).1 ends
  obtain ⟨front, rfl⟩ := List.getLast?_eq_some_iff.1 last
  have parts :
      source =
        (ahead ++ front) ++
          (([c] ++ [' ']) ++
            (entryName ++ (([] ++ ((['('] ++ (params ++ [')'])) ++
              ([' '] ++ ([] ++ ([] ++ ([] ++ ([] ++ ['\x7b']))))))) ++ behind))) := by
    rw [whole]
    simp only [List.append_assoc, List.cons_append, List.nil_append]
  have none : ∀ c ∈ ([] : Text), Text.isBlank c = true :=
    List.forall_mem_nil _
  refine namesInOrder_ne_nil
    [either (seq (one isTypeTail) Pattern.gap)
      (seq (one fun c => c == '*' || c == '&') Pattern.blanks)]
    [Pattern.blanks, flatParameters, Pattern.blanks, qualifier "const", qualifier "noexcept",
      qualifier "override",
      optional (inOrder [text "throws", Pattern.gap, one isThrown, few isThrown]), char '\x7b']
    List.mem_cons_self ⟨rfl, rfl, by decide⟩ parts (takes_endOfType tail _ _)
    (takes_name_of_isIdentifier identifier _ _) ?_
  refine takes_inOrder_onward [] ⟨none, rfl⟩ ?_
  refine takes_inOrder_onward _ (takes_flatParameters opens closes _ _) ?_
  refine takes_inOrder_onward [' '] ⟨List.forall_mem_singleton.2 (by decide), rfl⟩ ?_
  refine takes_inOrder_onward [] (Or.inr ⟨rfl, rfl⟩) ?_
  refine takes_inOrder_onward [] (Or.inr ⟨rfl, rfl⟩) ?_
  refine takes_inOrder_onward [] (Or.inr ⟨rfl, rfl⟩) ?_
  refine takes_inOrder_onward [] (Or.inr ⟨rfl, rfl⟩) ?_
  exact takes_char.2 ⟨rfl, rfl⟩

omit identifier in
theorem endsType_written
    (type : DataType) :
    endsType type.inJava = true ∧ endsType type.inCpp = true := by
  cases type <;> decide

omit identifier in
theorem not_mem_parameters
    (plain : schema.HasPlainNames) (language : Language) :
    '(' ∉ Text.joinWith ", " (parameters language schema) ∧
      ')' ∉ Text.joinWith ", " (parameters language schema) :=
  ⟨not_mem_of_isTame (isTame_parameters plain language) (by decide),
    not_mem_of_isTame (isTame_parameters plain language) (by decide)⟩

theorem candidateNames_java_ne_nil
    (plain : schema.HasPlainNames) (gap : Text) :
    candidateNames .java (gap ++ (head .java entryName schema ++ bareBody .java)) ≠ [] := by
  have opening :
      (frame .java schema).opening =
        "class Solution \x7b\n    public ".toList ++ schema.returnType.inJava ++ [' '] :=
    rfl
  have binding : (frame .java schema).binding = [] := rfl
  have closing : (frame .java schema).closing = [' '] ++ '\x7b' :: "\n        ".toList := rfl
  have whole :
      gap ++ (head .java entryName schema ++ bareBody .java) =
        (gap ++ "class Solution \x7b\n    public ".toList) ++
          (schema.returnType.inJava ++ ([' '] ++ (entryName ++
            ('(' :: (Text.joinWith ", " (parameters .java schema) ++
              ')' :: ([' '] ++ '\x7b' :: ("\n        ".toList ++ bareBody .java))))))) := by
    rw [head, opening, binding, closing]
    simp only [List.append_assoc, List.cons_append, List.nil_append]
  obtain ⟨opens, closes⟩ := not_mem_parameters plain .java
  exact namesInOrder_typedDefinition_ne_nil identifier (endsType_written schema.returnType).1
    opens closes whole

theorem candidateNames_cpp_ne_nil
    (plain : schema.HasPlainNames) (gap : Text) :
    candidateNames .cpp (gap ++ (head .cpp entryName schema ++ bareBody .cpp)) ≠ [] := by
  have opening :
      (frame .cpp schema).opening =
        "class Solution \x7b\npublic:\n".toList ++ cppGenerics schema ++ "    ".toList ++
          schema.returnType.inCpp ++ [' '] :=
    rfl
  have binding : (frame .cpp schema).binding = [] := rfl
  have closing : (frame .cpp schema).closing = [' '] ++ '\x7b' :: "\n        ".toList := rfl
  have whole :
      gap ++ (head .cpp entryName schema ++ bareBody .cpp) =
        (gap ++ ("class Solution \x7b\npublic:\n".toList ++ (cppGenerics schema ++ "    ".toList))) ++
          (schema.returnType.inCpp ++ ([' '] ++ (entryName ++
            ('(' :: (Text.joinWith ", " (parameters .cpp schema) ++
              ')' :: ([' '] ++ '\x7b' :: ("\n        ".toList ++ bareBody .cpp))))))) := by
    rw [head, opening, binding, closing]
    simp only [List.append_assoc, List.cons_append, List.nil_append]
  obtain ⟨opens, closes⟩ := not_mem_parameters plain .cpp
  exact namesInOrder_typedDefinition_ne_nil identifier (endsType_written schema.returnType).2
    opens closes whole

/-! ## All languages -/

/-- A template offers some name. -/
theorem candidateNames_ne_nil
    (plain : schema.HasPlainNames) (language : Language) {gap : Text}
    (blank : ∀ c ∈ gap, Text.isBlank c = true) :
    candidateNames language (gap ++ (head language entryName schema ++ bareBody language)) ≠ [] := by
  cases language with
  | python => exact candidateNames_python_ne_nil identifier gap
  | javaScript => exact candidateNames_javaScript_ne_nil identifier blank
  | java => exact candidateNames_java_ne_nil identifier plain gap
  | cpp => exact candidateNames_cpp_ne_nil identifier plain gap

end Offered

end Kata.Template
