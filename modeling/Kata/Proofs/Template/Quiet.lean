import Kata.Proofs.Detection.Words
import Kata.Proofs.Template.Stripped

/-!
# Templates declare no node types

Whatever the types and the names of the parameters are, no keyword for types stands ahead of the
initial of a node type in the code of a template: the only keyword declares the solution itself.
-/

namespace Kata.Template

open Detection (Reader isQuiet isMark typeKeywords)

/-! ## Pieces between marks -/

/-- Whether a text is quiet, and a word may follow it. -/
def isReady (keywords : List Text) (text : Text) : Bool :=
  isQuiet keywords .start text &&
    !((Reader.start.read text).isBehind && keywords.contains (Reader.start.read text).word)

section Pieces

variable {keywords : List Text}

theorem isQuiet_append_word
    {ahead word : Text} (ready : isReady keywords ahead = true)
    (words : ∀ c ∈ word, Text.isWord c = true) :
    isQuiet keywords .start (ahead ++ word) = true := by
  rw [isReady, Bool.and_eq_true, Bool.not_eq_true'] at ready
  rw [Detection.isQuiet_append, ready.1, Detection.isQuiet_of_forall_isWord words ready.2]
  rfl

theorem isWord_of_isPlain
    {name : Text} (plain : Name.isPlain name = true) :
    ∀ c ∈ name, Text.isWord c = true :=
  fun c member => Name.isWord_of_isIdentifierChar (List.all_eq_true.1 plain c member)

theorem isQuiet_word
    {word : Text} (words : ∀ c ∈ word, Text.isWord c = true) :
    isQuiet keywords .start word = true :=
  Detection.isQuiet_of_forall_isWord words rfl

theorem isReady_word_blank
    {word : Text} (nonempty : word ≠ []) (words : ∀ c ∈ word, Text.isWord c = true)
    (noKeyword : keywords.contains word = false) :
    isReady keywords (word ++ " ") = true := by
  have blank : (" " : Text) = [' '] := by simp
  have atWord : Reader.start.read word = ⟨word, false⟩ :=
    Detection.read_word nonempty words (Or.inr rfl)
  have atBlank : Reader.start.read (word ++ [' ']) = ⟨word, true⟩ := by
    rw [Detection.read_append, atWord]
    exact Detection.read_gap nonempty (List.cons_ne_nil _ _)
      (List.forall_mem_singleton.2 (by decide)) false
  have quiet : isQuiet keywords .start (word ++ [' ']) = true := by
    rw [Detection.isQuiet_append, isQuiet_word words, atWord]
    rfl
  rw [isReady, blank, quiet, atBlank, noKeyword]
  rfl

/-- A quiet text and a mark leave the reader where it began. -/
theorem isQuiet_append_mark
    {ahead : Text} (quiet : isQuiet keywords .start ahead = true) {mark : Char}
    (marks : isMark mark = true) (rest : Text) :
    isQuiet keywords .start (ahead ++ mark :: rest) = isQuiet keywords .start rest := by
  rw [Detection.isQuiet_append, quiet, Detection.isQuiet_cons_of_isMark marks]
  rfl

/-- Quiet parts between commas. -/
theorem isQuiet_joinWith
    {parts : List Text} (quiet : ∀ part ∈ parts, isQuiet keywords .start part = true) :
    isQuiet keywords .start (Text.joinWith ", " parts) = true := by
  induction parts with
  | nil => rfl
  | cons part parts inductionHypothesis =>
      rw [List.forall_mem_cons] at quiet
      cases parts with
      | nil => exact quiet.1
      | cons next rest =>
          have blank :
              isQuiet keywords .start (' ' :: Text.joinWith ", " (next :: rest)) =
                isQuiet keywords .start (Text.joinWith ", " (next :: rest)) :=
            Detection.isQuiet_start_append_of_blank
              (List.forall_mem_singleton.2 (by decide : Text.isBlank ' ' = true)) _
          have whole :
              Text.joinWith ", " (part :: next :: rest) =
                part ++ ',' :: ' ' :: Text.joinWith ", " (next :: rest) := by
            simp [Text.joinWith]
          rw [whole, isQuiet_append_mark quiet.1 (by decide), blank]
          exact inductionHypothesis quiet.2

end Pieces

/-! ## Parameters -/

theorem isReady_writtenCpp
    (type : DataType) :
    isReady (typeKeywords .cpp) (type.written .cpp .parameter ++ " ") = true := by
  cases type <;> decide

theorem isReady_inJava
    (type : DataType) :
    isReady (typeKeywords .java) (type.inJava ++ " ") = true := by
  cases type <;> decide

theorem isWord_typeParameter
    (number : Nat) :
    ∀ c ∈ typeParameter number, Text.isWord c = true :=
  isWord_of_isPlain (Name.isPlain_append (by decide) (Name.isPlain_ofNat number))

theorem isReady_typeParameter
    (number : Nat) :
    isReady (typeKeywords .cpp) (typeParameter number ++ " ") = true := by
  have written : typeParameter number = 'T' :: Text.ofNat number := by simp [typeParameter]
  have noKeyword : (typeKeywords .cpp).contains (typeParameter number) = false := by
    rw [written]
    rfl
  have nonempty : typeParameter number ≠ [] := by
    rw [written]
    exact List.cons_ne_nil _ _
  exact isReady_word_blank nonempty (isWord_typeParameter number) noKeyword

section Plain

variable {schema : Schema} (plain : schema.HasPlainNames)
include plain

/-- Every parameter is quiet. -/
theorem isQuiet_parameters
    (language : Language) :
    isQuiet (typeKeywords language) .start
      (Text.joinWith ", " (parameters language schema)) = true := by
  refine isQuiet_joinWith ?_
  cases language with
  | python =>
      refine List.forall_mem_cons.2 ⟨by decide, ?_⟩
      intro part member
      obtain ⟨param, paramMember, rfl⟩ := List.mem_map.1 member
      have words := isWord_of_isPlain (plain param paramMember)
      have type :
          isQuiet (typeKeywords .python) .start (' ' :: param.type.inPython) = true := by
        cases param.type <;> decide
      have colon : (": " : Text) = [':', ' '] := by simp
      rw [colon]
      exact (isQuiet_append_mark (isQuiet_word words) (by decide) _).trans type
  | javaScript =>
      intro part member
      obtain ⟨param, paramMember, rfl⟩ := List.mem_map.1 member
      exact isQuiet_word (isWord_of_isPlain (plain param paramMember))
  | java =>
      intro part member
      obtain ⟨param, paramMember, rfl⟩ := List.mem_map.1 member
      exact isQuiet_append_word (isReady_inJava param.type)
        (isWord_of_isPlain (plain param paramMember))
  | cpp =>
      intro part member
      obtain ⟨param, paramMember, type, rfl, written | ⟨number, rfl⟩⟩ :=
        exists_of_mem_cppParameters member
      · rw [written]
        exact isQuiet_append_word (isReady_writtenCpp param.type)
          (isWord_of_isPlain (plain param paramMember))
      · exact isQuiet_append_word (isReady_typeParameter number)
          (isWord_of_isPlain (plain param paramMember))

end Plain

/-! ## The whole code -/

theorem isQuiet_cppGenerics
    (schema : Schema) (rest : Text) :
    isQuiet (typeKeywords .cpp) .start (cppGenerics schema ++ rest) =
      isQuiet (typeKeywords .cpp) .start rest := by
  rcases cppGenerics_eq schema with none | some
  · rw [none, List.nil_append]
  · have parts :
        isQuiet (typeKeywords .cpp) .start
          (Text.joinWith ", " (cppTypeParameters schema)) = true := by
      refine isQuiet_joinWith fun part member => ?_
      obtain ⟨index, _, rfl⟩ := List.mem_map.1 member
      exact isQuiet_append_word (by decide) (isWord_typeParameter (index + 1))
    have start : isQuiet (typeKeywords .cpp) .start "    template ".toList = true := by decide
    have opening : ("    template <" : Text) = "    template " ++ ['<'] := by simp
    have closing : (">\n" : Text) = ['>', '\n'] := by simp
    have whole :
        cppGenerics schema ++ rest =
          "    template ".toList ++
            '<' :: (Text.joinWith ", " (cppTypeParameters schema) ++ '>' :: (['\n'] ++ rest)) := by
      rw [some, opening, closing]
      simp only [List.append_assoc, List.cons_append, List.nil_append]
    rw [whole, isQuiet_append_mark start (by decide), isQuiet_append_mark parts (by decide),
      Detection.isQuiet_start_append_of_blank (List.forall_mem_singleton.2 (by decide))]

theorem isQuiet_opening_append
    (language : Language) (schema : Schema) {name : Text}
    (words : ∀ c ∈ name, Text.isWord c = true) :
    isQuiet (typeKeywords language) .start ((frame language schema).opening ++ name) = true := by
  unfold frame
  cases language with
  | python =>
      dsimp only
      exact isQuiet_append_word (by decide) words
  | javaScript =>
      dsimp only
      exact isQuiet_append_word (by decide) words
  | java =>
      have ready :
          isReady (typeKeywords .java)
            ("class Solution \x7b\n    public " ++ schema.returnType.inJava ++ " ") = true := by
        cases schema.returnType <;> decide
      exact isQuiet_append_word ready words
  | cpp =>
      have ready : isReady (typeKeywords .cpp) ("    " ++ schema.returnType.inCpp ++ " ") = true := by
        cases schema.returnType <;> decide
      have start : isQuiet (typeKeywords .cpp) .start "class Solution \x7b\npublic".toList = true := by
        decide
      have opening :
          ("class Solution \x7b\npublic:\n" : Text) =
            "class Solution \x7b\npublic" ++ [':', '\n'] := by
        simp
      have whole :
          "class Solution \x7b\npublic:\n".toList ++ cppGenerics schema ++ "    ".toList ++
              schema.returnType.inCpp ++ " ".toList ++ name =
            "class Solution \x7b\npublic".toList ++
              ':' :: (['\n'] ++ (cppGenerics schema ++
                ("    ".toList ++ schema.returnType.inCpp ++ " ".toList ++ name))) := by
        rw [opening]
        simp only [List.append_assoc, List.cons_append, List.nil_append]
      dsimp only
      rw [whole, isQuiet_append_mark start (by decide),
        Detection.isQuiet_start_append_of_blank (List.forall_mem_singleton.2 (by decide)),
        isQuiet_cppGenerics]
      exact isQuiet_append_word ready words

theorem isQuiet_binding_append
    (language : Language) (schema : Schema) (reader : Reader) (rest : Text) :
    isQuiet (typeKeywords language) reader ((frame language schema).binding ++ '(' :: rest) =
      isQuiet (typeKeywords language) .start rest := by
  unfold frame
  cases language with
  | javaScript =>
      have word : isQuiet (typeKeywords .javaScript) .start " function".toList = true := by decide
      have binding : (" = function" : Text) = ' ' :: '=' :: " function" := by simp
      dsimp only
      rw [binding, List.cons_append, List.cons_append,
        Detection.isQuiet_cons_of_not_initial (by decide),
        Detection.isQuiet_cons_of_isMark (by decide), isQuiet_append_mark word (by decide)]
  | python => exact Detection.isQuiet_cons_of_isMark (by decide) reader rest
  | java => exact Detection.isQuiet_cons_of_isMark (by decide) reader rest
  | cpp => exact Detection.isQuiet_cons_of_isMark (by decide) reader rest

theorem isQuiet_closing_append
    (language : Language) (schema : Schema) :
    isQuiet (typeKeywords language) .start
      ((frame language schema).closing ++ bareBody language) = true := by
  unfold frame
  cases language with
  | python =>
      dsimp only
      cases schema.returnType <;> decide
  | javaScript =>
      dsimp only
      decide
  | java =>
      dsimp only
      decide
  | cpp =>
      dsimp only
      decide

/-- The code of a template is quiet, whatever blanks stand ahead of it. -/
theorem isQuiet_head
    {schema : Schema} (plain : schema.HasPlainNames) {entryName : Text}
    (plainName : Name.isPlain entryName = true) (language : Language) {gap : Text}
    (blank : ∀ c ∈ gap, Text.isBlank c = true) :
    isQuiet (typeKeywords language) .start
      (gap ++ (head language entryName schema ++ bareBody language)) = true := by
  have opened := isQuiet_opening_append language schema (isWord_of_isPlain plainName)
  have whole :
      head language entryName schema ++ bareBody language =
        ((frame language schema).opening ++ entryName) ++
          ((frame language schema).binding ++
            '(' :: (Text.joinWith ", " (parameters language schema) ++
              ')' :: ((frame language schema).closing ++ bareBody language))) := by
    rw [head]
    simp only [List.append_assoc, List.cons_append]
  rw [Detection.isQuiet_start_append_of_blank blank, whole, Detection.isQuiet_append, opened,
    isQuiet_binding_append, isQuiet_append_mark (isQuiet_parameters plain language) (by decide),
    isQuiet_closing_append]
  rfl

end Kata.Template
