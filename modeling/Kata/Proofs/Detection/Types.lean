import Kata.Detection.Source
import Kata.Proofs.Pattern.Blank
import Kata.Proofs.Source.Comments

/-!
# Declarations of types

What the declarations of types look like that are found in a solution, and that it makes no
difference to them whether blanks at the ends of the solution are trimmed.
-/

namespace Kata.Detection

open Pattern

variable {previous : Option Char} {piece rest typeName : Text} {remembered : Remembered}

/-! ## The pieces that declare a type -/

/-- A keyword at the edge of a word, a gap, and the name of the type. -/
theorem takes_keywordAndName
    {keywords : List Text} :
    Takes (keywordAndName keywords typeName) previous piece rest remembered ↔
      previous.any Text.isWord ≠ (piece ++ rest).head?.any Text.isWord ∧
        ∃ keyword ∈ keywords, ∃ between,
          between ≠ [] ∧ (∀ c ∈ between, Text.isBlank c = true) ∧
            piece = keyword ++ (between ++ typeName) ∧ remembered = [] := by
  rw [keywordAndName, takes_inOrder_cons]
  constructor
  · rintro ⟨_, right, _, _, ⟨edge, rfl, rfl⟩, words, rfl, rfl⟩
    obtain ⟨keyword, behind, _, _, isKeyword, others, rfl, rfl⟩ := takes_inOrder_cons.1 words
    obtain ⟨between, name, _, _, isGap, isName, rfl, rfl⟩ := takes_inOrder_cons.1 others
    obtain ⟨member, rfl⟩ := takes_oneOf.1 isKeyword
    obtain ⟨nonempty, blank, rfl⟩ := takes_gap.1 isGap
    obtain ⟨rfl, rfl⟩ := (takes_text typeName).1 isName
    exact ⟨edge, keyword, member, between, nonempty, blank, rfl, rfl⟩
  · rintro ⟨edge, keyword, member, between, nonempty, blank, rfl, rfl⟩
    refine ⟨[], _, [], [], ⟨edge, rfl, rfl⟩, ?_, rfl, rfl⟩
    refine takes_inOrder_cons.2
      ⟨keyword, between ++ typeName, [], [], takes_oneOf.2 ⟨member, rfl⟩, ?_, rfl, rfl⟩
    exact takes_inOrder_cons.2
      ⟨between, typeName, [], [], takes_gap.2 ⟨nonempty, blank, rfl⟩,
        (takes_text typeName).2 ⟨rfl, rfl⟩, rfl, rfl⟩

/-- A declaration in Python: the word and the name on one line. -/
theorem takes_pythonDeclaration
    (takes : Takes (typeDeclaration .python typeName) previous piece rest remembered) :
    ∃ indentation between,
      previous.all (· == '\n') = true ∧ (∀ c ∈ indentation, isLineBlank c = true) ∧
        between ≠ [] ∧ (∀ c ∈ between, isLineBlank c = true) ∧
          piece = indentation ++ ("class".toList ++ (between ++ typeName)) := by
  obtain ⟨_, _, _, _, ⟨starts, rfl, rfl⟩, indented, rfl, rfl⟩ := takes_inOrder_cons.1 takes
  obtain ⟨indentation, _, _, _, ⟨blank, rfl⟩, word, rfl, rfl⟩ := takes_inOrder_cons.1 indented
  obtain ⟨_, _, _, _, isWord, behindWord, rfl, rfl⟩ := takes_inOrder_cons.1 word
  obtain ⟨between, _, _, _, isGap, named, rfl, rfl⟩ := takes_inOrder_cons.1 behindWord
  obtain ⟨_, _, _, _, isName, ⟨_, rfl, rfl⟩, rfl, rfl⟩ := takes_inOrder_cons.1 named
  obtain ⟨rfl, rfl⟩ := (takes_text _).1 isWord
  obtain ⟨nonempty, gapBlank, rfl⟩ := takes_lineGap.1 isGap
  obtain ⟨rfl, rfl⟩ := (takes_text typeName).1 isName
  refine ⟨indentation, between, starts, blank, nonempty, gapBlank, ?_⟩
  rw [List.append_nil]

/-- A declaration in Java: a keyword, a gap and the name. -/
theorem takes_javaDeclaration
    (takes : Takes (typeDeclaration .java typeName) previous piece rest remembered) :
    Takes (keywordAndName ["class", "interface", "record"] typeName) previous piece rest
      remembered := by
  obtain ⟨left, _, _, _, words, ⟨_, rfl, rfl⟩, rfl, rfl⟩ := takes
  rw [List.append_nil]
  exact words

/-- A declaration in C++: a keyword, a gap and the name, up to an opening brace. -/
theorem takes_cppDeclaration
    (takes : Takes (typeDeclaration .cpp typeName) previous piece rest remembered) :
    ∃ left behind,
      Takes (keywordAndName ["struct", "class"] typeName) previous left
        (behind ++ '\x7b' :: rest) [] ∧ piece = left ++ (behind ++ ['\x7b']) := by
  obtain ⟨left, _, early, _, words, behindName, rfl, rfl⟩ := takes_inOrder_cons.1 takes
  obtain ⟨space, _, _, _, _, behindSpace, rfl, rfl⟩ := takes_inOrder_cons.1 behindName
  obtain ⟨bases, _, _, _, _, brace, rfl, rfl⟩ := takes_inOrder_cons.1 behindSpace
  obtain ⟨rfl, rfl⟩ := takes_char.1 (takes_inOrder_singleton.1 brace)
  obtain ⟨_, _, _, _, _, _, _, rfl⟩ := takes_keywordAndName.1 words
  refine ⟨left, space ++ bases, ?_, ?_⟩
  · rw [List.append_assoc]
    rw [List.append_assoc, List.append_assoc] at words
    exact words
  · rw [List.append_assoc space]

/-- A declaration in JavaScript: a keyword, a gap and the name, and behind the keywords for
variables also an equals sign. -/
theorem takes_javaScriptDeclaration
    (takes : Takes (typeDeclaration .javaScript typeName) previous piece rest remembered) :
    Takes (keywordAndName ["class", "function"] typeName) previous piece rest [] ∨
      ∃ left space,
        Takes (keywordAndName ["var", "let", "const"] typeName) previous left
          (space ++ '=' :: rest) [] ∧
          (∀ c ∈ space, Text.isBlank c = true) ∧ piece = left ++ (space ++ ['=']) := by
  rcases takes with definition | binding
  · obtain ⟨left, _, _, _, words, ⟨_, rfl, rfl⟩, rfl, rfl⟩ := definition
    obtain ⟨_, _, _, _, _, _, _, rfl⟩ := takes_keywordAndName.1 words
    rw [List.append_nil]
    exact Or.inl words
  · obtain ⟨left, _, _, _, words, behindName, rfl, rfl⟩ := takes_inOrder_cons.1 binding
    obtain ⟨space, _, _, _, ⟨blank, rfl⟩, sign, rfl, rfl⟩ := takes_inOrder_cons.1 behindName
    obtain ⟨rfl, rfl⟩ := takes_char.1 (takes_inOrder_singleton.1 sign)
    obtain ⟨_, _, _, _, _, _, _, rfl⟩ := takes_keywordAndName.1 words
    rw [List.append_assoc] at words
    exact Or.inr ⟨left, space, words, blank, rfl⟩

/-! ## Where the pieces begin and end -/

/-- That a piece ends with a character that is not blank. -/
def EndsSolid (piece : Text) : Prop :=
  ∃ content c, piece = content ++ [c] ∧ Text.isBlank c = false

theorem endsSolid_append
    (front : Text) {piece : Text} (solid : EndsSolid piece) :
    EndsSolid (front ++ piece) := by
  obtain ⟨content, c, rfl, solid⟩ := solid
  exact ⟨front ++ content, c, (List.append_assoc _ _ _).symm, solid⟩

theorem endsSolid_of_takes_keywordAndName
    {keywords : List Text} (solidName : Text.hasSolidEnds typeName = true)
    (takes : Takes (keywordAndName keywords typeName) previous piece rest remembered) :
    EndsSolid piece := by
  obtain ⟨_, keyword, _, between, _, _, rfl, _⟩ := takes_keywordAndName.1 takes
  exact endsSolid_append keyword (endsSolid_append between (Text.hasSolidEnds_iff.1 solidName).2)

theorem endsSolid_of_takes_typeDeclaration
    {language : Language} (solidName : Text.hasSolidEnds typeName = true)
    (takes : Takes (typeDeclaration language typeName) previous piece rest remembered) :
    EndsSolid piece := by
  cases language with
  | python =>
      obtain ⟨indentation, between, _, _, _, _, rfl⟩ := takes_pythonDeclaration takes
      exact endsSolid_append _ (endsSolid_append _ (endsSolid_append _
        (Text.hasSolidEnds_iff.1 solidName).2))
  | javaScript =>
      rcases takes_javaScriptDeclaration takes with definition | ⟨left, space, _, _, rfl⟩
      · exact endsSolid_of_takes_keywordAndName solidName definition
      · exact endsSolid_append left ⟨space, '=', rfl, by decide⟩
  | java => exact endsSolid_of_takes_keywordAndName solidName (takes_javaDeclaration takes)
  | cpp =>
      obtain ⟨left, behind, _, rfl⟩ := takes_cppDeclaration takes
      exact endsSolid_append left ⟨behind, '\x7b', rfl, by decide⟩

/-- That a piece begins with a character that is not blank. -/
def BeginsSolid (piece : Text) : Prop :=
  ∃ c content, piece = c :: content ∧ Text.isBlank c = false

theorem beginsSolid_of_takes_keywordAndName
    {keywords : List Text} (solidKeywords : ∀ keyword ∈ keywords, BeginsSolid keyword)
    (takes : Takes (keywordAndName keywords typeName) previous piece rest remembered) :
    BeginsSolid piece := by
  obtain ⟨_, keyword, member, between, _, _, rfl, _⟩ := takes_keywordAndName.1 takes
  obtain ⟨c, content, rfl, solid⟩ := solidKeywords keyword member
  exact ⟨c, content ++ (between ++ typeName), rfl, solid⟩

theorem beginsSolid_of_head?
    {piece : Text} (solid : piece.head?.any (fun c => !Text.isBlank c) = true) :
    BeginsSolid piece := by
  cases piece with
  | nil => exact absurd solid Bool.false_ne_true
  | cons c content => exact ⟨c, content, rfl, by simpa using solid⟩

theorem beginsSolid_of_takes_typeDeclaration
    {language : Language} (braced : language = .java ∨ language = .cpp)
    (takes : Takes (typeDeclaration language typeName) previous piece rest remembered) :
    BeginsSolid piece := by
  rcases braced with rfl | rfl
  · refine beginsSolid_of_takes_keywordAndName ?_ (takes_javaDeclaration takes)
    intro keyword member
    apply beginsSolid_of_head?
    revert keyword
    decide
  · obtain ⟨left, behind, words, rfl⟩ := takes_cppDeclaration takes
    have begins : BeginsSolid left := by
      refine beginsSolid_of_takes_keywordAndName ?_ words
      intro keyword member
      apply beginsSolid_of_head?
      revert keyword
      decide
    obtain ⟨c, content, rfl, solid⟩ := begins
    exact ⟨c, content ++ (behind ++ ['\x7b']), rfl, solid⟩

/-! ## Open patterns -/

theorem isOpenEnded_typeDeclaration
    (language : Language) (typeName : Text) :
    isOpenEnded (typeDeclaration language typeName) = true := by
  cases language <;>
    simp [typeDeclaration, keywordAndName, isOpenEnded_inOrder, isOpenEnded_oneOf, isOpenEnded,
      lineBlanks, lineGap, gap, blanks, oneOrMore, Pattern.optional, char]

theorem isOpenFronted_typeDeclaration
    {language : Language} (braced : language = .java ∨ language = .cpp) (typeName : Text) :
    isOpenFronted (typeDeclaration language typeName) = true := by
  rcases braced with rfl | rfl <;>
    simp [typeDeclaration, keywordAndName, isOpenFronted_inOrder, isOpenFronted_oneOf,
      isOpenFronted, gap, blanks, oneOrMore, Pattern.optional, char]

/-! ## Trimming -/

/-- Blanks behind a solution change no declaration. -/
theorem declaresType_stripped_append
    (language : Language) (solidName : Text.hasSolidEnds typeName = true) (source : Text)
    {gap : Text} (blank : ∀ c ∈ gap, Text.isBlank c = true) :
    declaresType language (stripped language (source ++ gap)) typeName =
      declaresType language (stripped language source) typeName := by
  obtain ⟨left, leftBlank, kept⟩ :=
    Source.exists_stripComments_append blank language.commentStyle source
  rw [stripped, kept, declaresType, declaresType, stripped,
    occursIn_append leftBlank (isOpenEnded_typeDeclaration language typeName)
      (endsSolid_of_takes_typeDeclaration solidName)]

/-- Trimming the end of a solution changes no declaration. -/
theorem declaresType_stripped_trimEnd
    (language : Language) (solidName : Text.hasSolidEnds typeName = true) (source : Text) :
    declaresType language (stripped language (Text.trimEnd source)) typeName =
      declaresType language (stripped language source) typeName := by
  obtain ⟨gap, blank, whole⟩ := Text.exists_trimEnd source
  have same := declaresType_stripped_append language solidName (Text.trimEnd source) blank
  rw [← whole] at same
  exact same.symm

/-- In Java and C++, trimming the start of a solution changes no declaration either. -/
theorem declaresType_stripped_trimStart
    {language : Language} (braced : language = .java ∨ language = .cpp) (source : Text) :
    declaresType language (stripped language (Text.trimStart source)) typeName =
      declaresType language (stripped language source) typeName := by
  obtain ⟨gap, blank, whole⟩ := Text.exists_trimStart source
  have kept :=
    Source.stripComments_append_of_blank blank language.commentStyle (Text.trimStart source)
  have same : stripped language source = gap ++ stripped language (Text.trimStart source) := by
    rw [stripped, stripped, ← kept, ← whole]
  rw [same, declaresType, declaresType,
    occursIn_prepend blank (isOpenFronted_typeDeclaration braced typeName)
      (beginsSolid_of_takes_typeDeclaration braced)]

end Kata.Detection
