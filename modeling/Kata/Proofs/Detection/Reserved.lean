import Mathlib.Data.List.Infix
import Kata.Proofs.Detection.Choice
import Kata.Proofs.Template.Detected

/-!
# Reserved words and constructors

The patterns for functions look at the shape of a text only, so that a keyword or a constructor may
be captured for a function. What keeps it from being found is that it is never a candidate, or that
another name leads those spelled alike. In Java and C++ a constructor is not even captured if it
stands bare, without a word ahead of it.
-/

namespace Kata.Detection

open Pattern

/-! ## Names that are no functions -/

/-- The reserved words of a language. -/
def reservedWords : Language → List Text
  | .python =>
    (["False", "None", "True", "and", "as", "assert", "async", "await", "break", "class",
      "continue", "def", "del", "elif", "else", "except", "finally", "for", "from", "global", "if",
      "import", "in", "is", "lambda", "nonlocal", "not", "or", "pass", "raise", "return", "try",
      "while", "with", "yield"] : List String).map String.toList
  | .javaScript =>
    (["await", "break", "case", "catch", "class", "const", "continue", "debugger", "default",
      "delete", "do", "else", "enum", "export", "extends", "false", "finally", "for", "function",
      "if", "import", "in", "instanceof", "new", "null", "return", "super", "switch", "this",
      "throw", "true", "try", "typeof", "var", "void", "while", "with", "yield"] :
      List String).map String.toList
  | .java =>
    (["abstract", "assert", "boolean", "break", "byte", "case", "catch", "char", "class", "const",
      "continue", "default", "do", "double", "else", "enum", "extends", "final", "finally", "float",
      "for", "goto", "if", "implements", "import", "instanceof", "int", "interface", "long",
      "native", "new", "package", "private", "protected", "public", "return", "short", "static",
      "strictfp", "super", "switch", "synchronized", "this", "throw", "throws", "transient", "try",
      "void", "volatile", "while", "_", "true", "false", "null"] : List String).map String.toList
  | .cpp =>
    (["alignas", "alignof", "and", "and_eq", "asm", "auto", "bitand", "bitor", "bool", "break",
      "case", "catch", "char", "char8_t", "char16_t", "char32_t", "class", "compl", "concept",
      "const", "consteval", "constexpr", "constinit", "const_cast", "continue", "co_await",
      "co_return", "co_yield", "decltype", "default", "delete", "do", "double", "dynamic_cast",
      "else", "enum", "explicit", "export", "extern", "false", "float", "for", "friend", "goto",
      "if", "inline", "int", "long", "mutable", "namespace", "new", "noexcept", "not", "not_eq",
      "nullptr", "operator", "or", "or_eq", "private", "protected", "public", "register",
      "reinterpret_cast", "requires", "return", "short", "signed", "sizeof", "static",
      "static_assert", "static_cast", "struct", "switch", "template", "this", "thread_local",
      "throw", "true", "try", "typedef", "typeid", "typename", "union", "unsigned", "using",
      "virtual", "void", "volatile", "wchar_t", "while", "xor", "xor_eq"] :
      List String).map String.toList

/-- Whether a text without comments declares a class or a struct. In JavaScript a type may also be
declared by a function or a variable, which is no class. -/
def declaresClass (language : Language) (stripped className : Text) : Bool :=
  match language with
  | .javaScript => (seq (keywordAndName ["class"] className) wordEdge).occursIn stripped
  | .python | .java | .cpp => declaresType language stripped className

/-- That a name is neither a reserved word of a language nor that of a class which a text without
comments declares. -/
def NamesFunction (language : Language) (stripped name : Text) : Prop :=
  name ∉ reservedWords language ∧ declaresClass language stripped name = false

/-! ## Names that can be found -/

/-- A name is found against an expectation in some solution just if it can be that of the function
to be written. -/
theorem exists_found_iff
    (language : Language) {name : Text} (identifier : Name.isIdentifier name = true) :
    (∃ source expected, entryName language source expected = name ∧ name ≠ expected) ↔
      isCandidate name = true := by
  constructor
  · rintro ⟨source, expected, rfl, unexpected⟩
    have candidate := mem_of_mem_leading (pick_mem_leading_of_ne unexpected)
    exact (mem_candidatesOf.1 candidate).2
  · intro candidate
    -- The template for a function of that name offers no other.
    have plain : (Schema.mk [] .int).HasPlainNames :=
      fun param member => absurd member List.not_mem_nil
    obtain ⟨expected, _, absent⟩ := exists_spelled_alike [name] name
    refine ⟨Template.render language name ⟨[], .int⟩ .unset, expected,
      Template.entryName_render_of_isCandidate plain identifier candidate language .unset expected,
      ?_⟩
    rintro rfl
    exact absent List.mem_cons_self

theorem isIdentifier_of_mem_reservedWords
    (language : Language) :
    ∀ word ∈ reservedWords language, Name.isIdentifier word = true := by
  cases language <;> decide

/-! ## Bare constructors -/

/-- That a name stands bare in a text: nothing like a type stands ahead of it wherever it stands
ahead of a bracket. -/
def StandsBare (text name : Text) : Prop :=
  ∀ front gap behind, (∀ c ∈ gap, Text.isBlank c = true) →
    text = front ++ (name ++ (gap ++ '(' :: behind)) → ¬EndsLikeType front

/-- Whether a text ends like a type. -/
def endsLikeType (ahead : Text) : Bool :=
  ahead.tails.any fun behind =>
    match behind with
    | [] => false
    | c :: gap =>
      gap.all Text.isBlank && (isTypeTail c && !gap.isEmpty || c == '*' || c == '&')

theorem endsLikeType_iff
    (ahead : Text) :
    endsLikeType ahead = true ↔ EndsLikeType ahead := by
  have atLast :
      ∀ (c : Char) (gap : Text),
        (gap.all Text.isBlank && (isTypeTail c && !gap.isEmpty || c == '*' || c == '&')) = true ↔
          (∀ d ∈ gap, Text.isBlank d = true) ∧
            (isTypeTail c = true ∧ gap ≠ [] ∨ c = '*' ∨ c = '&') := by
    intro c gap
    simp only [Bool.and_eq_true, Bool.or_eq_true, List.all_eq_true, Bool.not_eq_true',
      List.isEmpty_eq_false_iff, beq_iff_eq, or_assoc]
  rw [endsLikeType, List.any_eq_true]
  constructor
  · rintro ⟨behind, member, ends⟩
    obtain ⟨front, whole⟩ := (List.mem_tails _ _).1 member
    cases behind with
    | nil => exact absurd ends Bool.false_ne_true
    | cons c gap => exact ⟨front, c, gap, whole.symm, (atLast c gap).1 ends⟩
  · rintro ⟨front, c, gap, rfl, ends⟩
    exact ⟨c :: gap, (List.mem_tails _ _).2 (List.suffix_append _ _), (atLast c gap).2 ends⟩

/-- Without blanks ahead a text begins with a bracket just if only blanks stand ahead of one. -/
theorem head?_trimStart_eq_iff
    (text : Text) :
    (Text.trimStart text).head? = some '(' ↔
      ∃ gap behind, (∀ c ∈ gap, Text.isBlank c = true) ∧ text = gap ++ '(' :: behind := by
  constructor
  · intro first
    refine ⟨text.takeWhile Text.isBlank, (Text.trimStart text).tail,
      fun c member => List.mem_takeWhile_imp member, ?_⟩
    rw [List.cons_head?_tail first]
    exact List.takeWhile_append_dropWhile.symm
  · rintro ⟨gap, behind, blank, rfl⟩
    rw [Text.trimStart, List.dropWhile_append_of_pos blank, List.dropWhile_cons_of_neg (by decide)]
    rfl

/-- Whether something like a type stands ahead of a place in a text, and a name and a bracket behind
it. -/
def standsTypedAt (text name : Text) (place : Nat) : Bool :=
  name.isPrefixOf (text.drop place) &&
    (Text.trimStart ((text.drop place).drop name.length)).head? == some '(' &&
      endsLikeType (text.take place)

/-- Whether a name stands bare is seen from the finitely many places of a text. -/
theorem standsBare_iff
    (text name : Text) :
    ((List.range (text.length + 1)).all fun place => !standsTypedAt text name place) = true ↔
      StandsBare text name := by
  simp only [List.all_eq_true, List.mem_range, Bool.not_eq_true', standsTypedAt,
    ← Bool.not_eq_true, Bool.and_eq_true, List.isPrefixOf_iff_prefix, beq_iff_eq, endsLikeType_iff]
  constructor
  · rintro bare front gap behind blank rfl ends
    refine bare front.length (by rw [List.length_append]; omega) ⟨⟨?_, ?_⟩, ?_⟩
    · rw [List.drop_left]
      exact List.prefix_append _ _
    · rw [List.drop_left, List.drop_left, head?_trimStart_eq_iff]
      exact ⟨gap, behind, blank, rfl⟩
    · rw [List.take_left]
      exact ends
  · rintro bare place _ ⟨⟨⟨onward, rest⟩, bracket⟩, ends⟩
    rw [← rest, List.drop_left, head?_trimStart_eq_iff] at bracket
    obtain ⟨gap, behind, blank, rfl⟩ := bracket
    refine bare (text.take place) gap behind blank ?_ ends
    rw [rest, List.take_append_drop]

-- The places are searched as a list: a search below a bound nests as deep as the text is long.
instance (text name : Text) : Decidable (StandsBare text name) :=
  decidable_of_iff _ (standsBare_iff text name)

/-- In Java and C++ a name that stands bare is not captured. -/
theorem not_captured_of_standsBare
    {language : Language} (typed : language = .java ∨ language = .cpp) {text name : Text}
    (bare : StandsBare text name) :
    name ∉ candidateNames language text := by
  intro member
  have offered : name ∈ namesInOrder [typedDefinition] text := by
    rcases typed with rfl | rfl <;> exact member
  obtain ⟨p, patternMember, captures⟩ := captures_of_mem_namesInOrder offered
  obtain rfl := List.mem_singleton.1 patternMember
  obtain ⟨ahead, ends, stands⟩ := exists_standsBehindType captures
  obtain ⟨gap, behind, blank, whole⟩ := stands.whole
  exact bare ahead gap behind blank whole ends

/-! ## Keywords and constructors in solutions -/

/-- In a solution, every name that is found against an expectation is that of a function just if
this holds of the leading candidates. An identifier, as all reserved words are and the names of
constructors in Python and JavaScript, is never found against an expectation just if it is never a
candidate; and in Java and C++ the name of a constructor that stands bare is never found so. -/
theorem found_names_are_functions_iff
    (language : Language) :
    (∀ source : Text,
      (∀ expected : Text,
        entryName language source expected ≠ expected →
          NamesFunction language (stripped language source)
            (entryName language source expected)) ↔
        ∀ name ∈ leading (candidatesOf (candidateNames language (stripped language source))),
          NamesFunction language (stripped language source) name) ∧
      (∀ name : Text, Name.isIdentifier name = true →
        ((∀ source expected : Text, entryName language source expected = name → name = expected) ↔
          isCandidate name = false)) ∧
      (∀ word ∈ reservedWords language, Name.isIdentifier word = true) ∧
      (language = .java ∨ language = .cpp →
        ∀ source expected name : Text,
          StandsBare (stripped language source) name →
            entryName language source expected = name → name = expected) := by
  refine ⟨fun source => forall_pick_iff _ _, fun name identifier => ?_,
    isIdentifier_of_mem_reservedWords language, ?_⟩
  · rw [← Bool.not_eq_true, ← exists_found_iff language identifier]
    simp only [not_exists, not_and, ne_eq, not_not]
  · rintro typed source expected name bare rfl
    by_contra unexpected
    have candidate := mem_of_mem_leading (pick_mem_leading_of_ne unexpected)
    exact not_captured_of_standsBare typed bare (mem_candidatesOf.1 candidate).1

/-- A class with a constructor that stands bare. -/
def bareCounter : Text :=
  "class Counter \x7b\n    Counter() \x7b\n    \x7d\n\n    int next() \x7b\n        return 1;\n    \x7d\n\x7d\n"

/-- The method is found and never the constructor. -/
theorem found_names_are_functions_iff_bareCounter :
    StandsBare (stripped .java bareCounter) "Counter" ∧
      entryName .java bareCounter "advance" = "next".toList ∧
        ∀ expected : Text,
          entryName .java bareCounter expected = "Counter".toList →
            "Counter".toList = expected := by
  have uncommented : stripped .java bareCounter = bareCounter := by
    decide +kernel
  have bare : StandsBare (stripped .java bareCounter) "Counter" := by
    rw [uncommented]
    decide +kernel
  obtain ⟨_, _, _, neverFound⟩ := found_names_are_functions_iff .java
  exact ⟨bare, by decide +kernel,
    fun expected => neverFound (Or.inl rfl) bareCounter expected "Counter" bare⟩

/-- A class with a public constructor. -/
def counter : Text :=
  "class Counter \x7b\n    public Counter(int start) \x7b\n    \x7d\n\n    public int next() \x7b\n        return 1;\n    \x7d\n\x7d\n"

/-- A class without a name that is exported. -/
def exportedClass : Text :=
  "module.exports = class \x7b\n    next() \x7b\n        return 1;\n    \x7d\n\x7d;\n"

/-- The constructor is found for a function, and so is the keyword, although there is a method. -/
theorem constructor_and_keyword_are_found :
    (entryName .java counter "advance" = "Counter".toList ∧
        ¬NamesFunction .java (stripped .java counter) "Counter") ∧
      entryName .javaScript exportedClass "advance" = "class".toList ∧
        ¬NamesFunction .javaScript (stripped .javaScript exportedClass) "class" := by
  have declared : declaresClass .java (stripped .java counter) "Counter" = true := by
    decide +kernel
  have reserved : "class".toList ∈ reservedWords .javaScript := by
    decide +kernel
  have found :
      entryName .java counter "advance" = "Counter".toList ∧
        entryName .javaScript exportedClass "advance" = "class".toList := by
    decide +kernel
  refine ⟨⟨found.1, fun names => ?_⟩, found.2, fun names => names.1 reserved⟩
  rw [names.2] at declared
  exact Bool.false_ne_true declared

end Kata.Detection
