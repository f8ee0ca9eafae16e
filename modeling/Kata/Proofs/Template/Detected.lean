import Kata.Harness
import Kata.Proofs.Detection.Choice
import Kata.Proofs.Template.Offered
import Kata.Proofs.Template.Quiet

/-!
# Templates are detected

A template, handed in as it is, is understood as meant: its function is the one that is expected,
whatever that is called, and if it is a candidate at all, then it is found without being expected.
A template declares no node type, although its comments hold the definitions of the node types.
-/

namespace Kata.Template

open Detection (StandsAhead EndsOutside Captures)

/-! ## Marks of a template -/

/-- The marks that are neither blank nor tame stand in a template as often as in the part that
binds the function, and once more if they are brackets. -/
theorem count_stripped
    {schema : Schema} (plain : schema.HasPlainNames) {entryName : Text}
    (plainName : Name.isPlain entryName = true) (language : Language) {gap : Text}
    (blank : ∀ c ∈ gap, Text.isBlank c = true) {mark : Char}
    (wild : (Name.isIdentifierChar mark || tameMarks.contains mark) = false)
    (solid : Text.isBlank mark = false) :
    (gap ++ (head language entryName schema ++ bareBody language)).count mark =
      (frame language schema).binding.count mark + ['(', ')'].count mark := by
  have absent : ∀ {text : Text}, isTame text = true → text.count mark = 0 :=
    fun tame => List.count_eq_zero.2 (not_mem_of_isTame tame wild)
  have gapAbsent : gap.count mark = 0 := by
    refine List.count_eq_zero.2 fun member => ?_
    rw [blank mark member] at solid
    exact Bool.noConfusion solid
  rw [head]
  simp only [List.count_append, List.count_cons, List.count_nil, gapAbsent,
    absent (isTame_opening language schema), absent (isTame_of_isPlain plainName),
    absent (isTame_parameters plain language), absent (isTame_closing language schema),
    absent (isTame_bareBody language)]
  omega

/-! ## The name of the function -/

theorem endsOutside_opening
    (language : Language) (schema : Schema) :
    EndsOutside (frame language schema).opening := by
  have blank : EndsOutside " ".toList := ⟨[], ' ', by simp, by decide⟩
  unfold frame
  cases language with
  | python => exact ⟨"class Solution:\n    def", ' ', by simp, by decide⟩
  | javaScript => exact ⟨"var", ' ', by simp, by decide⟩
  | java => exact Detection.endsOutside_append _ blank
  | cpp => exact Detection.endsOutside_append _ blank

/-- The name stands ahead of a mark that binds it or opens its parameters. -/
theorem standsAhead_entryName
    {schema : Schema} {entryName : Text} (identifier : Name.isIdentifier entryName = true)
    (language : Language) (gap : Text) {mark : Char}
    (marked :
      ∃ space behind, (∀ c ∈ space, Text.isBlank c = true) ∧
        (frame language schema).binding ++
            '(' :: (Text.joinWith ", " (parameters language schema) ++
              ')' :: (frame language schema).closing) =
          space ++ mark :: behind) :
    StandsAhead mark (gap ++ (head language entryName schema ++ bareBody language))
      (gap ++ (frame language schema).opening) entryName := by
  obtain ⟨space, behind, spaceBlank, marked⟩ := marked
  refine ⟨⟨space, behind ++ bareBody language, spaceBlank, ?_⟩,
    Detection.endsOutside_append gap (endsOutside_opening language schema),
    Name.ne_nil_of_isIdentifier identifier, ?_⟩
  · rw [head, marked]
    simp only [List.append_assoc, List.cons_append]
  · intro c member
    have word := isWord_of_isPlain (Name.isPlain_of_isIdentifier identifier) c member
    rw [Pattern.isDollarName, word]
    rfl

theorem binding_javaScript
    (schema : Schema) :
    (frame .javaScript schema).binding = " = function" :=
  rfl

section Detected

variable {schema : Schema} (plain : schema.HasPlainNames)
variable {entryName : Text} (identifier : Name.isIdentifier entryName = true)
variable {gap : Text} (blank : ∀ c ∈ gap, Text.isBlank c = true)
include plain identifier blank

/-- Where nothing stands between the name and the bracket, it is the only name ahead of one. -/
theorem eq_entryName_of_bracket
    {language : Language} (unbound : (frame language schema).binding = []) {ahead name : Text}
    (stands :
      StandsAhead '(' (gap ++ (head language entryName schema ++ bareBody language)) ahead name) :
    name = entryName := by
  have once :
      (gap ++ (head language entryName schema ++ bareBody language)).count '(' = 1 := by
    rw [count_stripped plain (Name.isPlain_of_isIdentifier identifier) language blank (by decide)
      (by decide), unbound]
    decide
  refine (stands.unique once (standsAhead_entryName identifier language gap ?_)).2
  rw [unbound]
  exact ⟨[], _, List.forall_mem_nil _, rfl⟩

/-- In JavaScript the name is the only one ahead of an equals sign. -/
theorem eq_entryName_of_sign
    {ahead name : Text}
    (stands :
      StandsAhead '=' (gap ++ (head .javaScript entryName schema ++ bareBody .javaScript)) ahead
        name) :
    name = entryName := by
  have binding : (frame .javaScript schema).binding = [' '] ++ '=' :: " function" := by
    rw [binding_javaScript]
    simp
  have once :
      (gap ++ (head .javaScript entryName schema ++ bareBody .javaScript)).count '=' = 1 := by
    rw [count_stripped plain (Name.isPlain_of_isIdentifier identifier) .javaScript blank
      (by decide) (by decide), binding]
    decide
  refine (stands.unique once (standsAhead_entryName identifier .javaScript gap ?_)).2
  rw [binding, List.append_assoc, List.cons_append]
  exact ⟨[' '], _, List.forall_mem_singleton.2 (by decide), rfl⟩

/-- In JavaScript the word for functions is the only name ahead of a bracket, and it stands behind
an equals sign. -/
theorem eq_of_bracket_javaScript
    {ahead name : Text}
    (stands :
      StandsAhead '(' (gap ++ (head .javaScript entryName schema ++ bareBody .javaScript)) ahead
        name) :
    ahead = (gap ++ ("var ".toList ++ (entryName ++ " ".toList))) ++ '=' :: [' '] := by
  have binding : (frame .javaScript schema).binding = " =".toList ++ " function".toList := by
    rw [binding_javaScript]
    simp
  have opening : (frame .javaScript schema).opening = "var ".toList := rfl
  have once :
      (gap ++ (head .javaScript entryName schema ++ bareBody .javaScript)).count '(' = 1 := by
    rw [count_stripped plain (Name.isPlain_of_isIdentifier identifier) .javaScript blank
      (by decide) (by decide), binding_javaScript]
    decide
  have word :
      StandsAhead '(' (gap ++ (head .javaScript entryName schema ++ bareBody .javaScript))
        ((gap ++ ("var ".toList ++ (entryName ++ " ".toList))) ++ '=' :: [' ']) "function" := by
    have whole :
        gap ++ (head .javaScript entryName schema ++ bareBody .javaScript) =
          ((gap ++ ("var ".toList ++ (entryName ++ " ".toList))) ++ '=' :: [' ']) ++
            ("function".toList ++ ([] ++ '(' ::
              (Text.joinWith ", " (parameters .javaScript schema) ++
                ')' :: ((frame .javaScript schema).closing ++ bareBody .javaScript)))) := by
      rw [head, binding, opening]
      simp
    exact ⟨⟨[], _, List.forall_mem_nil _, whole⟩,
      Detection.endsOutside_append _ ⟨['='], ' ', rfl, by decide⟩, by decide,
      List.all_eq_true.1 (by decide)⟩
  exact (stands.unique once word).1

end Detected

/-- A text that ends with an equals sign and a blank has no longer end without the sign. -/
theorem eq_blank_of_append
    {front left ahead : Text} (noSign : '=' ∉ left) (nonempty : left ≠ [])
    (same : front ++ left = ahead ++ '=' :: [' ']) :
    left = [' '] ∧ front = ahead ++ ['='] := by
  rcases List.append_eq_append_iff.1 same with ⟨between, _, leftEqual⟩ | ⟨between, frontEqual, ends⟩
  · refine absurd ?_ noSign
    rw [leftEqual]
    exact List.mem_append_right between List.mem_cons_self
  · cases between with
    | nil =>
        refine absurd ?_ noSign
        rw [List.nil_append] at ends
        rw [← ends]
        exact List.mem_cons_self
    | cons c between =>
        rw [List.cons_append, List.cons.injEq] at ends
        obtain ⟨rfl, ends⟩ := ends
        cases between with
        | nil => exact ⟨ends.symm, frontEqual⟩
        | cons d between =>
            rw [List.cons_append, List.cons.injEq] at ends
            exact absurd (List.append_eq_nil_iff.1 ends.2.symm).2 nonempty

section Detected

variable {schema : Schema} (plain : schema.HasPlainNames)
variable {entryName : Text} (identifier : Name.isIdentifier entryName = true)
variable {gap : Text} (blank : ∀ c ∈ gap, Text.isBlank c = true)
include plain identifier blank

/-- A JavaScript template has neither dots nor dollar signs. -/
theorem not_mem_javaScript
    {mark : Char} (isMark : mark = '.' ∨ mark = '$') :
    mark ∉ gap ++ (head .javaScript entryName schema ++ bareBody .javaScript) := by
  have facts :
      (Name.isIdentifierChar mark || tameMarks.contains mark) = false ∧
        Text.isBlank mark = false ∧ " = function".toList.count mark + ['(', ')'].count mark = 0 := by
    rcases isMark with rfl | rfl <;> decide
  obtain ⟨wild, solid, none⟩ := facts
  have count :=
    count_stripped plain (Name.isPlain_of_isIdentifier identifier) .javaScript blank wild solid
  rw [binding_javaScript, none] at count
  exact List.count_eq_zero.1 count

theorem not_captures_exportedName
    {name : Text} :
    ¬Captures Detection.exportedName
      (gap ++ (head .javaScript entryName schema ++ bareBody .javaScript)) name := by
  intro captures
  exact not_mem_javaScript plain identifier blank (Or.inl rfl)
    (Detection.dot_mem_of_captures_exportedName captures)

/-- The word for functions has no name behind it. -/
theorem not_captures_namedFunction
    {name : Text} :
    ¬Captures Detection.namedFunction
      (gap ++ (head .javaScript entryName schema ++ bareBody .javaScript)) name := by
  intro captures
  rcases Detection.exists_standsAhead_namedFunction captures with
    dollar | ⟨front, middle, nonempty, middleChars, stands⟩
  · exact not_mem_javaScript plain identifier blank (Or.inr rfl) dollar
  · have noSign : '=' ∉ "function".toList ++ middle := by
      rw [List.mem_append, not_or]
      refine ⟨by decide, fun member => ?_⟩
      rcases middleChars '=' member with isBlank | isStar
      · exact absurd isBlank (by decide)
      · exact absurd isStar (by decide)
    have ends :=
      eq_blank_of_append noSign (fun empty => nonempty (List.append_eq_nil_iff.1 empty).2)
        (eq_of_bracket_javaScript plain identifier blank stands)
    have long := congrArg List.length ends.1
    rw [List.length_append] at long
    have wordLength : "function".toList.length = 8 := by decide
    rw [wordLength, List.length_singleton] at long
    omega

/-- The only line with a bracket is no indented one. -/
theorem not_captures_classMethod
    {name : Text} :
    ¬Captures Detection.classMethod
      (gap ++ (head .javaScript entryName schema ++ bareBody .javaScript)) name := by
  intro captures
  obtain ⟨front, left, starts, nonempty, noSign, stands⟩ :=
    Detection.exists_standsAhead_classMethod captures
  have ends :=
    eq_blank_of_append noSign nonempty (eq_of_bracket_javaScript plain identifier blank stands)
  rw [ends.2, Pattern.lastOf_append, Pattern.lastOf_cons, Pattern.lastOf_nil] at starts
  exact absurd starts (by decide)

/-- A single pattern whose names stand ahead of the bracket offers no name but that of the
function. -/
theorem eq_entryName_of_mem_namesInOrder
    {language : Language} (unbound : (frame language schema).binding = []) {p : Pattern} {name : Text}
    (stands :
      Captures p (gap ++ (head language entryName schema ++ bareBody language)) name →
        ∃ ahead,
          StandsAhead '(' (gap ++ (head language entryName schema ++ bareBody language)) ahead name)
    (member :
      name ∈ Detection.namesInOrder [p]
        (gap ++ (head language entryName schema ++ bareBody language))) :
    name = entryName := by
  obtain ⟨q, patternMember, captures⟩ := Detection.captures_of_mem_namesInOrder member
  obtain rfl := List.mem_singleton.1 patternMember
  obtain ⟨ahead, standsAhead⟩ := stands captures
  exact eq_entryName_of_bracket plain identifier blank unbound standsAhead

/-- A template offers no name but that of its function. -/
theorem eq_entryName_of_mem_candidateNames
    {language : Language} {name : Text}
    (member :
      name ∈ Detection.candidateNames language
        (gap ++ (head language entryName schema ++ bareBody language))) :
    name = entryName := by
  cases language with
  | python =>
      exact eq_entryName_of_mem_namesInOrder plain identifier blank rfl
        Detection.exists_standsAhead_defStatement member
  | javaScript =>
      rcases List.mem_append.1 member with exported | defined
      · obtain ⟨p, patternMember, captures⟩ := Detection.captures_of_mem_namesInOrder exported
        obtain rfl := List.mem_singleton.1 patternMember
        exact absurd captures (not_captures_exportedName plain identifier blank)
      · obtain ⟨p, patternMember, captures⟩ := Detection.captures_of_mem_namesInOrder defined
        rw [List.mem_cons, List.mem_cons, List.mem_singleton] at patternMember
        rcases patternMember with rfl | rfl | rfl
        · exact absurd captures (not_captures_namedFunction plain identifier blank)
        · obtain ⟨ahead, stands⟩ := Detection.exists_standsAhead_boundFunction captures
          exact eq_entryName_of_sign plain identifier blank stands
        · exact absurd captures (not_captures_classMethod plain identifier blank)
  | java =>
      exact eq_entryName_of_mem_namesInOrder plain identifier blank rfl
        Detection.exists_standsAhead_typedDefinition member
  | cpp =>
      exact eq_entryName_of_mem_namesInOrder plain identifier blank rfl
        Detection.exists_standsAhead_typedDefinition member

end Detected

/-! ## Templates as solutions -/

section Render

variable {schema : Schema} (plain : schema.HasPlainNames)
variable {entryName : Text} (identifier : Name.isIdentifier entryName = true)
include plain identifier

/-- The function of a template is detected under the name that it was given. -/
theorem entryName_render
    (language : Language) (topic : Topic) :
    Detection.entryName language (render language entryName schema topic) entryName =
      entryName := by
  obtain ⟨gap, blank, stripped⟩ :=
    exists_stripped_render plain (Name.isPlain_of_isIdentifier identifier) language topic
  rw [Detection.entryName, stripped]
  exact Detection.pick_of_forall_eq fun name member =>
    eq_entryName_of_mem_candidateNames plain identifier blank member

/-- If its name can be that of a function to be written, then the function of a template is
detected whatever name was expected. -/
theorem entryName_render_of_isCandidate
    (candidate : Detection.isCandidate entryName = true) (language : Language) (topic : Topic)
    (expected : Text) :
    Detection.entryName language (render language entryName schema topic) expected =
      entryName := by
  obtain ⟨gap, blank, stripped⟩ :=
    exists_stripped_render plain (Name.isPlain_of_isIdentifier identifier) language topic
  rw [Detection.entryName, stripped]
  apply Detection.pick_of_isCandidate candidate
  · exact candidateNames_ne_nil identifier plain language blank
  · exact fun name member => eq_entryName_of_mem_candidateNames plain identifier blank member

/-- A template declares no node type unless its function is named like one. -/
theorem declaresType_render
    (language : Language) (topic : Topic) {kind : Structure} (different : entryName ≠ kind.typeName) :
    Detection.declaresType language
      (Detection.stripped language (render language entryName schema topic)) kind.typeName =
        false := by
  have plainName := Name.isPlain_of_isIdentifier identifier
  obtain ⟨gap, blank, stripped⟩ := exists_stripped_render plain plainName language topic
  rw [stripped]
  refine Detection.declaresType_eq_false (isQuiet_head plain plainName language blank) ?_
  rintro rfl ahead stands
  exact different (eq_entryName_of_sign plain identifier blank stands).symm

end Render

end Kata.Template

namespace Kata.Harness

/-- The starter template of a problem is detected and declares no node type, if the name of the
function is an identifier and not that of a node type; unless the name is never that of a function
to be written, it is found in the template whatever else was expected. Every name that a title
suggests is an identifier. -/
theorem template_is_detected_and_inert :
    (∀ title, Name.isIdentifier (Name.ofTitle title) = true) ∧
      ∀ (language : Language) (problem : Problem),
        Name.isIdentifier problem.entryName = true →
          (∀ kind : Structure, problem.entryName ≠ kind.typeName) →
            entryNameIn language problem (template language problem) = problem.entryName ∧
              (Detection.isCandidate problem.entryName = true →
                ∀ expected : Text,
                  Detection.entryName language (template language problem) expected =
                    problem.entryName) ∧
              ∀ kind : Structure,
                Detection.declaresType language
                  (Detection.stripped language (template language problem)) kind.typeName =
                    false := by
  refine ⟨Name.isIdentifier_ofTitle, fun language problem identifier different => ?_⟩
  have plain := Schema.hasPlainNames_ofProblem problem
  refine ⟨?_, fun candidate expected => ?_, fun kind => ?_⟩
  · exact Template.entryName_render plain identifier language problem.topic
  · exact Template.entryName_render_of_isCandidate plain identifier candidate language
      problem.topic expected
  · exact Template.declaresType_render plain identifier language problem.topic (different kind)

/-- A problem about linked lists whose function has a name that is never a candidate. -/
def mainOfLists : Problem :=
  { Problem.titled "Main" with functionName? := some "main", topic := .linkedList }

/-- In C++ for a function that is never a candidate, and in JavaScript for one that is found where
another is expected. -/
theorem template_is_detected_and_inert_mainOfLists :
    (Name.isIdentifier mainOfLists.entryName = true ∧
        ∀ kind : Structure, mainOfLists.entryName ≠ kind.typeName) ∧
      entryNameIn .cpp mainOfLists (template .cpp mainOfLists) = "main".toList ∧
      (∀ kind : Structure,
        Detection.declaresType .cpp (Detection.stripped .cpp (template .cpp mainOfLists))
          kind.typeName = false) ∧
      Detection.entryName .javaScript (template .javaScript (Problem.titled "Two Sum"))
          "threeSum" = "twoSum".toList := by
  have named : mainOfLists.entryName = "main".toList := by decide
  have identifier : Name.isIdentifier mainOfLists.entryName = true := by decide
  have different : ∀ kind : Structure, mainOfLists.entryName ≠ kind.typeName := by
    intro kind
    cases kind <;> decide
  obtain ⟨detected, _, inert⟩ :=
    template_is_detected_and_inert.2 .cpp mainOfLists identifier different
  have titled : (Problem.titled "Two Sum").entryName = "twoSum".toList := by decide
  have found :=
    (template_is_detected_and_inert.2 .javaScript (Problem.titled "Two Sum") (by decide)
      (fun kind => by cases kind <;> decide)).2.1 (by decide) "threeSum"
  exact ⟨⟨identifier, different⟩, detected.trans named, inert, found.trans titled⟩

end Kata.Harness
