import Mathlib.Data.List.Basic
import Kata.Program.Compose
import Kata.Proofs.Detection.Types
import Kata.Proofs.Source.Blocks

/-!
# Definitions of structures in a program

Whether a program defines a structure is decided by what the solution declares as it was handed
in, but the program holds the solution without the parts that are removed from it. The definition
is there exactly once or not at all, and it is there exactly when it is missing from the solution
in the program, if and only if nothing that is removed makes the difference.
-/

namespace Kata.Program

open Helper (Fragment Placement Plan)

/-! ## The solution in a program -/

/-- A solution without the parts that are removed from it: blocks that run it as a program of its
own, imports, and the word that makes a type public. -/
def keptText (language : Language) (source : Text) : Text :=
  match language with
  | .python => Source.stripIndentedBlocks ("if __name__".toList.isPrefixOf ·) source
  | .javaScript => source
  | .java => Java.withoutPublicTypes (Source.hoistLines Java.isHoisted source).2
  | .cpp => Cpp.withoutMain source

/-- The solution as it stands in a program. -/
def userText (language : Language) (source : Text) : Text :=
  match language with
  | .python => Python.userText source
  | .javaScript => JavaScript.userText source
  | .java => Java.userText source
  | .cpp => Cpp.userText source

/-- Whether a segment is the solution. -/
def Segment.isUser : Segment → Bool
  | .user _ => true
  | _ => false

/-- The code for the structures in a language. -/
def library : Language → Kata.Fragment.Library
  | .python => Fragment.Python.library
  | .javaScript => Fragment.JavaScript.library
  | .java => Fragment.Java.library
  | .cpp => Fragment.Cpp.library

/-- The definition of a structure as a segment. -/
def definitionSegment (language : Language) (kind : Structure) : Segment :=
  helperSegment (library language) (.definition kind)

/-! ## Planned definitions -/

/-- How many of the plans put the definition of a structure in a place. -/
def plannedCount (plans : List Plan) (kind : Structure) (placement : Placement) : Nat :=
  plans.countP fun plan => plan.kind == kind && plan.definition == placement

theorem count_fragmentsAt
    (plans : List Plan) (kind : Structure) (placement : Placement) :
    (Helper.fragmentsAt plans placement).count (.definition kind) =
      plannedCount plans kind placement := by
  induction plans with
  | nil => rfl
  | cons plan plans inductionHypothesis =>
      have first :
          (plan.fragmentsAt placement).count (.definition kind) =
            if plan.kind == kind && plan.definition == placement then 1 else 0 := by
        rw [Plan.fragmentsAt, List.count_append]
        by_cases here : plan.definition = placement <;> by_cases same : plan.kind = kind <;>
          by_cases functions : plan.functions = placement <;>
            simp [here, same, functions]
      rw [Helper.fragmentsAt, List.flatMap_cons, List.count_append, first, plannedCount,
        List.countP_cons, Nat.add_comm]
      exact congrArg (· + _) inductionHypothesis

theorem kind_make
    (kind : Structure) (isDeclared isNamed : Bool) :
    (Plan.make kind isDeclared isNamed).kind = kind := by
  cases isDeclared <;> cases isNamed <;> rfl

/-- The definition of a structure that the solution declares is omitted, and no other. -/
theorem countP_make
    (kind : Structure) (isDeclared isNamed : Bool) :
    [Plan.make kind isDeclared isNamed].countP (fun plan => plan.definition == .beforeUser) +
        [Plan.make kind isDeclared isNamed].countP (fun plan => plan.definition == .afterUser) =
      if isDeclared then 0 else 1 := by
  cases isDeclared <;> cases isNamed <;> rfl

theorem kind_of_plan?
    {language : Language} {request : Request} {kind : Structure} {plan : Plan}
    (planned : Helper.plan? language request kind = some plan) :
    plan.kind = kind := by
  rw [Helper.plan?] at planned
  split at planned
  · injection planned with same
    rw [← same, kind_make]
  · exact absurd planned (by simp)

/-- There is at most one plan for a structure. -/
theorem filter_plans
    (language : Language) (request : Request) (kind : Structure) :
    (Helper.plans language request).filter (fun plan => plan.kind == kind) =
      (Helper.plan? language request kind).toList := by
  have own :
      ∀ other : Structure,
        (Helper.plan? language request other).toList.filter (fun plan => plan.kind == kind) =
          if other = kind then (Helper.plan? language request other).toList else [] := by
    intro other
    cases planned : Helper.plan? language request other with
    | none => simp
    | some plan =>
        rw [Option.toList_some, List.filter_cons, kind_of_plan? planned]
        by_cases same : other = kind <;> simp [same]
  have every :
      Helper.plans language request =
        (Helper.plan? language request .linkedList).toList ++
          ((Helper.plan? language request .binaryTree).toList ++
            (Helper.plan? language request .graph).toList) := by
    rw [Helper.plans, List.filterMap_eq_flatMap_toList, Structure.every, List.flatMap_cons,
      List.flatMap_cons, List.flatMap_singleton]
  rw [every, List.filter_append, List.filter_append, own, own, own]
  cases kind <;> simp

theorem plannedCount_plans
    (language : Language) (request : Request) (kind : Structure) (placement : Placement) :
    plannedCount (Helper.plans language request) kind placement =
      (Helper.plan? language request kind).toList.countP fun plan =>
        plan.definition == placement := by
  rw [plannedCount, ← filter_plans, List.countP_filter]
  apply List.countP_congr
  intro plan _
  rw [Bool.and_comm]

/-! ## Segments -/

/-- Line feeds between the halves are no definitions. -/
theorem count_flatMap_of_count
    {language : Language} {kind : Structure} {place : Fragment → List Segment}
    (each :
      ∀ fragment,
        (place fragment).count (definitionSegment language kind) =
          if fragment = .definition kind then 1 else 0)
    (fragments : List Fragment) :
    (fragments.flatMap place).count (definitionSegment language kind) =
      fragments.count (.definition kind) := by
  induction fragments with
  | nil => rfl
  | cons fragment fragments inductionHypothesis =>
      rw [List.flatMap_cons, List.count_append, each, inductionHypothesis, List.count_cons,
        Nat.add_comm]
      simp only [beq_iff_eq]

theorem definitionSegment_inj
    (language : Language) {kind : Structure} {fragment : Fragment} :
    helperSegment (library language) fragment = definitionSegment language kind ↔
      fragment = .definition kind := by
  constructor
  · intro same
    cases fragment with
    | definition other =>
        rw [definitionSegment, helperSegment, helperSegment] at same
        injection same
    | functions other =>
        exact nomatch same
  · rintro rfl
    rfl

theorem count_singleton_helper
    (language : Language) (kind : Structure) (fragment : Fragment) :
    [helperSegment (library language) fragment].count (definitionSegment language kind) =
      if fragment = .definition kind then 1 else 0 := by
  rw [List.count_singleton]
  by_cases same : fragment = .definition kind
  · rw [if_pos same, if_pos (beq_iff_eq.2 ((definitionSegment_inj language).2 same))]
  · rw [if_neg same, if_neg]
    intro equal
    exact same ((definitionSegment_inj language).1 (beq_iff_eq.1 equal))

theorem count_eq_zero_of_isText
    (language : Language) (kind : Structure) {segments : List Segment}
    (texts : ∀ segment ∈ segments, ∃ text, segment = .glue text ∨ segment = .user text) :
    segments.count (definitionSegment language kind) = 0 := by
  rw [List.count_eq_zero]
  intro member
  obtain ⟨text, isGlue | isUser⟩ := texts _ member
  · exact absurd isGlue (by simp [definitionSegment, helperSegment])
  · exact absurd isUser (by simp [definitionSegment, helperSegment])

theorem count_glue
    (language : Language) (kind : Structure) (text : Text) :
    [Segment.glue text].count (definitionSegment language kind) = 0 :=
  count_eq_zero_of_isText language kind
    (List.forall_mem_singleton.2 ⟨text, Or.inl rfl⟩)

theorem count_ledHelpers
    (language : Language) (plans : List Plan) (kind : Structure) (placement : Placement) :
    (ledHelpers (library language) plans placement).count (definitionSegment language kind) =
      plannedCount plans kind placement := by
  rw [ledHelpers, count_flatMap_of_count, count_fragmentsAt]
  intro fragment
  rw [← List.singleton_append, List.count_append, lineFeed, count_glue, count_singleton_helper,
    Nat.zero_add]

theorem count_trailedHelpers
    (language : Language) (plans : List Plan) (kind : Structure) (placement : Placement) :
    (trailedHelpers (library language) plans placement).count (definitionSegment language kind) =
      plannedCount plans kind placement := by
  rw [trailedHelpers, count_flatMap_of_count, count_fragmentsAt]
  intro fragment
  rw [← List.singleton_append, List.count_append, lineFeed, count_glue, count_singleton_helper,
    Nat.add_zero]

/-- In Java a definition may be enclosed in line feeds. -/
theorem count_definitionsAt
    (plans : List Plan) (kind : Structure) (placement : Placement)
    (enclose : List Segment → List Segment)
    (transparent :
      ∀ segments,
        (enclose segments).count (definitionSegment .java kind) =
          segments.count (definitionSegment .java kind)) :
    (Java.definitionsAt plans placement enclose).count (definitionSegment .java kind) =
      plannedCount plans kind placement := by
  rw [Java.definitionsAt, count_flatMap_of_count, count_fragmentsAt]
  intro fragment
  cases fragment with
  | definition other =>
      exact (transparent _).trans (count_singleton_helper .java kind (.definition other))
  | functions other =>
      rw [if_neg (by simp)]
      exact transparent []

theorem count_functionSegments
    (plans : List Plan) (kind : Structure) :
    (Java.functionSegments plans).count (definitionSegment .java kind) = 0 := by
  rw [List.count_eq_zero, Java.functionSegments, List.mem_flatMap]
  rintro ⟨plan, _, member⟩
  rcases List.mem_cons.1 member with same | isLineFeed
  · have impossible : Fragment.functions plan.kind = .definition kind :=
      (definitionSegment_inj .java).1 same.symm
    exact nomatch impossible
  · exact nomatch List.mem_singleton.1 isLineFeed

/-- A program holds the definitions that are planned ahead of the solution and behind it. -/
theorem count_segmentsWith
    (language : Language) (plans : List Plan) (request : Request) (kind : Structure) :
    (segmentsWith language plans request).count (definitionSegment language kind) =
      plannedCount plans kind .beforeUser + plannedCount plans kind .afterUser := by
  have around :
      ∀ text : Text,
        [lineFeed, .user text, .glue "\n\n"].count (definitionSegment language kind) = 0 := by
    intro text
    apply count_eq_zero_of_isText
    simp [lineFeed]
  have behind :
      ∀ text : Text,
        [.user text, .glue "\n\n"].count (definitionSegment language kind) = 0 := by
    intro text
    apply count_eq_zero_of_isText
    simp
  have led := fun placement => count_ledHelpers language plans kind placement
  have trailed := fun placement => count_trailedHelpers language plans kind placement
  cases language with
  | python =>
      simp only [library] at led trailed
      simp only [segmentsWith, Python.segments, List.count_append, count_glue, around, led,
        trailed]
      omega
  | javaScript =>
      simp only [library] at led trailed
      simp only [segmentsWith, JavaScript.segments, List.count_append, count_glue, behind,
        trailed]
      omega
  | java =>
      have ahead :=
        count_definitionsAt plans kind .beforeUser (lineFeed :: ·) fun segments => by
          rw [← List.singleton_append, List.count_append, lineFeed, count_glue, Nat.zero_add]
      have after :=
        count_definitionsAt plans kind .afterUser (· ++ [lineFeed]) fun segments => by
          rw [List.count_append, lineFeed, count_glue, Nat.add_zero]
      simp only [segmentsWith, Java.segments, List.count_append, count_glue, around, ahead, after,
        count_functionSegments]
      omega
  | cpp =>
      simp only [library] at led trailed
      simp only [segmentsWith, Cpp.segments, List.count_append, count_glue, around, led, trailed]
      omega

/-! ## The solution among the segments -/

theorem filter_isUser_of_helpers
    {segments : List Segment}
    (helpers :
      ∀ segment ∈ segments,
        (∃ text, segment = .glue text) ∨ ∃ fragment text, segment = .helper fragment text) :
    segments.filter Segment.isUser = [] := by
  rw [List.filter_eq_nil_iff]
  intro segment member isUser
  rcases helpers segment member with ⟨text, rfl⟩ | ⟨fragment, text, rfl⟩
  · exact Bool.false_ne_true isUser
  · exact Bool.false_ne_true isUser

theorem exists_helperSegment
    (library : Kata.Fragment.Library) (fragment : Fragment) :
    ∃ inner text, helperSegment library fragment = .helper inner text := by
  cases fragment with
  | definition kind => exact ⟨_, _, rfl⟩
  | functions kind => exact ⟨_, _, rfl⟩

theorem filter_isUser_ledHelpers
    (library : Kata.Fragment.Library) (plans : List Plan) (placement : Placement) :
    (ledHelpers library plans placement).filter Segment.isUser = [] := by
  apply filter_isUser_of_helpers
  intro segment member
  rw [ledHelpers, List.mem_flatMap] at member
  obtain ⟨fragment, _, member⟩ := member
  rcases List.mem_cons.1 member with isLineFeed | isHelper
  · exact Or.inl ⟨_, isLineFeed⟩
  · rw [List.mem_singleton.1 isHelper]
    exact Or.inr (exists_helperSegment library fragment)

theorem filter_isUser_trailedHelpers
    (library : Kata.Fragment.Library) (plans : List Plan) (placement : Placement) :
    (trailedHelpers library plans placement).filter Segment.isUser = [] := by
  apply filter_isUser_of_helpers
  intro segment member
  rw [trailedHelpers, List.mem_flatMap] at member
  obtain ⟨fragment, _, member⟩ := member
  rcases List.mem_cons.1 member with isHelper | isLineFeed
  · rw [isHelper]
    exact Or.inr (exists_helperSegment library fragment)
  · exact Or.inl ⟨_, List.mem_singleton.1 isLineFeed⟩

theorem filter_isUser_definitionsAt
    (plans : List Plan) (placement : Placement) (enclose : List Segment → List Segment)
    (enclosed :
      ∀ segments : List Segment, segments.filter Segment.isUser = [] →
        (enclose segments).filter Segment.isUser = []) :
    (Java.definitionsAt plans placement enclose).filter Segment.isUser = [] := by
  rw [Java.definitionsAt, List.filter_flatMap, List.flatMap_eq_nil_iff]
  intro fragment _
  cases fragment with
  | definition kind => exact enclosed _ rfl
  | functions kind => exact enclosed [] rfl

theorem filter_isUser_functionSegments
    (plans : List Plan) :
    (Java.functionSegments plans).filter Segment.isUser = [] := by
  rw [Java.functionSegments, List.filter_flatMap, List.flatMap_eq_nil_iff]
  exact fun _ _ => rfl

/-- A program holds the solution once. -/
theorem filter_isUser_segmentsWith
    (language : Language) (plans : List Plan) (request : Request) :
    (segmentsWith language plans request).filter Segment.isUser =
      [.user (userText language request.source)] := by
  cases language with
  | python =>
      rw [segmentsWith, Python.segments]
      simp only [List.filter_append, filter_isUser_ledHelpers, filter_isUser_trailedHelpers]
      rfl
  | javaScript =>
      rw [segmentsWith, JavaScript.segments]
      simp only [List.filter_append, filter_isUser_trailedHelpers]
      rfl
  | java =>
      have ahead :=
        filter_isUser_definitionsAt plans .beforeUser (lineFeed :: ·) fun _ none => none
      have after :=
        filter_isUser_definitionsAt plans .afterUser (· ++ [lineFeed]) fun segments none => by
          rw [List.filter_append, none]
          rfl
      rw [segmentsWith, Java.segments]
      simp only [List.filter_append, ahead, after, filter_isUser_functionSegments]
      rfl
  | cpp =>
      rw [segmentsWith, Cpp.segments]
      simp only [List.filter_append, filter_isUser_ledHelpers, filter_isUser_trailedHelpers]
      rfl

/-! ## What decides -/

/-- Whether a solution declares a structure. -/
def declares (language : Language) (kind : Structure) (source : Text) : Bool :=
  Detection.declaresType language (Detection.stripped language source) kind.typeName

/-- The definition of a planned structure is there once, unless the solution as it was handed in
declares the structure. -/
theorem count_segments
    {language : Language} {request : Request} {kind : Structure}
    (planned : kind ∈ (Helper.plans language request).map Plan.kind) :
    (segments language request).count (definitionSegment language kind) =
      if declares language kind request.source then 0 else 1 := by
  obtain ⟨plan, member, isKind⟩ := List.mem_map.1 planned
  have own : plan ∈ (Helper.plan? language request kind).toList := by
    rw [← filter_plans, List.mem_filter]
    exact ⟨member, beq_iff_eq.2 isKind⟩
  have found : Helper.plan? language request kind = some plan := Option.mem_toList.1 own
  rw [segments, count_segmentsWith, plannedCount_plans, plannedCount_plans, found]
  rw [Helper.plan?] at found
  split at found
  · injection found with made
    rw [← made]
    exact countP_make kind _ _
  · exact absurd found (by simp)

/-- Trimming the solution changes none of its declarations. -/
theorem declares_userText
    (language : Language) (kind : Structure) (source : Text) :
    declares language kind (userText language source) =
      declares language kind (keptText language source) := by
  have solidName : Text.hasSolidEnds kind.typeName = true := by
    cases kind <;> decide
  cases language with
  | python => exact Detection.declaresType_stripped_trimEnd .python solidName _
  | javaScript => exact Detection.declaresType_stripped_trimEnd .javaScript solidName _
  | java =>
      exact (Detection.declaresType_stripped_trimEnd .java solidName _).trans
        (Detection.declaresType_stripped_trimStart (Or.inl rfl) _)
  | cpp =>
      exact (Detection.declaresType_stripped_trimEnd .cpp solidName _).trans
        (Detection.declaresType_stripped_trimStart (Or.inr rfl) _)

/-! ## Solutions that are kept whole -/

/-- Whether nothing is removed from a solution but line ends. -/
def keepsAll (language : Language) (source : Text) : Bool :=
  match language with
  | .python =>
    (Text.lines source).all fun line =>
      !(!Source.isIndented line && "if __name__".toList.isPrefixOf line)
  | .javaScript => true
  | .java =>
    ((Text.lines source).all fun line => !Java.isHoisted (Text.trim line)) &&
      !Java.publicType.occursIn (Text.joinWith ['\n'] (Text.lines source))
  | .cpp => (Text.lines source).all fun line => !Cpp.isMainHead (Text.trim line)

theorem replaceAll_of_not_occursIn
    {p : Pattern} (replacement : Pattern.Match → Text) {text : Text}
    (absent : p.occursIn text = false) :
    p.replaceAll replacement text = text := by
  have nothing : p.matchesIn text = [] := by
    rw [Pattern.occursIn, Option.isSome_eq_false_iff, Option.isNone_iff_eq_none] at absent
    have none : p.searchFrom? text 0 none = none := absent
    rw [Pattern.matchesIn, Pattern.matchesFrom, Pattern.Place.start]
    simp only [none]
  rw [Pattern.replaceAll, nothing]
  rfl

theorem keptText_of_keepsAll
    {language : Language} {source : Text} (whole : keepsAll language source = true) :
    keptText language source = source ∨
      keptText language source = Text.joinWith ['\n'] (Text.lines source) := by
  cases language with
  | python =>
      rw [keepsAll, List.all_eq_true] at whole
      refine Or.inr (congrArg _ (Source.linesOutsideIndents_of_none _ fun line member => ?_))
      exact (Bool.not_eq_true' _).mp (whole line member)
  | javaScript => exact Or.inl rfl
  | java =>
      rw [keepsAll, Bool.and_eq_true, List.all_eq_true, Bool.not_eq_true'] at whole
      have lines :
          (Source.hoistLines Java.isHoisted source).2 =
            Text.joinWith ['\n'] (Text.lines source) :=
        Source.hoistLines_of_none fun line member =>
          (Bool.not_eq_true' _).mp (whole.1 line member)
      rw [keptText, lines, Java.withoutPublicTypes, replaceAll_of_not_occursIn _ whole.2]
      exact Or.inr rfl
  | cpp =>
      rw [keepsAll, List.all_eq_true] at whole
      refine Or.inr (congrArg _ (Source.linesOutsideBraces_of_none _ fun line member => ?_))
      exact (Bool.not_eq_true' _).mp (whole line member)

/-- Where nothing is removed, only blanks at the end are missing, as far as there are no carriage
returns, which are removed with the line ends. -/
theorem exists_blank_behind_keptText
    {language : Language} {source : Text} (whole : keepsAll language source = true)
    (noReturn : '\r' ∉ source) :
    ∃ gap, (∀ c ∈ gap, Text.isBlank c = true) ∧ source = keptText language source ++ gap := by
  rcases keptText_of_keepsAll whole with same | lines
  · refine ⟨[], List.forall_mem_nil _, ?_⟩
    rw [same, List.append_nil]
  · rw [lines]
    exact Text.exists_blank_behind_lines noReturn

/-- Where nothing is removed, no declaration is lost or gained. A backslash may stand ahead of a
carriage return. -/
theorem declares_keptText_of_keepsAll
    {language : Language} (kind : Structure) {source : Text}
    (whole : keepsAll language source = true) (noReturn : '\r' ∉ source) :
    declares language kind (keptText language source) = declares language kind source := by
  have solidName : Text.hasSolidEnds kind.typeName = true := by
    cases kind <;> decide
  obtain ⟨gap, blank, split⟩ := exists_blank_behind_keptText whole noReturn
  have same :=
    Detection.declaresType_stripped_append language solidName (keptText language source) blank
  rw [← split] at same
  exact same.symm

/-! ## Agreement -/

/-- A program holds the solution once, and the definition of a planned structure once or not at
all. The definition is there exactly where the solution in the program lacks it, if and only if
the parts that were removed from the solution make no difference to what it declares; so it is
wherever nothing is removed, and in JavaScript always. -/
theorem defined_iff_undeclared_iff
    {language : Language} {request : Request} {kind : Structure}
    (planned : kind ∈ (Helper.plans language request).map Plan.kind) :
    let solution := userText language request.source
    let definitions := (segments language request).count (definitionSegment language kind)
    (segments language request).filter Segment.isUser = [.user solution] ∧
    definitions = (if declares language kind request.source then 0 else 1) ∧
    ((0 < definitions ↔ declares language kind solution = false) ↔
      declares language kind (keptText language request.source) =
        declares language kind request.source) ∧
    (language = .javaScript ∨
        (keepsAll language request.source = true ∧ '\r' ∉ request.source) →
      (0 < definitions ↔ declares language kind solution = false)) := by
  have count := count_segments planned
  have exactly :
      (0 < (segments language request).count (definitionSegment language kind) ↔
          declares language kind (userText language request.source) = false) ↔
        declares language kind (keptText language request.source) =
          declares language kind request.source := by
    rw [count, declares_userText]
    cases declares language kind request.source <;>
      cases declares language kind (keptText language request.source) <;> simp
  refine ⟨filter_isUser_segmentsWith language _ request, count, exactly, ?_⟩
  rintro (isJavaScript | ⟨whole, noReturn⟩)
  · subst isJavaScript
    exact exactly.2 rfl
  · exact exactly.2 (declares_keptText_of_keepsAll kind whole noReturn)

/-- A definition is injected for a solution in C++ without a declaration, behind the solution, and
none for a solution that declares the list itself ahead of its main function. -/
theorem defined_iff_undeclared_iff_cpp :
    let argument : Argument := ⟨.listNode, "buildLinkedList(vector<int>\x7b1\x7d)"⟩
    let undeclared :=
      Request.make "int first(auto head) \x7b return 1; \x7d" "first" [argument] .int
    let declared :=
      Request.make
        "struct ListNode \x7b int val; \x7d;\nint first(ListNode* head) \x7b return 1; \x7d\nint main() \x7b \x7d\n"
        "first" [argument] .int
    let definition := definitionSegment .cpp .linkedList
    (0 < (segments .cpp undeclared).count definition ↔
        declares .cpp .linkedList (userText .cpp undeclared.source) = false) ∧
      ((0 < (segments .cpp declared).count definition ↔
          declares .cpp .linkedList (userText .cpp declared.source) = false) ↔
        declares .cpp .linkedList (keptText .cpp declared.source) = true) := by
  intro argument undeclared declared definition
  have isDeclared : declares .cpp .linkedList declared.source = true := by
    decide +kernel
  have first :
      .linkedList ∈ (Helper.plans .cpp undeclared).map Plan.kind := by
    decide +kernel
  have second : .linkedList ∈ (Helper.plans .cpp declared).map Plan.kind := by
    decide +kernel
  refine ⟨(defined_iff_undeclared_iff first).2.2.2 (Or.inr ⟨?_, ?_⟩), ?_⟩
  · decide +kernel
  · decide +kernel
  · rw [← isDeclared]
    exact (defined_iff_undeclared_iff second).2.2.1

/-- A solution in Python that is handed a linked list and has a type for it where it runs as
a program of its own. -/
def selfRunning : Request :=
  Request.make
    "class Solution:\n    def first(self, head):\n        return head.val\n\nif __name__ == \"__main__\":\n    class ListNode:\n        pass\n"
    "first" [⟨.listNode, "build_linked_list([1])"⟩] .int

/-- The type goes with the block that is removed, and yet its definition is not injected: the
program builds a list without a type for its nodes. -/
theorem selfRunning_lacks_definition :
    .linkedList ∈ (Helper.plans .python selfRunning).map Plan.kind ∧
      ¬(0 < (segments .python selfRunning).count (definitionSegment .python .linkedList) ↔
        declares .python .linkedList (userText .python selfRunning.source) = false) := by
  decide +kernel

end Kata.Program
