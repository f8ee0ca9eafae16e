import Kata.Proofs.Program.Definitions

/-!
# Where the code for structures stands

What a program holds of one structure, together with the solution, is a list of at most three
segments, whatever other structures are planned. That list shows everything about the structure:
its functions are there once, its definition is there once unless the solution declares the type,
and everything stands ahead of what uses it.
-/

namespace Kata

/-! ## One structure at a time -/

/-- The structure that a half of code belongs to. -/
def Helper.Fragment.kind : Helper.Fragment → Structure
  | .definition kind => kind
  | .functions kind => kind

namespace Program

open Helper (Fragment Placement Plan)

/-- Whether a segment is the solution or code for a structure. -/
def Segment.concerns (kind : Structure) : Segment → Bool
  | .glue _ => false
  | .helper fragment _ => fragment.kind == kind
  | .user _ => true

/-- The plans for a structure. -/
def plansFor (kind : Structure) (plans : List Plan) : List Plan :=
  plans.filter fun plan => plan.kind == kind

theorem concerns_helperSegment
    (library : Kata.Fragment.Library) (kind : Structure) (fragment : Fragment) :
    (helperSegment library fragment).concerns kind = (fragment.kind == kind) := by
  cases fragment with
  | definition other => rfl
  | functions other => rfl

/-- Both halves of a plan belong to its structure. -/
theorem kind_of_mem_fragmentsAt
    {plan : Plan} {placement : Placement} {fragment : Fragment}
    (member : fragment ∈ plan.fragmentsAt placement) :
    fragment.kind = plan.kind := by
  rw [Plan.fragmentsAt, List.mem_append] at member
  rcases member with inDefinition | inFunctions
  · split at inDefinition
    · rw [List.mem_singleton.1 inDefinition]
      rfl
    · exact absurd inDefinition List.not_mem_nil
  · split at inFunctions
    · rw [List.mem_singleton.1 inFunctions]
      rfl
    · exact absurd inFunctions List.not_mem_nil

theorem filter_fragmentsAt
    (kind : Structure) (plans : List Plan) (placement : Placement) :
    (Helper.fragmentsAt plans placement).filter (fun fragment => fragment.kind == kind) =
      Helper.fragmentsAt (plansFor kind plans) placement := by
  induction plans with
  | nil => rfl
  | cons plan plans inductionHypothesis =>
      rw [Helper.fragmentsAt, List.flatMap_cons, List.filter_append, plansFor, List.filter_cons]
      by_cases same : plan.kind = kind
      · have all :
            (plan.fragmentsAt placement).filter (fun fragment => fragment.kind == kind) =
              plan.fragmentsAt placement := by
          refine List.filter_eq_self.2 fun fragment member => ?_
          rw [kind_of_mem_fragmentsAt member, same, beq_self_eq_true]
        rw [all, if_pos (beq_iff_eq.2 same)]
        exact congrArg (plan.fragmentsAt placement ++ ·) inductionHypothesis
      · have none :
            (plan.fragmentsAt placement).filter (fun fragment => fragment.kind == kind) = [] := by
          refine List.filter_eq_nil_iff.2 fun fragment member => ?_
          rw [kind_of_mem_fragmentsAt member, beq_iff_eq]
          exact same
        rw [none, if_neg fun equal => same (beq_iff_eq.1 equal)]
        exact inductionHypothesis

/-- Code that is laid out with line feeds around it is, for one structure, the code of the plans
for that structure. -/
theorem filter_flatMap_helpers
    (library : Kata.Fragment.Library) {kind : Structure} {place : Fragment → List Segment}
    (each :
      ∀ fragment,
        (place fragment).filter (Segment.concerns kind) =
          if fragment.kind == kind then [helperSegment library fragment] else [])
    (fragments : List Fragment) :
    (fragments.flatMap place).filter (Segment.concerns kind) =
      (fragments.filter fun fragment => fragment.kind == kind).map (helperSegment library) := by
  induction fragments with
  | nil => rfl
  | cons fragment fragments inductionHypothesis =>
      rw [List.flatMap_cons, List.filter_append, each, inductionHypothesis, List.filter_cons]
      split <;> rfl

section Laid

variable (library : Kata.Fragment.Library) (kind : Structure) (plans : List Plan)
  (placement : Placement)

theorem filter_ledHelpers :
    (ledHelpers library plans placement).filter (Segment.concerns kind) =
      (Helper.fragmentsAt (plansFor kind plans) placement).map (helperSegment library) := by
  rw [ledHelpers, ← filter_fragmentsAt, filter_flatMap_helpers library]
  intro fragment
  rw [List.filter_cons, List.filter_cons, concerns_helperSegment]
  rfl

theorem filter_trailedHelpers :
    (trailedHelpers library plans placement).filter (Segment.concerns kind) =
      (Helper.fragmentsAt (plansFor kind plans) placement).map (helperSegment library) := by
  rw [trailedHelpers, ← filter_fragmentsAt, filter_flatMap_helpers library]
  intro fragment
  rw [List.filter_cons, concerns_helperSegment]
  rfl

end Laid

/-- In Java the functions stand elsewhere, so that of the code in a place only definitions are
left. -/
theorem filter_definitionsAt
    (kind : Structure) (plans : List Plan) (placement : Placement)
    (enclose : List Segment → List Segment)
    (transparent :
      ∀ segments,
        (enclose segments).filter (Segment.concerns kind) =
          segments.filter (Segment.concerns kind)) :
    (Java.definitionsAt plans placement enclose).filter (Segment.concerns kind) =
      Java.definitionsAt (plansFor kind plans) placement id := by
  have regrouped :
      ∀ fragments : List Fragment,
        (fragments.flatMap fun
            | .definition kind => enclose [helperSegment Fragment.Java.library (.definition kind)]
            | .functions _ => enclose []).filter (Segment.concerns kind) =
          (fragments.filter fun fragment => fragment.kind == kind).flatMap fun
            | .definition kind => [helperSegment Fragment.Java.library (.definition kind)]
            | .functions _ => [] := by
    intro fragments
    induction fragments with
    | nil => rfl
    | cons fragment fragments inductionHypothesis =>
        rw [List.flatMap_cons, List.filter_append, inductionHypothesis, List.filter_cons]
        cases fragment with
        | definition other =>
            simp only [transparent, List.filter_cons, List.filter_nil, concerns_helperSegment]
            split <;> rfl
        | functions other =>
            simp only [transparent, List.filter_nil]
            split <;> rfl
  refine (regrouped _).trans ?_
  rw [filter_fragmentsAt]
  rfl

theorem filter_functionSegments
    (kind : Structure) (plans : List Plan) :
    (Java.functionSegments plans).filter (Segment.concerns kind) =
      (plansFor kind plans).map fun plan =>
        helperSegment Fragment.Java.library (.functions plan.kind) := by
  induction plans with
  | nil => rfl
  | cons plan plans inductionHypothesis =>
      have first :
          [helperSegment Fragment.Java.library (.functions plan.kind), lineFeed].filter
              (Segment.concerns kind) =
            if plan.kind == kind then
              [helperSegment Fragment.Java.library (.functions plan.kind)]
            else [] := by
        rw [List.filter_cons, concerns_helperSegment]
        rfl
      rw [Java.functionSegments] at inductionHypothesis ⊢
      rw [List.flatMap_cons, List.filter_append, first, inductionHypothesis, plansFor, plansFor,
        List.filter_cons]
      split <;> rfl

/-! ## The outline of a program -/

/-- The functions for a structure as a segment. -/
def functionsSegment (language : Language) (kind : Structure) : Segment :=
  helperSegment (library language) (.functions kind)

/-- The code for the planned structures and the solution, in the order of the program. -/
def outline (language : Language) (plans : List Plan) (solution : Segment) : List Segment :=
  match language with
  | .java =>
    Java.definitionsAt plans .beforeUser id ++
      solution ::
        (Java.definitionsAt plans .afterUser id ++
          plans.map fun plan => functionsSegment .java plan.kind)
  | other =>
    (Helper.fragmentsAt plans .beforeUser).map (helperSegment (library other)) ++
      solution :: (Helper.fragmentsAt plans .afterUser).map (helperSegment (library other))

theorem filter_glue_cons
    (kind : Structure) (text : Text) (segments : List Segment) :
    (Segment.glue text :: segments).filter (Segment.concerns kind) =
      segments.filter (Segment.concerns kind) :=
  rfl

theorem filter_user_cons
    (kind : Structure) (text : Text) (segments : List Segment) :
    (Segment.user text :: segments).filter (Segment.concerns kind) =
      .user text :: segments.filter (Segment.concerns kind) :=
  rfl

/-- What concerns a structure in a program is the outline of the plans for that structure. -/
theorem filter_segmentsWith
    (language : Language) (plans : List Plan) (request : Request) (kind : Structure) :
    (segmentsWith language plans request).filter (Segment.concerns kind) =
      outline language (plansFor kind plans) (.user (userText language request.source)) := by
  cases language with
  | python =>
      simp only [segmentsWith, Python.segments, List.filter_append, filter_ledHelpers,
        filter_trailedHelpers, lineFeed, filter_glue_cons, filter_user_cons, List.filter_nil,
        List.nil_append, List.append_nil, List.append_assoc, List.cons_append]
      rfl
  | javaScript =>
      simp only [segmentsWith, JavaScript.segments, List.filter_append, filter_trailedHelpers,
        filter_glue_cons, filter_user_cons, List.filter_nil, List.nil_append, List.append_nil,
        List.append_assoc, List.cons_append]
      rfl
  | java =>
      have ahead :=
        filter_definitionsAt kind plans .beforeUser (lineFeed :: ·) fun _ => rfl
      have behind :=
        filter_definitionsAt kind plans .afterUser (· ++ [lineFeed]) fun segments => by
          rw [List.filter_append]
          exact List.append_nil _
      simp only [segmentsWith, Java.segments, List.filter_append, ahead, behind,
        filter_functionSegments]
      simp only [lineFeed, filter_glue_cons, filter_user_cons, List.filter_nil, List.nil_append,
        List.append_nil, List.append_assoc, List.cons_append]
      rfl
  | cpp =>
      simp only [segmentsWith, Cpp.segments, List.filter_append, filter_ledHelpers,
        filter_trailedHelpers, lineFeed, filter_glue_cons, filter_user_cons, List.filter_nil,
        List.nil_append, List.append_nil, List.append_assoc, List.cons_append]
      rfl

/-- The outline of the plan for one structure. -/
theorem outline_make
    (language : Language) (kind : Structure) (isDeclared isNamed : Bool) (solution : Segment) :
    outline language [Plan.make kind isDeclared isNamed] solution =
      match isDeclared, isNamed with
      | true, _ => [solution, functionsSegment language kind]
      | false, true =>
        if language = .java then
          [definitionSegment language kind, solution, functionsSegment language kind]
        else [definitionSegment language kind, functionsSegment language kind, solution]
      | false, false =>
        [solution, definitionSegment language kind, functionsSegment language kind] := by
  cases isDeclared <;> cases isNamed <;> cases language <;> rfl

/-! ## Once and in order -/

/-- That the code for a structure stands in a program as the solution calls for: the functions
once, the definition once unless the solution declares the type, and each ahead of what needs
it. -/
structure LaidOut (program : List Segment) (solution definition functions : Segment)
    (isDeclared isNamed : Bool) : Prop where
  functionsOnce : program.count functions = 1
  definitionOnce : program.count definition = if isDeclared then 0 else 1
  definitionAhead : isDeclared = false → [definition, functions].Sublist program
  definitionAheadOfSolution :
    isDeclared = false → ([definition, solution].Sublist program ↔ isNamed = true)
  functionsBehindSolution : isDeclared = true → [solution, functions].Sublist program

theorem sublist_filter_iff
    {α : Type} {accepts : α → Bool} {items part : List α}
    (all : ∀ item ∈ part, accepts item = true) :
    part.Sublist (items.filter accepts) ↔ part.Sublist items := by
  refine ⟨fun inside => inside.trans List.filter_sublist, fun inside => ?_⟩
  rw [← List.filter_eq_self.2 all]
  exact inside.filter accepts

/-- Whether code is laid out is seen from the segments that concern its structure. -/
theorem laidOut_of_filter
    {program : List Segment} {solution definition functions : Segment} {isDeclared isNamed : Bool}
    (accepts : Segment → Bool) (solutionKept : accepts solution = true)
    (definitionKept : accepts definition = true) (functionsKept : accepts functions = true)
    (laid :
      LaidOut (program.filter accepts) solution definition functions isDeclared isNamed) :
    LaidOut program solution definition functions isDeclared isNamed where
  functionsOnce := by
    rw [← List.count_filter functionsKept]
    exact laid.functionsOnce
  definitionOnce := by
    rw [← List.count_filter definitionKept]
    exact laid.definitionOnce
  definitionAhead undeclared :=
    (laid.definitionAhead undeclared).trans List.filter_sublist
  definitionAheadOfSolution undeclared := by
    rw [← laid.definitionAheadOfSolution undeclared, sublist_filter_iff]
    simp [definitionKept, solutionKept]
  functionsBehindSolution declared :=
    (laid.functionsBehindSolution declared).trans List.filter_sublist

theorem laidOut_outline
    (language : Language) (kind : Structure) (isDeclared isNamed : Bool) (text : Text) :
    LaidOut (outline language [Plan.make kind isDeclared isNamed] (.user text)) (.user text)
      (definitionSegment language kind) (functionsSegment language kind) isDeclared isNamed := by
  have different : definitionSegment language kind ≠ functionsSegment language kind := by
    simp [definitionSegment, functionsSegment, helperSegment]
  have notDefinition : Segment.user text ≠ definitionSegment language kind := by
    simp [definitionSegment, helperSegment]
  have notFunctions : Segment.user text ≠ functionsSegment language kind := by
    simp [functionsSegment, helperSegment]
  rw [outline_make]
  generalize definitionSegment language kind = definition at *
  generalize functionsSegment language kind = functions at *
  generalize Segment.user text = solution at *
  have swapped := different.symm
  have notUser := notDefinition.symm
  cases isDeclared with
  | true =>
      constructor <;> simp [swapped, notDefinition, notFunctions]
  | false =>
      cases isNamed with
      | true =>
          dsimp only
          split <;> constructor <;>
            simp [different, swapped, notDefinition, notFunctions]
      | false =>
          constructor <;>
            simp [List.cons_sublist_cons', different, swapped, notDefinition, notFunctions, notUser]

/-! ## The plans -/

/-- Whether a solution names a structure. -/
def names (language : Language) (kind : Structure) (source : Text) : Bool :=
  Detection.namesType (Detection.stripped language source) kind.typeName

theorem structure?_eq_some_iff
    {type : DataType} {kind : Structure} :
    type.structure? = some kind ↔ type = kind.dataType := by
  cases type <;> cases kind <;> simp [DataType.structure?, Structure.dataType]

theorem plan?_eq
    (language : Language) (request : Request) (kind : Structure) :
    Helper.plan? language request kind =
      if Helper.isNeeded request kind
          (declares language kind request.source || names language kind request.source) then
        some
          (Plan.make kind (declares language kind request.source)
            (names language kind request.source))
      else none :=
  rfl

/-- The planned structures are the ones that are needed, in their order. -/
theorem map_kind_plans
    (language : Language) (request : Request) :
    (Helper.plans language request).map Plan.kind =
      Structure.every.filter fun kind =>
        Helper.isNeeded request kind
          (declares language kind request.source || names language kind request.source) := by
  rw [Helper.plans, List.map_filterMap, ← List.filterMap_eq_filter]
  refine congrArg (List.filterMap · Structure.every) (funext fun kind => ?_)
  rw [plan?_eq, Option.guard]
  split
  · rw [Option.map_some, kind_make]
  · rfl

theorem mem_every
    (kind : Structure) :
    kind ∈ Structure.every := by
  cases kind <;> decide

theorem isNeeded_iff
    {request : Request} {kind : Structure} {isKnown : Bool} :
    Helper.isNeeded request kind isKnown = true ↔
      (∃ argument ∈ request.arguments, argument.type = kind.dataType) ∨
        request.normalizer? = some (.structural kind) ∨
          request.normalizer? = some .dynamic ∧ isKnown = true := by
  rw [Helper.isNeeded, Bool.or_eq_true, List.any_eq_true]
  simp only [beq_iff_eq, structure?_eq_some_iff]
  refine or_congr Iff.rfl ?_
  cases request.normalizer? with
  | none => simp
  | some normalizer => cases normalizer <;> simp

/-- What a program holds of a structure is the outline of its plan, if it has one. -/
theorem filter_segments
    (language : Language) (request : Request) (kind : Structure) :
    (segments language request).filter (Segment.concerns kind) =
      outline language (Helper.plan? language request kind).toList
        (.user (userText language request.source)) := by
  rw [segments, filter_segmentsWith, plansFor, filter_plans]

theorem exists_of_mem_outline
    {language : Language} {kind : Structure} {isDeclared isNamed : Bool}
    {solution segment : Segment}
    (member : segment ∈ outline language [Plan.make kind isDeclared isNamed] solution) :
    segment = solution ∨
      ∃ fragment : Fragment,
        fragment.kind = kind ∧ segment = helperSegment (library language) fragment := by
  have halves :
      segment = solution ∨ segment = definitionSegment language kind ∨
        segment = functionsSegment language kind := by
    rw [outline_make] at member
    cases isDeclared with
    | true =>
        simp only [List.mem_cons, List.not_mem_nil, or_false] at member
        exact member.imp_right Or.inr
    | false =>
        cases isNamed with
        | true =>
            dsimp only at member
            split at member <;> simp only [List.mem_cons, List.not_mem_nil, or_false] at member
            · exact or_left_comm.1 member
            · rw [← or_assoc, or_comm] at member
              exact member
        | false =>
            simp only [List.mem_cons, List.not_mem_nil, or_false] at member
            exact member
  rcases halves with isSolution | isDefinition | isFunctions
  · exact Or.inl isSolution
  · exact Or.inr ⟨.definition kind, rfl, isDefinition⟩
  · exact Or.inr ⟨.functions kind, rfl, isFunctions⟩

/-- All the code for structures in a program comes from the library, and from plans. -/
theorem helper_of_mem_segments
    {language : Language} {request : Request} {fragment : Fragment} {text : Text}
    (member : .helper fragment text ∈ segments language request) :
    fragment.kind ∈ (Helper.plans language request).map Plan.kind ∧
      .helper fragment text = helperSegment (library language) fragment := by
  have kept :
      .helper fragment text ∈
        (segments language request).filter (Segment.concerns fragment.kind) :=
    List.mem_filter.2 ⟨member, beq_self_eq_true _⟩
  rw [filter_segments, plan?_eq] at kept
  split at kept
  · next needed =>
    refine ⟨?_, ?_⟩
    · rw [map_kind_plans, List.mem_filter]
      exact ⟨mem_every _, needed⟩
    · rcases exists_of_mem_outline kept with isSolution | ⟨other, _, same⟩
      · exact nomatch isSolution
      · have fragmentSame : fragment = other := by
          cases other <;> exact (Segment.helper.inj same).1
        rw [same, fragmentSame]
  · have alone : .helper fragment text ∈ outline language [] (.user _) := kept
    cases language <;> exact nomatch List.mem_singleton.1 alone

/-- The code for a planned structure is laid out as the solution calls for. -/
theorem laidOut_segments
    {language : Language} {request : Request} {kind : Structure}
    (planned : kind ∈ (Helper.plans language request).map Plan.kind) :
    LaidOut (segments language request) (.user (userText language request.source))
      (definitionSegment language kind) (functionsSegment language kind)
      (declares language kind request.source) (names language kind request.source) := by
  rw [map_kind_plans, List.mem_filter] at planned
  refine laidOut_of_filter (Segment.concerns kind) rfl (beq_self_eq_true kind)
    (beq_self_eq_true kind) ?_
  rw [filter_segments, plan?_eq, if_pos planned.2]
  exact laidOut_outline language kind _ _ _

/-! ## Programs -/

/-- A program plans each structure at most once and in their order, exactly if it needs it. Beside
the solution it holds code for the planned structures only, all of it from the library; for each
of them the functions once, and the definition once unless the solution declares the type, ahead
of the functions, and ahead of the solution exactly if this names the type. The functions for a
type that the solution declares stand behind it. -/
theorem helpers_stand_once_ahead_of_use
    (language : Language) (request : Request) :
    let planned := (Helper.plans language request).map Plan.kind
    let program := segments language request
    let solution := Segment.user (userText language request.source)
    planned.Sublist Structure.every ∧
      (∀ kind,
        kind ∈ planned ↔
          (∃ argument ∈ request.arguments, argument.type = kind.dataType) ∨
            request.normalizer? = some (.structural kind) ∨
              request.normalizer? = some .dynamic ∧
                (declares language kind request.source = true ∨
                  names language kind request.source = true)) ∧
      program.filter Segment.isUser = [solution] ∧
      (∀ fragment text,
        .helper fragment text ∈ program →
          fragment.kind ∈ planned ∧
            .helper fragment text = helperSegment (library language) fragment) ∧
      ∀ kind ∈ planned,
        LaidOut program solution (definitionSegment language kind) (functionsSegment language kind)
          (declares language kind request.source) (names language kind request.source) := by
  refine ⟨?_, fun kind => ?_, filter_isUser_segmentsWith language _ request,
    fun fragment text => helper_of_mem_segments, fun kind => laidOut_segments⟩
  · rw [map_kind_plans]
    exact List.filter_sublist
  · rw [map_kind_plans, List.mem_filter, isNeeded_iff, Bool.or_eq_true]
    exact and_iff_right (mem_every kind)

/-- A solution in Java that declares lists, names trees, and is handed a graph. -/
def allStructures : Request :=
  Request.make
    "class ListNode \x7b int val; \x7d\nclass Solution \x7b Object first(TreeNode root) \x7b return root; \x7d \x7d"
    "first" [⟨.graphNode, "buildGraph(new int[][]\x7b\x7d)"⟩] .any

/-- The three structures in the three ways in which code is laid out. -/
theorem helpers_stand_once_ahead_of_use_allStructures :
    let program := segments .java allStructures
    let solution := Segment.user (userText .java allStructures.source)
    (∀ kind, kind ∈ (Helper.plans .java allStructures).map Plan.kind) ∧
      LaidOut program solution (definitionSegment .java .linkedList)
        (functionsSegment .java .linkedList) true true ∧
      LaidOut program solution (definitionSegment .java .binaryTree)
        (functionsSegment .java .binaryTree) false true ∧
      LaidOut program solution (definitionSegment .java .graph) (functionsSegment .java .graph)
        false false := by
  obtain ⟨_, planned, _, _, laid⟩ := helpers_stand_once_ahead_of_use .java allStructures
  have known :
      (Structure.every.map fun kind =>
          (declares .java kind allStructures.source, names .java kind allStructures.source)) =
        [(true, true), (false, true), (false, false)] := by
    decide +kernel
  simp only [Structure.every, List.map_cons, List.map_nil, List.cons.injEq, Prod.mk.injEq,
    and_true] at known
  obtain ⟨⟨listDeclared, listNamed⟩, ⟨treeDeclared, treeNamed⟩, graphDeclared, graphNamed⟩ := known
  have every : ∀ kind, kind ∈ (Helper.plans .java allStructures).map Plan.kind := by
    intro kind
    refine (planned kind).2 ?_
    cases kind with
    | linkedList => exact Or.inr (Or.inr ⟨rfl, Or.inl listDeclared⟩)
    | binaryTree => exact Or.inr (Or.inr ⟨rfl, Or.inr treeNamed⟩)
    | graph => exact Or.inl ⟨_, List.mem_cons_self, rfl⟩
  have list := laid .linkedList (every .linkedList)
  have tree := laid .binaryTree (every .binaryTree)
  have graph := laid .graph (every .graph)
  rw [listDeclared, listNamed] at list
  rw [treeDeclared, treeNamed] at tree
  rw [graphDeclared, graphNamed] at graph
  exact ⟨every, list, tree, graph⟩

end Program

end Kata
