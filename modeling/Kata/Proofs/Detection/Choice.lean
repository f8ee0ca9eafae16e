import Kata.Proofs.Detection.Names

/-!
# The choice among the names

The names that are offered are those that the patterns for functions capture. One that is expected
and offered is found just if it can be that of the function, or if no name that is offered can; a
single name that is offered is found if it can be that of the function, whatever was expected.
Against the expectation only the leading candidates are found: of those that are spelled alike the
first. Each of these is found indeed if something that is spelled alike is expected.
-/

namespace Kata.Detection

/-! ## What is captured -/

/-- The patterns for functions in a language. -/
def functionPatterns : Language → List Pattern
  | .python => [defStatement]
  | .javaScript => [exportedName, namedFunction, boundFunction, classMethod]
  | .java => [typedDefinition]
  | .cpp => [typedDefinition]

/-- What some patterns capture as group 1 in a text, as often as they do. -/
def capturedBy (patterns : List Pattern) (text : Text) : List Text :=
  patterns.flatMap fun pattern => (pattern.matchesIn text).filterMap (·.text? 1)

/-- The names that the patterns of a language capture in a text. -/
def capturedNames (language : Language) (text : Text) : List Text :=
  capturedBy (functionPatterns language) text

theorem capturedBy_append
    (patterns others : List Pattern) (text : Text) :
    capturedBy (patterns ++ others) text = capturedBy patterns text ++ capturedBy others text :=
  List.flatMap_append

theorem mem_namesInOrder
    {patterns : List Pattern} {text name : Text} :
    name ∈ namesInOrder patterns text ↔ name ∈ capturedBy patterns text := by
  rw [mem_namesInOrder_iff, capturedBy, List.mem_flatMap]
  simp only [List.mem_filterMap, Pattern.Match.text?, Option.map_eq_some_iff]
  constructor
  · intro captured
    obtain ⟨start, p, patternMember, found, foundMember, remembers⟩ := captured
    exact ⟨p, patternMember, found, foundMember, ⟨start, name⟩, remembers, rfl⟩
  · intro captured
    obtain ⟨p, patternMember, found, foundMember, capture, remembers, rfl⟩ := captured
    exact ⟨capture.start, p, patternMember, found, foundMember, remembers⟩

theorem mem_candidateNames
    {language : Language} {text name : Text} :
    name ∈ candidateNames language text ↔ name ∈ capturedNames language text := by
  cases language with
  | python => exact mem_namesInOrder
  | javaScript =>
      rw [candidateNames, List.mem_append, mem_namesInOrder, mem_namesInOrder, ← List.mem_append,
        ← capturedBy_append]
      rfl
  | java => exact mem_namesInOrder
  | cpp => exact mem_namesInOrder

/-! ## What is picked -/

/-- The names among others that can be that of the function to be written. -/
def candidatesOf (names : List Text) : List Text :=
  names.filter isCandidate

section Pick

variable {names : List Text} {expected name : Text}

theorem mem_candidatesOf :
    name ∈ candidatesOf names ↔ name ∈ names ∧ isCandidate name = true :=
  List.mem_filter

/-- Whatever a search for a spelling finds is spelled so. -/
theorem folded_eq_of_find?
    {candidates : List Text}
    (found : candidates.find? (fun other => folded other == folded expected) = some name) :
    folded name = folded expected := by
  have alike := List.find?_some found
  rw [beq_iff_eq] at alike
  exact alike

theorem pick_of_mem
    (candidate : expected ∈ candidatesOf names) :
    pick names expected = expected := by
  have found : (names.filter isCandidate).find? (· == expected) = some expected := by
    cases searched : (names.filter isCandidate).find? (· == expected) with
    | none =>
        have different := List.find?_eq_none.1 searched expected candidate
        exact absurd (beq_self_eq_true expected) different
    | some other =>
        have same := List.find?_some searched
        rw [beq_iff_eq] at same
        rw [same]
  simp only [pick, found, Option.some_or, Option.getD_some]

theorem pick_of_nil
    (none : candidatesOf names = []) :
    pick names expected = expected := by
  rw [candidatesOf] at none
  rw [pick, none]
  rfl

/-- Without the expected name among them, the candidates are searched for one that is spelled alike,
and else the first is picked. -/
theorem pick_of_not_mem
    (absent : expected ∉ candidatesOf names) :
    pick names expected =
      (((candidatesOf names).find? fun name => folded name == folded expected).or
        (candidatesOf names).head?).getD expected := by
  have notFound : (names.filter isCandidate).find? (· == expected) = none :=
    List.find?_eq_none.2 fun name member same => absent (beq_iff_eq.1 same ▸ member)
  simp only [pick, notFound, Option.none_or]
  rfl

/-- The candidates that are the first among those spelled alike, letter case and underscores
apart. -/
def leading (candidates : List Text) : List Text :=
  candidates.filter fun name =>
    candidates.find? (fun other => folded other == folded name) == some name

theorem mem_leading
    {candidates : List Text} :
    name ∈ leading candidates ↔
      candidates.find? (fun other => folded other == folded name) = some name := by
  rw [leading, List.mem_filter, beq_iff_eq]
  exact and_iff_right_of_imp List.mem_of_find?_eq_some

theorem mem_of_mem_leading
    {candidates : List Text} (leads : name ∈ leading candidates) :
    name ∈ candidates :=
  (List.mem_filter.1 leads).1

/-- The first candidate leads those that are spelled like it. -/
theorem mem_leading_of_head?
    {candidates : List Text} (first : candidates.head? = some name) :
    name ∈ leading candidates := by
  cases candidates with
  | nil => exact absurd first (Option.some_ne_none name).symm
  | cons head others =>
      rw [List.head?_cons, Option.some.injEq] at first
      rw [mem_leading, first, List.find?_cons, beq_self_eq_true]

/-- What a search for a spelling finds leads those that are spelled so. -/
theorem mem_leading_of_find?
    {candidates : List Text}
    (found : candidates.find? (fun other => folded other == folded expected) = some name) :
    name ∈ leading candidates := by
  rw [mem_leading, folded_eq_of_find? found]
  exact found

/-- If the expected name is no candidate and there are others, then one that leads its spelling is
picked. -/
theorem pick_mem_leading
    (absent : expected ∉ candidatesOf names) (nonempty : candidatesOf names ≠ []) :
    pick names expected ∈ leading (candidatesOf names) := by
  rw [pick_of_not_mem absent]
  cases nearly : (candidatesOf names).find? fun name => folded name == folded expected with
  | some name =>
      rw [Option.some_or, Option.getD_some]
      exact mem_leading_of_find? nearly
  | none =>
      have first := List.head?_eq_some_head nonempty
      rw [Option.none_or, first, Option.getD_some]
      exact mem_leading_of_head? first

/-- The expected name is picked just if it is a candidate or there is none. -/
theorem pick_eq_expected_iff
    (names : List Text) (expected : Text) :
    pick names expected = expected ↔
      expected ∈ candidatesOf names ∨ candidatesOf names = [] := by
  constructor
  · intro picked
    by_contra neither
    rw [not_or] at neither
    have leads := pick_mem_leading neither.1 neither.2
    rw [picked] at leads
    exact neither.1 (mem_of_mem_leading leads)
  · rintro (candidate | none)
    · exact pick_of_mem candidate
    · exact pick_of_nil none

/-- If no name but the expected one is offered, then it is picked, even if it is never a candidate
or nothing is offered at all. -/
theorem pick_of_forall_eq
    (same : ∀ name ∈ names, name = expected) :
    pick names expected = expected := by
  rw [pick_eq_expected_iff]
  cases candidates : candidatesOf names with
  | nil => exact Or.inr rfl
  | cons first others =>
      have candidate : first ∈ candidatesOf names := candidates ▸ List.mem_cons_self
      rw [same first (mem_candidatesOf.1 candidate).1]
      exact Or.inl List.mem_cons_self

/-- If a single name is offered and can be that of the function, then it is picked, whatever name
was expected. -/
theorem pick_of_isCandidate
    (candidate : isCandidate name = true) (nonempty : names ≠ [])
    (same : ∀ other ∈ names, other = name) (expected : Text) :
    pick names expected = name := by
  have kept : candidatesOf names = names :=
    List.filter_eq_self.2 fun other member => same other member ▸ candidate
  by_cases offered : expected ∈ names
  · rw [pick_of_mem (kept.symm ▸ offered), same expected offered]
  · have leads := pick_mem_leading (kept.symm ▸ offered) (kept.symm ▸ nonempty)
    rw [kept] at leads
    exact same _ (mem_of_mem_leading leads)

/-! ## What can be picked against the expectation -/

/-- Whatever is picked against the expectation leads its spelling. -/
theorem pick_mem_leading_of_ne
    (unexpected : pick names expected ≠ expected) :
    pick names expected ∈ leading (candidatesOf names) := by
  rw [ne_eq, pick_eq_expected_iff, not_or] at unexpected
  exact pick_mem_leading unexpected.1 unexpected.2

theorem folded_append_underscores
    (name : Text) (count : Nat) :
    folded (name ++ List.replicate count '_') = folded name := by
  have gone : (List.replicate count '_').filter (· != '_') = [] := by
    rw [List.filter_replicate]
    rfl
  rw [folded, folded, List.filter_append, gone, List.append_nil]

/-- There is a name of each spelling that is none of finitely many. -/
theorem exists_spelled_alike
    (names : List Text) (name : Text) :
    ∃ expected, folded expected = folded name ∧ expected ∉ names := by
  refine ⟨name ++ List.replicate (names.flatten.length + 1) '_',
    folded_append_underscores name _, fun member => ?_⟩
  have short := (List.sublist_flatten_of_mem member).length_le
  rw [List.length_append, List.length_replicate] at short
  omega

/-- Whatever leads its spelling is picked against some expectation. -/
theorem exists_pick_eq
    (leads : name ∈ leading (candidatesOf names)) :
    ∃ expected, pick names expected = name ∧ name ≠ expected := by
  rw [mem_leading] at leads
  obtain ⟨expected, alike, absent⟩ := exists_spelled_alike (candidatesOf names) name
  refine ⟨expected, ?_, ?_⟩
  · rw [pick_of_not_mem absent, alike, leads, Option.some_or, Option.getD_some]
  · rintro rfl
    exact absent (List.mem_of_find?_eq_some leads)

/-- What holds of every name that is picked against an expectation is what holds of the leading
candidates. -/
theorem forall_pick_iff
    (names : List Text) (holds : Text → Prop) :
    (∀ expected, pick names expected ≠ expected → holds (pick names expected)) ↔
      ∀ name ∈ leading (candidatesOf names), holds name := by
  constructor
  · intro picked name leads
    obtain ⟨expected, found, unexpected⟩ := exists_pick_eq leads
    have here := picked expected
    rw [found] at here
    exact here unexpected
  · exact fun leadingHold expected unexpected => leadingHold _ (pick_mem_leading_of_ne unexpected)

end Pick

/-! ## Names that are declared and expected -/

/-- A name that is both expected and captured in the source is found just if it can be that of the
function to be written or no captured name can. -/
theorem declared_name_is_found_iff
    (language : Language) (source expected : Text)
    (declared : expected ∈ capturedNames language (stripped language source)) :
    entryName language source expected = expected ↔
      isCandidate expected = true ∨
        ∀ name ∈ capturedNames language (stripped language source), isCandidate name = false := by
  have offered : expected ∈ candidateNames language (stripped language source) :=
    mem_candidateNames.2 declared
  rw [entryName, pick_eq_expected_iff, mem_candidatesOf, candidatesOf, List.filter_eq_nil_iff]
  simp only [offered, true_and, mem_candidateNames, Bool.not_eq_true]

/-- A solution with a function that is expected and another one. -/
def twoFunctions : Text :=
  "def gcd(a, b):\n    return a if b == 0 else gcd(b, a % b)\n\ndef reduced(a, b):\n    return [a // gcd(a, b), b // gcd(a, b)]\n"

/-- An expected name that is as good as any other. -/
theorem declared_name_is_found_iff_reduced :
    "reduced".toList ∈ capturedNames .python (stripped .python twoFunctions) ∧
      entryName .python twoFunctions "reduced" = "reduced".toList := by
  have declared : "reduced".toList ∈ capturedNames .python (stripped .python twoFunctions) := by
    decide +kernel
  refine ⟨declared, (declared_name_is_found_iff .python twoFunctions "reduced" declared).2 ?_⟩
  exact Or.inl (by decide +kernel)

/-- The name that a title suggests is declared, and yet the other one is found, since the first is
one of those that are never a candidate. -/
theorem gcd_gives_way :
    Name.ofTitle "GCD" = "gcd".toList ∧
      "gcd".toList ∈ capturedNames .python (stripped .python twoFunctions) ∧
        entryName .python twoFunctions "gcd" = "reduced".toList ∧
          entryName .python twoFunctions "gcd" ≠ "gcd".toList := by
  have found :
      "gcd".toList ∈ capturedNames .python (stripped .python twoFunctions) ∧
        entryName .python twoFunctions "gcd" = "reduced".toList := by
    decide +kernel
  refine ⟨by decide, found.1, found.2, ?_⟩
  rw [found.2]
  decide

end Kata.Detection
