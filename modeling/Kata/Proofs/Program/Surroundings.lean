import Kata.Proofs.Program.Definitions
import Kata.Proofs.Program.TypeHeads

/-!
# The program around a solution

From a solution that has nothing to remove, a program takes over everything but the blanks at its
ends. What stands around it depends on the plans for the structures and on the request, and in C++
also on whether there is a class for the function, but on nothing else in the solution.
-/

namespace Kata.Program

open Helper (Plan)
open Pattern

/-! ## Solutions with nothing to remove -/

/-- Whether a solution has nothing that is removed from it: no block that runs it as a program of its
own, no main function, and in Java neither a line that is hoisted nor a public type. -/
def hasNothingToRemove (language : Language) (source : Text) : Bool :=
  match language with
  | .python =>
    (Text.lines source).all fun line =>
      Source.isIndented line || !"if __name__".toList.isPrefixOf line
  | .javaScript => true
  | .java =>
    ((Text.lines source).all fun line => !Java.isHoisted (Text.trim line)) &&
      !Java.publicType.occursIn source
  | .cpp => (Text.lines source).all fun line => !Cpp.isMainHead (Text.trim line)

/-- A solution without the blanks at its end, and in Java and C++ also without those at its start. -/
def trimmed (language : Language) (source : Text) : Text :=
  match language with
  | .python => Text.trimEnd source
  | .javaScript => Text.trimEnd source
  | .java => Text.trim source
  | .cpp => Text.trim source

/-- Whether the code of a solution in C++ has a class for the function. -/
def declaresSolution (source : Text) : Bool :=
  Cpp.solutionClass.occursIn (Detection.stripped .cpp source)

/-! ## Patterns and blanks at the end -/

theorem isOpenEnded_publicType :
    isOpenEnded Java.publicType = true := by
  simp [Java.publicType, isOpenEnded_inOrder, isOpenEnded_oneOf, isOpenEnded, gap, oneOrMore]

/-- Blanks behind a solution hold no public type and complete none. -/
theorem occursIn_publicType_append
    {gap : Text} (blank : ∀ c ∈ gap, Text.isBlank c = true) (source : Text) :
    Java.publicType.occursIn (source ++ gap) = Java.publicType.occursIn source := by
  refine occursIn_append blank isOpenEnded_publicType ?_ source
  intro previous piece rest remembered takes
  obtain ⟨_, between, head, rfl, _, isHead, _⟩ := takes_publicType.1 takes
  obtain ⟨ahead, last, rfl, inWord⟩ := isHead.ends
  refine ⟨"public".toList ++ (between ++ ahead), last, ?_, Text.isBlank_of_isWord inWord⟩
  simp only [List.append_assoc]

theorem isOpenEnded_solutionClass :
    isOpenEnded Cpp.solutionClass = true := by
  simp [Cpp.solutionClass, isOpenEnded_inOrder, isOpenEnded_oneOf, isOpenEnded, gap, oneOrMore]

theorem endsSolid_of_takes_solutionClass
    {previous : Option Char} {piece rest : Text} {remembered : Remembered}
    (takes : Takes Cpp.solutionClass previous piece rest remembered) :
    Detection.EndsSolid piece := by
  obtain ⟨edge, _, _, _, _, words, rfl, _⟩ := takes_inOrder_cons.1 takes
  obtain ⟨keyword, _, _, _, _, behindWord, rfl, _⟩ := takes_inOrder_cons.1 words
  obtain ⟨between, _, _, _, _, name, rfl, _⟩ := takes_inOrder_cons.1 behindWord
  obtain ⟨_, _, _, _, isName, ending, rfl, _⟩ := takes_inOrder_cons.1 name
  obtain ⟨rfl, _⟩ := (takes_text _).1 isName
  obtain ⟨_, rfl, _⟩ := takes_wordEdge.1 (takes_inOrder_singleton.1 ending)
  rw [List.append_nil]
  refine Detection.endsSolid_append edge (Detection.endsSolid_append keyword
    (Detection.endsSolid_append between ⟨"Solutio".toList, 'n', rfl, by decide⟩))

theorem keepsAll_of_hasNothingToRemove
    {language : Language} {source : Text} (noReturn : '\r' ∉ source)
    (nothing : hasNothingToRemove language source = true) :
    keepsAll language source = true := by
  cases language with
  | python =>
      rw [hasNothingToRemove] at nothing
      simpa only [keepsAll, Bool.not_and, Bool.not_not] using nothing
  | javaScript => rfl
  | java =>
      -- Public types are looked for in the lines, which lack the line feed at the end.
      obtain ⟨gap, blank, whole⟩ := Text.exists_blank_behind_lines noReturn
      have same := occursIn_publicType_append blank (Text.joinWith ['\n'] (Text.lines source))
      rw [← whole] at same
      rw [keepsAll, ← same]
      exact nothing
  | cpp => exact nothing

/-! ## The solution in the program -/

theorem userText_of_hasNothingToRemove
    {language : Language} {source : Text} (noReturn : '\r' ∉ source)
    (nothing : hasNothingToRemove language source = true) :
    userText language source = trimmed language source := by
  obtain ⟨gap, blank, whole⟩ :=
    exists_blank_behind_keptText (keepsAll_of_hasNothingToRemove noReturn nothing) noReturn
  have atEnd : Text.trimEnd (keptText language source) = Text.trimEnd source := by
    conv_rhs => rw [whole]
    exact (Text.trimEnd_append_of_blank blank _).symm
  have atBoth : Text.trim (keptText language source) = Text.trim source := by
    conv_rhs => rw [whole]
    exact (Text.trim_append_of_blank blank _).symm
  cases language with
  | python => exact atEnd
  | javaScript => exact atEnd
  | java => exact atBoth
  | cpp => exact atBoth

/-! ## What else of the solution a program depends on -/

/-- A solution without hoisted lines adds no imports to a program. -/
theorem importLines_of_hasNothingToRemove
    {source : Text} (nothing : hasNothingToRemove .java source = true) :
    Java.importLines source = Fragment.Java.baseImports := by
  rw [hasNothingToRemove, Bool.and_eq_true, List.all_eq_true] at nothing
  have none : (Source.hoistLines Java.isHoisted source).1 = [] := by
    rw [Source.hoistLines, List.filter_eq_nil_iff]
    intro line member
    obtain ⟨whole, wholeMember, rfl⟩ := List.mem_map.1 member
    rw [(Bool.not_eq_true' _).mp (nothing.1 whole wholeMember)]
    exact Bool.false_ne_true
  rw [Java.importLines, none, List.filter_nil, List.append_nil]

/-- With nothing removed, a class for the function is looked for in the code of the solution. -/
theorem hasSolutionClass_of_hasNothingToRemove
    {source : Text} (noReturn : '\r' ∉ source)
    (nothing : hasNothingToRemove .cpp source = true) :
    Cpp.hasSolutionClass source = declaresSolution source := by
  obtain ⟨gap, blank, whole⟩ :=
    exists_blank_behind_keptText (keepsAll_of_hasNothingToRemove noReturn nothing) noReturn
  obtain ⟨left, leftBlank, kept⟩ :=
    Source.exists_stripComments_append blank .slash (keptText .cpp source)
  have code : Detection.stripped .cpp source =
      Source.stripComments .slash (Cpp.withoutMain source) ++ left := by
    rw [← whole] at kept
    exact kept
  rw [declaresSolution, code,
    occursIn_append leftBlank isOpenEnded_solutionClass endsSolid_of_takes_solutionClass]
  rfl

/-! ## Surroundings -/

theorem joined_around
    (ahead behind : List Segment) (text : Text) :
    joined (ahead ++ .user text :: behind) = joined ahead ++ (text ++ joined behind) := by
  rw [joined, List.flatMap_append, List.flatMap_cons]
  rfl

/-- The segments around the solution depend on the solution only through its imports in Java and its
class in C++. -/
theorem exists_segments_around
    (language : Language) (plans : List Plan) (request : Request) (imports : List Text)
    (isMethod : Bool) :
    ∃ ahead behind, ∀ source,
      (language = .java → Java.importLines source = imports) →
      (language = .cpp → Cpp.hasSolutionClass source = isMethod) →
      segmentsWith language plans { request with source } =
        ahead ++ .user (userText language source) :: behind := by
  cases language with
  | python =>
      refine ⟨[.glue Fragment.Python.opening] ++
          ledHelpers Fragment.Python.library plans .beforeUser ++ [lineFeed],
        .glue "\n\n" :: trailedHelpers Fragment.Python.library plans .afterUser ++
          [.glue (Python.closing plans request)], fun source _ _ => ?_⟩
      simp only [segmentsWith, Python.segments, userText, List.append_assoc]
      rfl
  | javaScript =>
      refine ⟨trailedHelpers Fragment.JavaScript.library plans .beforeUser,
        .glue "\n\n" :: trailedHelpers Fragment.JavaScript.library plans .afterUser ++
          [.glue (JavaScript.closing plans request)], fun source _ _ => ?_⟩
      simp only [segmentsWith, JavaScript.segments, userText, List.append_assoc]
      rfl
  | java =>
      refine ⟨[.glue (imports.flatMap (· ++ ['\n']))] ++
          Java.definitionsAt plans .beforeUser (lineFeed :: ·) ++ [lineFeed],
        .glue "\n\n" :: Java.definitionsAt plans .afterUser (· ++ [lineFeed]) ++
          [.glue "public class Main \x7b\n"] ++ Java.functionSegments plans ++
            [.glue (Java.closing plans request)], fun source sameImports _ => ?_⟩
      simp only [segmentsWith, Java.segments, userText, sameImports rfl, List.append_assoc]
      rfl
  | cpp =>
      refine ⟨[.glue Fragment.Cpp.opening] ++
          ledHelpers Fragment.Cpp.library plans .beforeUser ++ [lineFeed],
        .glue "\n\n" :: trailedHelpers Fragment.Cpp.library plans .afterUser ++
          [.glue (Cpp.closing plans isMethod request)], fun source _ sameClass => ?_⟩
      simp only [segmentsWith, Cpp.segments, userText, sameClass rfl, List.append_assoc]
      rfl

/-- A program for a solution without carriage returns that has nothing to remove is the solution
between two texts, and only the blanks at its ends are missing. The two texts are the same for all
such solutions with the same plans for the structures, and in C++ with a class for the function or
all without. -/
theorem solution_is_framed
    (language : Language) (request : Request) :
    ∃ front back, ∀ source,
      '\r' ∉ source → hasNothingToRemove language source = true →
      Helper.plans language { request with source } = Helper.plans language request →
      (language = .cpp → declaresSolution source = declaresSolution request.source) →
      compose language { request with source } =
        front ++ (trimmed language source ++ back) := by
  obtain ⟨ahead, behind, around⟩ :=
    exists_segments_around language (Helper.plans language request) request
      Fragment.Java.baseImports (declaresSolution request.source)
  refine ⟨joined ahead, joined behind, fun source noReturn nothing samePlans sameClass => ?_⟩
  have parts := around source
    (fun isJava => importLines_of_hasNothingToRemove (isJava ▸ nothing))
    (fun isCpp =>
      (hasSolutionClass_of_hasNothingToRemove noReturn (isCpp ▸ nothing)).trans (sameClass isCpp))
  rw [compose, segments, samePlans, parts, joined_around,
    userText_of_hasNothingToRemove noReturn nothing]

/-- A solution in C++ with a method, and a list as its argument. -/
def listSolution : Request :=
  Request.make
    "class Solution \x7b\npublic:\n  int first(ListNode* head) \x7b return head->val; \x7d\n\x7d;\n"
    "first" [⟨.listNode, "buildLinkedList(vector<int>\x7b1\x7d)"⟩] .int

/-- The same solution as a struct, with blank lines around it. -/
def structSolution : Text :=
  "\n\nstruct Solution \x7b\n  int first(ListNode* head) \x7b return head->val; \x7d\n\x7d;\n\n"

/-- The programs for both differ in nothing but the solution. -/
theorem listSolution_is_framed :
    ∃ front back,
      compose .cpp listSolution = front ++ (Text.trim listSolution.source ++ back) ∧
        compose .cpp { listSolution with source := structSolution } =
          front ++ (Text.trim structSolution ++ back) := by
  obtain ⟨front, back, framed⟩ := solution_is_framed .cpp listSolution
  refine ⟨front, back, ?_, ?_⟩
  · exact framed listSolution.source (by decide +kernel) (by decide +kernel) rfl fun _ => rfl
  · exact framed structSolution (by decide +kernel) (by decide +kernel) (by decide +kernel)
      fun _ => by decide +kernel

end Kata.Program
