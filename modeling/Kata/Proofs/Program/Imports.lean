import Kata.Proofs.Program.Definitions
import Kata.Proofs.Program.Demotion
import Kata.Proofs.Source.Uncommented

/-!
# Imports of Java solutions

The imports of a solution are moved ahead of all other code. Which lines are imports is decided by
the lines as they stand, with their comments. A line with a slash can be an import without its
comments and none as it stands, and then it stays where it is; and a line of a comment can look like
an import, and then it becomes one.
-/

namespace Kata.Program

open Fragment.Java (baseImports)
open Helper (Fragment Plan)
open Source (ScannedLine scannedLines)

/-! ## Lines of the solution -/

/-- Whether a line is an import and nothing else. -/
def isImportLine (line : Text) : Bool :=
  Java.isImport line && line.getLast? == some ';'

theorem isHoisted_of_isImportLine
    {line : Text} (isImport : isImportLine line = true) :
    Java.isHoisted line = true := by
  rw [isImportLine, Bool.and_eq_true] at isImport
  rw [Java.isHoisted, isImport.1, isImport.2]
  rfl

/-- The lines that are pulled out of a text are found among what stands between its line feeds. -/
theorem filter_map_trim_lines
    {isHoisted : Text → Bool} (blankStays : isHoisted [] = false) (text : Text) :
    ((Text.lines text).map Text.trim).filter isHoisted =
      ((Text.splitOn '\n' text).map Text.trim).filter isHoisted := by
  have trimReturn : ∀ line, Text.trim (Text.dropReturn line) = Text.trim line := by
    intro line
    have blank : ∀ c ∈ ['\r'], Text.isBlank c = true := List.forall_mem_singleton.2 (by decide)
    rcases Text.dropReturn_cases line with same | same
    · rw [same]
    · rw [← Text.trim_append_of_blank blank, ← same]
  rw [Text.lines]
  generalize Text.splitOn '\n' text = parts
  induction parts with
  | nil => rfl
  | cons line parts inductionHypothesis =>
      cases parts with
      | nil =>
          rw [Text.lines.go]
          split
          · next empty =>
            subst empty
            exact (List.filter_cons_of_neg (Bool.eq_false_iff.1 blankStays)).symm
          · rfl
      | cons next rest =>
          rw [Text.lines.go, List.map_cons, List.map_cons, trimReturn, List.filter_cons,
            List.filter_cons, inductionHypothesis]

/-- The lines that are left of a text, unless there are none. -/
theorem splitOn_hoistLines
    (isHoisted : Text → Bool) (text : Text) :
    Text.splitOn '\n' (Source.hoistLines isHoisted text).2 =
        (Text.lines text).filter (fun line => !isHoisted (Text.trim line)) ∨
      (Text.lines text).filter (fun line => !isHoisted (Text.trim line)) = [] ∧
        Text.splitOn '\n' (Source.hoistLines isHoisted text).2 = [[]] := by
  rw [Source.hoistLines]
  by_cases left : (Text.lines text).filter (fun line => !isHoisted (Text.trim line)) = []
  · rw [left]
    exact Or.inr ⟨rfl, rfl⟩
  · refine Or.inl (Text.splitOn_joinWith left fun line member inside => ?_)
    exact (Text.mem_of_mem_lines (List.mem_filter.1 member).1 inside).2 rfl

/-- A line that begins with a word of the head of a type is not pulled out. -/
theorem BeginsWithTypeWord.not_isHoisted
    {line : Text} (begins : BeginsWithTypeWord line) :
    Java.isHoisted (Text.trim line) = false := by
  obtain ⟨word, more, trimmed, isTypeWord⟩ := begins.exists_trim
  have notImport : Java.isImport (Text.trim line) = false := by
    rw [← Bool.not_eq_true, Java.isImport, List.isPrefixOf_iff_prefix]
    rintro ⟨behind, same⟩
    have two := congrArg (List.take 2) (same.trans trimmed)
    rw [List.take_append_of_le_length isTypeWord.isLong] at two
    exact isTypeWord.notImport two.symm
  have notPackage : "package ".toList.isPrefixOf (Text.trim line) = false := by
    rw [← Bool.not_eq_true, List.isPrefixOf_iff_prefix]
    rintro ⟨behind, same⟩
    exact begins.head?_trim (congrArg List.head? same.symm)
  rw [Java.isHoisted, notImport, notPackage]
  rfl

/-- No import is left in the solution. -/
theorem not_isHoisted_of_mem_userText
    {source line : Text} (member : line ∈ Text.splitOn '\n' (Java.userText source)) :
    Java.isHoisted (Text.trim line) = false := by
  obtain ⟨front, early, late, behind, written, between, earlyBlank, lateBlank, _⟩ :=
    Text.exists_line_of_mem_trim member
  have trimmed : Text.trim (early ++ (line ++ late)) = Text.trim line := by
    rw [Text.trim, Text.trimStart_append_of_blank earlyBlank]
    exact Text.trim_append_of_blank lateBlank line
  rw [← trimmed]
  rcases wasLine_of_withoutPublicTypes written between with was | blank | begins
  · obtain ⟨ahead, rest, whole, lineBegins, ends, _⟩ := was
    rw [Pattern.lastOf, Option.or_none] at lineBegins
    have own := Text.mem_splitOn_iff.2 ⟨ahead, rest, whole, lineBegins, between.whole, ends⟩
    rcases splitOn_hoistLines Java.isHoisted source with lines | ⟨_, lines⟩
    · rw [lines] at own
      exact (Bool.not_eq_true' _).mp (List.mem_filter.1 own).2
    · rw [lines] at own
      rw [List.mem_singleton.1 own]
      decide
  · rw [Text.trim_of_blank blank]
    decide
  · exact begins.not_isHoisted

/-! ## The lines ahead of all other code -/

/-- Whether a segment is neither the code for a structure nor the solution. -/
def Segment.isGlue : Segment → Bool
  | .glue _ => true
  | _ => false

/-- The text ahead of all code for structures and of the solution. -/
def preamble (segments : List Segment) : Text :=
  joined (segments.takeWhile Segment.isGlue)

/-- The text of the solution. -/
def solution (segments : List Segment) : Text :=
  joined (segments.filter Segment.isUser)

/-- The lines of a Java program ahead of all code for structures and of the solution. -/
def headerLines (request : Request) : List Text :=
  Text.splitOn '\n' (preamble (segments .java request))

/-- The lines of the solution in a Java program, trimmed. -/
def solutionLines (request : Request) : List Text :=
  (Text.splitOn '\n' (solution (segments .java request))).map Text.trim

theorem solution_segments
    (language : Language) (request : Request) :
    solution (segments language request) = userText language request.source := by
  rw [solution, segments, filter_isUser_segmentsWith]
  exact List.append_nil _

/-- Ahead of the first code for a structure, or of the solution, only line feeds stand. -/
theorem exists_joined_takeWhile
    (user : Text) (more : List Segment) :
    ∀ {blocks : List (List Segment)},
      (∀ block ∈ blocks,
        block = [lineFeed] ∨ ∃ fragment text, block = [lineFeed, .helper fragment text]) →
        ∃ count,
          joined ((blocks.flatten ++ lineFeed :: .user user :: more).takeWhile Segment.isGlue) =
            List.replicate count '\n'
  | [], _ => ⟨1, rfl⟩
  | block :: blocks, shaped => by
      rw [List.forall_mem_cons] at shaped
      obtain ⟨rfl | ⟨fragment, text, rfl⟩, later⟩ := shaped
      · obtain ⟨count, feeds⟩ := exists_joined_takeWhile user more later
        exact ⟨count + 1, congrArg ('\n' :: ·) feeds⟩
      · exact ⟨1, rfl⟩

/-- There are the imports, and nothing else but line feeds. -/
theorem exists_preamble
    (request : Request) :
    ∃ count,
      preamble (segments .java request) =
        (Java.importLines request.source).flatMap (· ++ ['\n']) ++ List.replicate count '\n' := by
  have shaped :
      ∀ plans : List Plan, ∃ blocks : List (List Segment),
        Java.definitionsAt plans .beforeUser (lineFeed :: ·) = blocks.flatten ∧
          ∀ block ∈ blocks,
            block = [lineFeed] ∨ ∃ fragment text, block = [lineFeed, .helper fragment text] := by
    intro plans
    refine ⟨_, List.flatMap_def .., fun block member => ?_⟩
    obtain ⟨fragment, _, rfl⟩ := List.mem_map.1 member
    cases fragment with
    | definition kind => exact Or.inr ⟨_, _, rfl⟩
    | functions kind => exact Or.inl rfl
  obtain ⟨blocks, laidOut, shaped⟩ := shaped (Helper.plans .java request)
  obtain ⟨count, feeds⟩ :=
    exists_joined_takeWhile (Java.userText request.source)
      ([.glue "\n\n"] ++
        (Java.definitionsAt (Helper.plans .java request) .afterUser (· ++ [lineFeed]) ++
          ([.glue "public class Main \x7b\n"] ++
            (Java.functionSegments (Helper.plans .java request) ++
              [.glue (Java.closing (Helper.plans .java request) request)])))) shaped
  refine ⟨count, ?_⟩
  rw [← feeds, preamble, segments, segmentsWith, Java.segments, laidOut]
  simp only [List.append_assoc]
  rfl

theorem splitOn_lines_append
    (rest : Text) :
    ∀ {lines : List Text}, (∀ line ∈ lines, '\n' ∉ line) →
      Text.splitOn '\n' (lines.flatMap (· ++ ['\n']) ++ rest) =
        lines ++ Text.splitOn '\n' rest
  | [], _ => rfl
  | line :: lines, whole => by
      rw [List.forall_mem_cons] at whole
      rw [List.flatMap_cons, List.append_assoc, List.append_assoc, List.singleton_append,
        Text.splitOn_append_cons whole.1, splitOn_lines_append rest whole.2]
      rfl

theorem splitOn_replicate
    (count : Nat) :
    Text.splitOn '\n' (List.replicate count '\n') = List.replicate (count + 1) [] := by
  induction count with
  | zero => rfl
  | succ count inductionHypothesis =>
      rw [List.replicate_succ, List.replicate_succ, ← inductionHypothesis]
      exact Text.splitOn_append_cons List.not_mem_nil _

/-- The lines of a solution that become imports of the program. -/
def ownImports (source : Text) : List Text :=
  ((Text.splitOn '\n' source).map Text.trim).filter fun line =>
    isImportLine line && !baseImports.contains line

theorem importLines_eq
    (source : Text) :
    Java.importLines source = baseImports ++ ownImports source := by
  rw [Java.importLines, Source.hoistLines, filter_map_trim_lines (by decide), List.filter_filter,
    ownImports]
  refine congrArg (baseImports ++ ·) (List.filter_congr fun line _ => ?_)
  rw [isImportLine, Java.isHoisted]
  cases Java.isImport line <;> simp [Bool.and_comm]

theorem isImportLine_of_mem
    {source line : Text} (member : line ∈ Java.importLines source) :
    isImportLine line = true := by
  rw [importLines_eq] at member
  rcases List.mem_append.1 member with isBase | isOwn
  · have known : ∀ line ∈ baseImports, isImportLine line = true := by decide
    exact known line isBase
  · exact ((Bool.and_eq_true _ _).mp (List.mem_filter.1 isOwn).2).1

theorem lineFeed_not_mem_of_mem_importLines
    {source line : Text} (member : line ∈ Java.importLines source) :
    '\n' ∉ line := by
  rw [importLines_eq] at member
  rcases List.mem_append.1 member with isBase | isOwn
  · have known : ∀ line ∈ baseImports, '\n' ∉ line := by decide
    exact known line isBase
  · obtain ⟨part, partMember, rfl⟩ := List.mem_map.1 (List.mem_filter.1 isOwn).1
    obtain ⟨lead, trail, _, _, parts⟩ := Text.exists_trim part
    intro inside
    have inPart : '\n' ∈ part := by
      rw [parts]
      exact List.mem_append_right _ (List.mem_append_left _ inside)
    exact absurd (Text.isSeparator_of_mem_splitWhere part partMember '\n' inPart) (by decide)

/-- The lines of the header are the imports and blank ones. -/
theorem exists_headerLines
    (request : Request) :
    ∃ count, headerLines request = Java.importLines request.source ++ List.replicate count [] := by
  obtain ⟨count, written⟩ := exists_preamble request
  refine ⟨count + 1, ?_⟩
  rw [headerLines, written, ← splitOn_replicate,
    splitOn_lines_append _ fun line member => lineFeed_not_mem_of_mem_importLines member]

/-- The lines of the header that are imports. -/
theorem filter_headerLines
    (request : Request) :
    (headerLines request).filter isImportLine = Java.importLines request.source := by
  obtain ⟨count, lines⟩ := exists_headerLines request
  have blank : (List.replicate count ([] : Text)).filter isImportLine = [] :=
    List.filter_eq_nil_iff.2 fun line member => by
      rw [List.eq_of_mem_replicate member]
      decide
  rw [lines, List.filter_append, blank, List.append_nil]
  exact List.filter_eq_self.2 fun line member => isImportLine_of_mem member

theorem isImportLine_of_mem_headerLines
    {request : Request} {line : Text} (member : line ∈ headerLines request) (nonempty : line ≠ []) :
    isImportLine line = true := by
  obtain ⟨count, lines⟩ := exists_headerLines request
  rw [lines] at member
  rcases List.mem_append.1 member with isImport | isBlank
  · exact isImportLine_of_mem isImport
  · exact absurd (List.eq_of_mem_replicate isBlank) nonempty

/-- An import line is moved ahead of all other code. -/
theorem mem_headerLines_of_isImportLine
    {request : Request} {line : Text}
    (member : line ∈ (Text.splitOn '\n' request.source).map Text.trim)
    (isImport : isImportLine line = true) :
    line ∈ headerLines request ∧ line ∉ solutionLines request := by
  constructor
  · obtain ⟨count, lines⟩ := exists_headerLines request
    rw [lines, importLines_eq]
    refine List.mem_append_left _ ?_
    by_cases isBase : line ∈ baseImports
    · exact List.mem_append_left _ isBase
    · refine List.mem_append_right _ (List.mem_filter.2 ⟨member, ?_⟩)
      rw [isImport, Bool.true_and, Bool.not_eq_true', ← Bool.not_eq_true, List.contains_iff_mem]
      exact isBase
  · intro isLeft
    rw [solutionLines, solution_segments] at isLeft
    obtain ⟨left, leftMember, rfl⟩ := List.mem_map.1 isLeft
    have stays : Java.isHoisted (Text.trim left) = false := not_isHoisted_of_mem_userText leftMember
    rw [isHoisted_of_isImportLine isImport] at stays
    exact Bool.noConfusion stays

/-! ## Imports with comments -/

/-- The lines of a solution that are not inside of a comment with marks at both ends, trimmed. -/
def openLines (source : Text) : List Text :=
  ((scannedLines source).filter fun line => !line.isCommented).map fun line => Text.trim line.text

/-- The selected items of a list are among those that are not marked just if no marked item is
selected. -/
theorem filter_sublist_iff
    {α β : Type} (image : α → β) (isMarked : α → Bool) (selects : β → Bool) (items : List α) :
    List.Sublist ((items.map image).filter selects)
        ((items.filter fun item => !isMarked item).map image) ↔
      ∀ item ∈ items, isMarked item = true → selects (image item) = false := by
  have commute :
      (items.filter fun item => !isMarked item).filter (selects ∘ image) =
        (items.filter (selects ∘ image)).filter fun item => !isMarked item := by
    rw [List.filter_filter, List.filter_filter]
    exact List.filter_congr fun item _ => Bool.and_comm _ _
  constructor
  · intro covered item member marked
    have enough := (covered.filter selects).length_le
    rw [List.filter_filter, List.filter_map, List.filter_map, List.length_map, List.length_map,
      commute] at enough
    simp only [Bool.and_self] at enough
    -- As many selected items are not marked as there are selected ones.
    have all :
        ((items.filter (selects ∘ image)).filter fun item => !isMarked item) =
          items.filter (selects ∘ image) :=
      List.filter_sublist.eq_of_length_le enough
    rw [← Bool.not_eq_true]
    intro selected
    have unmarked := List.filter_eq_self.1 all item (List.mem_filter.2 ⟨member, selected⟩)
    rw [marked] at unmarked
    exact Bool.noConfusion unmarked
  · intro unmarked
    have same :
        items.filter (selects ∘ image) =
          (items.filter fun item => !isMarked item).filter (selects ∘ image) := by
      rw [List.filter_filter]
      refine List.filter_congr fun item member => ?_
      cases marked : isMarked item with
      | false => exact (Bool.and_true _).symm
      | true => exact (unmarked item member marked).trans (Bool.and_false _).symm
    rw [List.filter_map, same]
    exact List.filter_sublist.map image

/-- Every import line, judged without its comments, is moved to the lines ahead of all other code
just if all those with a slash are import lines as they stand. What becomes an import are lines
outside of comments, each at most once and in their order, just if no line of a comment looks like
an import beyond the ones that every program has. -/
theorem imports_are_hoisted_iff
    (request : Request) :
    ((∀ line ∈ scannedLines request.source, isImportLine (Text.trim line.uncommented) = true →
        Text.trim line.text ∈ headerLines request ∧
          Text.trim line.text ∉ solutionLines request) ↔
      ∀ line ∈ scannedLines request.source, '/' ∈ line.text →
        isImportLine (Text.trim line.uncommented) = true →
          isImportLine (Text.trim line.text) = true) ∧
    (List.Sublist ((headerLines request).filter isImportLine)
        (baseImports ++ openLines request.source) ↔
      ∀ line ∈ scannedLines request.source, line.isCommented = true →
        isImportLine (Text.trim line.text) = true → Text.trim line.text ∈ baseImports) := by
  have lineTexts :
      (scannedLines request.source).map (fun line => Text.trim line.text) =
        (Text.splitOn '\n' request.source).map Text.trim := by
    rw [← Source.map_text_scannedLines, List.map_map]
    rfl
  constructor
  · constructor
    · intro hoisted line member slash isImport
      refine isImportLine_of_mem_headerLines (hoisted line member isImport).1 fun blank => ?_
      obtain ⟨lead, trail, leadBlank, trailBlank, whole⟩ := Text.exists_trim line.text
      rw [whole, blank, List.nil_append, List.mem_append] at slash
      rcases slash with inLead | inTrail
      · exact absurd (leadBlank '/' inLead) (by decide)
      · exact absurd (trailBlank '/' inTrail) (by decide)
    · intro plain line member isImport
      have isLine :
          Text.trim line.text ∈ (Text.splitOn '\n' request.source).map Text.trim := by
        rw [← lineTexts]
        exact List.mem_map_of_mem member
      refine mem_headerLines_of_isImportLine isLine ?_
      by_cases slash : '/' ∈ line.text
      · exact plain line member slash isImport
      · rcases Source.uncommented_cases member slash with whole | nothing
        · rw [← whole]
          exact isImport
        · rw [nothing] at isImport
          exact absurd isImport (by decide)
  · rw [filter_headerLines, importLines_eq, List.append_sublist_append_left, ownImports,
      ← lineTexts, openLines, filter_sublist_iff]
    refine forall₃_congr fun line _ _ => ?_
    rw [Bool.and_eq_false_iff, Bool.not_eq_false', List.contains_iff_mem, ← Bool.not_eq_true,
      ← imp_iff_not_or]

/-- A solution with an import that has a comment behind it. -/
def remarkedImport : Request :=
  Request.make
    "import java.util.function.*; // functions\n\nclass Solution \x7b\n    int size(ListNode head) \x7b\n        return 0;\n    \x7d\n\x7d\n"
    "size" [⟨.listNode, "buildLinkedList(new int[]\x7b1\x7d)"⟩] .int

/-- A solution with a comment that holds an import. -/
def discardedImport : Request :=
  Request.make
    "/*\nimport missing.Library;\n*/\nclass Solution \x7b\n    int twice(int n) \x7b\n        return 2 * n;\n    \x7d\n\x7d\n"
    "twice" [⟨.int, "4"⟩] .int

/-- The import with a comment behind it stays in the solution, behind the definition of a structure,
and the one in a comment becomes an import of the program. -/
theorem remarked_stays_and_discarded_returns :
    ((scannedLines remarkedImport.source).head?.map (fun line => Text.trim line.uncommented) =
        some "import java.util.function.*;".toList ∧
      "import java.util.function.*; // functions".toList ∉ headerLines remarkedImport ∧
        "import java.util.function.*; // functions".toList ∈ solutionLines remarkedImport) ∧
      (scannedLines discardedImport.source)[1]?.map
          (fun line => (line.isCommented, Text.trim line.text)) =
            some (true, "import missing.Library;".toList) ∧
        "import missing.Library;".toList ∈ headerLines discardedImport := by
  decide +kernel

end Kata.Program
