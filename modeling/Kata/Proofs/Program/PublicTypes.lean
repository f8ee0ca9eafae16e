import Kata.Proofs.Program.Imports
import Kata.Proofs.Text.Cuts
import Kata.Proofs.Text.Digits

/-!
# Public types of Java programs

A Java program has one public class of its own. The word `public` is taken from the types of the
solution where they stand at the start of a line, and the solution is trimmed only after that. So a
public type stays in a program just if it is indented in the solution and trimming moves it to the
start of its line, ahead of everything else.
-/

namespace Kata.Program

open Helper (Placement Plan)

/-! ## Lines with public types -/

/-- The lines of a text that begin with public types. -/
def publicLines (text : Text) : List Text :=
  (Text.splitOn '\n' text).filter fun line => IsPublicType line

theorem publicLines_nil :
    publicLines [] = [] := by
  decide

/-- A text and one behind a line feed have the public types of both. -/
theorem publicLines_append_lineFeed
    (left right : Text) :
    publicLines (left ++ '\n' :: right) = publicLines left ++ publicLines right := by
  rw [publicLines, Text.splitOn_append_separator, List.filter_append]
  rfl

theorem publicLines_append
    {left : Text} (ends : left.getLast?.all (· == '\n') = true) (right : Text) :
    publicLines (left ++ right) = publicLines left ++ publicLines right := by
  rcases List.eq_nil_or_concat left with rfl | ⟨before, last, rfl⟩
  · rw [publicLines_nil]
    rfl
  · rw [List.concat_eq_append, List.getLast?_concat] at ends
    obtain rfl : last = '\n' := eq_of_beq ends
    rw [List.concat_eq_append, List.append_assoc, List.singleton_append,
      publicLines_append_lineFeed, publicLines_append_lineFeed, publicLines_nil, List.append_nil]

/-- That a text is made of whole lines and none of them begins with a public type. -/
def IsPrivate (text : Text) : Prop :=
  text.getLast?.all (· == '\n') = true ∧ publicLines text = []

instance (text : Text) : Decidable (IsPrivate text) :=
  inferInstanceAs (Decidable (_ ∧ _))

theorem IsPrivate.publicLines_append
    {left : Text} (isPrivate : IsPrivate left) (right : Text) :
    publicLines (left ++ right) = publicLines right := by
  rw [Program.publicLines_append isPrivate.1, isPrivate.2, List.nil_append]

theorem isPrivate_nil :
    IsPrivate [] := by
  decide

theorem IsPrivate.append
    {left right : Text} (isPrivate : IsPrivate left) (rightPrivate : IsPrivate right) :
    IsPrivate (left ++ right) := by
  refine ⟨?_, (isPrivate.publicLines_append right).trans rightPrivate.2⟩
  rw [List.getLast?_append]
  cases last : right.getLast? with
  | none => exact isPrivate.1
  | some c =>
      have ends := rightPrivate.1
      rw [last] at ends
      exact ends

theorem isPrivate_flatten
    {parts : List Text} (isPrivate : ∀ part ∈ parts, IsPrivate part) :
    IsPrivate parts.flatten := by
  induction parts with
  | nil => exact isPrivate_nil
  | cons part parts inductionHypothesis =>
      rw [List.forall_mem_cons] at isPrivate
      exact isPrivate.1.append (inductionHypothesis isPrivate.2)

/-- A line that does not begin with the first letter of the word is none with a public type. -/
theorem isPrivate_line
    {line : Text} (whole : '\n' ∉ line) (begins : line.head? ≠ some 'p') :
    IsPrivate (line ++ ['\n']) := by
  refine ⟨by rw [List.getLast?_concat]; rfl, ?_⟩
  have notPublic : ¬IsPublicType line := fun isPublic => begins isPublic.head?
  have blank : ¬IsPublicType [] := by decide
  rw [publicLines, Text.splitOn_append_cons whole]
  simp [Text.splitOn, Text.splitWhere, notPublic, blank]

/-- Whether a line is whole and does not begin with the first letter of the word. -/
def isPrivateLine (line : Text) : Bool :=
  line.head? != some 'p' && line.all (· != '\n')

/-- A further line of a fixed text. Its characters are given, for they are what is looked at. -/
theorem isPrivate_ofLines_cons
    (line : Text) (lines : List String) (isLine : isPrivateLine line = true)
    (later : IsPrivate (Text.ofLines lines)) :
    IsPrivate (Text.ofLines (String.ofList line :: lines)) := by
  rw [isPrivateLine, Bool.and_eq_true, bne_iff_ne, List.all_eq_true] at isLine
  have whole : '\n' ∉ line := fun inside => absurd (isLine.2 '\n' inside) (by decide)
  have first := isPrivate_line whole isLine.1
  rw [Text.ofLines, String.toList_ofList, ← List.singleton_append, ← List.append_assoc]
  exact first.append later

/-! ## Parts of a program -/

theorem joined_append
    (left right : List Segment) :
    joined (left ++ right) = joined left ++ joined right :=
  List.flatMap_append

theorem isPrivate_importLines
    (source : Text) :
    IsPrivate ((Java.importLines source).flatMap (· ++ ['\n'])) := by
  rw [List.flatMap_def]
  refine isPrivate_flatten fun part member => ?_
  obtain ⟨line, lineMember, rfl⟩ := List.mem_map.1 member
  refine isPrivate_line (lineFeed_not_mem_of_mem_importLines lineMember) fun begins => ?_
  have isImport := isImportLine_of_mem lineMember
  rw [isImportLine, Bool.and_eq_true, Java.isImport, List.isPrefixOf_iff_prefix] at isImport
  obtain ⟨behind, same⟩ := isImport.1
  rw [← same] at begins
  cases begins

theorem isPrivate_library
    (kind : Structure) :
    IsPrivate (Fragment.Java.library.definition kind) ∧
      IsPrivate (Fragment.Java.library.functions kind) := by
  cases kind
  all_goals
    constructor
    all_goals
      repeat refine isPrivate_ofLines_cons _ _ rfl ?_
      exact isPrivate_nil

/-- The definitions of structures that stand in a place. -/
theorem isPrivate_definitionsAt
    (plans : List Plan) (placement : Placement) {enclose : List Segment → List Segment}
    (enclosed :
      ∀ segments : List Segment,
        IsPrivate (joined segments) → IsPrivate (joined (enclose segments))) :
    IsPrivate (joined (Java.definitionsAt plans placement enclose)) := by
  rw [joined, Java.definitionsAt, List.flatMap_assoc, List.flatMap_def]
  refine isPrivate_flatten fun part member => ?_
  obtain ⟨fragment, _, rfl⟩ := List.mem_map.1 member
  cases fragment with
  | definition kind =>
      refine enclosed _ ?_
      rw [joined, List.flatMap_singleton]
      exact (isPrivate_library kind).1
  | functions kind => exact enclosed [] isPrivate_nil

theorem isPrivate_lineFeed :
    IsPrivate ['\n'] := by
  decide

theorem isPrivate_functionSegments
    (plans : List Plan) :
    IsPrivate (joined (Java.functionSegments plans)) := by
  rw [joined, Java.functionSegments, List.flatMap_assoc, List.flatMap_def]
  refine isPrivate_flatten fun part member => ?_
  obtain ⟨plan, _, rfl⟩ := List.mem_map.1 member
  exact (isPrivate_library plan.kind).2.append isPrivate_lineFeed

theorem isPrivate_normalizeFunction
    (kinds : List Structure) :
    IsPrivate (Java.normalizeFunction kinds) := by
  have branches : IsPrivate (kinds.flatMap Java.normalizeBranch) := by
    rw [List.flatMap_def]
    refine isPrivate_flatten fun part member => ?_
    obtain ⟨kind, _, rfl⟩ := List.mem_map.1 member
    cases kind <;> decide +kernel
  have heading : IsPrivate "    static Object pjNormalize(Object value) \x7b\n" := by
    decide +kernel
  have ending : IsPrivate "        return value;\n    \x7d\n" := by
    decide +kernel
  unfold Java.normalizeFunction
  exact (heading.append branches).append ending

theorem isPrivate_support :
    IsPrivate Fragment.Java.support := by
  unfold Fragment.Java.support
  repeat refine isPrivate_ofLines_cons _ _ rfl ?_
  exact isPrivate_nil

theorem publicLines_closing
    (plans : List Plan) (request : Request) :
    publicLines (Java.closing plans request) = publicLines (Java.callText request) := by
  have normalizing :
      IsPrivate
        (if request.normalizer? = some .dynamic then
          '\n' :: Java.normalizeFunction (plans.map Plan.kind)
        else []) := by
    split
    · exact isPrivate_lineFeed.append (isPrivate_normalizeFunction _)
    · exact isPrivate_nil
  exact (isPrivate_support.append normalizing).publicLines_append _

/-- A Java program has the public types of the solution, its own public class, and what the
arguments and the name of the function may bring along. -/
theorem publicLines_compose
    (request : Request) :
    publicLines (compose .java request) =
      publicLines (Java.userText request.source) ++
        "public class Main \x7b".toList :: publicLines (Java.callText request) := by
  have header :
      IsPrivate
        (joined [.glue ((Java.importLines request.source).flatMap (· ++ ['\n']))]) := by
    rw [joined, List.flatMap_singleton]
    exact isPrivate_importLines request.source
  have early :
      IsPrivate (joined (Java.definitionsAt (Helper.plans .java request) .beforeUser
        (lineFeed :: ·))) :=
    isPrivate_definitionsAt _ _ fun segments isPrivate => isPrivate_lineFeed.append isPrivate
  have late :
      IsPrivate (joined (Java.definitionsAt (Helper.plans .java request) .afterUser
        (· ++ [lineFeed]))) :=
    isPrivate_definitionsAt _ _ fun segments isPrivate => by
      rw [joined_append]
      exact isPrivate.append isPrivate_lineFeed
  have userLines :
      ∀ rest,
        publicLines (joined [lineFeed, .user (Java.userText request.source), .glue "\n\n"] ++ rest) =
          publicLines (Java.userText request.source) ++ publicLines rest := by
    intro rest
    have block :
        joined [lineFeed, .user (Java.userText request.source), .glue "\n\n"] ++ rest =
          ['\n'] ++ (Java.userText request.source ++ '\n' :: (['\n'] ++ rest)) := by
      simp [joined, lineFeed, Segment.text]
    rw [block, isPrivate_lineFeed.publicLines_append, publicLines_append_lineFeed,
      isPrivate_lineFeed.publicLines_append]
  have ownLine :
      ∀ rest,
        publicLines (joined [.glue "public class Main \x7b\n"] ++ rest) =
          "public class Main \x7b".toList :: publicLines rest := by
    intro rest
    have own : publicLines (joined [.glue "public class Main \x7b\n"]) =
        ["public class Main \x7b".toList] := by
      decide +kernel
    rw [publicLines_append (by decide +kernel), own]
    rfl
  have closingLines :
      publicLines (joined [.glue (Java.closing (Helper.plans .java request) request)]) =
        publicLines (Java.callText request) := by
    rw [joined, List.flatMap_singleton]
    exact publicLines_closing _ request
  rw [compose, segments, segmentsWith, Java.segments]
  simp only [joined_append, List.append_assoc]
  rw [header.publicLines_append, early.publicLines_append, userLines, late.publicLines_append,
    ownLine, (isPrivate_functionSegments _).publicLines_append, closingLines]

/-! ## The call -/

/-- The line that sets the variable for an argument. -/
def assignmentLine (name : Text) (argument : Argument) : Text :=
  "        " ++ argument.type.inJava ++ " " ++ name ++ " = " ++ argument.expression ++ ";"

/-- The line that calls the function. -/
def callLine (request : Request) : Text :=
  "        var result = new Solution()." ++ request.entryName ++ "(" ++
    Text.joinWith ", " (argumentNames "arg" request.arguments) ++ ");"

/-- The line that makes the result printable. -/
def outputLine (request : Request) : Text :=
  "        Object out = " ++ Java.normalized request.normalizer? ++ ";"

theorem callText_eq
    (request : Request) :
    Java.callText request =
      "\n    public static void main(String[] args) \x7b\n" ++
        (assignments (argumentNames "arg" request.arguments) request.arguments
          (fun name argument => assignmentLine name argument ++ ['\n']) ++
            ((callLine request ++ ['\n']) ++ ((outputLine request ++ ['\n']) ++
              "        System.out.println(pjFormat(out, false));\n    \x7d\n\x7d\n"))) := by
  have assigned : ";\n".toList = ";".toList ++ ['\n'] := by
    decide +kernel
  have called :
      ");\n        Object out = ".toList = ");".toList ++ (['\n'] ++ "        Object out = ") := by
    decide +kernel
  have printed :
      ";\n        System.out.println(pjFormat(out, false));\n    \x7d\n\x7d\n".toList =
        ";".toList ++
          (['\n'] ++ "        System.out.println(pjFormat(out, false));\n    \x7d\n\x7d\n") := by
    decide +kernel
  unfold Java.callText assignmentLine callLine outputLine
  rw [assigned, called, printed]
  simp only [List.append_assoc]

theorem lineFeed_not_mem_argumentNames
    {arguments : List Argument} {name : Text} (member : name ∈ argumentNames "arg" arguments) :
    '\n' ∉ name := by
  obtain ⟨index, _, rfl⟩ := List.mem_map.1 member
  refine List.not_mem_append (by decide) fun inside => ?_
  exact absurd (Text.isDigit_of_mem_ofNat inside) (by decide)

theorem lineFeed_not_mem_assignmentLine
    {name : Text} (flatName : '\n' ∉ name) {argument : Argument}
    (flat : '\n' ∉ argument.expression) :
    '\n' ∉ assignmentLine name argument := by
  have flatType : '\n' ∉ argument.type.inJava := by
    cases argument.type <;> decide
  unfold assignmentLine
  simp only [List.mem_append, not_or]
  exact ⟨⟨⟨⟨⟨⟨by decide, flatType⟩, by decide⟩, flatName⟩, by decide⟩, flat⟩, by decide⟩

theorem lineFeed_not_mem_callLine
    {request : Request} (flatName : '\n' ∉ request.entryName) :
    '\n' ∉ callLine request := by
  have flatNames : '\n' ∉ Text.joinWith ", " (argumentNames "arg" request.arguments) := by
    intro inside
    rcases Text.mem_joinWith inside with inSeparator | ⟨name, member, inName⟩
    · exact absurd inSeparator (by decide)
    · exact lineFeed_not_mem_argumentNames member inName
  unfold callLine
  simp only [List.mem_append, not_or]
  exact ⟨⟨⟨⟨by decide, flatName⟩, by decide⟩, flatNames⟩, by decide⟩

theorem lineFeed_not_mem_outputLine
    (request : Request) :
    '\n' ∉ outputLine request := by
  have flatNormalized : '\n' ∉ Java.normalized request.normalizer? := by
    cases request.normalizer? with
    | none => decide
    | some normalizer =>
        cases normalizer with
        | dynamic => decide
        | structural kind => cases kind <;> decide
  unfold outputLine
  simp only [List.mem_append, not_or]
  exact ⟨⟨by decide, flatNormalized⟩, by decide⟩

/-- No public type comes with the call of a function if neither its name nor an argument holds a
line feed. -/
theorem isPrivate_callText
    {request : Request} (flatName : '\n' ∉ request.entryName)
    (flat : ∀ argument ∈ request.arguments, '\n' ∉ argument.expression) :
    IsPrivate (Java.callText request) := by
  have heading : IsPrivate "\n    public static void main(String[] args) \x7b\n" := by
    decide +kernel
  have ending : IsPrivate "        System.out.println(pjFormat(out, false));\n    \x7d\n\x7d\n" := by
    decide +kernel
  have assigned :
      IsPrivate (assignments (argumentNames "arg" request.arguments) request.arguments
        (fun name argument => assignmentLine name argument ++ ['\n'])) := by
    rw [assignments, ← List.map_uncurry_zip_eq_zipWith]
    refine isPrivate_flatten fun part member => ?_
    obtain ⟨⟨name, argument⟩, zipped, rfl⟩ := List.mem_map.1 member
    obtain ⟨nameMember, argumentMember⟩ := List.of_mem_zip zipped
    exact isPrivate_line
      (lineFeed_not_mem_assignmentLine (lineFeed_not_mem_argumentNames nameMember)
        (flat argument argumentMember))
      (by rintro ⟨⟩)
  have called : IsPrivate (callLine request ++ ['\n']) :=
    isPrivate_line (lineFeed_not_mem_callLine flatName) (by rintro ⟨⟩)
  have output : IsPrivate (outputLine request ++ ['\n']) :=
    isPrivate_line (lineFeed_not_mem_outputLine request) (by rintro ⟨⟩)
  rw [callText_eq]
  exact heading.append (assigned.append (called.append (output.append ending)))

/-! ## The first line of the solution -/

/-- The first line of a solution that is neither blank nor pulled out of it. -/
def firstSolidLine? (source : Text) : Option Text :=
  (Text.lines source).find? fun line =>
    !Java.isHoisted (Text.trim line) && !Source.isBlankLine line

/-- It is the first line that is not blank of the solution without the lines that are pulled out. -/
theorem firstSolidLine?_eq
    (source : Text) :
    firstSolidLine? source =
      (Text.splitOn '\n' (Source.hoistLines Java.isHoisted source).2).find? fun line =>
        !Source.isBlankLine line := by
  have left :
      firstSolidLine? source =
        ((Text.lines source).filter fun line => !Java.isHoisted (Text.trim line)).find? fun line =>
          !Source.isBlankLine line := by
    rw [firstSolidLine?, List.find?_filter]
    exact congrArg (fun test => (Text.lines source).find? test) (funext fun line => by simp)
  rw [left]
  rcases splitOn_hoistLines Java.isHoisted source with lines | ⟨none, lines⟩
  · rw [lines]
  · rw [none, lines]
    rfl

theorem isBlankLine_of_blank
    {line : Text} (blank : ∀ c ∈ line, Text.isBlank c = true) :
    Source.isBlankLine line = true := by
  rw [Source.isBlankLine, Text.trim_of_blank blank]
  rfl

theorem blank_of_isBlankLine
    {line : Text} (isBlank : Source.isBlankLine line = true) :
    ∀ c ∈ line, Text.isBlank c = true := by
  obtain ⟨lead, trail, leadBlank, trailBlank, whole⟩ := Text.exists_trim line
  have trimmed : Text.trim line = [] := eq_of_beq isBlank
  rw [trimmed, List.nil_append] at whole
  rw [whole]
  exact fun c inside => (List.mem_append.1 inside).elim (leadBlank c) (trailBlank c)

/-- A line behind blanks only is the first one that is not blank. -/
theorem find?_splitOn_of_blank
    {text front line behind : Text} (whole : text = front ++ (line ++ behind))
    (between : Text.IsLineBetween front line behind) (blank : ∀ c ∈ front, Text.isBlank c = true)
    (solid : Source.isBlankLine line = false) :
    (Text.splitOn '\n' text).find? (fun line => !Source.isBlankLine line) = some line := by
  obtain ⟨ahead, later, split, same⟩ := Text.exists_splitOn_of_between between
  have none : ahead.find? (fun line => !Source.isBlankLine line) = none := by
    refine List.find?_eq_none.2 fun part member => ?_
    rw [isBlankLine_of_blank fun c inside => blank c (same part member c inside)]
    exact Bool.false_ne_true
  rw [whole, split, List.find?_append, none, Option.none_or, List.find?_cons, solid]
  rfl

/-- No line starts in the middle of a line, and none among blanks starts with the word, so ahead of
the end of an indented line behind blanks there is no place for a public type. -/
theorem no_publicType_begins
    {front line skipped more : Text} (same : front ++ line = skipped ++ more)
    (starts : (Pattern.lastOf none skipped).all (· == '\n') = true)
    (first : more ≠ [] → more.head? = some 'p') (whole : '\n' ∉ line)
    (blank : ∀ c ∈ front, Text.isBlank c = true) (indented : line.head?.any Text.isBlank = true) :
    False := by
  have solid : Text.isBlank 'p' = false := by decide
  have nonempty : line ≠ [] := by
    rintro rfl
    exact Bool.noConfusion indented
  have notLine : line ≠ more := by
    rintro rfl
    rw [first nonempty, Option.any_some, solid] at indented
    exact Bool.noConfusion indented
  rcases List.append_eq_append_iff.1 same with ⟨part, rfl, rfl⟩ | ⟨part, rfl, rfl⟩
  · cases part with
    | nil => exact notLine rfl
    | cons c part =>
        have inside := lineFeed_mem_of_lastOf (List.cons_ne_nil c part) starts
        exact whole (List.mem_append_left _ inside)
  · cases part with
    | nil => exact notLine rfl
    | cons c part =>
        obtain rfl : c = 'p' := Option.some.inj (first (List.cons_ne_nil c _))
        rw [blank 'p' (List.mem_append_right _ List.mem_cons_self)] at solid
        exact Bool.noConfusion solid

/-- What is ahead of an indented line behind blanks, and the line itself, are kept. -/
theorem exists_withoutPublicTypes
    {source front line behind : Text} (whole : source = front ++ (line ++ behind))
    (between : Text.IsLineBetween front line behind) (blank : ∀ c ∈ front, Text.isBlank c = true)
    (indented : line.head?.any Text.isBlank = true) :
    ∃ more,
      Java.withoutPublicTypes source = front ++ (line ++ more) ∧
        more.head?.all (· == '\n') = true := by
  have takesSome : Pattern.takesSome Java.publicType = true := by decide
  have finds := Pattern.finds_matchesIn takesSome source
  rw [Java.withoutPublicTypes, Pattern.replaceAll]
  generalize Java.publicType.matchesIn source = founds at finds
  cases finds with
  | done nothing => exact ⟨behind, whole, between.ends⟩
  | @more _ skipped piece found others next onward =>
      obtain ⟨starts, gap, head, rfl, _⟩ := takes_publicType.1 next.takes
      have parts :
          (front ++ line) ++ behind =
            skipped ++ (("public".toList ++ (gap ++ head)) ++ found.stop.rest) := by
        rw [List.append_assoc, ← whole]
        exact next.whole
      have written := next.replaceAll_go (fun found => found.textOf 1) others
      rcases List.append_eq_append_iff.1 parts with ⟨more, rfl, later⟩ | ⟨more, same, later⟩
      · -- The first public type begins behind the line.
        refine ⟨more ++ (found.textOf 1 ++ Pattern.replaceAll.go (fun found => found.textOf 1)
          found.stop.offset found.stop.rest others), ?_, ?_⟩
        · refine written.trans ?_
          simp only [List.append_assoc]
        · have ends := between.ends
          rw [later] at ends
          cases more with
          | nil => exact absurd (show ('p' == '\n') = true from ends) (by decide)
          | cons c more => exact ends
      · have first : more ≠ [] → more.head? = some 'p' := by
          intro isMore
          obtain ⟨c, others, rfl⟩ := List.exists_cons_of_ne_nil isMore
          exact (congrArg List.head? later).symm
        exact (no_publicType_begins same starts first between.whole blank indented).elim

/-- A public type at the start of a text still begins a line when the text is trimmed. -/
theorem IsPublicType.exists_mem_splitOn_trim
    {start more : Text} (startPublic : IsPublicType start) (flat : '\n' ∉ start)
    (ends : more.head?.all (· == '\n') = true) :
    ∃ moved ∈ Text.splitOn '\n' (Text.trim (start ++ more)), IsPublicType moved := by
  have onward := startPublic.append (Text.isWord_head?_of_ends ends)
  obtain ⟨moved, behind, firstLine, flatMoved, behindEnds⟩ :=
    Text.exists_firstLine (Text.trim (start ++ more))
  refine ⟨moved, Text.mem_splitOn_iff.2 ⟨[], behind, firstLine, rfl, flatMoved, behindEnds⟩, ?_⟩
  cases behind with
  | nil =>
      rw [List.append_nil] at firstLine
      rw [← firstLine]
      exact onward.trim
  | cons c behind =>
      obtain rfl : c = '\n' := eq_of_beq behindEnds
      obtain ⟨late, _, kept⟩ := Text.exists_trimEnd (start ++ more)
      rw [Text.trim, onward.trimStart] at firstLine
      rw [firstLine, List.append_assoc] at kept
      have stops : more.head?.any (· != '\n') = false := by
        cases more with
        | nil => rfl
        | cons d more =>
            obtain rfl : d = '\n' := eq_of_beq ends
            rfl
      obtain ⟨rfl, _⟩ :=
        Text.run_append_inj (Text.forall_bne_of_not_mem flat)
          (Text.forall_bne_of_not_mem flatMoved) kept stops rfl
      exact startPublic

/-- An indented public type on the first line stays one, and comes to stand at the start of its
line. -/
theorem exists_publicType_of_firstSolidLine
    {source line : Text} (first : firstSolidLine? source = some line)
    (indented : line.head?.any Text.isBlank = true) (isPublic : IsPublicType (Text.trim line)) :
    ∃ moved ∈ Text.splitOn '\n' (Java.userText source), IsPublicType moved := by
  rw [firstSolidLine?_eq, List.find?_eq_some_iff_append] at first
  obtain ⟨_, ahead, later, split, blankLines⟩ := first
  obtain ⟨whole, between⟩ := Text.isLineBetween_of_splitOn split
  have blank : ∀ c ∈ ahead.flatMap (· ++ ['\n']), Text.isBlank c = true := by
    intro c inside
    obtain ⟨part, member, inPart⟩ := List.mem_flatMap.1 inside
    have isBlank : Source.isBlankLine part = true := by simpa using blankLines part member
    rcases List.mem_append.1 inPart with isOwn | isFeed
    · exact blank_of_isBlankLine isBlank c isOwn
    · rw [List.mem_singleton.1 isFeed]
      decide
  obtain ⟨more, written, ends⟩ := exists_withoutPublicTypes whole between blank indented
  -- The line without its indentation.
  obtain ⟨gap, start, gapBlank, rfl, startPublic⟩ :
      ∃ gap start,
        (∀ c ∈ gap, Text.isBlank c = true) ∧ line = gap ++ start ∧ IsPublicType start := by
    obtain ⟨gap, gapBlank, parts⟩ := Text.exists_trimStart line
    obtain ⟨trail, trailBlank, started⟩ := Text.exists_trimEnd (Text.trimStart line)
    refine ⟨gap, Text.trimStart line, gapBlank, parts, ?_⟩
    rw [started]
    exact isPublic.append (Text.isWord_head?_of_blank trailBlank)
  have same : Java.userText source = Text.trim (start ++ more) := by
    rw [Java.userText, written, Text.trim, Text.trimStart_append_of_blank blank, List.append_assoc,
      Text.trimStart_append_of_blank gapBlank]
    rfl
  have flat : '\n' ∉ start := fun inside => between.whole (List.mem_append_right _ inside)
  rw [same]
  exact startPublic.exists_mem_splitOn_trim flat ends

/-- Only such a line stays a public type. -/
theorem not_isPublicType_of_mem_userText
    {source : Text}
    (clear :
      ∀ line, firstSolidLine? source = some line → line.head?.any Text.isBlank = true →
        ¬IsPublicType (Text.trim line))
    {line : Text} (member : line ∈ Text.splitOn '\n' (Java.userText source)) :
    ¬IsPublicType line := by
  intro isPublic
  obtain ⟨front, early, late, behind, written, between, earlyBlank, lateBlank, blankAhead⟩ :=
    Text.exists_line_of_mem_trim member
  have longer := isPublic.append (Text.isWord_head?_of_blank lateBlank)
  have trimmed : Text.trim (early ++ (line ++ late)) = Text.trim (line ++ late) := by
    rw [Text.trim, Text.trimStart_append_of_blank earlyBlank]
    rfl
  have begin : (Text.trim (early ++ (line ++ late))).head? = some 'p' := by
    rw [trimmed]
    exact longer.trim.head?
  rcases wasLine_of_withoutPublicTypes written between with was | blank | begins
  · obtain ⟨ahead, rest, whole, _, ends, notPublic, sameFront⟩ := was
    cases early with
    | nil => exact notPublic longer
    | cons c early =>
        have blankFront := blankAhead.resolve_left (List.cons_ne_nil c early)
        obtain rfl := sameFront blankFront
        have solid : Source.isBlankLine (c :: early ++ (line ++ late)) = false := by
          rw [Source.isBlankLine, beq_eq_false_iff_ne]
          intro empty
          rw [empty] at begin
          cases begin
        have first := find?_splitOn_of_blank whole ⟨between.begins, between.whole, ends⟩ blankFront
          solid
        rw [← firstSolidLine?_eq] at first
        refine clear _ first (earlyBlank c List.mem_cons_self) ?_
        rw [trimmed]
        exact longer.trim
  · rw [Text.trim_of_blank blank] at begin
    cases begin
  · exact begins.head?_trim begin

/-- No line of the solution begins with a public type just if its first line, but for those that are
blank or pulled out, is not an indented one. -/
theorem publicLines_userText_iff
    (source : Text) :
    publicLines (Java.userText source) = [] ↔
      ∀ line, firstSolidLine? source = some line → line.head?.any Text.isBlank = true →
        ¬IsPublicType (Text.trim line) := by
  have none :
      publicLines (Java.userText source) = [] ↔
        ∀ line ∈ Text.splitOn '\n' (Java.userText source), ¬IsPublicType line := by
    rw [publicLines, List.filter_eq_nil_iff]
    exact forall₂_congr fun line _ => not_congr decide_eq_true_iff
  rw [none]
  constructor
  · intro clear line first indented isPublic
    obtain ⟨moved, member, movedPublic⟩ :=
      exists_publicType_of_firstSolidLine first indented isPublic
    exact clear moved member movedPublic
  · exact fun clear line member => not_isPublicType_of_mem_userText clear member

/-- The public types of a Java program are those of the solution, its own class, and what the name
of the function and the arguments bring along, which is nothing where they hold no line feed. Those
of the solution are none just if the first line of the solution, but for blank lines and those that
are pulled out, is not an indented public type. -/
theorem only_main_is_public_iff
    (request : Request) :
    publicLines (compose .java request) =
        publicLines (solution (segments .java request)) ++
          "public class Main \x7b".toList :: publicLines (Java.callText request) ∧
      ('\n' ∉ request.entryName ∧ (∀ argument ∈ request.arguments, '\n' ∉ argument.expression) →
        publicLines (Java.callText request) = []) ∧
      (publicLines (solution (segments .java request)) = [] ↔
        ∀ line, firstSolidLine? request.source = some line →
          line.head?.any Text.isBlank = true → ¬IsPublicType (Text.trim line)) := by
  rw [solution_segments]
  refine ⟨publicLines_compose request, fun flat => ?_, publicLines_userText_iff request.source⟩
  exact (isPrivate_callText flat.1 flat.2).2

/-- A solution whose public class is indented. -/
def indentedSolution : Request :=
  Request.make
    "    public class Solution \x7b\n        public int twice(int n) \x7b\n            return 2 * n;\n        \x7d\n    \x7d\n"
    "twice" [⟨.int, "4"⟩] .int

/-- Its class stays public beside the one of the program. -/
theorem indentedSolution_stays_public :
    publicLines (compose .java indentedSolution) =
      ["public class Solution \x7b".toList, "public class Main \x7b".toList] := by
  have own : publicLines (Java.userText indentedSolution.source) =
      ["public class Solution \x7b".toList] := by
    decide +kernel
  rw [publicLines_compose, own, (isPrivate_callText (by decide +kernel) (by decide +kernel)).2]
  rfl

end Kata.Program
