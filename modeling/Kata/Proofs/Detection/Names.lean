import Mathlib.Data.List.Basic
import Kata.Detection.Source
import Kata.Proofs.Name.Identifiers
import Kata.Proofs.Pattern.Names
import Kata.Proofs.Pattern.Search
import Kata.Proofs.Text.Blank

/-!
# The name of the function to be called

The names that a solution offers come from the pieces that the patterns for functions take, and in
most patterns the name stands directly ahead of a bracket or an equals sign, up to blanks. A text
with only one such mark therefore offers at most one name.
-/

namespace Kata.Detection

open Pattern

/-! ## Collecting -/

theorem mem_insertCapture
    {capture other : Capture} {captures : List Capture} :
    other ∈ insertCapture capture captures ↔ other = capture ∨ other ∈ captures := by
  induction captures with
  | nil => rw [insertCapture, List.mem_cons]
  | cons first captures inductionHypothesis =>
      rw [insertCapture]
      split
      · rw [List.mem_cons]
      · rw [List.mem_cons, inductionHypothesis, List.mem_cons, or_left_comm]

/-- Sorting loses no capture and adds none. -/
theorem mem_sortCaptures
    {capture : Capture} {captures : List Capture} :
    capture ∈ sortCaptures captures ↔ capture ∈ captures := by
  have onward :
      ∀ sorted : List Capture,
        capture ∈ captures.foldl (fun sorted other => insertCapture other sorted) sorted ↔
          capture ∈ sorted ∨ capture ∈ captures := by
    induction captures with
    | nil => simp
    | cons first captures inductionHypothesis =>
        intro sorted
        rw [List.foldl_cons, inductionHypothesis, mem_insertCapture, List.mem_cons, or_assoc,
          or_left_comm]
  rw [sortCaptures, onward]
  simp

theorem mem_distinct
    {name : Text} {names : List Text} :
    name ∈ distinct names ↔ name ∈ names := by
  induction names with
  | nil => rfl
  | cons first names inductionHypothesis =>
      rw [distinct, List.mem_cons, List.mem_cons, List.mem_filter, inductionHypothesis]
      by_cases isFirst : name = first
      · simp [isFirst]
      · simp [isFirst]

/-- That one of several patterns captures a piece of a text as group 1. -/
def IsCaptured (patterns : List Pattern) (text : Text) (capture : Capture) : Prop :=
  ∃ p ∈ patterns, ∃ found ∈ p.matchesIn text, found.capture? 1 = some capture

theorem mem_captures
    {patterns : List Pattern} {text : Text} {capture : Capture} :
    capture ∈ captures patterns text ↔ IsCaptured patterns text capture := by
  simp only [captures, List.mem_flatMap, List.mem_filterMap, IsCaptured]

/-- Sorting and dropping repetitions loses no name that is captured, and adds none. -/
theorem mem_namesInOrder_iff
    {patterns : List Pattern} {text name : Text} :
    name ∈ namesInOrder patterns text ↔ ∃ start, IsCaptured patterns text ⟨start, name⟩ := by
  rw [namesInOrder, mem_distinct, List.mem_map]
  constructor
  · intro named
    obtain ⟨capture, member, same⟩ := named
    exact ⟨capture.start, same ▸ mem_captures.1 (mem_sortCaptures.1 member)⟩
  · intro captured
    obtain ⟨start, captured⟩ := captured
    exact ⟨⟨start, name⟩, mem_sortCaptures.2 (mem_captures.2 captured), rfl⟩

/-- That a pattern captures a name as group 1 somewhere in a text. -/
def Captures (p : Pattern) (text name : Text) : Prop :=
  ∃ front piece rest remembered,
    TakesAt p text front piece rest remembered ∧ remembered.lookup 1 = some name

/-- Every name that patterns offer is captured by one of them. -/
theorem captures_of_mem_namesInOrder
    {patterns : List Pattern} {text name : Text} (member : name ∈ namesInOrder patterns text) :
    ∃ p ∈ patterns, Captures p text name := by
  obtain ⟨start, p, patternMember, found, foundMember, remembers⟩ :=
    mem_namesInOrder_iff.1 member
  exact ⟨p, patternMember, exists_takesAt_of_capture? foundMember remembers⟩

/-- A sequence with a group for the name offers some name wherever its parts take pieces one behind
the other. -/
theorem namesInOrder_ne_nil
    {patterns : List Pattern} (first second : List Pattern) {body : Pattern}
    {text front left named right rest : Text}
    (member : inOrder (first ++ ([group 1 body] ++ second)) ∈ patterns)
    (forgets :
      isForgetful (inOrder first) = true ∧ isForgetful body = true ∧
        isForgetful (inOrder second) = true)
    (whole : text = front ++ (left ++ (named ++ (right ++ rest))))
    (atFirst : Takes (inOrder first) (lastOf none front) left (named ++ (right ++ rest)) [])
    (atName : Takes body (lastOf (lastOf none front) left) named (right ++ rest) [])
    (atSecond :
      Takes (inOrder second) (lastOf (lastOf none front) (left ++ named)) right rest []) :
    namesInOrder patterns text ≠ [] := by
  have takesAt :
      TakesAt (inOrder (first ++ ([group 1 body] ++ second))) text front
        (left ++ (named ++ right)) rest [(1, named)] := by
    refine ⟨?_, (takes_inOrder_group first second forgets.1 forgets.2.1 forgets.2.2).2 ?_⟩
    · rw [whole, List.append_assoc, List.append_assoc]
    · exact ⟨left, named, right, atFirst, atName, atSecond, rfl, rfl⟩
  obtain ⟨found, foundMember⟩ :=
    exists_mem_matchesIn (occursIn_iff.2 ⟨front, _, rest, _, takesAt⟩)
  -- Whichever piece is found first, the group takes part in it.
  obtain ⟨_, _, kept, here, _, same⟩ := isMatch_of_mem_matchesIn foundMember
  obtain ⟨_, name, _, _, _, _, _, rfl⟩ :=
    (takes_inOrder_group first second forgets.1 forgets.2.1 forgets.2.2).1 here.takes
  have remembers : (found.capture? 1).map Capture.text = some name := by
    rw [Match.capture?, ← lookup_remembered, same]
    rfl
  obtain ⟨capture, captured, _⟩ := Option.map_eq_some_iff.1 remembers
  have offered : capture.text ∈ namesInOrder patterns text :=
    mem_namesInOrder_iff.2 ⟨capture.start, _, member, found, foundMember, captured⟩
  exact List.ne_nil_of_mem offered

/-! ## Names ahead of a mark -/

/-- That a text ends with a character that is no part of a name. -/
def EndsOutside (ahead : Text) : Prop :=
  ∃ front c, ahead = front ++ [c] ∧ isDollarName c = false

/-- That a name stands in a text behind a given part and ahead of a mark, up to blanks, and that
the part does not end within a name. -/
structure StandsAhead (mark : Char) (text ahead name : Text) : Prop where
  whole : ∃ gap behind, (∀ c ∈ gap, Text.isBlank c = true) ∧
    text = ahead ++ (name ++ (gap ++ mark :: behind))
  border : EndsOutside ahead
  nonempty : name ≠ []
  isName : ∀ c ∈ name, isDollarName c = true

theorem isBlank_of_isDollarName
    {c : Char} (inName : isDollarName c = true) :
    Text.isBlank c = false := by
  rw [isDollarName, Bool.or_eq_true, beq_iff_eq] at inName
  rcases inName with isWord | isDollar
  · exact Text.isBlank_of_isWord isWord
  · rw [isDollar]
    decide

/-- From the end of a text, blanks, a name and what is ahead of it can be told apart. -/
theorem reverse_takeWhile_dropWhile
    {ahead name gap : Text} (blank : ∀ c ∈ gap, Text.isBlank c = true)
    (border : EndsOutside ahead) (nonempty : name ≠ []) (isName : ∀ c ∈ name, isDollarName c = true) :
    ((ahead ++ (name ++ gap)).reverse.dropWhile Text.isBlank).takeWhile isDollarName =
        name.reverse ∧
      ((ahead ++ (name ++ gap)).reverse.dropWhile Text.isBlank).dropWhile isDollarName =
        ahead.reverse := by
  obtain ⟨front, c, rfl, outside⟩ := border
  have dropped :
      ((front ++ [c] ++ (name ++ gap)).reverse.dropWhile Text.isBlank) =
        name.reverse ++ (c :: front.reverse) := by
    obtain ⟨last, others, reversed⟩ :=
      List.exists_cons_of_ne_nil (mt List.reverse_eq_nil_iff.1 nonempty)
    have inName : last ∈ name := by
      rw [← List.mem_reverse, reversed]
      exact List.mem_cons_self
    have solid : ¬Text.isBlank last = true := by
      rw [isBlank_of_isDollarName (isName last inName)]
      exact Bool.false_ne_true
    rw [List.reverse_append, List.reverse_append, List.append_assoc,
      List.dropWhile_append_of_pos fun d member => blank d (List.mem_reverse.1 member), reversed,
      List.cons_append, List.dropWhile_cons_of_neg solid, List.reverse_append,
      List.reverse_singleton, List.singleton_append, List.cons_append]
  have all : ∀ d ∈ name.reverse, isDollarName d = true :=
    fun d member => isName d (List.mem_reverse.1 member)
  have stop : ¬isDollarName c = true := by
    rw [outside]
    exact Bool.false_ne_true
  rw [dropped, List.takeWhile_append_of_pos all, List.takeWhile_cons_of_neg stop,
    List.dropWhile_append_of_pos all, List.dropWhile_cons_of_neg stop, List.append_nil,
    List.reverse_append, List.reverse_singleton, List.singleton_append]
  exact ⟨rfl, rfl⟩

/-- What stands ahead of the only mark of a text. -/
theorem front_of_count_eq_one
    {mark : Char} {front behind other rest : Text}
    (once : (front ++ mark :: behind).count mark = 1)
    (same : front ++ mark :: behind = other ++ mark :: rest) :
    front = other := by
  rw [List.count_append, List.count_cons_self] at once
  have absent : mark ∉ front := List.count_eq_zero.1 (by omega)
  have absentBehind : mark ∉ behind := List.count_eq_zero.1 (by omega)
  exact ((List.append_cons_inj_of_notMem absent absentBehind).1 same).1

/-- Ahead of the only mark of a text stands only one name. -/
theorem StandsAhead.unique
    {mark : Char} {text ahead name other named : Text} (once : text.count mark = 1)
    (stands : StandsAhead mark text ahead name) (standsToo : StandsAhead mark text other named) :
    ahead = other ∧ name = named := by
  obtain ⟨gap, behind, blank, whole⟩ := stands.whole
  obtain ⟨space, rest, spaceBlank, wholeToo⟩ := standsToo.whole
  have regrouped : text = (ahead ++ (name ++ gap)) ++ mark :: behind := by
    rw [whole, List.append_assoc, List.append_assoc]
  have regroupedToo : text = (other ++ (named ++ space)) ++ mark :: rest := by
    rw [wholeToo, List.append_assoc, List.append_assoc]
  have fronts : ahead ++ (name ++ gap) = other ++ (named ++ space) := by
    rw [regrouped] at once
    exact front_of_count_eq_one once (regrouped ▸ regroupedToo)
  obtain ⟨nameReversed, aheadReversed⟩ :=
    reverse_takeWhile_dropWhile blank stands.border stands.nonempty stands.isName
  obtain ⟨namedReversed, otherReversed⟩ :=
    reverse_takeWhile_dropWhile spaceBlank standsToo.border standsToo.nonempty standsToo.isName
  rw [fronts] at nameReversed aheadReversed
  constructor
  · exact List.reverse_injective (aheadReversed.symm.trans otherReversed)
  · exact List.reverse_injective (nameReversed.symm.trans namedReversed)

/-! ## Patterns with a name ahead of a mark -/

theorem isDollarName_of_isBlank
    {c : Char} (blank : Text.isBlank c = true) :
    isDollarName c = false := by
  by_contra inName
  rw [isBlank_of_isDollarName (Bool.not_eq_false _ ▸ inName)] at blank
  exact Bool.false_ne_true blank

theorem isBlank_of_isLineBlank
    {c : Char} (blank : isLineBlank c = true) :
    Text.isBlank c = true := by
  rw [isLineBlank, Bool.or_eq_true, beq_iff_eq, beq_iff_eq] at blank
  rcases blank with rfl | rfl <;> decide

theorem exists_of_takes_dollarName
    {previous : Option Char} {piece rest : Text} {remembered : Remembered}
    (takes : Takes dollarName previous piece rest remembered) :
    ∃ first others, piece = first :: others ∧ isDollarNameStart first = true ∧
      ∀ c ∈ piece, isDollarName c = true := by
  obtain ⟨_, others, _, _, ⟨⟨first, starts, rfl⟩, rfl⟩, ⟨all, rfl⟩, rfl, rfl⟩ := takes
  refine ⟨first, others, rfl, starts, List.forall_mem_cons.2 ⟨?_, all⟩⟩
  rw [isDollarNameStart, Bool.or_eq_true] at starts
  rw [isDollarName, Bool.or_eq_true]
  rcases starts with letter | dollar
  · exact Or.inl (Name.isWord_of_isIdentifierChar (Name.isIdentifierChar_of_isNameStart letter))
  · exact Or.inr dollar

theorem takes_name_of_isIdentifier
    {identifier : Text} (isIdentifier : Name.isIdentifier identifier = true)
    (previous : Option Char) (rest : Text) :
    Takes name previous identifier rest [] := by
  cases identifier with
  | nil => exact absurd isIdentifier Bool.false_ne_true
  | cons first others =>
      rw [Name.isIdentifier, Bool.and_eq_true] at isIdentifier
      have words : ∀ c ∈ others, Text.isWord c = true :=
        fun c member => Name.isWord_of_isIdentifierChar (List.all_eq_true.1 isIdentifier.2 c member)
      exact ⟨[first], others, [], [], ⟨⟨first, isIdentifier.1, rfl⟩, rfl⟩, ⟨words, rfl⟩, rfl, rfl⟩

/-- Whatever is taken as a name is also taken where the dollar sign counts as a letter. -/
theorem takes_dollarName_of_takes_name
    {previous : Option Char} {piece rest : Text} {remembered : Remembered}
    (takes : Takes name previous piece rest remembered) :
    Takes dollarName previous piece rest remembered := by
  obtain ⟨_, others, _, _, ⟨⟨first, starts, rfl⟩, rfl⟩, ⟨words, rfl⟩, rfl, rfl⟩ := takes
  refine ⟨[first], others, [], [], ⟨⟨first, ?_, rfl⟩, rfl⟩, ⟨?_, rfl⟩, rfl, rfl⟩
  · rw [isDollarNameStart, starts]
    rfl
  · intro c member
    rw [isDollarName, words c member]
    rfl

/-- Blanks and then a pattern whose pieces all begin with a mark. -/
theorem exists_gap_of_takes
    {accepts : Char → Bool} {p : Pattern} {others : List Pattern} {mark : Char}
    {previous : Option Char} {piece rest : Text} {remembered : Remembered}
    (begins :
      ∀ {previous piece rest remembered}, Takes p previous piece rest remembered →
        ∃ more, piece = mark :: more)
    (takes : Takes (inOrder (many accepts :: p :: others)) previous piece rest remembered) :
    ∃ gap behind, (∀ c ∈ gap, accepts c = true) ∧ piece = gap ++ mark :: behind := by
  obtain ⟨gap, _, _, _, ⟨accepted, rfl⟩, atMark, rfl, rfl⟩ := takes_inOrder_cons.1 takes
  cases others with
  | nil =>
      obtain ⟨more, rfl⟩ := begins (takes_inOrder_singleton.1 atMark)
      exact ⟨gap, more, accepted, rfl⟩
  | cons next others =>
      obtain ⟨_, behind, _, _, here, _, rfl, rfl⟩ := takes_inOrder_cons.1 atMark
      obtain ⟨more, rfl⟩ := begins here
      exact ⟨gap, more ++ behind, accepted, rfl⟩

theorem begins_char
    {mark : Char} {previous : Option Char} {piece rest : Text} {remembered : Remembered}
    (takes : Takes (char mark) previous piece rest remembered) :
    ∃ more, piece = mark :: more :=
  ⟨[], (takes_char.1 takes).1⟩

theorem begins_flatParameters
    {previous : Option Char} {piece rest : Text} {remembered : Remembered}
    (takes : Takes flatParameters previous piece rest remembered) :
    ∃ more, piece = '(' :: more := by
  obtain ⟨_, behind, _, _, bracket, _, rfl, rfl⟩ := takes_inOrder_cons.1 takes
  obtain ⟨rfl, rfl⟩ := takes_char.1 bracket
  exact ⟨behind, rfl⟩

/-- Where the name of a sequence is captured: behind a piece that the first part takes and, if that
piece ends outside of a name, ahead of the mark. -/
theorem exists_standsAhead_of_captures
    (first others : List Pattern) {body p : Pattern} {accepts : Char → Bool} {mark : Char}
    {text name : Text}
    (forgets :
      isForgetful (inOrder first) = true ∧ isForgetful body = true ∧
        isForgetful (inOrder (many accepts :: p :: others)) = true)
    (blank : ∀ c, accepts c = true → Text.isBlank c = true)
    (names :
      ∀ {previous piece rest remembered}, Takes body previous piece rest remembered →
        Takes dollarName previous piece rest remembered)
    (begins :
      ∀ {previous piece rest remembered}, Takes p previous piece rest remembered →
        ∃ more, piece = mark :: more)
    (captures :
      Captures (inOrder (first ++ ([group 1 body] ++ (many accepts :: p :: others)))) text name) :
    ∃ front left behind,
      Takes (inOrder first) (lastOf none front) left (name ++ behind) [] ∧
        text = front ++ (left ++ (name ++ behind)) ∧
          (name.head?.any isDollarNameStart = true) ∧
            (EndsOutside (front ++ left) → StandsAhead mark text (front ++ left) name) := by
  obtain ⟨front, piece, rest, remembered, takesAt, remembers⟩ := captures
  obtain ⟨left, named, right, atFirst, atName, atMark, rfl, rfl⟩ :=
    (takes_inOrder_group first (many accepts :: p :: others) forgets.1 forgets.2.1
      forgets.2.2).1 takesAt.takes
  obtain rfl : named = name := Option.some.inj remembers
  obtain ⟨head, tail, rfl, starts, isName⟩ := exists_of_takes_dollarName (names atName)
  obtain ⟨gap, behind, accepted, rfl⟩ := exists_gap_of_takes begins atMark
  have whole := takesAt.whole
  refine ⟨front, left, (gap ++ mark :: behind) ++ rest, atFirst, ?_, starts, fun border => ?_⟩
  · rw [whole]
    simp only [List.append_assoc]
  · refine ⟨⟨gap, behind ++ rest, fun c member => blank c (accepted c member), ?_⟩, border,
      List.cons_ne_nil head tail, isName⟩
    rw [whole]
    simp only [List.append_assoc, List.cons_append]

/-! ## The patterns for functions -/

theorem endsOutside_append
    (front : Text) {ahead : Text} (outside : EndsOutside ahead) :
    EndsOutside (front ++ ahead) := by
  obtain ⟨others, c, rfl, notInName⟩ := outside
  exact ⟨front ++ others, c, (List.append_assoc _ _ _).symm, notInName⟩

theorem endsOutside_of_forall
    {ahead : Text} (nonempty : ahead ≠ []) (outside : ∀ c ∈ ahead, isDollarName c = false) :
    EndsOutside ahead := by
  obtain ⟨others, c, rfl⟩ := (List.eq_nil_or_concat' ahead).resolve_left nonempty
  exact ⟨others, c, rfl, outside c List.mem_concat_self⟩

theorem endsOutside_of_gap
    {gap : Text} (nonempty : gap ≠ []) (blank : ∀ c ∈ gap, Text.isBlank c = true) :
    EndsOutside gap :=
  endsOutside_of_forall nonempty fun c member => isDollarName_of_isBlank (blank c member)

variable {source name : Text}

/-- That a text ends like a type ahead of a name: with a character of a type and a gap, or with the
mark of a pointer or a reference and blanks that may be missing. -/
def EndsLikeType (ahead : Text) : Prop :=
  ∃ front c gap, ahead = front ++ c :: gap ∧ (∀ d ∈ gap, Text.isBlank d = true) ∧
    (isTypeTail c = true ∧ gap ≠ [] ∨ c = '*' ∨ c = '&')

theorem endsOutside_of_endsLikeType
    {ahead : Text} (ends : EndsLikeType ahead) :
    EndsOutside ahead := by
  obtain ⟨front, c, gap, rfl, blank, spaced | marked⟩ := ends
  · exact endsOutside_append front (endsOutside_append [c] (endsOutside_of_gap spaced.2 blank))
  · refine endsOutside_append front (endsOutside_of_forall (List.cons_ne_nil _ _) ?_)
    refine List.forall_mem_cons.2 ⟨?_, fun d member => isDollarName_of_isBlank (blank d member)⟩
    rcases marked with rfl | rfl <;> decide

/-- In Java and C++ the name stands behind something like a type and ahead of the bracket. -/
theorem exists_standsBehindType
    (captures : Captures typedDefinition source name) :
    ∃ ahead, EndsLikeType ahead ∧ StandsAhead '(' source ahead name := by
  obtain ⟨front, left, behind, atType, _, _, stands⟩ :=
    exists_standsAhead_of_captures
      [either (seq (one isTypeTail) gap) (seq (one fun c => c == '*' || c == '&') blanks)]
      [blanks, qualifier "const", qualifier "noexcept", qualifier "override",
        optional (inOrder [text "throws", gap, one isThrown, few isThrown]), char '\x7b']
      ⟨rfl, rfl, by decide⟩ (fun _ blank => blank) takes_dollarName_of_takes_name
      begins_flatParameters captures
  have ends : EndsLikeType (front ++ left) := by
    rcases atType with spaced | marked
    · obtain ⟨_, space, _, _, ⟨⟨c, isTail, rfl⟩, _⟩, isGap, rfl, _⟩ := takes_seq.1 spaced
      obtain ⟨nonempty, blank, _⟩ := takes_gap.1 isGap
      exact ⟨front, c, space, rfl, blank, Or.inl ⟨isTail, nonempty⟩⟩
    · obtain ⟨_, space, _, _, ⟨⟨c, isMark, rfl⟩, _⟩, ⟨blank, _⟩, rfl, _⟩ := takes_seq.1 marked
      rw [Bool.or_eq_true, beq_iff_eq, beq_iff_eq] at isMark
      exact ⟨front, c, space, rfl, blank, Or.inr isMark⟩
  exact ⟨front ++ left, ends, stands (endsOutside_of_endsLikeType ends)⟩

theorem exists_standsAhead_typedDefinition
    (captures : Captures typedDefinition source name) :
    ∃ ahead, StandsAhead '(' source ahead name := by
  obtain ⟨ahead, _, stands⟩ := exists_standsBehindType captures
  exact ⟨ahead, stands⟩

/-- In Python the name stands ahead of the bracket. -/
theorem exists_standsAhead_defStatement
    (captures : Captures defStatement source name) :
    ∃ ahead, StandsAhead '(' source ahead name := by
  obtain ⟨front, left, behind, atWord, _, _, stands⟩ :=
    exists_standsAhead_of_captures
      [lineStart, lineBlanks, optional (seq (text "async") lineGap), text "def",
        lineGap]
      [] ⟨by decide, rfl, rfl⟩ (fun _ blank => isBlank_of_isLineBlank blank)
      takes_dollarName_of_takes_name begins_char captures
  refine ⟨front ++ left, stands (endsOutside_append front ?_)⟩
  obtain ⟨ahead, gap, _, _, _, isGap, rfl, _⟩ :=
    (takes_inOrder_append
      [lineStart, lineBlanks, optional (seq (text "async") lineGap), text "def"]).1 atWord
  obtain ⟨nonempty, blank, _⟩ := takes_lineGap.1 (takes_inOrder_singleton.1 isGap)
  exact endsOutside_append ahead
    (endsOutside_of_gap nonempty fun c member => isBlank_of_isLineBlank (blank c member))

/-- In JavaScript the name of a variable stands ahead of the equals sign. -/
theorem exists_standsAhead_boundFunction
    (captures : Captures boundFunction source name) :
    ∃ ahead, StandsAhead '=' source ahead name := by
  obtain ⟨front, left, behind, atWord, _, _, stands⟩ :=
    exists_standsAhead_of_captures [wordEdge, oneOf ["var", "let", "const"], gap]
      [blanks, optional (seq (text "async") gap),
        anyOf
          [seq (text "function") wordEdge,
            inOrder [flatParameters, blanks, text "=>"],
            inOrder [dollarName, blanks, text "=>"]]]
      ⟨by decide, rfl, by decide⟩ (fun _ blank => blank) id begins_char captures
  refine ⟨front ++ left, stands (endsOutside_append front ?_)⟩
  obtain ⟨ahead, space, _, _, _, isGap, rfl, _⟩ :=
    (takes_inOrder_append [wordEdge, oneOf ["var", "let", "const"]]).1 atWord
  obtain ⟨nonempty, blank, _⟩ := takes_gap.1 (takes_inOrder_singleton.1 isGap)
  exact endsOutside_append ahead (endsOutside_of_gap nonempty blank)

/-- The word for functions in JavaScript, and blanks around a star that may be missing; directly
behind the word no word character follows. -/
theorem exists_of_takes_functionWord
    {previous : Option Char} {piece rest : Text} {remembered : Remembered}
    (takes :
      Takes (inOrder [wholeWord "function", blanks, optional (char '*'), blanks]) previous piece
        rest remembered) :
    ∃ middle, piece = "function".toList ++ middle ∧
      (∀ c ∈ middle, Text.isBlank c = true ∨ c = '*') ∧
        (middle = [] → rest.head?.any Text.isWord = false) := by
  obtain ⟨word, _, _, _, isWhole, behindWord, rfl, _⟩ := takes_inOrder_cons.1 takes
  obtain ⟨early, _, _, _, ⟨earlyBlank, _⟩, behindEarly, rfl, _⟩ := takes_inOrder_cons.1 behindWord
  obtain ⟨star, late, _, _, isStar, ⟨lateBlank, _⟩, rfl, _⟩ := takes_inOrder_cons.1 behindEarly
  obtain ⟨_, _, _, _, ⟨_, rfl, _⟩, edged, rfl, _⟩ := takes_inOrder_cons.1 isWhole
  obtain ⟨_, _, _, _, isWord, ⟨edge, rfl, _⟩, rfl, _⟩ := takes_inOrder_cons.1 edged
  obtain ⟨rfl, _⟩ := (takes_text "function").1 isWord
  refine ⟨early ++ (star ++ late), ?_, ?_, ?_⟩
  · rw [List.append_nil]
  · refine List.forall_mem_append.2 ⟨fun c member => Or.inl (earlyBlank c member), ?_⟩
    refine List.forall_mem_append.2 ⟨?_, fun c member => Or.inl (lateBlank c member)⟩
    rcases takes_optional.1 isStar with present | ⟨rfl, _⟩
    · rw [(takes_char.1 present).1]
      exact List.forall_mem_singleton.2 (Or.inr rfl)
    · exact List.forall_mem_nil _
  · intro empty
    have last : lastOf (lastOf previous []) "function".toList = some 'n' := rfl
    have inWord : Text.isWord 'n' = true := by decide
    rw [empty, List.nil_append, last, Option.any_some, inWord] at edge
    exact Bool.eq_false_iff.2 (Ne.symm edge)

theorem eq_dollar_of_isDollarNameStart
    {c : Char} (starts : isDollarNameStart c = true) (outside : Text.isWord c = false) :
    c = '$' := by
  rw [isDollarNameStart, Bool.or_eq_true, beq_iff_eq] at starts
  refine starts.resolve_left fun letter => ?_
  rw [Name.isWord_of_isIdentifierChar (Name.isIdentifierChar_of_isNameStart letter)] at outside
  exact Bool.noConfusion outside

/-- The name of a function in JavaScript stands behind the word and ahead of the bracket; directly
behind the word it would begin with a dollar sign. -/
theorem exists_standsAhead_namedFunction
    (captures : Captures namedFunction source name) :
    '$' ∈ source ∨
      ∃ front middle, middle ≠ [] ∧ (∀ c ∈ middle, Text.isBlank c = true ∨ c = '*') ∧
        StandsAhead '(' source (front ++ ("function".toList ++ middle)) name := by
  obtain ⟨front, left, behind, atWord, whole, starts, stands⟩ :=
    exists_standsAhead_of_captures [wholeWord "function", blanks, optional (char '*'), blanks] []
      ⟨by decide, rfl, rfl⟩ (fun _ blank => blank) id begins_char captures
  obtain ⟨middle, rfl, middleChars, edge⟩ := exists_of_takes_functionWord atWord
  cases middle with
  | nil =>
      -- Without anything between, only a dollar sign keeps the edge of the word.
      refine Or.inl ?_
      cases name with
      | nil => exact absurd starts Bool.false_ne_true
      | cons head tail =>
          rw [whole, ← eq_dollar_of_isDollarNameStart starts (edge rfl)]
          simp
  | cons c middle =>
      have outside : ∀ d ∈ c :: middle, isDollarName d = false := by
        intro d member
        rcases middleChars d member with blank | star
        · exact isDollarName_of_isBlank blank
        · rw [star]
          decide
      refine Or.inr ⟨front, c :: middle, List.cons_ne_nil c middle, middleChars, stands ?_⟩
      exact endsOutside_append front (endsOutside_append _
        (endsOutside_of_forall (List.cons_ne_nil c middle) outside))

/-- A word with a gap behind it that may be missing. -/
theorem takes_optionalWord
    {word : Text} {previous : Option Char} {piece rest : Text} {remembered : Remembered}
    (takes : Takes (optional (seq (text word) gap)) previous piece rest remembered) :
    piece = [] ∨
      ∃ space, space ≠ [] ∧ (∀ c ∈ space, Text.isBlank c = true) ∧ piece = word ++ space := by
  rcases takes_optional.1 takes with present | ⟨empty, _⟩
  · obtain ⟨_, space, _, _, isWord, isGap, rfl, _⟩ := takes_seq.1 present
    obtain ⟨rfl, _⟩ := (takes_text word).1 isWord
    obtain ⟨nonempty, blank, _⟩ := takes_gap.1 isGap
    exact Or.inr ⟨space, nonempty, blank, rfl⟩
  · exact Or.inl empty

theorem noSign_of_gap
    {gap : Text} (blank : ∀ c ∈ gap, Text.isBlank c = true) :
    '=' ∉ gap :=
  fun member => absurd (blank '=' member) (by decide)

theorem noSign_of_optionalWord
    {word piece : Text} (absent : '=' ∉ word)
    (optional :
      piece = [] ∨
        ∃ space, space ≠ [] ∧ (∀ c ∈ space, Text.isBlank c = true) ∧ piece = word ++ space) :
    '=' ∉ piece ∧ (piece = [] ∨ EndsOutside piece) := by
  rcases optional with rfl | ⟨space, nonempty, blank, rfl⟩
  · exact ⟨List.not_mem_nil, Or.inl rfl⟩
  · rw [List.mem_append, not_or]
    exact ⟨⟨absent, noSign_of_gap blank⟩,
      Or.inr (endsOutside_append word (endsOutside_of_gap nonempty blank))⟩

theorem endsOutside_append_optional
    {ahead piece : Text} (outside : EndsOutside ahead) (optional : piece = [] ∨ EndsOutside piece) :
    EndsOutside (ahead ++ piece) := by
  rcases optional with rfl | pieceOutside
  · rw [List.append_nil]
    exact outside
  · exact endsOutside_append ahead pieceOutside

/-- A method of a class in JavaScript is indented, and its name stands ahead of the bracket. -/
theorem exists_standsAhead_classMethod
    (captures : Captures classMethod source name) :
    ∃ front left, (lastOf none front).all (· == '\n') = true ∧ left ≠ [] ∧ '=' ∉ left ∧
      StandsAhead '(' source (front ++ left) name := by
  obtain ⟨front, left, behind, atStart, _, _, stands⟩ :=
    exists_standsAhead_of_captures
      [lineStart, lineGap, optional (seq (text "static") gap), optional (seq (text "async") gap)]
      [blanks, char '\x7b'] ⟨by decide, rfl, by decide⟩ (fun _ blank => blank) id
      begins_flatParameters captures
  obtain ⟨_, _, _, _, ⟨starts, rfl, _⟩, indented, rfl, _⟩ := takes_inOrder_cons.1 atStart
  obtain ⟨indentation, _, _, _, isGap, words, rfl, _⟩ := takes_inOrder_cons.1 indented
  obtain ⟨static, async, _, _, isStatic, isAsync, rfl, _⟩ := takes_inOrder_cons.1 words
  obtain ⟨nonempty, lineBlank, _⟩ := takes_lineGap.1 isGap
  have blank : ∀ c ∈ indentation, Text.isBlank c = true :=
    fun c member => isBlank_of_isLineBlank (lineBlank c member)
  obtain ⟨staticSign, staticEnd⟩ := noSign_of_optionalWord (by decide) (takes_optionalWord isStatic)
  obtain ⟨asyncSign, asyncEnd⟩ :=
    noSign_of_optionalWord (by decide) (takes_optionalWord (takes_inOrder_singleton.1 isAsync))
  have outside : EndsOutside (indentation ++ (static ++ async)) := by
    rw [← List.append_assoc]
    exact endsOutside_append_optional
      (endsOutside_append_optional (endsOutside_of_gap nonempty blank) staticEnd) asyncEnd
  refine ⟨front, indentation ++ (static ++ async), starts, ?_, ?_, ?_⟩
  · exact fun empty => nonempty (List.append_eq_nil_iff.1 empty).1
  · rw [List.mem_append, List.mem_append, not_or, not_or]
    exact ⟨noSign_of_gap blank, staticSign, asyncSign⟩
  · exact stands (endsOutside_append front outside)

/-- An exported name in JavaScript stands behind a dot. -/
theorem dot_mem_of_captures_exportedName
    (captures : Captures exportedName source name) :
    '.' ∈ source := by
  obtain ⟨front, piece, rest, remembered, takesAt, _⟩ := captures
  obtain ⟨left, right, _, _, behindDot, _, rfl, _⟩ := takes_seq.1 takesAt.takes
  have dot : '.' ∈ left := by
    rcases behindDot with assigned | dotted
    · obtain ⟨module, others, _, _, isModule, _, rfl, _⟩ := takes_inOrder_cons.1 assigned
      rw [((takes_text _).1 isModule).1]
      exact List.mem_append_left others (by decide)
    · obtain ⟨_, module, _, _, ⟨_, rfl, _⟩, isModule, rfl, _⟩ := takes_seq.1 dotted
      rw [((takes_text _).1 isModule).1]
      decide
  rw [takesAt.whole]
  exact List.mem_append_right front (List.mem_append_left rest (List.mem_append_left right dot))

end Kata.Detection
