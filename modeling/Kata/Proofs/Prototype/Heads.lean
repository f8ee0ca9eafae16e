import Kata.Prototype.Reading
import Kata.Proofs.Detection.Names
import Kata.Proofs.Prototype.Brackets

/-!
# What the heads of functions look like

Ahead of the bracket of a head stands the name of the function, and ahead of that a word, a type or
an equals sign, as the language has it. The name can be read off from the end of what stands ahead
of the bracket, and the parameters from what stands behind it.
-/

namespace Kata.Prototype

open Detection (EndsOutside endsOutside_append endsOutside_of_gap endsOutside_of_forall
  isBlank_of_isDollarName isDollarName_of_isBlank exists_of_takes_dollarName
  takes_dollarName_of_takes_name reverse_takeWhile_dropWhile)
open Pattern

/-! ## From the end -/

/-- The name that a text ends with, up to blanks, and what stands ahead of it. -/
def lastName (text : Text) : Text × Text :=
  let fromEnd := text.reverse.dropWhile Text.isBlank
  ((fromEnd.takeWhile isDollarName).reverse, (fromEnd.dropWhile isDollarName).reverse)

theorem lastName_append
    {ahead name gap : Text} (blank : ∀ c ∈ gap, Text.isBlank c = true)
    (border : EndsOutside ahead) (nonempty : name ≠ [])
    (isName : ∀ c ∈ name, isDollarName c = true) :
    lastName (ahead ++ (name ++ gap)) = (name, ahead) := by
  obtain ⟨named, onward⟩ := reverse_takeWhile_dropWhile blank border nonempty isName
  rw [lastName, named, onward, List.reverse_reverse, List.reverse_reverse]

theorem dropEndWhile_append
    {isDropped : Char → Bool} (front : Text) {c : Char} (kept : isDropped c = false) {gap : Text}
    (dropped : ∀ d ∈ gap, isDropped d = true) :
    Text.dropEndWhile isDropped (front ++ (c :: gap)) = front ++ [c] := by
  have stays : ¬isDropped c = true := by
    rw [kept]
    exact Bool.false_ne_true
  rw [Text.dropEndWhile, List.reverse_append, List.reverse_cons, List.append_assoc,
    List.dropWhile_append_of_pos fun d member => dropped d (List.mem_reverse.1 member),
    List.singleton_append, List.dropWhile_cons_of_neg stays, List.reverse_cons,
    List.reverse_reverse]

/-- Whether a text ends with a word, up to blanks. -/
def endsInWord (word text : Text) : Bool :=
  word.isSuffixOf (Text.trimEnd text)

theorem endsInWord_append
    (front : Text) {word : Text} (solid : Text.hasSolidEnds word = true) {gap : Text}
    (blank : ∀ c ∈ gap, Text.isBlank c = true) :
    endsInWord word (front ++ (word ++ gap)) = true := by
  obtain ⟨content, c, rfl, solidEnd⟩ := (Text.hasSolidEnds_iff.1 solid).2
  have trimmed :
      Text.trimEnd (front ++ (content ++ [c] ++ gap)) = (front ++ content) ++ [c] := by
    rw [List.append_assoc content, ← List.append_assoc front]
    exact dropEndWhile_append (front ++ content) solidEnd blank
  rw [endsInWord, trimmed, List.append_assoc, List.isSuffixOf_iff_suffix]
  exact List.suffix_append front (content ++ [c])

/-- The parameters behind a bracket: all up to the bracket that closes it. -/
def argumentsOf (behind : Text) : Text :=
  behind.takeWhile (· != ')')

theorem argumentsOf_append
    {arguments : Text} (flat : ∀ c ∈ arguments, (c != ')') = true) (rest : Text) :
    argumentsOf (arguments ++ ')' :: rest) = arguments := by
  rw [argumentsOf, List.takeWhile_append_of_pos flat, List.takeWhile_cons_of_neg (by decide),
    List.append_nil]

theorem not_mem_of_blank
    {gap : Text} (blank : ∀ c ∈ gap, Text.isBlank c = true) :
    '(' ∉ gap :=
  fun member => absurd (blank '(' member) (by decide)

theorem not_mem_of_isName
    {name : Text} (isName : ∀ c ∈ name, isDollarName c = true) :
    '(' ∉ name :=
  fun member => absurd (isName '(' member) (by decide)

/-- That blanks, a name and perhaps more blanks follow each other. -/
structure IsNamed (gap name space : Text) : Prop where
  gapNonempty : gap ≠ []
  gapBlank : ∀ c ∈ gap, Text.isBlank c = true
  nonempty : name ≠ []
  isName : ∀ c ∈ name, isDollarName c = true
  spaceBlank : ∀ c ∈ space, Text.isBlank c = true

theorem IsNamed.lastName
    {gap name space : Text} (named : IsNamed gap name space) (front : Text) :
    lastName (front ++ (gap ++ (name ++ space))) = (name, front ++ gap) := by
  rw [← List.append_assoc]
  exact lastName_append named.spaceBlank
    (endsOutside_append front (endsOutside_of_gap named.gapNonempty named.gapBlank))
    named.nonempty named.isName

theorem IsNamed.not_mem
    {gap name space : Text} (named : IsNamed gap name space) :
    '(' ∉ gap ++ (name ++ space) :=
  List.not_mem_append (not_mem_of_blank named.gapBlank)
    (List.not_mem_append (not_mem_of_isName named.isName) (not_mem_of_blank named.spaceBlank))

/-! ## Types behind names -/

/-- Whether a text can be that ahead of the bracket of a head whose types follow the names. -/
def annotatedHeads (ahead : Text) : Bool :=
  endsInWord "def" (lastName ahead).2

/-- What is remembered of a head whose types follow the names. -/
def AnnotatedSettled (ahead behind : Text) (remembered : Remembered) : Prop :=
  remembered.lookup 1 = some (lastName ahead).1 ∧
    remembered.lookup 2 = some (argumentsOf behind)

/-- What stands behind the bracket of a head whose types follow the names. -/
def annotatedEnding : Pattern :=
  inOrder
    [blanks,
      optional (inOrder [text "->", blanks, group 3 (seq (one (· != ':')) (few (· != ':')))]),
      blanks, char ':']

/-- Behind the brackets at most the type of the result is remembered. -/
theorem remembered_of_takes_result
    {previous : Option Char} {piece rest : Text} {remembered : Remembered}
    (takes : Takes annotatedEnding previous piece rest remembered) :
    remembered = [] ∨ ∃ type, remembered = [(3, type)] := by
  obtain ⟨_, _, _, _, ⟨_, rfl⟩, others, rfl, rfl⟩ := takes_inOrder_cons.1 takes
  obtain ⟨_, _, _, _, result, ending, rfl, rfl⟩ := takes_inOrder_cons.1 others
  obtain ⟨_, _, _, _, ⟨_, rfl⟩, colon, rfl, rfl⟩ := takes_inOrder_cons.1 ending
  obtain ⟨rfl, rfl⟩ := takes_char.1 (takes_inOrder_singleton.1 colon)
  rcases takes_optional.1 result with arrow | ⟨rfl, rfl⟩
  · obtain ⟨_, _, _, _, isArrow, behind, rfl, rfl⟩ := takes_inOrder_cons.1 arrow
    obtain ⟨_, type, _, _, ⟨_, rfl⟩, named, rfl, rfl⟩ := takes_inOrder_cons.1 behind
    obtain ⟨inner, isType, rfl⟩ := takes_group.1 (takes_inOrder_singleton.1 named)
    obtain ⟨rfl, rfl⟩ := (takes_text _).1 isArrow
    obtain rfl := remembered_of_isForgetful _ rfl isType
    exact Or.inr ⟨type, rfl⟩
  · exact Or.inl rfl

/-- What a head looks like whose types follow the names. -/
theorem exists_of_takes_annotatedHead
    {previous : Option Char} {piece rest : Text} {remembered : Remembered}
    (takes : Takes annotatedHead previous piece rest remembered) :
    ∃ gap name space arguments behind,
      piece =
          "def".toList ++ (gap ++ (name ++ space)) ++ '(' :: (arguments ++ ')' :: behind) ∧
        IsNamed gap name space ∧ (∀ c ∈ arguments, (c != ')') = true) ∧
          remembered.lookup 1 = some name ∧ remembered.lookup 2 = some arguments ∧
            ∃ before late,
              Takes annotatedEnding before behind rest late ∧
                remembered.lookup 3 = late.lookup 3 := by
  obtain ⟨_, _, _, _, isWord, atGap, rfl, rfl⟩ := takes_inOrder_cons.1 takes
  obtain ⟨gap, _, _, _, isGap, atName, rfl, rfl⟩ := takes_inOrder_cons.1 atGap
  obtain ⟨named, _, _, _, isGroup, atSpace, rfl, rfl⟩ := takes_inOrder_cons.1 atName
  obtain ⟨space, _, _, _, ⟨spaceBlank, rfl⟩, atBracket, rfl, rfl⟩ := takes_inOrder_cons.1 atSpace
  obtain ⟨_, _, _, _, isBracket, atArguments, rfl, rfl⟩ := takes_inOrder_cons.1 atBracket
  obtain ⟨arguments, _, _, _, isArguments, atEnd, rfl, rfl⟩ := takes_inOrder_cons.1 atArguments
  obtain ⟨_, behind, _, _, isEnd, atResult, rfl, rfl⟩ := takes_inOrder_cons.1 atEnd
  obtain ⟨rfl, rfl⟩ := (takes_text _).1 isWord
  obtain ⟨nonempty, gapBlank, rfl⟩ := takes_gap.1 isGap
  obtain ⟨_, isName, rfl⟩ := takes_group.1 isGroup
  obtain rfl := remembered_of_isForgetful _ rfl isName
  obtain ⟨rfl, rfl⟩ := takes_char.1 isBracket
  obtain ⟨_, ⟨flat, rfl⟩, rfl⟩ := takes_group.1 isArguments
  obtain ⟨rfl, rfl⟩ := takes_char.1 isEnd
  obtain ⟨first, others, rfl, _, nameChars⟩ :=
    exists_of_takes_dollarName (takes_dollarName_of_takes_name isName)
  refine ⟨gap, first :: others, space, arguments, behind, ?_,
    ⟨nonempty, gapBlank, List.cons_ne_nil _ _, nameChars, spaceBlank⟩, flat, ?_⟩
  · simp only [List.append_assoc, List.cons_append, List.nil_append]
  · rcases remembered_of_takes_result atResult with rfl | ⟨type, rfl⟩ <;>
      exact ⟨rfl, rfl, _, _, atResult, rfl⟩

theorem takesHeads_annotatedHead :
    TakesHeads annotatedHead annotatedHeads AnnotatedSettled := by
  intro front piece rest remembered takes
  obtain ⟨gap, name, space, arguments, behind, rfl, named, flat, isName, isArguments, _⟩ :=
    exists_of_takes_annotatedHead takes
  have last :
      lastName (front ++ ("def".toList ++ (gap ++ (name ++ space)))) =
        (name, front ++ ("def".toList ++ gap)) := by
    rw [← List.append_assoc, named.lastName, List.append_assoc]
  refine ⟨_, _, rfl, List.cons_ne_nil _ _, ?_, ?_, ?_, ?_⟩
  · exact fun member =>
      absurd (List.mem_of_mem_tail member) (List.not_mem_append (by decide) named.not_mem)
  · rw [annotatedHeads, last]
    exact endsInWord_append front (by decide) named.gapBlank
  · rw [last, isName]
  · rw [List.append_assoc, List.cons_append, argumentsOf_append flat, isArguments]

/-! ## Types ahead of names -/

/-- A character that can stand within the name of a type. -/
def isTypeName (c : Char) : Bool :=
  Text.isWord c || c == ':'

/-- Whether a text ends with a name, with pairs of brackets or with arguments of a type. -/
def endsTyped (text : Text) : Bool :=
  text.getLast?.any (fun c => c == '>' || c == ']') ||
    (text.reverse.takeWhile isTypeName).any isNameStart

/-- A character that can separate a type from a name. -/
def isTypeBorder (c : Char) : Bool :=
  Text.isBlank c || DataType.isPointerMark c

/-- What stands ahead of a name, up to the end of its type. -/
def typeAhead (text : Text) : Text :=
  Text.dropEndWhile isTypeBorder (lastName text).2

/-- Whether a text can be that ahead of the bracket of a head whose types stand ahead. -/
def typedHeads (ahead : Text) : Bool :=
  endsTyped (typeAhead ahead)

/-- What is remembered of a head whose types stand ahead of the names. -/
def TypedSettled (ahead behind : Text) (remembered : Remembered) : Prop :=
  (∃ type, remembered.lookup 1 = some type ∧ Text.trim type = type ∧ type <:+ typeAhead ahead) ∧
    remembered.lookup 3 = some (lastName ahead).1 ∧
      remembered.lookup 4 = some (argumentsOf behind)

/-- That a text is a type up to its end: it ends with a bracket, or with a name. -/
def EndsType (type : Text) : Prop :=
  (∃ content c, type = content ++ [c] ∧ (c = '>' ∨ c = ']')) ∨
    ∃ content c run, type = content ++ c :: run ∧ isNameStart c = true ∧
      ∀ d ∈ run, isTypeName d = true

theorem isTypeName_of_isNameStart
    {c : Char} (starts : isNameStart c = true) :
    isTypeName c = true := by
  rw [isTypeName, Name.isWord_of_isIdentifierChar (Name.isIdentifierChar_of_isNameStart starts)]
  rfl

theorem isTypeBorder_of_isTypeName
    {c : Char} (inName : isTypeName c = true) :
    isTypeBorder c = false := by
  rw [isTypeName, Bool.or_eq_true, beq_iff_eq] at inName
  rcases inName with word | rfl
  · rw [isTypeBorder, Text.isBlank_of_isWord word, Bool.false_or]
    by_contra mark
    rw [Bool.not_eq_false, DataType.isPointerMark, Bool.or_eq_true, beq_iff_eq, beq_iff_eq] at mark
    rcases mark with rfl | rfl <;> exact absurd word (by decide)
  · decide

theorem EndsType.endsTyped
    {type : Text} (ends : EndsType type) (front : Text) :
    endsTyped (front ++ type) = true := by
  rw [Prototype.endsTyped, Bool.or_eq_true]
  rcases ends with ⟨content, c, rfl, mark⟩ | ⟨content, c, run, rfl, starts, inName⟩
  · refine Or.inl ?_
    rw [← List.append_assoc, List.getLast?_concat]
    rcases mark with rfl | rfl <;> rfl
  · refine Or.inr (List.any_eq_true.2 ⟨c, ?_, starts⟩)
    rw [← List.append_assoc, List.reverse_append, List.reverse_cons, List.append_assoc,
      List.takeWhile_append_of_pos fun d member => inName d (List.mem_reverse.1 member),
      List.singleton_append, List.takeWhile_cons_of_pos (isTypeName_of_isNameStart starts)]
    exact List.mem_append_right _ List.mem_cons_self

/-- A type ends neither with a blank nor with the mark of a pointer. -/
theorem EndsType.exists_last
    {type : Text} (ends : EndsType type) :
    ∃ content c, type = content ++ [c] ∧ isTypeBorder c = false := by
  rcases ends with ⟨content, c, rfl, mark⟩ | ⟨content, c, run, rfl, starts, inName⟩
  · refine ⟨content, c, rfl, ?_⟩
    rcases mark with rfl | rfl <;> decide
  · obtain ⟨others, last, whole⟩ :=
      (List.eq_nil_or_concat' (c :: run)).resolve_left (List.cons_ne_nil c run)
    refine ⟨content ++ others, last, ?_, isTypeBorder_of_isTypeName ?_⟩
    · rw [whole, List.append_assoc]
    · have member : last ∈ c :: run := whole ▸ List.mem_concat_self
      rcases List.mem_cons.1 member with rfl | inRun
      · exact isTypeName_of_isNameStart starts
      · exact inName last inRun

theorem EndsType.append
    (front : Text) {type : Text} (ends : EndsType type) :
    EndsType (front ++ type) := by
  rcases ends with ⟨content, c, rfl, mark⟩ | ⟨content, c, run, rfl, starts⟩
  · exact Or.inl ⟨front ++ content, c, (List.append_assoc _ _ _).symm, mark⟩
  · exact Or.inr ⟨front ++ content, c, run, (List.append_assoc _ _ _).symm, starts⟩

/-- Pairs of square brackets, up to blanks, if there are any. -/
theorem exists_of_takes_brackets
    {previous : Option Char} {piece rest : Text} {remembered : Remembered}
    (row :
      InRow (Takes (inOrder [blanks, char '[', blanks, char ']'])) previous piece rest remembered) :
    '(' ∉ piece ∧ (piece = [] ∨ ∃ content, piece = content ++ [']']) := by
  induction row with
  | done => exact ⟨List.not_mem_nil, Or.inl rfl⟩
  | @more previous piece others rest early late _ first _ inductionHypothesis =>
      obtain ⟨space, _, _, _, ⟨spaceBlank, _⟩, atOpening, rfl, _⟩ := takes_inOrder_cons.1 first
      obtain ⟨_, _, _, _, isOpening, atInner, rfl, _⟩ := takes_inOrder_cons.1 atOpening
      obtain ⟨inner, _, _, _, ⟨innerBlank, _⟩, isClosing, rfl, _⟩ := takes_inOrder_cons.1 atInner
      obtain ⟨rfl, _⟩ := takes_char.1 isOpening
      obtain ⟨rfl, _⟩ := takes_char.1 (takes_inOrder_singleton.1 isClosing)
      constructor
      · simp only [List.mem_append, not_or]
        exact ⟨⟨not_mem_of_blank spaceBlank, by decide, not_mem_of_blank innerBlank, by decide⟩,
          inductionHypothesis.1⟩
      · refine Or.inr ?_
        rcases inductionHypothesis.2 with rfl | ⟨content, rfl⟩
        · exact ⟨space ++ (['['] ++ inner), by simp only [List.append_assoc, List.append_nil]⟩
        · exact ⟨_, (List.append_assoc _ _ _).symm⟩

/-- Arguments in angle brackets, if there are any. -/
theorem exists_of_takes_typeArguments
    {previous : Option Char} {piece rest : Text} {remembered : Remembered}
    (takes :
      Takes (optional (inOrder [blanks, char '<', many isTypeArgument, char '>'])) previous piece
        rest remembered) :
    '(' ∉ piece ∧ (piece = [] ∨ ∃ content, piece = content ++ ['>']) := by
  rcases takes_optional.1 takes with present | ⟨rfl, _⟩
  · obtain ⟨space, _, _, _, ⟨spaceBlank, _⟩, atOpening, rfl, _⟩ := takes_inOrder_cons.1 present
    obtain ⟨_, _, _, _, isOpening, atInner, rfl, _⟩ := takes_inOrder_cons.1 atOpening
    obtain ⟨inner, _, _, _, ⟨innerChars, _⟩, isClosing, rfl, _⟩ := takes_inOrder_cons.1 atInner
    obtain ⟨rfl, _⟩ := takes_char.1 isOpening
    obtain ⟨rfl, _⟩ := takes_char.1 (takes_inOrder_singleton.1 isClosing)
    constructor
    · simp only [List.mem_append, not_or]
      exact ⟨not_mem_of_blank spaceBlank, by decide,
        fun member => absurd (innerChars '(' member) (by decide), by decide⟩
    · exact Or.inr ⟨space ++ (['<'] ++ inner), by simp only [List.append_assoc]⟩
  · exact ⟨List.not_mem_nil, Or.inl rfl⟩

/-- What a type looks like. -/
theorem exists_of_takes_typeText
    {previous : Option Char} {piece rest : Text} {remembered : Remembered}
    (takes : Takes typeText previous piece rest remembered) :
    '(' ∉ piece ∧ EndsType piece ∧ ∃ c content, piece = c :: content ∧ Text.isWord c = true := by
  rcases takes with long | named
  · obtain ⟨_, _, _, _, isLong, atGap, rfl, _⟩ := takes_inOrder_cons.1 long
    obtain ⟨gap, _, _, _, isGap, isLongToo, rfl, _⟩ := takes_inOrder_cons.1 atGap
    obtain ⟨rfl, _⟩ := (takes_text _).1 isLong
    obtain ⟨_, blank, _⟩ := takes_gap.1 isGap
    obtain ⟨rfl, _⟩ := (takes_text _).1 (takes_inOrder_singleton.1 isLongToo)
    refine ⟨?_, EndsType.append _ (EndsType.append _ ?_), 'l', _, rfl, by decide⟩
    · simp only [List.mem_append, not_or]
      exact ⟨by decide, not_mem_of_blank blank, by decide⟩
    · exact Or.inr ⟨[], 'l', "ong", rfl, by decide, List.all_eq_true.1 (by decide)⟩
  · obtain ⟨_, _, _, _, ⟨⟨c, starts, rfl⟩, _⟩, atRun, rfl, _⟩ := takes_inOrder_cons.1 named
    obtain ⟨run, _, _, _, ⟨inName, _⟩, atArguments, rfl, _⟩ := takes_inOrder_cons.1 atRun
    obtain ⟨arguments, brackets, _, _, isOptional, isRow, rfl, _⟩ :=
      takes_inOrder_cons.1 atArguments
    obtain ⟨bracketsFlat, bracketsEnd⟩ := exists_of_takes_brackets (takes_inOrder_singleton.1 isRow)
    have word : Text.isWord c = true :=
      Name.isWord_of_isIdentifierChar (Name.isIdentifierChar_of_isNameStart starts)
    have argumentsShape := exists_of_takes_typeArguments isOptional
    refine ⟨?_, ?_, c, _, rfl, word⟩
    · simp only [List.mem_append, not_or]
      refine ⟨?_, ?_, argumentsShape.1, bracketsFlat⟩
      · rw [List.mem_singleton]
        rintro rfl
        exact absurd starts (by decide)
      · exact fun member => absurd (inName '(' member) (by decide)
    · rcases bracketsEnd with rfl | ⟨content, rfl⟩
      · rcases argumentsShape.2 with rfl | ⟨content, rfl⟩
        · exact Or.inr ⟨[], c, run, by simp, starts, inName⟩
        · refine EndsType.append _ (EndsType.append _ ?_)
          exact Or.inl ⟨content, '>', by rw [List.append_nil], Or.inl rfl⟩
      · refine EndsType.append _ (EndsType.append _ (EndsType.append _ ?_))
        exact Or.inl ⟨content, ']', rfl, Or.inr rfl⟩

/-- Blanks or the mark of a pointer between a type and a name. -/
theorem exists_of_takes_typeSeparator
    {previous : Option Char} {piece rest : Text} {remembered : Remembered}
    (takes : Takes typeSeparator previous piece rest remembered) :
    piece ≠ [] ∧ (∀ c ∈ piece, isTypeBorder c = true) ∧ EndsOutside piece ∧ '(' ∉ piece := by
  have borders :
      ∀ {gap : Text}, (∀ c ∈ gap, Text.isBlank c = true) → ∀ c ∈ gap, isTypeBorder c = true :=
    fun blank c member => by rw [isTypeBorder, blank c member, Bool.true_or]
  rcases takes with marked | spaced
  · obtain ⟨early, _, _, _, ⟨earlyBlank, _⟩, atMark, rfl, _⟩ := takes_inOrder_cons.1 marked
    obtain ⟨_, late, _, _, ⟨⟨c, mark, rfl⟩, _⟩, ⟨lateBlank, _⟩, rfl, _⟩ :=
      takes_inOrder_cons.1 atMark
    have border : isTypeBorder c = true := by rw [isTypeBorder, mark, Bool.or_true]
    have outside : isDollarName c = false := by
      rw [DataType.isPointerMark, Bool.or_eq_true, beq_iff_eq, beq_iff_eq] at mark
      rcases mark with rfl | rfl <;> decide
    refine ⟨List.append_ne_nil_of_right_ne_nil _ (List.cons_ne_nil c _), ?_, ?_, ?_⟩
    · exact List.forall_mem_append.2
        ⟨borders earlyBlank, List.forall_mem_cons.2 ⟨border, borders lateBlank⟩⟩
    · refine endsOutside_append early (endsOutside_of_forall (List.cons_ne_nil c _) ?_)
      exact List.forall_mem_cons.2
        ⟨outside, fun d member => isDollarName_of_isBlank (lateBlank d member)⟩
    · simp only [List.mem_append, List.mem_singleton, not_or]
      refine ⟨not_mem_of_blank earlyBlank, ?_, not_mem_of_blank lateBlank⟩
      rintro rfl
      exact absurd mark (by decide)
  · obtain ⟨nonempty, blank, _⟩ := takes_gap.1 spaced
    exact ⟨nonempty, borders blank, endsOutside_of_gap nonempty blank, not_mem_of_blank blank⟩

/-- What stands ahead of the bracket of a head whose types stand ahead of the names. -/
def typedLead : List Pattern :=
  [either textStart (one fun c => !Text.isWord c), group 1 typeText, group 2 typeSeparator,
    group 3 name, blanks]

/-- The bracket of such a head, and the parameters in it. -/
def typedArguments : List Pattern :=
  [char '(', group 4 (many fun c => c != '(' && c != ')'), char ')']

theorem typedHead_eq :
    typedHead = inOrder (typedLead ++ typedArguments) :=
  rfl

/-- What stands ahead of the bracket of a head whose types stand ahead of the names. -/
theorem exists_of_takes_typedLead
    {previous : Option Char} {piece rest : Text} {remembered : Remembered}
    (takes : Takes (inOrder typedLead) previous piece rest remembered) :
    ∃ start type border name space,
      piece = start ++ (type ++ (border ++ (name ++ space))) ∧
        (start = [] ∨ ∃ c, start = [c] ∧ Text.isWord c = false) ∧
          (∃ before behind inner, Takes typeText before type behind inner) ∧
          (∃ before behind inner, Takes typeSeparator before border behind inner) ∧
            (name ≠ [] ∧ ∀ c ∈ name, isDollarName c = true) ∧
            (∀ c ∈ space, Text.isBlank c = true) ∧
              remembered = [(3, name), (2, border), (1, type)] := by
  obtain ⟨start, _, _, _, isStart, atType, rfl, rfl⟩ := takes_inOrder_cons.1 takes
  obtain ⟨type, _, _, _, isType, atBorder, rfl, rfl⟩ := takes_inOrder_cons.1 atType
  obtain ⟨border, _, _, _, isBorder, atName, rfl, rfl⟩ := takes_inOrder_cons.1 atBorder
  obtain ⟨named, space, _, _, isGroup, ⟨spaceBlank, rfl⟩, rfl, rfl⟩ := takes_inOrder_cons.1 atName
  obtain rfl := remembered_of_isForgetful _ rfl isStart
  obtain ⟨_, takesType, rfl⟩ := takes_group.1 isType
  obtain ⟨_, takesBorder, rfl⟩ := takes_group.1 isBorder
  obtain rfl := remembered_of_isForgetful _ (by decide) takesType
  obtain rfl := remembered_of_isForgetful _ rfl takesBorder
  obtain ⟨_, isName, rfl⟩ := takes_group.1 isGroup
  obtain rfl := remembered_of_isForgetful _ rfl isName
  obtain ⟨first, others, rfl, _, nameChars⟩ :=
    exists_of_takes_dollarName (takes_dollarName_of_takes_name isName)
  refine ⟨start, type, border, first :: others, space, rfl, ?_, ⟨_, _, _, takesType⟩,
    ⟨_, _, _, takesBorder⟩, ⟨List.cons_ne_nil _ _, nameChars⟩, spaceBlank, rfl⟩
  rcases isStart with ⟨_, rfl, _⟩ | ⟨⟨c, outside, rfl⟩, _⟩
  · exact Or.inl rfl
  · exact Or.inr ⟨c, rfl, Bool.not_eq_true' _ ▸ outside⟩

/-- The bracket of a head whose types stand ahead of the names, and what it holds. -/
theorem exists_of_takes_typedArguments
    {previous : Option Char} {piece rest : Text} {remembered : Remembered}
    (takes : Takes (inOrder typedArguments) previous piece rest remembered) :
    ∃ arguments,
      piece = '(' :: (arguments ++ [')']) ∧ (∀ c ∈ arguments, (c != ')') = true) ∧
        remembered = [(4, arguments)] := by
  obtain ⟨_, _, _, _, isBracket, atArguments, rfl, rfl⟩ := takes_inOrder_cons.1 takes
  obtain ⟨arguments, _, _, _, isArguments, isEnd, rfl, rfl⟩ := takes_inOrder_cons.1 atArguments
  obtain ⟨rfl, rfl⟩ := takes_char.1 isBracket
  obtain ⟨_, ⟨flat, rfl⟩, rfl⟩ := takes_group.1 isArguments
  obtain ⟨rfl, rfl⟩ := takes_char.1 (takes_inOrder_singleton.1 isEnd)
  exact ⟨arguments, rfl, fun c member => (Bool.and_eq_true_iff.1 (flat c member)).2, rfl⟩

/-- Ahead of a name, a type ends where what separates it from the name begins. -/
theorem dropEndWhile_type
    {type border : Text} (ends : EndsType type) (borders : ∀ c ∈ border, isTypeBorder c = true)
    (front : Text) :
    Text.dropEndWhile isTypeBorder (front ++ (type ++ border)) = front ++ type := by
  obtain ⟨inner, last, rfl, kept⟩ := ends.exists_last
  have regrouped : front ++ (inner ++ [last] ++ border) = (front ++ inner) ++ last :: border := by
    simp only [List.append_assoc, List.singleton_append]
  rw [regrouped, dropEndWhile_append _ kept borders, List.append_assoc]

theorem EndsType.trim
    {type : Text} (ends : EndsType type)
    (begins : ∃ c content, type = c :: content ∧ Text.isWord c = true) :
    Text.trim type = type := by
  obtain ⟨inner, last, whole, kept⟩ := ends.exists_last
  obtain ⟨c, content, first, word⟩ := begins
  rw [isTypeBorder, Bool.or_eq_false_iff] at kept
  exact Text.trim_of_solid (Text.hasSolidEnds_iff.2
    ⟨⟨c, content, first, Text.isBlank_of_isWord word⟩, inner, last, whole, kept.1⟩)

theorem takesHeads_typedHead :
    TakesHeads typedHead typedHeads TypedSettled := by
  intro front piece rest remembered takes
  rw [typedHead_eq] at takes
  obtain ⟨_, _, _, _, takesLead, takesArguments, rfl, rfl⟩ := (takes_inOrder_append _).1 takes
  obtain ⟨start, type, border, name, space, rfl, short, ⟨_, _, _, takesType⟩,
    ⟨_, _, _, takesBorder⟩, ⟨nonempty, nameChars⟩, spaceBlank, rfl⟩ :=
    exists_of_takes_typedLead takesLead
  obtain ⟨arguments, rfl, flat, rfl⟩ := exists_of_takes_typedArguments takesArguments
  obtain ⟨typeFlat, ends, begins⟩ := exists_of_takes_typeText takesType
  obtain ⟨_, borderChars, outside, borderFlat⟩ := exists_of_takes_typeSeparator takesBorder
  have last :
      lastName (front ++ (start ++ (type ++ (border ++ (name ++ space))))) =
        (name, (front ++ start) ++ (type ++ border)) := by
    have parts :
        front ++ (start ++ (type ++ (border ++ (name ++ space)))) =
          ((front ++ start) ++ (type ++ border)) ++ (name ++ space) := by
      simp only [List.append_assoc]
    rw [parts]
    exact lastName_append spaceBlank (endsOutside_append _ (endsOutside_append _ outside)) nonempty
      nameChars
  have ahead :
      typeAhead (front ++ (start ++ (type ++ (border ++ (name ++ space))))) =
        (front ++ start) ++ type := by
    rw [typeAhead, last, dropEndWhile_type ends borderChars]
  refine ⟨_, _, rfl, ?_, ?_, ?_, ⟨type, rfl, ends.trim begins, ?_⟩, ?_, ?_⟩
  · obtain ⟨c, content, rfl, _⟩ := begins
    exact List.append_ne_nil_of_right_ne_nil _ (List.cons_ne_nil _ _)
  · have tail : '(' ∉ type ++ (border ++ (name ++ space)) :=
      List.not_mem_append typeFlat (List.not_mem_append borderFlat
        (List.not_mem_append (not_mem_of_isName nameChars) (not_mem_of_blank spaceBlank)))
    rcases short with rfl | ⟨c, rfl, _⟩
    · exact fun member => absurd (List.mem_of_mem_tail member) tail
    · exact tail
  · rw [typedHeads, ahead]
    exact ends.endsTyped _
  · rw [ahead]
    exact List.suffix_append _ _
  · rw [last]
    rfl
  · have onward : arguments ++ [')'] ++ rest = arguments ++ ')' :: rest := by simp
    rw [onward, argumentsOf_append flat]
    rfl

/-! ## No types -/

/-- Whether a text ends with one of the words ahead of the name of a variable, up to blanks. -/
def endsInBinding (text : Text) : Bool :=
  endsInWord "var" text || endsInWord "let" text || endsInWord "const" text

/-- The name of the variable that is bound where a text ends with an equals sign, up to blanks. -/
def boundName? (text : Text) : Option Text :=
  (Text.before? ['='] (Text.trimEnd text)).bind fun front =>
    if endsInBinding (lastName front).2 then some (lastName front).1 else none

/-- The name of the function ahead of whose bracket a text ends, if it can end so: it stands behind
the word for functions, or it is bound. -/
def untypedName? (ahead : Text) : Option Text :=
  if endsInWord "function" (lastName ahead).2 then some (lastName ahead).1
  else if (lastName ahead).1 = "function".toList then boundName? (lastName ahead).2
  else boundName? ahead

/-- Whether a text can be that ahead of the bracket of a head without types. -/
def untypedHeads (ahead : Text) : Bool :=
  (untypedName? ahead).isSome

/-- The head of a declared function without types. -/
def declaredHead : Pattern :=
  inOrder
    [text "function", gap, group 1 dollarName, blanks, char '(', group 2 (many (· != ')')),
      char ')']

/-- The head of a function without types that is bound to a name. -/
def boundHead : Pattern :=
  inOrder
    [oneOf ["var", "let", "const"], gap, group 3 dollarName, blanks, char '=', blanks,
      optional (inOrder [text "function", blanks]), char '(', group 4 (many (· != ')')), char ')']

theorem untypedHead_eq :
    untypedHead = either declaredHead boundHead :=
  rfl

/-- What is remembered of a head without types. -/
def UntypedSettled (ahead behind : Text) (remembered : Remembered) : Prop :=
  (remembered.lookup 1).or (remembered.lookup 3) = untypedName? ahead ∧
    (remembered.lookup 2).or (remembered.lookup 4) = some (argumentsOf behind)

section Sign

variable (front : Text) {gap : Text} (blank : ∀ c ∈ gap, Text.isBlank c = true)
include blank

theorem trimEnd_sign :
    Text.trimEnd (front ++ '=' :: gap) = front ++ ['='] :=
  dropEndWhile_append front (by decide) blank

theorem lastName_sign :
    (lastName (front ++ '=' :: gap)).1 = [] ∧
      (lastName (front ++ '=' :: gap)).2 = front ++ ['='] := by
  have fromEnd : (front ++ '=' :: gap).reverse.dropWhile Text.isBlank = '=' :: front.reverse := by
    rw [List.reverse_append, List.reverse_cons, List.append_assoc,
      List.dropWhile_append_of_pos fun d member => blank d (List.mem_reverse.1 member)]
    rfl
  rw [lastName, fromEnd, List.takeWhile_cons_of_neg (by decide),
    List.dropWhile_cons_of_neg (by decide), List.reverse_cons, List.reverse_reverse]
  exact ⟨rfl, rfl⟩

theorem endsInWord_sign :
    endsInWord "function" (front ++ '=' :: gap) = false := by
  rw [endsInWord, trimEnd_sign front blank, ← Bool.not_eq_true, List.isSuffixOf_iff_suffix]
  intro suffix
  obtain ⟨_, whole⟩ := suffix
  have last := congrArg List.getLast? whole
  have final : "function".toList.getLast? = some 'n' := by decide
  rw [List.getLast?_append, List.getLast?_concat, final, Option.some_or] at last
  exact absurd last (by decide)

theorem endsOutside_sign :
    EndsOutside (front ++ '=' :: gap) :=
  endsOutside_append front (endsOutside_of_forall (List.cons_ne_nil '=' gap)
    (List.forall_mem_cons.2 ⟨by decide, fun c member => isDollarName_of_isBlank (blank c member)⟩))

/-- Without the word for functions the text ends with the sign. -/
theorem untypedName?_sign :
    untypedName? (front ++ '=' :: gap) = boundName? (front ++ '=' :: gap) := by
  obtain ⟨noName, onward⟩ := lastName_sign front blank
  have noWord : ¬endsInWord "function" (front ++ ['=']) = true := by
    rw [endsInWord_sign front (List.forall_mem_nil _)]
    exact Bool.false_ne_true
  rw [untypedName?, noName, onward, if_neg noWord]
  exact if_neg (by decide)

/-- The word for functions between the sign and the bracket is not the name. -/
theorem untypedName?_function
    {space : Text} (spaceBlank : ∀ c ∈ space, Text.isBlank c = true) :
    untypedName? ((front ++ '=' :: gap) ++ ("function".toList ++ space)) =
      boundName? (front ++ '=' :: gap) := by
  have isName : ∀ c ∈ "function".toList, isDollarName c = true := List.all_eq_true.1 (by decide)
  have nonempty : "function".toList ≠ [] := List.cons_ne_nil _ _
  have name := lastName_append spaceBlank (endsOutside_sign front blank) nonempty isName
  have noWord : ¬endsInWord "function" (front ++ '=' :: gap) = true := by
    rw [endsInWord_sign front blank]
    exact Bool.false_ne_true
  rw [untypedName?, name, if_neg noWord]
  exact if_pos rfl

end Sign

theorem endsInBinding_append
    (front : Text) {word : Text} (isWord : word ∈ ["var".toList, "let".toList, "const".toList])
    {gap : Text} (blank : ∀ c ∈ gap, Text.isBlank c = true) :
    endsInBinding (front ++ (word ++ gap)) = true := by
  rw [endsInBinding, Bool.or_eq_true, Bool.or_eq_true]
  rcases List.mem_cons.1 isWord with rfl | others
  · exact Or.inl (Or.inl (endsInWord_append front (by decide) blank))
  · rcases List.mem_cons.1 others with rfl | last
    · exact Or.inl (Or.inr (endsInWord_append front (by decide) blank))
    · rw [List.mem_singleton.1 last]
      exact Or.inr (endsInWord_append front (by decide) blank)

/-- What stands ahead of the value of a variable: one of the words, the name and the sign. -/
theorem boundName?_append
    (front : Text) {word gap name space late : Text}
    (isWord : word ∈ ["var".toList, "let".toList, "const".toList])
    (named : IsNamed gap name space) (lateBlank : ∀ c ∈ late, Text.isBlank c = true) :
    boundName? (front ++ (word ++ (gap ++ (name ++ space))) ++ '=' :: late) = some name := by
  have last :
      lastName (front ++ (word ++ (gap ++ (name ++ space)))) = (name, front ++ (word ++ gap)) := by
    rw [← List.append_assoc, named.lastName, List.append_assoc]
  rw [boundName?, trimEnd_sign _ lateBlank, Text.before?_append, Option.bind_some, last]
  exact if_pos (endsInBinding_append front isWord named.gapBlank)

/-- The parameters in brackets at the end of a head without types. -/
theorem exists_of_takes_arguments
    {number : Nat} {previous : Option Char} {piece rest : Text} {remembered : Remembered}
    (takes :
      Takes (inOrder [char '(', group number (many (· != ')')), char ')']) previous piece rest
        remembered) :
    ∃ arguments right,
      piece = '(' :: right ∧ argumentsOf (right ++ rest) = arguments ∧
        remembered = [(number, arguments)] := by
  obtain ⟨_, _, _, _, isBracket, atArguments, rfl, rfl⟩ := takes_inOrder_cons.1 takes
  obtain ⟨arguments, _, _, _, isArguments, isEnd, rfl, rfl⟩ := takes_inOrder_cons.1 atArguments
  obtain ⟨rfl, rfl⟩ := takes_char.1 isBracket
  obtain ⟨_, ⟨flat, rfl⟩, rfl⟩ := takes_group.1 isArguments
  obtain ⟨rfl, rfl⟩ := takes_char.1 (takes_inOrder_singleton.1 isEnd)
  have onward : arguments ++ [')'] ++ rest = arguments ++ ')' :: rest := by simp
  exact ⟨arguments, arguments ++ [')'], rfl, by rw [onward, argumentsOf_append flat], rfl⟩

/-- What the head of a declared function without types looks like. -/
theorem exists_of_takes_declaredHead
    {previous : Option Char} {piece rest : Text} {remembered : Remembered}
    (takes : Takes declaredHead previous piece rest remembered) :
    ∃ gap name space arguments right,
      piece = "function".toList ++ (gap ++ (name ++ space)) ++ '(' :: right ∧
        IsNamed gap name space ∧ argumentsOf (right ++ rest) = arguments ∧
          remembered = [(2, arguments), (1, name)] := by
  obtain ⟨_, _, _, _, isWord, atGap, rfl, rfl⟩ := takes_inOrder_cons.1 takes
  obtain ⟨gap, _, _, _, isGap, atName, rfl, rfl⟩ := takes_inOrder_cons.1 atGap
  obtain ⟨named, _, _, _, isGroup, atSpace, rfl, rfl⟩ := takes_inOrder_cons.1 atName
  obtain ⟨space, _, _, _, ⟨spaceBlank, rfl⟩, atBracket, rfl, rfl⟩ := takes_inOrder_cons.1 atSpace
  obtain ⟨arguments, right, rfl, isArguments, rfl⟩ := exists_of_takes_arguments atBracket
  obtain ⟨rfl, rfl⟩ := (takes_text _).1 isWord
  obtain ⟨nonempty, gapBlank, rfl⟩ := takes_gap.1 isGap
  obtain ⟨_, isName, rfl⟩ := takes_group.1 isGroup
  obtain rfl := remembered_of_isForgetful _ rfl isName
  obtain ⟨first, others, rfl, _, nameChars⟩ := exists_of_takes_dollarName isName
  refine ⟨gap, first :: others, space, arguments, right, ?_,
    ⟨nonempty, gapBlank, List.cons_ne_nil _ _, nameChars, spaceBlank⟩, isArguments, rfl⟩
  simp only [List.append_assoc, List.cons_append]

/-- What the head of a function without types looks like that is bound to a name. -/
theorem exists_of_takes_boundHead
    {previous : Option Char} {piece rest : Text} {remembered : Remembered}
    (takes : Takes boundHead previous piece rest remembered) :
    ∃ word gap name space late function arguments right,
      piece =
          word ++ (gap ++ (name ++ space)) ++ '=' :: late ++ function ++ '(' :: right ∧
        word ∈ ["var".toList, "let".toList, "const".toList] ∧ IsNamed gap name space ∧
        (∀ c ∈ late, Text.isBlank c = true) ∧
        (function = [] ∨
          ∃ behind, function = "function".toList ++ behind ∧
            ∀ c ∈ behind, Text.isBlank c = true) ∧
          argumentsOf (right ++ rest) = arguments ∧
            remembered = [(4, arguments), (3, name)] := by
  obtain ⟨word, _, _, _, isWord, atEarly, rfl, rfl⟩ := takes_inOrder_cons.1 takes
  obtain ⟨early, _, _, _, isEarly, atName, rfl, rfl⟩ := takes_inOrder_cons.1 atEarly
  obtain ⟨named, _, _, _, isGroup, atSpace, rfl, rfl⟩ := takes_inOrder_cons.1 atName
  obtain ⟨space, _, _, _, ⟨spaceBlank, rfl⟩, atSign, rfl, rfl⟩ := takes_inOrder_cons.1 atSpace
  obtain ⟨_, _, _, _, isSign, atLate, rfl, rfl⟩ := takes_inOrder_cons.1 atSign
  obtain ⟨late, _, _, _, ⟨lateBlank, rfl⟩, atFunction, rfl, rfl⟩ := takes_inOrder_cons.1 atLate
  obtain ⟨function, _, _, _, isFunction, atBracket, rfl, rfl⟩ := takes_inOrder_cons.1 atFunction
  obtain ⟨arguments, right, rfl, isArguments, rfl⟩ := exists_of_takes_arguments atBracket
  obtain ⟨member, rfl⟩ := takes_oneOf.1 isWord
  obtain ⟨nonempty, earlyBlank, rfl⟩ := takes_gap.1 isEarly
  obtain ⟨_, isName, rfl⟩ := takes_group.1 isGroup
  obtain rfl := remembered_of_isForgetful _ rfl isName
  obtain ⟨rfl, rfl⟩ := takes_char.1 isSign
  have functionShape :
      function = [] ∨
        ∃ behind, function = "function".toList ++ behind ∧ ∀ c ∈ behind, Text.isBlank c = true := by
    rcases takes_optional.1 isFunction with present | ⟨rfl, _⟩
    · obtain ⟨_, behind, _, _, isKeyword, ⟨behindBlank, _⟩, rfl, _⟩ := takes_inOrder_cons.1 present
      obtain ⟨rfl, _⟩ := (takes_text _).1 isKeyword
      exact Or.inr ⟨behind, rfl, behindBlank⟩
    · exact Or.inl rfl
  obtain rfl := remembered_of_isForgetful _ (by decide) isFunction
  obtain ⟨first, others, rfl, _, nameChars⟩ := exists_of_takes_dollarName isName
  refine ⟨word, early, first :: others, space, late, function, arguments, right, ?_, member,
    ⟨nonempty, earlyBlank, List.cons_ne_nil _ _, nameChars, spaceBlank⟩, lateBlank, functionShape,
    isArguments, rfl⟩
  simp only [List.append_assoc, List.cons_append, List.nil_append]

theorem takesHeads_declaredHead :
    TakesHeads declaredHead untypedHeads UntypedSettled := by
  intro front piece rest remembered takes
  obtain ⟨gap, name, space, arguments, right, rfl, named, isArguments, rfl⟩ :=
    exists_of_takes_declaredHead takes
  have isFound :
      untypedName? (front ++ ("function".toList ++ (gap ++ (name ++ space)))) = some name := by
    rw [untypedName?, ← List.append_assoc, named.lastName, List.append_assoc]
    exact if_pos (endsInWord_append front (by decide) named.gapBlank)
  refine ⟨_, right, rfl, List.cons_ne_nil _ _, ?_, ?_, ?_, ?_⟩
  · exact fun member =>
      absurd (List.mem_of_mem_tail member) (List.not_mem_append (by decide) named.not_mem)
  · rw [untypedHeads, isFound]
    rfl
  · rw [isFound]
    rfl
  · rw [isArguments]
    rfl

theorem takesHeads_boundHead :
    TakesHeads boundHead untypedHeads UntypedSettled := by
  intro front piece rest remembered takes
  obtain ⟨word, gap, name, space, late, function, arguments, right, rfl, member, named, lateBlank,
    isFunction, isArguments, rfl⟩ := exists_of_takes_boundHead takes
  have isBound := boundName?_append front member named lateBlank
  have wordFlat : '(' ∉ word := by
    intro inside
    have flat :
        ["var".toList, "let".toList, "const".toList].all (fun word => !word.contains '(') =
          true := by
      decide
    have absent := List.all_eq_true.1 flat word member
    rw [List.contains_iff_mem.2 inside] at absent
    exact Bool.false_ne_true absent
  have signFlat : '(' ∉ '=' :: late := by
    rw [List.mem_cons, not_or]
    exact ⟨by decide, not_mem_of_blank lateBlank⟩
  have found :
      untypedName? ((front ++ (word ++ (gap ++ (name ++ space))) ++ '=' :: late) ++ function) =
          some name ∧
        '(' ∉ function := by
    rcases isFunction with rfl | ⟨behind, rfl, behindBlank⟩
    · rw [List.append_nil]
      exact ⟨(untypedName?_sign _ lateBlank).trans isBound, List.not_mem_nil⟩
    · exact ⟨(untypedName?_function _ lateBlank behindBlank).trans isBound,
        List.not_mem_append (by decide) (not_mem_of_blank behindBlank)⟩
  have whole :
      front ++ (word ++ (gap ++ (name ++ space)) ++ '=' :: late ++ function) =
        (front ++ (word ++ (gap ++ (name ++ space))) ++ '=' :: late) ++ function := by
    simp only [List.append_assoc]
  refine ⟨_, right, rfl, ?_, ?_, ?_, ?_, ?_⟩
  · exact List.append_ne_nil_of_left_ne_nil
      (List.append_ne_nil_of_right_ne_nil _ (List.cons_ne_nil _ _)) _
  · refine fun inside => absurd (List.mem_of_mem_tail inside) ?_
    exact List.not_mem_append
      (List.not_mem_append (List.not_mem_append wordFlat named.not_mem) signFlat) found.2
  · rw [whole, untypedHeads, found.1]
    rfl
  · rw [whole, found.1]
    rfl
  · rw [isArguments]
    rfl

theorem takesHeads_untypedHead :
    TakesHeads untypedHead untypedHeads UntypedSettled := by
  rw [untypedHead_eq]
  exact takesHeads_declaredHead.either takesHeads_boundHead

end Kata.Prototype
