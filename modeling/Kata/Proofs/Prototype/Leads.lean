import Mathlib.Data.List.Basic
import Kata.Proofs.Pattern.Matches
import Kata.Proofs.Prototype.Heads
import Kata.Proofs.Prototype.Parameters

/-!
# Heads with one bracket

In a text with one bracket at most one head has its types ahead of the names. Its name and the type
of its result are settled by what stands ahead of the bracket, and its parameters are those in the
bracket.
-/

namespace Kata.Prototype

open Detection (EndsOutside endsOutside_append)
open Pattern

/-- The languages whose types stand ahead of the names. -/
def isTyped (language : Language) : Bool :=
  language == .java || language == .cpp

theorem ofText?_of_isTyped
    {language : Language} (typed : isTyped language = true) (text : Text) :
    ofText? language text = readTyped? text := by
  cases language with
  | python => exact absurd typed (by decide)
  | javaScript => exact absurd typed (by decide)
  | java => rfl
  | cpp => rfl

/-! ## Ahead of the bracket -/

/-- The type in what stands ahead of a name, and what separates it from the name. -/
def typedPart (ahead : Text) : Text :=
  ahead.dropWhile fun c => !Text.isWord c

/-- The type ahead of a name. -/
def typePart (ahead : Text) : Text :=
  Text.dropEndWhile isTypeBorder (typedPart ahead)

/-- What separates a name from its type. -/
def borderPart (ahead : Text) : Text :=
  (typedPart ahead).drop (typePart ahead).length

/-- What is remembered of a piece ahead of a bracket. -/
def rememberedLead (lead : Text) : Remembered :=
  [(3, (lastName lead).1), (2, borderPart (lastName lead).2), (1, typePart (lastName lead).2)]

/-- A piece ahead of a bracket can be read in one way only. -/
theorem remembered_of_takes_typedLead
    {previous : Option Char} {lead rest : Text} {remembered : Remembered}
    (takes : Takes (inOrder typedLead) previous lead rest remembered) :
    remembered = rememberedLead lead := by
  obtain ⟨start, type, border, name, space, rfl, short, ⟨_, _, _, takesType⟩,
    ⟨_, _, _, takesBorder⟩, ⟨nonempty, nameChars⟩, spaceBlank, rfl⟩ :=
    exists_of_takes_typedLead takes
  obtain ⟨_, ends, c, content, rfl, word⟩ := exists_of_takes_typeText takesType
  obtain ⟨_, borders, outside, _⟩ := exists_of_takes_typeSeparator takesBorder
  have last :
      lastName (start ++ ((c :: content) ++ (border ++ (name ++ space)))) =
        (name, start ++ ((c :: content) ++ border)) := by
    rw [← List.append_assoc (c :: content), ← List.append_assoc start]
    exact lastName_append spaceBlank
      (endsOutside_append start (endsOutside_append (c :: content) outside)) nonempty nameChars
  have typed : typedPart (start ++ ((c :: content) ++ border)) = (c :: content) ++ border := by
    rw [typedPart]
    rcases short with rfl | ⟨d, rfl, other⟩
    · simp [word]
    · simp [word, other]
  have isType : typePart (start ++ ((c :: content) ++ border)) = c :: content := by
    rw [typePart, typed]
    exact dropEndWhile_type ends borders []
  have isBorder : borderPart (start ++ ((c :: content) ++ border)) = border := by
    rw [borderPart, typed, isType, List.drop_left]
  rw [rememberedLead, last, isType, isBorder]

/-- The part of a head ahead of its bracket, at the end of a text. -/
def typedStart : Pattern :=
  inOrder (typedLead ++ [textEnd])

theorem takes_typedStart
    {previous : Option Char} {lead rest : Text} {remembered : Remembered} :
    Takes typedStart previous lead rest remembered ↔
      rest = [] ∧ Takes (inOrder typedLead) previous lead rest remembered := by
  constructor
  · intro takes
    obtain ⟨left, _, early, _, takesLead, ⟨rfl, rfl, rfl⟩, rfl, rfl⟩ :=
      (takes_inOrder_append typedLead).1 takes
    rw [List.append_nil]
    exact ⟨rfl, takesLead⟩
  · rintro ⟨rfl, takes⟩
    exact (takes_inOrder_append typedLead).2
      ⟨lead, [], remembered, [], takes, ⟨rfl, rfl, rfl⟩, (List.append_nil lead).symm, rfl⟩

/-! ## One bracket -/

theorem bracket_mem_of_takes_typedHead
    {previous : Option Char} {piece rest : Text} {remembered : Remembered}
    (takes : Takes typedHead previous piece rest remembered) :
    '(' ∈ piece := by
  rw [typedHead_eq] at takes
  obtain ⟨lead, _, _, _, _, takesArguments, rfl, _⟩ := (takes_inOrder_append typedLead).1 takes
  obtain ⟨_, rfl, _⟩ := exists_of_takes_typedArguments takesArguments
  exact List.mem_append_right lead List.mem_cons_self

section Bracket

variable {ahead arguments rest : Text} (aheadFlat : '(' ∉ ahead) (opens : '(' ∉ arguments)
variable (closes : ')' ∉ arguments) (restFlat : '(' ∉ rest)

section Pieces

variable {front : Text} {remembered : Remembered}

include opens closes in
/-- What could be a head ahead of the bracket is one together with the bracket. -/
theorem takesAt_typedHead
    {lead behind : Text} (takes : TakesAt typedStart ahead front lead behind remembered) :
    TakesAt typedHead (ahead ++ '(' :: (arguments ++ ')' :: rest)) front
      (lead ++ '(' :: (arguments ++ [')'])) rest ((4, arguments) :: remembered) := by
  obtain ⟨rfl, takesLead⟩ := takes_typedStart.1 takes.takes
  have takesArguments :
      Takes (inOrder typedArguments) (lastOf (lastOf none front) lead)
        (['('] ++ (arguments ++ [')'])) rest [(4, arguments)] := by
    refine takes_inOrder_cons.2
      ⟨['('], arguments ++ [')'], [], [(4, arguments)], takes_char.2 ⟨rfl, rfl⟩, ?_, rfl, rfl⟩
    refine takes_inOrder_cons.2
      ⟨arguments, [')'], [(4, arguments)], [], ?_, takes_char.2 ⟨rfl, rfl⟩, rfl, rfl⟩
    refine takes_group.2 ⟨[], ⟨fun c member => ?_, rfl⟩, rfl⟩
    exact Bool.and_eq_true_iff.2
      ⟨Text.forall_bne_of_not_mem opens c member, Text.forall_bne_of_not_mem closes c member⟩
  constructor
  · rw [takes.whole]
    simp
  · exact (takes_inOrder_append typedLead).2
      ⟨lead, _, remembered, [(4, arguments)], takes_of_ignoresRest (by decide) _ takesLead,
        takesArguments, rfl, rfl⟩

include aheadFlat opens closes restFlat in
/-- A head in a text with one bracket is what could be one ahead of the bracket, together with the
bracket. -/
theorem exists_lead_of_takesAt_typedHead
    {piece behind : Text}
    (takes :
      TakesAt typedHead (ahead ++ '(' :: (arguments ++ ')' :: rest)) front piece behind
        remembered) :
    ∃ lead,
      TakesAt typedStart ahead front lead [] (rememberedLead lead) ∧
        remembered = (4, arguments) :: rememberedLead lead ∧ behind = rest := by
  have pieces := takes.takes
  rw [typedHead_eq] at pieces
  obtain ⟨lead, _, _, _, takesLead, takesArguments, rfl, rfl⟩ :=
    (takes_inOrder_append typedLead).1 pieces
  obtain ⟨inner, rfl, flat, rfl⟩ := exists_of_takes_typedArguments takesArguments
  obtain rfl := remembered_of_takes_typedLead takesLead
  have flatBehind : '(' ∉ arguments ++ ')' :: rest :=
    List.not_mem_append opens (List.not_mem_cons_of_ne_of_not_mem (by decide) restFlat)
  have whole :
      ahead ++ '(' :: (arguments ++ ')' :: rest) =
        (front ++ lead) ++ '(' :: (inner ++ ')' :: behind) := by
    rw [takes.whole]
    simp
  obtain ⟨sameAhead, _, sameBehind⟩ :=
    (List.append_cons_inj_of_notMem aheadFlat flatBehind).1 whole
  have closed : ')' ∉ inner := fun member => absurd (flat ')' member) (by decide)
  have parts := congrArg (Text.cutAt? ')') sameBehind
  rw [Text.cutAt?_append closes, Text.cutAt?_append closed, Option.some.injEq, Prod.mk.injEq]
    at parts
  obtain ⟨rfl, rfl⟩ := parts
  refine ⟨lead, ⟨?_, takes_typedStart.2 ⟨rfl, ?_⟩⟩, rfl, rfl⟩
  · rw [List.append_nil]
    exact sameAhead
  · exact takes_of_ignoresRest (by decide) _ takesLead

end Pieces

include aheadFlat opens closes restFlat

/-- The first head in a text with one bracket is the first one ahead of the bracket. -/
theorem search?_typedHead_cases :
    (typedHead.search? (ahead ++ '(' :: (arguments ++ ')' :: rest)) = none ∧
        typedStart.search? ahead = none) ∨
      ∃ found start,
        typedHead.search? (ahead ++ '(' :: (arguments ++ ')' :: rest)) = some found ∧
          typedStart.search? ahead = some start ∧
            found.stop.remembered = (4, arguments) :: start.stop.remembered ∧
              found.stop.rest = rest := by
  cases searched : typedHead.search? (ahead ++ '(' :: (arguments ++ ')' :: rest)) with
  | none =>
      refine Or.inl ⟨rfl, ?_⟩
      rw [← Option.not_isSome_iff_eq_none]
      intro starts
      obtain ⟨front, lead, behind, remembered, takes⟩ := occursIn_iff.1 starts
      have occurs : typedHead.occursIn (ahead ++ '(' :: (arguments ++ ')' :: rest)) = true :=
        occursIn_iff.2 ⟨front, _, _, _, takesAt_typedHead opens closes takes⟩
      rw [occursIn, searched] at occurs
      exact absurd occurs Bool.false_ne_true
  | some found =>
      obtain ⟨front, piece, takes, first⟩ := exists_first_of_search? searched
      obtain ⟨lead, takesLead, same, atEnd⟩ :=
        exists_lead_of_takesAt_typedHead aheadFlat opens closes restFlat takes
      obtain ⟨start, searchedStart⟩ :=
        Option.isSome_iff_exists.1 (occursIn_iff.2 ⟨front, lead, [], _, takesLead⟩)
      obtain ⟨other, otherLead, takesOther, firstOther⟩ := exists_first_of_search? searchedStart
      -- Neither begins ahead of the other.
      have short : front.length ≤ other.length :=
        first (takesAt_typedHead opens closes takesOther)
      have long : other.length ≤ front.length := firstOther takesLead
      obtain ⟨behindOther, takesPiece⟩ := takes_typedStart.1 takesOther.takes
      have whole := takesLead.whole.symm.trans takesOther.whole
      rw [behindOther, List.append_nil, List.append_nil] at whole
      obtain ⟨-, rfl⟩ := List.append_inj whole (Nat.le_antisymm short long)
      refine Or.inr ⟨found, start, rfl, searchedStart, ?_, atEnd⟩
      rw [same, remembered_of_takes_typedLead takesPiece]

/-- A text with one bracket has at most one head. -/
theorem matchesIn_typedHead :
    typedHead.matchesIn (ahead ++ '(' :: (arguments ++ ')' :: rest)) =
      (typedHead.search? (ahead ++ '(' :: (arguments ++ ')' :: rest))).toList := by
  have finds :=
    finds_matchesIn (p := typedHead) (by decide) (ahead ++ '(' :: (arguments ++ ')' :: rest))
  rw [← head?_matchesIn]
  cases all : typedHead.matchesIn (ahead ++ '(' :: (arguments ++ ')' :: rest)) with
  | nil => rfl
  | cons found others =>
      rw [all] at finds
      rcases search?_typedHead_cases aheadFlat opens closes restFlat with
        ⟨nothing, _⟩ | ⟨first, _, searched, _, _, behind⟩
      · rw [← head?_matchesIn, all] at nothing
        exact absurd nothing (by simp)
      · rw [← head?_matchesIn, all, List.head?_cons, Option.some.injEq] at searched
        cases finds with
        | more _ onward =>
            cases onward with
            | done => rfl
            | more next _ =>
                -- Another head would have another bracket.
                have bracket := bracket_mem_of_takes_typedHead next.takes
                rw [← behind, ← searched, next.whole] at restFlat
                exact absurd
                  (List.mem_append_right _ (List.mem_append_left _ bracket)) restFlat

/-- What is read of a text with one bracket: the parameters in the bracket, and all else ahead of
it. -/
theorem readTyped?_bracket :
    readTyped? (ahead ++ '(' :: (arguments ++ ')' :: rest)) =
      ((typedStart.search? ahead).filter isFunctionHead).map fun start =>
        { name? := start.text? 3
          parameters := (splitTopLevel arguments).map readTypedParameter
          returnType? := DataType.ofSpelling? (start.textOf 1 ++ Text.trim (start.textOf 2)) } := by
  rw [readTyped?, matchesIn_typedHead aheadFlat opens closes restFlat]
  rcases search?_typedHead_cases aheadFlat opens closes restFlat with
    ⟨nothing, noStart⟩ | ⟨found, start, searched, searchedStart, same, _⟩
  · rw [nothing, noStart]
    rfl
  · have lookups : ∀ number, number ≠ 4 → found.text? number = start.text? number := by
      intro number other
      rw [text?_eq_lookup, text?_eq_lookup, same, List.lookup_cons, beq_false_of_ne other]
    have held : found.text? 4 = some arguments := by
      rw [text?_eq_lookup, same]
      rfl
    have isHead : isFunctionHead found = isFunctionHead start := by
      simp only [isFunctionHead, Match.textOf, lookups 1 (by decide), lookups 3 (by decide)]
    rw [searched, searchedStart, Option.toList_some, List.find?_singleton, isHead,
      Option.filter_some]
    cases isFunctionHead start with
    | false => rfl
    | true =>
        simp only [if_true, Option.map_some, Match.textOf, held, Option.getD_some,
          lookups 1 (by decide), lookups 2 (by decide), lookups 3 (by decide)]

end Bracket

end Kata.Prototype
