import Kata.Proofs.Pattern.Names
import Kata.Proofs.Pattern.Search
import Kata.Proofs.Text.Blank

/-!
# Patterns and blanks at the ends

A pattern that does not ask for the end of the text takes the same pieces when blanks are added
behind, and one that does not ask for the start of a line takes the same pieces when blanks are
added ahead. If moreover its pieces end, or begin, with characters that are not blank, then adding
blanks there makes it occur neither more nor less.
-/

namespace Kata.Pattern

/-! ## Looking at the ends -/

/-- Whether a pattern does not ask for the end of the text. -/
def isOpenEnded : Pattern → Bool
  | textEnd => false
  | seq first second => isOpenEnded first && isOpenEnded second
  | either first second => isOpenEnded first && isOpenEnded second
  | repeated body => isOpenEnded body
  | group _ body => isOpenEnded body
  | _ => true

/-- Whether a pattern asks for the start neither of the text nor of a line. -/
def isOpenFronted : Pattern → Bool
  | textStart => false
  | lineStart => false
  | seq first second => isOpenFronted first && isOpenFronted second
  | either first second => isOpenFronted first && isOpenFronted second
  | repeated body => isOpenFronted body
  | group _ body => isOpenFronted body
  | _ => true

theorem isOpenEnded_inOrder
    (patterns : List Pattern) :
    isOpenEnded (inOrder patterns) = patterns.all isOpenEnded := by
  induction patterns with
  | nil => rfl
  | cons p patterns inductionHypothesis =>
      cases patterns with
      | nil => simp [inOrder]
      | cons next patterns =>
          rw [inOrder, isOpenEnded, inductionHypothesis, List.all_cons (a := p)]

theorem isOpenFronted_inOrder
    (patterns : List Pattern) :
    isOpenFronted (inOrder patterns) = patterns.all isOpenFronted := by
  induction patterns with
  | nil => rfl
  | cons p patterns inductionHypothesis =>
      cases patterns with
      | nil => simp [inOrder]
      | cons next patterns =>
          rw [inOrder, isOpenFronted, inductionHypothesis, List.all_cons (a := p)]

@[simp]
theorem isOpenEnded_text
    (t : Text) :
    isOpenEnded (text t) = true := by
  rw [text, isOpenEnded_inOrder, List.all_map]
  exact List.all_eq_true.2 fun _ _ => rfl

@[simp]
theorem isOpenFronted_text
    (t : Text) :
    isOpenFronted (text t) = true := by
  rw [text, isOpenFronted_inOrder, List.all_map]
  exact List.all_eq_true.2 fun _ _ => rfl

theorem isOpenEnded_oneOf
    (texts : List Text) :
    isOpenEnded (oneOf texts) = true := by
  rw [oneOf]
  induction texts with
  | nil => rfl
  | cons t texts inductionHypothesis =>
      cases texts with
      | nil => exact isOpenEnded_text t
      | cons next texts =>
          rw [List.map_cons, List.map_cons, anyOf, isOpenEnded, isOpenEnded_text, Bool.true_and]
          exact inductionHypothesis

theorem isOpenFronted_oneOf
    (texts : List Text) :
    isOpenFronted (oneOf texts) = true := by
  rw [oneOf]
  induction texts with
  | nil => rfl
  | cons t texts inductionHypothesis =>
      cases texts with
      | nil => exact isOpenFronted_text t
      | cons next texts =>
          rw [List.map_cons, List.map_cons, anyOf, isOpenFronted, isOpenFronted_text,
            Bool.true_and]
          exact inductionHypothesis

/-! ## Blanks behind -/

theorem inRow_append_iff
    {gap : Text} {takes : Option Char → Text → Text → Remembered → Prop}
    (same :
      ∀ previous piece rest remembered,
        takes previous piece (rest ++ gap) remembered ↔ takes previous piece rest remembered)
    {previous : Option Char} {piece rest : Text} {remembered : Remembered} :
    InRow takes previous piece (rest ++ gap) remembered ↔
      InRow takes previous piece rest remembered := by
  constructor
  · intro row
    generalize whole : rest ++ gap = long at row
    induction row with
    | done previous _ => exact InRow.done previous rest
    | more nonempty first _ inductionHypothesis =>
        subst whole
        rw [← List.append_assoc, same] at first
        exact InRow.more nonempty first (inductionHypothesis rfl)
  · intro row
    induction row with
    | done previous rest => exact InRow.done previous _
    | more nonempty first _ inductionHypothesis =>
        rw [← same, List.append_assoc] at first
        exact InRow.more nonempty first inductionHypothesis

section Behind

variable {gap : Text} (blank : ∀ c ∈ gap, Text.isBlank c = true)
include blank

theorem isWord_head_append
    (rest : Text) :
    (rest ++ gap).head?.any Text.isWord = rest.head?.any Text.isWord := by
  cases rest with
  | cons c rest => rfl
  | nil =>
      cases gap with
      | nil => rfl
      | cons c gap => exact Text.isWord_of_isBlank (blank c List.mem_cons_self)

/-- Blanks behind make no difference to what is taken. -/
theorem takes_append_iff
    {p : Pattern} (isOpen : isOpenEnded p = true) :
    ∀ (previous : Option Char) (piece rest : Text) (remembered : Remembered),
      Takes p previous piece (rest ++ gap) remembered ↔
        Takes p previous piece rest remembered := by
  induction p with
  | empty => exact fun _ _ _ _ => Iff.rfl
  | one accepts => exact fun _ _ _ _ => Iff.rfl
  | textStart => exact fun _ _ _ _ => Iff.rfl
  | textEnd => exact absurd isOpen Bool.false_ne_true
  | lineStart => exact fun _ _ _ _ => Iff.rfl
  | wordEdge =>
      intro previous piece rest remembered
      rw [takes_wordEdge, takes_wordEdge, isWord_head_append blank]
  | seq first second firstSame secondSame =>
      intro previous piece rest remembered
      rw [isOpenEnded, Bool.and_eq_true] at isOpen
      simp only [takes_seq, ← List.append_assoc, firstSame isOpen.1, secondSame isOpen.2]
  | either first second firstSame secondSame =>
      intro previous piece rest remembered
      rw [isOpenEnded, Bool.and_eq_true] at isOpen
      rw [Takes, Takes, firstSame isOpen.1, secondSame isOpen.2]
  | many accepts => exact fun _ _ _ _ => Iff.rfl
  | few accepts => exact fun _ _ _ _ => Iff.rfl
  | repeated body bodySame =>
      exact fun _ _ _ _ => inRow_append_iff (bodySame isOpen)
  | group number body bodySame =>
      intro previous piece rest remembered
      simp only [takes_group, bodySame isOpen]

/-- A pattern whose pieces end with a character that is not blank does not reach into the blanks
behind a text. -/
theorem occursIn_append
    {p : Pattern} (isOpen : isOpenEnded p = true)
    (solid :
      ∀ {previous : Option Char} {piece rest : Text} {remembered : Remembered},
        Takes p previous piece rest remembered →
          ∃ content c, piece = content ++ [c] ∧ Text.isBlank c = false)
    (t : Text) :
    p.occursIn (t ++ gap) = p.occursIn t := by
  rw [Bool.eq_iff_iff, occursIn_iff, occursIn_iff]
  constructor
  · rintro ⟨front, piece, rest, remembered, whole, takes⟩
    obtain ⟨content, c, rfl, solidEnd⟩ := solid takes
    obtain ⟨left, rfl, textEqual⟩ := Text.exists_rest_of_solidEnd blank solidEnd whole
    exact ⟨front, content ++ [c], left, remembered, textEqual,
      (takes_append_iff blank isOpen _ _ _ _).1 takes⟩
  · rintro ⟨front, piece, rest, remembered, rfl, takes⟩
    refine ⟨front, piece, rest ++ gap, remembered, ?_,
      (takes_append_iff blank isOpen _ _ _ _).2 takes⟩
    rw [List.append_assoc, List.append_assoc]

end Behind

/-! ## Blanks ahead -/

theorem lastOf_isWord
    {previous other : Option Char}
    (same : previous.any Text.isWord = other.any Text.isWord) (piece : Text) :
    (lastOf previous piece).any Text.isWord = (lastOf other piece).any Text.isWord := by
  rw [lastOf, lastOf]
  cases piece.getLast? with
  | none => exact same
  | some c => rfl

theorem inRow_previous
    {takes : Option Char → Text → Text → Remembered → Prop}
    (transfer :
      ∀ {previous other : Option Char} {piece rest : Text} {remembered : Remembered},
        previous.any Text.isWord = other.any Text.isWord →
          takes previous piece rest remembered → takes other piece rest remembered)
    {previous : Option Char} {piece rest : Text} {remembered : Remembered}
    (row : InRow takes previous piece rest remembered) :
    ∀ {other : Option Char},
      previous.any Text.isWord = other.any Text.isWord →
        InRow takes other piece rest remembered := by
  induction row with
  | done previous rest => exact fun _ => InRow.done _ rest
  | more nonempty first _ inductionHypothesis =>
      intro other same
      exact InRow.more nonempty (transfer same first)
        (inductionHypothesis (lastOf_isWord same _))

/-- Of the character ahead it matters only whether it is part of a word. -/
theorem takes_previous
    {p : Pattern} (isOpen : isOpenFronted p = true) :
    ∀ {previous other : Option Char} {piece rest : Text} {remembered : Remembered},
      previous.any Text.isWord = other.any Text.isWord →
        Takes p previous piece rest remembered → Takes p other piece rest remembered := by
  induction p with
  | empty => exact fun _ takes => takes
  | one accepts => exact fun _ takes => takes
  | textStart => exact absurd isOpen Bool.false_ne_true
  | textEnd => exact fun _ takes => takes
  | lineStart => exact absurd isOpen Bool.false_ne_true
  | wordEdge =>
      intro previous other piece rest remembered same takes
      rw [takes_wordEdge, same] at takes
      exact takes
  | seq first second firstSame secondSame =>
      intro previous other piece rest remembered same takes
      rw [isOpenFronted, Bool.and_eq_true] at isOpen
      obtain ⟨left, right, early, late, takesFirst, takesSecond, split⟩ := takes
      exact ⟨left, right, early, late, firstSame isOpen.1 same takesFirst,
        secondSame isOpen.2 (lastOf_isWord same left) takesSecond, split⟩
  | either first second firstSame secondSame =>
      intro previous other piece rest remembered same takes
      rw [isOpenFronted, Bool.and_eq_true] at isOpen
      rcases takes with takesFirst | takesSecond
      · exact Or.inl (firstSame isOpen.1 same takesFirst)
      · exact Or.inr (secondSame isOpen.2 same takesSecond)
  | many accepts => exact fun _ takes => takes
  | few accepts => exact fun _ takes => takes
  | repeated body bodySame =>
      intro previous other piece rest remembered same row
      refine inRow_previous ?_ row same
      exact fun same takes => bodySame isOpen same takes
  | group number body bodySame =>
      intro previous other piece rest remembered same takes
      obtain ⟨inner, takes, equality⟩ := takes
      exact ⟨inner, bodySame isOpen same takes, equality⟩

section Ahead

variable {gap : Text} (blank : ∀ c ∈ gap, Text.isBlank c = true)
include blank

/-- Behind blanks as at the start of a text, no word character lies ahead. -/
theorem isWord_lastOf_append
    (front : Text) :
    (lastOf none (gap ++ front)).any Text.isWord = (lastOf none front).any Text.isWord := by
  rw [lastOf_append]
  apply lastOf_isWord
  rw [lastOf]
  cases last : gap.getLast? with
  | none => rfl
  | some c => exact Text.isWord_of_isBlank (blank c (List.mem_of_getLast? last))

/-- A pattern whose pieces begin with a character that is not blank does not reach into the blanks
ahead of a text. -/
theorem occursIn_prepend
    {p : Pattern} (isOpen : isOpenFronted p = true)
    (solid :
      ∀ {previous : Option Char} {piece rest : Text} {remembered : Remembered},
        Takes p previous piece rest remembered →
          ∃ c content, piece = c :: content ∧ Text.isBlank c = false)
    (t : Text) :
    p.occursIn (gap ++ t) = p.occursIn t := by
  rw [Bool.eq_iff_iff, occursIn_iff, occursIn_iff]
  constructor
  · rintro ⟨front, piece, rest, remembered, whole, takes⟩
    obtain ⟨c, content, rfl, solidStart⟩ := solid takes
    obtain ⟨left, rfl, textEqual⟩ := Text.exists_front_of_solidStart blank solidStart whole
    exact ⟨left, c :: content, rest, remembered, textEqual,
      takes_previous isOpen (isWord_lastOf_append blank left) takes⟩
  · rintro ⟨front, piece, rest, remembered, rfl, takes⟩
    exact ⟨gap ++ front, piece, rest, remembered, (List.append_assoc _ _ _).symm,
      takes_previous isOpen (isWord_lastOf_append blank front).symm takes⟩

end Ahead

end Kata.Pattern
