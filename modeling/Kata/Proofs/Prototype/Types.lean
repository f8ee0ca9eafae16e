import Mathlib.Data.List.Basic
import Kata.Proofs.DataType.Spelling
import Kata.Proofs.Prototype.Parameters

/-!
# The types of parameters

A parameter that is written in the way of a language is read back with the type that its spelling
stands for. What is taken for the type can differ from the spelling in its blanks, but blanks do
not matter to a spelling.
-/

namespace Kata.Prototype

open DataType (withoutBlanks withoutBlanks_append withoutBlanks_of_blank)
open Pattern

/-! ## Types ahead of names -/

/-- What a parameter looks like whose type stands ahead of its name. -/
theorem exists_of_takes_typedParameter
    {previous : Option Char} {piece rest : Text} {remembered : Remembered}
    (takes : Takes typedParameter previous piece rest remembered) :
    ∃ front last gap first others,
      piece = (front ++ [last]) ++ (gap ++ first :: others) ∧ previous = none ∧ rest = [] ∧
        '\n' ∉ front ∧ isTypeEnd last = true ∧ (∀ c ∈ gap, Text.isBlank c = true) ∧
          isNameStart first = true ∧ (∀ c ∈ others, Text.isWord c = true) ∧
            remembered = [(2, first :: others), (1, front ++ [last])] := by
  obtain ⟨_, _, _, _, ⟨rfl, rfl, rfl⟩, atType, rfl, rfl⟩ := takes_inOrder_cons.1 takes
  obtain ⟨_, _, _, _, isType, atGap, rfl, rfl⟩ := takes_inOrder_cons.1 atType
  obtain ⟨gap, _, _, _, ⟨blank, rfl⟩, atName, rfl, rfl⟩ := takes_inOrder_cons.1 atGap
  obtain ⟨_, _, _, _, isName, ⟨rfl, rfl, rfl⟩, rfl, rfl⟩ := takes_inOrder_cons.1 atName
  obtain ⟨_, ⟨front, _, _, _, ⟨line, rfl⟩, ⟨⟨last, ends, rfl⟩, rfl⟩, rfl, rfl⟩, rfl⟩ :=
    takes_group.1 isType
  obtain ⟨_, ⟨_, others, _, _, ⟨⟨first, starts, rfl⟩, rfl⟩, ⟨words, rfl⟩, rfl, rfl⟩, rfl⟩ :=
    takes_group.1 isName
  refine ⟨front, last, gap, first, others, by simp, rfl, rfl, fun member => ?_, ends, blank, starts,
    words, rfl⟩
  exact absurd (line '\n' member) (by decide)

/-- A text in which a parameter is found is its type, blanks, and its name. -/
theorem exists_of_search?_typedParameter
    {parameter : Text} {found : Match} (searched : typedParameter.search? parameter = some found) :
    ∃ front last gap first others,
      parameter = (front ++ [last]) ++ (gap ++ first :: others) ∧ '\n' ∉ front ∧
        isTypeEnd last = true ∧ (∀ c ∈ gap, Text.isBlank c = true) ∧ isNameStart first = true ∧
          (∀ c ∈ others, Text.isWord c = true) ∧ found.text? 1 = some (front ++ [last]) ∧
            found.text? 2 = some (first :: others) := by
  obtain ⟨ahead, piece, takes, _⟩ := exists_first_of_search? searched
  obtain ⟨front, last, gap, first, others, rfl, starts, atEnd, line, ends, blank, begins, words,
    remembers⟩ := exists_of_takes_typedParameter takes.takes
  have whole := takes.whole
  obtain rfl : ahead = [] := by
    rw [lastOf, Option.or_none] at starts
    exact List.getLast?_eq_none_iff.1 starts
  rw [atEnd, List.append_nil, List.nil_append] at whole
  refine ⟨front, last, gap, first, others, whole, line, ends, blank, begins, words, ?_, ?_⟩
  all_goals
    rw [text?_eq_lookup, remembers]
    rfl

/-- A parameter whose type stands ahead of its name is read back. -/
theorem readTypedParameter_append
    {type name : Text} (identifier : Name.isIdentifier name = true)
    (ends : type.getLast?.any isTypeEnd = true) (line : '\n' ∉ type)
    (bare :
      Text.dropRepeated "const " (Text.dropRepeated "final " (type ++ ' ' :: name)) =
        type ++ ' ' :: name) :
    readTypedParameter (type ++ ' ' :: name) = ⟨some name, DataType.ofSpelling? type⟩ := by
  have named := name?_readTypedParameter identifier ends line bare
  rw [readTypedParameter, bare] at named ⊢
  cases searched : typedParameter.search? (type ++ ' ' :: name) with
  | none =>
      rw [searched] at named
      exact absurd named.symm (Option.some_ne_none name)
  | some found =>
      rw [searched] at named
      obtain ⟨front, last, gap, first, others, whole, _, _, blank, _, _, isType, isName⟩ :=
        exists_of_search?_typedParameter searched
      obtain rfl : first :: others = name := Option.some.inj (isName.symm.trans named)
      have same : withoutBlanks (front ++ [last]) = withoutBlanks type := by
        have parts := congrArg withoutBlanks whole
        have space : withoutBlanks (' ' :: first :: others) = withoutBlanks (first :: others) :=
          List.filter_cons_of_neg (by decide)
        rw [withoutBlanks_append, withoutBlanks_append, withoutBlanks_append gap,
          withoutBlanks_of_blank blank, space] at parts
        exact (List.append_cancel_right parts).symm
      dsimp only
      rw [isName, Match.textOf, isType, Option.getD_some, DataType.ofSpelling?_congr same]

/-! ## Types behind names -/

/-- A parameter whose type follows its name is read back. -/
theorem readAnnotatedParameter_append
    {type name : Text} (identifier : Name.isIdentifier name = true) (absent : '=' ∉ type) :
    readAnnotatedParameter (name ++ (": " ++ type)) = ⟨some name, DataType.ofSpelling? type⟩ := by
  rw [readAnnotatedParameter_colon identifier absent, DataType.ofSpelling?_blank_cons]

end Kata.Prototype
