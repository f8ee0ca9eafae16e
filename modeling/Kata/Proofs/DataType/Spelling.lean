import Kata.DataType.Spelling
import Kata.Proofs.Text.Blank

/-!
# What matters in a spelling

Blanks do not matter to a spelling. A word that no spelling begins with is not unwrapped either, so
nothing that begins with it stands for a type.
-/

namespace Kata.DataType

/-! ## Blanks -/

/-- A spelling without its blanks. -/
def withoutBlanks (spelling : Text) : Text :=
  spelling.filter fun c => !Text.isBlank c

theorem withoutBlanks_append
    (left right : Text) :
    withoutBlanks (left ++ right) = withoutBlanks left ++ withoutBlanks right :=
  List.filter_append left right

theorem withoutBlanks_of_blank
    {gap : Text} (blank : ∀ c ∈ gap, Text.isBlank c = true) :
    withoutBlanks gap = [] := by
  refine List.filter_eq_nil_iff.2 fun c member => ?_
  rw [blank c member]
  exact Bool.false_ne_true

theorem withoutBlanks_trim
    (spelling : Text) :
    withoutBlanks (Text.trim spelling) = withoutBlanks spelling := by
  obtain ⟨lead, trail, leadBlank, trailBlank, whole⟩ := Text.exists_trim spelling
  have parts := congrArg withoutBlanks whole
  rw [withoutBlanks_append, withoutBlanks_append, withoutBlanks_of_blank leadBlank,
    withoutBlanks_of_blank trailBlank, List.nil_append, List.append_nil] at parts
  exact parts.symm

/-- Spellings that differ in their blanks only stand for the same type. -/
theorem ofSpelling?_congr
    {left right : Text} (same : withoutBlanks left = withoutBlanks right) :
    ofSpelling? left = ofSpelling? right := by
  have key : spellingKey left = spellingKey right :=
    congrArg (fun spelling => Text.dropEndWhile isPointerMark (unwrapOptional spelling)) same
  rw [ofSpelling?, ofSpelling?, key]

theorem ofSpelling?_blank_cons
    (spelling : Text) :
    ofSpelling? (' ' :: spelling) = ofSpelling? spelling :=
  ofSpelling?_congr (List.filter_cons_of_neg (by decide))

theorem ofSpelling?_trim
    (spelling : Text) :
    ofSpelling? (Text.trim spelling) = ofSpelling? spelling :=
  ofSpelling?_congr (withoutBlanks_trim spelling)

/-- What stands for a type is not blank. -/
theorem trim_ne_nil_of_isSome
    {spelling : Text} (accepted : (ofSpelling? spelling).isSome = true) :
    Text.trim spelling ≠ [] := by
  intro blank
  rw [← ofSpelling?_trim, blank] at accepted
  exact absurd accepted (by decide +kernel)

/-! ## Foreign words -/

/-- Whether nothing that begins with a word is a spelling: the word is not the beginning of one, and
neither does the unwrapping of a type that may be absent take a part of it away. -/
def isForeign (word : Text) : Bool :=
  word.head?.any (· != 'O') && word.all (fun c => c != '|' && !isPointerMark c) &&
    (absentWords ++ every.flatMap spellings).all fun known => !word.isPrefixOf known

section Foreign

variable {word : Text} (foreign : isForeign word = true)
include foreign

theorem not_mem_of_isForeign
    (rest : Text) :
    word ++ rest ∉ absentWords ++ every.flatMap spellings := by
  rw [isForeign, Bool.and_eq_true, List.all_eq_true] at foreign
  intro member
  have absent := foreign.2 _ member
  rw [Bool.not_eq_true', ← Bool.not_eq_true, List.isPrefixOf_iff_prefix] at absent
  exact absent (List.prefix_append word rest)

theorem exists_splitOn
    (rest : Text) :
    ∃ part parts, Text.splitOn '|' (word ++ rest) = (word ++ part) :: parts := by
  rw [isForeign, Bool.and_eq_true, Bool.and_eq_true] at foreign
  have plain := foreign.1.2
  clear foreign
  induction word with
  | nil => exact List.exists_cons_of_ne_nil (Text.joinWith_splitOn '|' rest).1
  | cons c word inductionHypothesis =>
      rw [List.all_cons, Bool.and_eq_true, Bool.and_eq_true, bne_iff_ne] at plain
      obtain ⟨part, parts, split⟩ := inductionHypothesis plain.2
      exact ⟨part, parts, Text.splitOn_cons_of_ne plain.1.1 split⟩

theorem between?_of_isForeign
    (opening closing rest : Text) :
    between? ('O' :: opening) closing (word ++ rest) = none := by
  rw [isForeign, Bool.and_eq_true, Bool.and_eq_true] at foreign
  cases word with
  | nil => exact absurd foreign.1.1 Bool.false_ne_true
  | cons c word =>
      have other : 'O' ≠ c := Ne.symm (bne_iff_ne.1 foreign.1.1)
      rw [between?, List.cons_append, Text.after?, if_neg other]
      rfl

/-- The word stays at the front of what is unwrapped. -/
theorem exists_unwrapOptional
    (rest : Text) :
    ∃ more, unwrapOptional (word ++ rest) = word ++ more := by
  have square : between? "Optional[" "]" (word ++ rest) = none :=
    between?_of_isForeign foreign "ptional[" "]" rest
  have angle : between? "Optional<" ">" (word ++ rest) = none :=
    between?_of_isForeign foreign "ptional<" ">" rest
  rw [unwrapOptional, square, angle]
  dsimp only
  split
  · obtain ⟨part, parts, split⟩ := exists_splitOn foreign rest
    have present : (!absentWords.contains (word ++ part)) = true := by
      rw [Bool.not_eq_true', ← Bool.not_eq_true, List.contains_iff_mem]
      exact fun member =>
        not_mem_of_isForeign foreign part (List.mem_append_left _ member)
    rw [split]
    simp only [List.find?_cons, present]
    exact ⟨part, rfl⟩
  · exact ⟨rest, rfl⟩

/-- The word stays at the front if the marks at the end are dropped. -/
theorem exists_dropEndWhile
    (rest : Text) :
    ∃ more, Text.dropEndWhile isPointerMark (word ++ rest) = word ++ more := by
  rw [isForeign, Bool.and_eq_true, Bool.and_eq_true] at foreign
  have kept : word.reverse.dropWhile isPointerMark = word.reverse := by
    cases reversed : word.reverse with
    | nil => rfl
    | cons last others =>
        have member : last ∈ word := List.mem_reverse.1 (reversed ▸ List.mem_cons_self)
        have plain := List.all_eq_true.1 foreign.1.2 last member
        rw [Bool.and_eq_true, Bool.not_eq_true', ← Bool.not_eq_true] at plain
        exact List.dropWhile_cons_of_neg plain.2
  rw [Text.dropEndWhile, List.reverse_append, List.dropWhile_append, kept]
  split
  · exact ⟨[], by rw [List.reverse_reverse, List.append_nil]⟩
  · exact ⟨_, by rw [List.reverse_append, List.reverse_reverse]⟩

/-- What begins with a foreign word stands for no type. -/
theorem not_prefix_of_isSome
    {spelling : Text} (accepted : (ofSpelling? spelling).isSome = true) :
    ¬word <+: withoutBlanks spelling := by
  rintro ⟨rest, whole⟩
  obtain ⟨type, found⟩ := Option.isSome_iff_exists.1 accepted
  obtain ⟨unwrapped, isUnwrapped⟩ := exists_unwrapOptional foreign rest
  obtain ⟨bare, isBare⟩ := exists_dropEndWhile foreign unwrapped
  have key : spellingKey spelling = word ++ bare := by
    rw [← isBare, ← isUnwrapped, whole]
    rfl
  have known : type.spellings.contains (spellingKey spelling) = true := by
    have holds := List.find?_some found
    exact holds
  rw [key, List.contains_iff_mem] at known
  exact not_mem_of_isForeign foreign bare
    (List.mem_append_right _ (List.mem_flatMap.2 ⟨type, List.mem_of_find?_eq_some found, known⟩))

end Foreign

end Kata.DataType
