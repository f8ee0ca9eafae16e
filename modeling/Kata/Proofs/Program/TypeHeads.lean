import Mathlib.Data.List.Basic
import Kata.Program.Java
import Kata.Proofs.Pattern.Matches
import Kata.Proofs.Text.LineStarts

/-!
# Public types

The head of a type is a row of modifiers and the kind of the type. A line on which the head of a
public type stands is what the pattern for public types takes at its start. Where the word `public`
is taken away, lines stay as they are or begin with the head of a type.
-/

namespace Kata.Program

open Pattern

/-! ## Heads of types -/

/-- The words that can stand ahead of the kind of a type. -/
def modifiers : List Text :=
  ["final", "abstract", "static", "sealed"]

/-- The words for the kinds of types. -/
def typeKinds : List Text :=
  ["class", "interface", "enum", "record"]

/-- That a text is blank and not empty. -/
structure IsGap (gap : Text) : Prop where
  nonempty : gap ≠ []
  blank : ∀ c ∈ gap, Text.isBlank c = true

/-- The heads of types: any number of modifiers, blanks behind each, and a kind. -/
inductive TypeHead : Text → Prop
  | kind {word : Text} (known : word ∈ typeKinds) : TypeHead word
  | modified {word gap head : Text} (known : word ∈ modifiers) (isGap : IsGap gap)
      (later : TypeHead head) : TypeHead (word ++ (gap ++ head))

/-- That a line begins with the head of a public type. -/
def IsPublicType (line : Text) : Prop :=
  ∃ gap head behind,
    line = "public".toList ++ (gap ++ (head ++ behind)) ∧ IsGap gap ∧ TypeHead head ∧
      behind.head?.any Text.isWord = false

/-- What the words of a head have in common. -/
structure IsTypeWord (word : Text) : Prop where
  nonempty : word ≠ []
  isWord : ∀ c ∈ word, Text.isWord c = true
  isLong : 2 ≤ word.length
  notPublic : word.head? ≠ some 'p'
  notImport : word.take 2 ≠ "im".toList

theorem isTypeWord_of_mem
    {word : Text} (member : word ∈ modifiers ++ typeKinds) :
    IsTypeWord word := by
  have known :
      ∀ word ∈ modifiers ++ typeKinds,
        word ≠ [] ∧ word.all Text.isWord = true ∧ 2 ≤ word.length ∧
          word.head? ≠ some 'p' ∧ word.take 2 ≠ "im".toList := by
    decide
  obtain ⟨nonempty, isWord, isLong, notPublic, notImport⟩ := known word member
  exact ⟨nonempty, List.all_eq_true.1 isWord, isLong, notPublic, notImport⟩

theorem isTypeWord_of_mem_modifiers
    {word : Text} (member : word ∈ modifiers) :
    IsTypeWord word :=
  isTypeWord_of_mem (List.mem_append_left _ member)

theorem isTypeWord_of_mem_typeKinds
    {word : Text} (member : word ∈ typeKinds) :
    IsTypeWord word :=
  isTypeWord_of_mem (List.mem_append_right _ member)

theorem IsTypeWord.lineFeed_not_mem
    {word : Text} (isTypeWord : IsTypeWord word) :
    '\n' ∉ word :=
  fun inside => absurd (isTypeWord.isWord '\n' inside) (by decide)

/-- A line that begins ahead of the end of a text that starts with a word begins with the word, or
behind it. -/
theorem IsTypeWord.cut
    {word : Text} (isTypeWord : IsTypeWord word) {front behind rest : Text}
    (whole : word ++ rest = front ++ behind) (begins : front.getLast?.all (· == '\n') = true) :
    (front = [] ∧ behind = word ++ rest) ∨
      ∃ more, front = word ++ more ∧ rest = more ++ behind ∧ more ≠ [] := by
  rcases List.append_eq_append_iff.1 whole with ⟨more, rfl, rfl⟩ | ⟨more, rfl, rfl⟩
  · cases more with
    | nil =>
        rw [List.append_nil, ← List.dropLast_concat_getLast isTypeWord.nonempty,
          List.getLast?_concat] at begins
        have inside := List.getLast_mem isTypeWord.nonempty
        rw [eq_of_beq begins] at inside
        exact absurd inside isTypeWord.lineFeed_not_mem
    | cons c more => exact Or.inr ⟨c :: more, rfl, rfl, List.cons_ne_nil c more⟩
  · rcases List.eq_nil_or_concat front with rfl | ⟨before, last, rfl⟩
    · exact Or.inl ⟨rfl, rfl⟩
    · rw [List.concat_eq_append, List.getLast?_concat] at begins
      obtain rfl : last = '\n' := eq_of_beq begins
      exact absurd (by simp) isTypeWord.lineFeed_not_mem

/-- That a text begins with a word of a head, perhaps behind blanks. -/
def BeginsWithTypeWord (text : Text) : Prop :=
  ∃ gap word behind,
    text = gap ++ (word ++ behind) ∧ (∀ c ∈ gap, Text.isBlank c = true) ∧ IsTypeWord word

theorem TypeHead.begins
    {head : Text} (isHead : TypeHead head) :
    ∃ word behind, head = word ++ behind ∧ IsTypeWord word := by
  cases isHead with
  | kind known =>
      exact ⟨head, [], (List.append_nil head).symm, isTypeWord_of_mem_typeKinds known⟩
  | modified known _ _ => exact ⟨_, _, rfl, isTypeWord_of_mem_modifiers known⟩

theorem TypeHead.ends
    {head : Text} (isHead : TypeHead head) :
    ∃ ahead last, head = ahead ++ [last] ∧ Text.isWord last = true := by
  induction isHead with
  | @kind word known =>
      have isTypeWord := isTypeWord_of_mem_typeKinds known
      refine ⟨word.dropLast, word.getLast isTypeWord.nonempty,
        (List.dropLast_concat_getLast isTypeWord.nonempty).symm, ?_⟩
      exact isTypeWord.isWord _ (List.getLast_mem isTypeWord.nonempty)
  | @modified word gap head known isGap later inductionHypothesis =>
      obtain ⟨ahead, last, rfl, isWord⟩ := inductionHypothesis
      exact ⟨word ++ (gap ++ ahead), last, by simp only [List.append_assoc], isWord⟩

/-- What begins on a later line of a head begins with one of its words. -/
theorem TypeHead.beginsWithTypeWord
    {head : Text} (isHead : TypeHead head) :
    ∀ {front behind : Text},
      head = front ++ behind → behind ≠ [] → front.getLast?.all (· == '\n') = true →
        BeginsWithTypeWord behind := by
  induction isHead with
  | @kind word known =>
      intro front behind whole nonempty begins
      have isTypeWord := isTypeWord_of_mem_typeKinds known
      rw [← List.append_nil word] at whole
      rcases isTypeWord.cut whole begins with ⟨_, rfl⟩ | ⟨more, _, rest, _⟩
      · exact ⟨[], word, [], rfl, List.forall_mem_nil _, isTypeWord⟩
      · exact absurd (List.append_eq_nil_iff.1 rest.symm).2 nonempty
  | @modified word gap head known isGap later inductionHypothesis =>
      intro front behind whole nonempty begins
      have isTypeWord := isTypeWord_of_mem_modifiers known
      rcases isTypeWord.cut whole begins with ⟨_, rfl⟩ | ⟨more, rfl, onward, moreNonempty⟩
      · exact ⟨[], word, gap ++ head, rfl, List.forall_mem_nil _, isTypeWord⟩
      · rw [List.getLast?_append_of_ne_nil _ moreNonempty] at begins
        rcases List.append_eq_append_iff.1 onward with ⟨further, rfl, rfl⟩ | ⟨left, rfl, rfl⟩
        · -- The rest of the head begins behind the blanks.
          refine inductionHypothesis rfl nonempty ?_
          cases further with
          | nil => rfl
          | cons c further =>
              rw [List.getLast?_append_of_ne_nil _ (List.cons_ne_nil c further)] at begins
              exact begins
        · -- It begins among them.
          obtain ⟨next, others, rfl, nextWord⟩ := later.begins
          exact ⟨left, next, others, rfl,
            fun c inside => isGap.blank c (List.mem_append_right _ inside), nextWord⟩

/-! ## The pattern for public types -/

section Pattern

variable {previous : Option Char} {piece rest : Text} {remembered : Remembered}

/-- The part of the pattern that is remembered. -/
def headPattern : Pattern :=
  inOrder [repeated (seq (oneOf modifiers) gap), oneOf typeKinds, wordEdge]

theorem takes_modifier :
    Takes (seq (oneOf modifiers) gap) previous piece rest remembered ↔
      (∃ word gap, piece = word ++ gap ∧ word ∈ modifiers ∧ IsGap gap) ∧ remembered = [] := by
  rw [takes_seq]
  constructor
  · rintro ⟨word, gap, _, _, isWord, isGap, rfl, rfl⟩
    obtain ⟨known, rfl⟩ := takes_oneOf.1 isWord
    obtain ⟨nonempty, blank, rfl⟩ := takes_gap.1 isGap
    exact ⟨⟨word, gap, rfl, known, nonempty, blank⟩, rfl⟩
  · rintro ⟨⟨word, gap, rfl, known, nonempty, blank⟩, rfl⟩
    exact ⟨word, gap, [], [], takes_oneOf.2 ⟨known, rfl⟩, takes_gap.2 ⟨nonempty, blank, rfl⟩, rfl,
      rfl⟩

theorem typeHead_of_inRow
    {word : Text} (known : word ∈ typeKinds)
    (row : InRow (Takes (seq (oneOf modifiers) gap)) previous piece rest remembered) :
    TypeHead (piece ++ word) := by
  induction row with
  | done => exact TypeHead.kind known
  | more _ first _ inductionHypothesis =>
      obtain ⟨⟨_, _, rfl, isModifier, isGap⟩, _⟩ := takes_modifier.1 first
      rw [List.append_assoc, List.append_assoc]
      exact TypeHead.modified isModifier isGap inductionHypothesis

theorem TypeHead.exists_row
    {head : Text} (isHead : TypeHead head) :
    ∃ row word,
      head = row ++ word ∧ word ∈ typeKinds ∧
        ∀ previous rest, InRow (Takes (seq (oneOf modifiers) gap)) previous row rest [] := by
  induction isHead with
  | @kind word known => exact ⟨[], word, rfl, known, InRow.done⟩
  | @modified modifier gap head known isGap later inductionHypothesis =>
      obtain ⟨row, word, rfl, isKind, inRow⟩ := inductionHypothesis
      refine ⟨(modifier ++ gap) ++ row, word, by simp only [List.append_assoc], isKind, ?_⟩
      intro previous rest
      have first :
          Takes (seq (oneOf modifiers) Pattern.gap) previous (modifier ++ gap) (row ++ rest) [] :=
        takes_modifier.2 ⟨⟨modifier, gap, rfl, known, isGap⟩, rfl⟩
      exact InRow.more (List.append_ne_nil_of_right_ne_nil _ isGap.nonempty) first (inRow _ rest)

theorem takes_headPattern :
    Takes headPattern previous piece rest remembered ↔
      TypeHead piece ∧ rest.head?.any Text.isWord = false ∧ remembered = [] := by
  have edge :
      ∀ {row word : Text}, word ∈ typeKinds →
        (Takes (inOrder [wordEdge]) (lastOf (lastOf previous row) word) [] rest [] ↔
          rest.head?.any Text.isWord = false) := by
    intro row word known
    have isTypeWord := isTypeWord_of_mem_typeKinds known
    have behindWord : (lastOf (lastOf previous row) word).any Text.isWord = true := by
      rw [lastOf, List.getLast?_eq_some_getLast isTypeWord.nonempty]
      exact isTypeWord.isWord _ (List.getLast_mem isTypeWord.nonempty)
    rw [takes_inOrder_singleton, takes_wordEdge, behindWord]
    cases rest.head?.any Text.isWord <;> decide
  constructor
  · intro takes
    obtain ⟨row, _, _, _, isRow, atKind, rfl, rfl⟩ := takes_inOrder_cons.1 takes
    obtain ⟨word, _, _, _, isKind, atEdge, rfl, rfl⟩ := takes_inOrder_cons.1 atKind
    obtain ⟨known, rfl⟩ := takes_oneOf.1 isKind
    obtain ⟨_, rfl, rfl⟩ := takes_wordEdge.1 (takes_inOrder_singleton.1 atEdge)
    obtain rfl := remembered_of_isForgetful (repeated (seq (oneOf modifiers) gap)) rfl isRow
    rw [List.append_nil]
    exact ⟨typeHead_of_inRow known isRow, (edge known).1 atEdge, rfl⟩
  · rintro ⟨isHead, border, rfl⟩
    obtain ⟨row, word, rfl, known, inRow⟩ := isHead.exists_row
    refine takes_inOrder_onward row (inRow previous _) ?_
    rw [← List.append_nil word]
    exact takes_inOrder_onward word (takes_oneOf.2 ⟨known, rfl⟩) ((edge known).2 border)

/-- The pattern takes the head of a public type at the start of a line, and remembers it without the
word `public`. -/
theorem takes_publicType :
    Takes Java.publicType previous piece rest remembered ↔
      previous.all (· == '\n') = true ∧
        ∃ gap head,
          piece = "public".toList ++ (gap ++ head) ∧ IsGap gap ∧ TypeHead head ∧
            rest.head?.any Text.isWord = false ∧ remembered = [(1, head)] := by
  have parts :
      Takes Java.publicType previous piece rest remembered ↔
        Takes (inOrder [lineStart, text "public", Pattern.gap, group 1 headPattern]) previous piece
          rest remembered := Iff.rfl
  rw [parts]
  constructor
  · intro takes
    obtain ⟨_, _, _, _, ⟨starts, rfl, rfl⟩, atPublic, rfl, rfl⟩ := takes_inOrder_cons.1 takes
    obtain ⟨_, _, _, _, isPublic, atGap, rfl, rfl⟩ := takes_inOrder_cons.1 atPublic
    obtain ⟨gap, head, _, _, isGap, atHead, rfl, rfl⟩ := takes_inOrder_cons.1 atGap
    obtain ⟨rfl, rfl⟩ := (takes_text _).1 isPublic
    obtain ⟨nonempty, blank, rfl⟩ := takes_gap.1 isGap
    obtain ⟨_, body, rfl⟩ := takes_group.1 (takes_inOrder_singleton.1 atHead)
    obtain ⟨isHead, border, rfl⟩ := takes_headPattern.1 body
    exact ⟨starts, gap, head, rfl, ⟨nonempty, blank⟩, isHead, border, rfl⟩
  · rintro ⟨starts, gap, head, rfl, isGap, isHead, border, rfl⟩
    have atHead :
        Takes (inOrder [group 1 headPattern]) (lastOf (lastOf previous "public".toList) gap) head
          rest [(1, head)] :=
      takes_inOrder_singleton.2
        (takes_group.2 ⟨[], takes_headPattern.2 ⟨isHead, border, rfl⟩, rfl⟩)
    have atGap :
        Takes (inOrder [Pattern.gap, group 1 headPattern]) (lastOf previous "public".toList)
          (gap ++ head) rest [(1, head)] :=
      takes_inOrder_cons.2 ⟨gap, head, [], [(1, head)],
        takes_gap.2 ⟨isGap.nonempty, isGap.blank, rfl⟩, atHead, rfl, rfl⟩
    have atPublic :
        Takes (inOrder [text "public", Pattern.gap, group 1 headPattern]) previous
          ("public".toList ++ (gap ++ head)) rest [(1, head)] :=
      takes_inOrder_cons.2 ⟨"public".toList, gap ++ head, [], [(1, head)],
        (takes_text _).2 ⟨rfl, rfl⟩, atGap, rfl, rfl⟩
    exact takes_inOrder_cons.2 ⟨[], "public".toList ++ (gap ++ head), [], [(1, head)],
      ⟨starts, rfl, rfl⟩, atPublic, rfl, rfl⟩

end Pattern

end Kata.Program
