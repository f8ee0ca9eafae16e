import Mathlib.Data.List.Forall2
import Mathlib.Data.List.TakeWhile
import Kata.Proofs.Json.Depth
import Kata.Proofs.Json.RoundTrip

/-!
# Lists of texts

When each of several texts is read as a value wherever a comma or a bracket follows it, the texts
between brackets, with commas between them, are read as the list of these values. Likewise such
a text behind a key makes up an object.
-/

namespace Kata.Json

/-! ## Blanks ahead -/

theorem exists_skipSpace
    (text : Text) :
    ∃ gap, (∀ c ∈ gap, isSpace c = true) ∧ text = gap ++ skipSpace text := by
  refine ⟨text.takeWhile isSpace, ?_, ?_⟩
  · exact fun c member => List.mem_takeWhile_imp member
  · rw [skipSpace, List.takeWhile_append_dropWhile]

theorem skipSpace_append_of_ne_nil
    {text : Text} (nonempty : skipSpace text ≠ []) (rest : Text) :
    skipSpace (text ++ rest) = skipSpace text ++ rest := by
  rw [skipSpace] at nonempty
  rw [skipSpace, List.dropWhile_append, if_neg (by simpa using nonempty), skipSpace]

/-- A value is read alike with and without the blanks ahead of it. -/
theorem readValue_drop_space
    (steps depth : Nat) (text : Text) :
    readValue (steps + 1) depth (skipSpace text) = readValue (steps + 1) depth text := by
  obtain ⟨gap, blank, whole⟩ := exists_skipSpace text
  rw [← readValue_skipSpace blank (skipSpace text), ← whole]

/-! ## Texts of values -/

/-- Whether a text can stand for a value in a list or as a member of an object. What is left
behind the value are blanks, and two steps for each character and two more are enough. -/
structure StandsFor (text : Text) (value : Json) : Prop where
  begins : ∃ c others, skipSpace text = c :: others ∧ isOpening c = true
  reads :
    ∀ (steps depth : Nat) (rest : Text),
      2 * text.length + 2 ≤ steps → nesting value < depth → endsNumber rest = true →
        ∃ gap, (∀ c ∈ gap, isSpace c = true) ∧
          readValue steps depth (text ++ rest) = .ok (value, gap ++ rest)

section Items

variable {text : Text} {value : Json} (stands : StandsFor text value)
include stands

theorem StandsFor.skipSpace_append
    (rest : Text) :
    ∃ c others, skipSpace (text ++ rest) = c :: others ∧ c ≠ ']' := by
  obtain ⟨c, others, begins, opening⟩ := stands.begins
  have nonempty : skipSpace text ≠ [] := by simp [begins]
  refine ⟨c, others ++ rest, ?_, ?_⟩
  · rw [skipSpace_append_of_ne_nil nonempty, begins, List.cons_append]
  · rintro rfl
    exact absurd opening (by decide)

theorem StandsFor.nextItem_first
    (rest : Text) :
    nextItem true (text ++ rest) = .ok (some (skipSpace (text ++ rest))) := by
  obtain ⟨c, others, begins, notEnd⟩ := stands.skipSpace_append rest
  rw [nextItem, begins]
  split
  · next equality => exact absurd equality (List.cons_ne_nil _ _)
  · next equality =>
    cases equality
    exact absurd rfl notEnd
  · next equality => rw [if_pos rfl, equality]

theorem StandsFor.nextItem_later
    {gap : Text} (blank : ∀ c ∈ gap, isSpace c = true) (rest : Text) :
    nextItem false (gap ++ ',' :: (text ++ rest)) = .ok (some (skipSpace (text ++ rest))) := by
  obtain ⟨c, others, begins, notEnd⟩ := stands.skipSpace_append rest
  have comma : skipSpace (gap ++ ',' :: (text ++ rest)) = ',' :: (text ++ rest) := by
    rw [Json.skipSpace_append blank, skipSpace_cons (by decide)]
  rw [nextItem, comma]
  change (if false = true then _ else if ',' = ',' then _ else _) = _
  rw [if_neg Bool.false_ne_true, if_pos rfl, begins]
  split
  · next equality => exact absurd equality (List.cons_ne_nil _ _)
  · next equality =>
    cases equality
    exact absurd rfl notEnd
  · rfl

/-- The value is also read where the reader of a list looks for it. -/
theorem StandsFor.exists_read
    (steps depth : Nat) (rest : Text) (enough : 2 * text.length + 2 ≤ steps)
    (shallow : nesting value < depth) (ends : endsNumber rest = true) :
    ∃ gap, (∀ c ∈ gap, isSpace c = true) ∧
      readValue steps depth (skipSpace (text ++ rest)) = .ok (value, gap ++ rest) := by
  obtain ⟨steps, rfl⟩ : ∃ n, steps = n + 1 := ⟨steps - 1, by omega⟩
  rw [readValue_drop_space]
  exact stands.reads _ _ _ enough shallow ends

end Items

theorem nextItem_gap_end
    {gap : Text} (blank : ∀ c ∈ gap, isSpace c = true) (rest : Text) :
    nextItem false (gap ++ ']' :: rest) = .ok none ∧
      (skipSpace (gap ++ ']' :: rest)).drop 1 = rest := by
  have closing : skipSpace (gap ++ ']' :: rest) = ']' :: rest := by
    rw [skipSpace_append blank, skipSpace_cons (by decide)]
  refine ⟨?_, by rw [closing]; rfl⟩
  rw [nextItem, closing]
  rfl

theorem length_followers_cons
    (text : Text) (texts : List Text) :
    (followers [] (text :: texts)).length = text.length + (followers [] texts).length + 1 := by
  simp [followers, Nat.add_assoc]

theorem followers_cons_append
    (text : Text) (texts : List Text) (rest : Text) :
    followers [] (text :: texts) ++ rest = ',' :: (text ++ (followers [] texts ++ rest)) := by
  simp [followers]

/-- The texts behind the first are read up to the end of their list. -/
theorem readItems_of_standsFor
    {texts : List Text} {values : List Json} (each : List.Forall₂ StandsFor texts values) :
    ∀ (steps depth : Nat) {gap : Text} (rest : Text),
      (∀ c ∈ gap, isSpace c = true) →
        2 * (followers [] texts).length < steps →
          nestingOfItems values < depth →
            readItems steps depth false (gap ++ (followers [] texts ++ ']' :: rest)) =
              .ok (values, rest) := by
  induction each with
  | nil =>
      intro steps depth gap rest blank enough _
      obtain ⟨steps, rfl⟩ : ∃ n, steps = n + 1 := ⟨steps - 1, by omega⟩
      obtain ⟨finished, behind⟩ := nextItem_gap_end blank rest
      rw [followers, List.flatMap_nil, List.nil_append, readItems_none finished, behind]
  | @cons text value texts values stands _ inductionHypothesis =>
      intro steps depth gap rest blank enough shallow
      rw [length_followers_cons] at enough
      rw [nestingOfItems] at shallow
      obtain ⟨steps, rfl⟩ : ∃ n, steps = n + 1 := ⟨steps - 1, by omega⟩
      obtain ⟨behind, behindBlank, first⟩ :=
        stands.exists_read steps depth (followers [] texts ++ ']' :: rest) (by omega) (by omega)
          (endsNumber_followers [] texts rest rfl)
      have others :=
        inductionHypothesis steps depth rest behindBlank (by omega) (by omega)
      rw [followers_cons_append]
      exact readItems_some (stands.nextItem_later blank _) first others

/-- The texts in brackets, with commas between them. -/
def listText (texts : List Text) : Text :=
  '[' :: Text.joinWith [','] texts ++ [']']

theorem readValue_listText
    {texts : List Text} {values : List Json} (each : List.Forall₂ StandsFor texts values)
    {steps depth : Nat} (rest : Text) (enough : 2 * (listText texts).length ≤ steps)
    (shallow : nestingOfItems values + 1 < depth) :
    readValue steps depth (listText texts ++ rest) = .ok (array values, rest) := by
  cases each with
  | nil =>
      have long : 4 ≤ steps := enough
      obtain ⟨steps, rfl⟩ : ∃ n, steps = n + 2 := ⟨steps - 2, by omega⟩
      exact readValue_array (by omega) (readItems_none (nextItem_end true rest))
  | @cons text value texts values stands others =>
      have pieces :
          ∀ behind,
            listText (text :: texts) ++ behind =
              '[' :: (text ++ (followers [] texts ++ ']' :: behind)) := by
        simp [listText, joinWith_cons]
      have long := congrArg List.length (pieces [])
      simp only [List.append_nil, List.length_cons, List.length_append, List.length_nil] at long
      rw [nestingOfItems] at shallow
      obtain ⟨steps, rfl⟩ : ∃ n, steps = n + 2 := ⟨steps - 2, by omega⟩
      obtain ⟨behind, behindBlank, first⟩ :=
        stands.exists_read steps (depth - 1) (followers [] texts ++ ']' :: rest) (by omega)
          (by omega) (endsNumber_followers [] texts rest rfl)
      have later :=
        readItems_of_standsFor others steps (depth - 1) rest behindBlank (by omega) (by omega)
      rw [pieces]
      exact readValue_array (by omega) (readItems_some (stands.nextItem_first _) first later)

/-- Texts that stand for values stand for the list of these values. -/
theorem standsFor_listText
    {texts : List Text} {values : List Json} (each : List.Forall₂ StandsFor texts values) :
    StandsFor (listText texts) (array values) where
  begins := ⟨'[', _, skipSpace_cons (by decide) _, by decide⟩
  reads := by
    intro steps depth rest enough shallow _
    rw [nesting] at shallow
    exact ⟨[], by simp, readValue_listText each rest (by omega) (by omega)⟩

/-! ## Objects of one member -/

/-- A key and a text in braces. -/
def memberText (key text : Text) : Text :=
  '\x7b' :: quote key ++ ':' :: text ++ ['\x7d']

theorem memberText_append
    (key text rest : Text) :
    memberText key text ++ rest =
      '\x7b' :: '"' :: (key.flatMap quoteChar ++ '"' :: ':' :: (text ++ '\x7d' :: rest)) := by
  simp [memberText, quote]

theorem nextKey_gap_end
    {gap : Text} (blank : ∀ c ∈ gap, isSpace c = true) (rest : Text) :
    nextKey false (gap ++ '\x7d' :: rest) = .ok none ∧
      (skipSpace (gap ++ '\x7d' :: rest)).drop 1 = rest := by
  have closing : skipSpace (gap ++ '\x7d' :: rest) = '\x7d' :: rest := by
    rw [skipSpace_append blank, skipSpace_cons (by decide)]
  refine ⟨?_, by rw [closing]; rfl⟩
  rw [nextKey, closing]
  rfl

/-- A text that stands for a value stands, behind a key, for the object of this member. -/
theorem standsFor_memberText
    (key : Text) {text : Text} {value : Json} (stands : StandsFor text value) :
    StandsFor (memberText key text) (object [(key, value)]) where
  begins := ⟨'\x7b', _, skipSpace_cons (by decide) _, by decide⟩
  reads := by
    intro steps depth rest enough shallow _
    have long := congrArg List.length (memberText_append key text [])
    simp only [List.append_nil, List.length_cons, List.length_append] at long
    rw [nesting, nestingOfMembers, nestingOfMembers, Nat.max_zero] at shallow
    obtain ⟨steps, rfl⟩ : ∃ n, steps = n + 3 := ⟨steps - 3, by omega⟩
    obtain ⟨gap, blank, content⟩ :=
      stands.reads (steps + 1) (depth - 1) ('\x7d' :: rest) (by omega) (by omega) rfl
    obtain ⟨finished, behind⟩ := nextKey_gap_end blank rest
    have others :
        readMembers (steps + 1) (depth - 1) false (gap ++ '\x7d' :: rest) = .ok ([], rest) := by
      rw [readMembers_none finished, behind]
    refine ⟨[], by simp, ?_⟩
    rw [memberText_append]
    exact readValue_object (by omega)
      (readMembers_some (nextKey_first _) (readQuoted_quote key _) (behindColon_cons _) content
        others)

/-! ## Whole texts -/

/-- A text that stands for a value is read as that value where the reader goes deep enough. -/
theorem parseAll_of_standsFor
    {text : Text} {value : Json} (stands : StandsFor text value)
    (shallow : nesting value < depthLimit) :
    parseAll text = .ok value := by
  obtain ⟨gap, blank, read⟩ := stands.reads _ _ [] (Nat.le_refl _) shallow rfl
  rw [List.append_nil, List.append_nil] at read
  have finished : skipSpace gap = [] := by
    have skipped := skipSpace_append blank []
    rwa [List.append_nil] at skipped
  rw [parseAll, read]
  simp [bind, Except.bind, finish, finished]

end Kata.Json
