import Mathlib.Data.List.Forall2
import Kata.Proofs.Name.Identifiers

/-!
# The words of a title

The words of a title are its maximal runs of letters and digits. The name that a title suggests
depends on them alone, and not on how their letters are written or on what stands between them.
-/

namespace Kata.Name

/-! ## Maximal runs -/

/-- That the maximal runs of letters and digits of a text are those of a list, from the front. -/
inductive HasWords : Text → List Text → Prop
  | done {gap : Text} (outside : ∀ c ∈ gap, Text.isPlainAlphanumeric c = false) :
      HasWords gap []
  | more {gap word rest : Text} {others : List Text}
      (outside : ∀ c ∈ gap, Text.isPlainAlphanumeric c = false)
      (nonempty : word ≠ []) (inside : IsAlphanumeric word)
      (ends : rest.head?.any Text.isPlainAlphanumeric = false)
      (onward : HasWords rest others) :
      HasWords (gap ++ (word ++ rest)) (word :: others)

theorem words_cons_of_outside
    {c : Char} (outside : Text.isPlainAlphanumeric c = false) (text : Text) :
    words (c :: text) = words text := by
  rw [words, Text.splitWhere, outside]
  rfl

theorem words_append_of_outside
    {gap : Text} (outside : ∀ c ∈ gap, Text.isPlainAlphanumeric c = false) (text : Text) :
    words (gap ++ text) = words text := by
  induction gap with
  | nil => rfl
  | cons c gap inductionHypothesis =>
      rw [List.forall_mem_cons] at outside
      rw [List.cons_append, words_cons_of_outside outside.1, inductionHypothesis outside.2]

theorem words_append_of_inside
    {word rest : Text} (nonempty : word ≠ []) (inside : IsAlphanumeric word)
    (ends : rest.head?.any Text.isPlainAlphanumeric = false) :
    words (word ++ rest) = word :: words rest := by
  obtain ⟨parts, split⟩ :
      ∃ parts, Text.splitWhere (fun c => !Text.isPlainAlphanumeric c) rest = [] :: parts := by
    cases rest with
    | nil => exact ⟨[], rfl⟩
    | cons c rest =>
        rw [List.head?_cons, Option.any_some] at ends
        rw [Text.splitWhere, ends]
        exact ⟨_, rfl⟩
  have solid : ∀ c ∈ word, (!Text.isPlainAlphanumeric c) = false := by
    intro c member
    rw [inside c member]
    rfl
  have kept : (word != []) = true := bne_iff_ne.2 nonempty
  rw [words, words, Text.splitWhere_append solid split, split, List.append_nil, List.filter_cons,
    if_pos kept]
  rfl

theorem words_of_hasWords
    {text : Text} {runs : List Text} (has : HasWords text runs) :
    words text = runs := by
  induction has with
  | done outside =>
      have nothing := words_append_of_outside outside []
      rwa [List.append_nil] at nothing
  | more outside nonempty inside ends _ inductionHypothesis =>
      rw [words_append_of_outside outside, words_append_of_inside nonempty inside ends,
        inductionHypothesis]

theorem HasWords.cons_outside
    {c : Char} {text : Text} {runs : List Text} (outside : Text.isPlainAlphanumeric c = false)
    (has : HasWords text runs) :
    HasWords (c :: text) runs := by
  cases has with
  | done gapOutside => exact HasWords.done (List.forall_mem_cons.2 ⟨outside, gapOutside⟩)
  | more gapOutside nonempty inside ends onward =>
      exact HasWords.more (List.forall_mem_cons.2 ⟨outside, gapOutside⟩) nonempty inside ends
        onward

theorem HasWords.exists_cons_inside
    {c : Char} {text : Text} {runs : List Text} (inside : Text.isPlainAlphanumeric c = true)
    (has : HasWords text runs) :
    ∃ others, HasWords (c :: text) others := by
  have single : IsAlphanumeric [c] := List.forall_mem_singleton.2 inside
  -- The character is a word of its own unless a word follows at once.
  have alone :
      text.head?.any Text.isPlainAlphanumeric = false →
        ∃ others, HasWords (c :: text) others := by
    intro ends
    exact ⟨_, HasWords.more (List.forall_mem_nil _) (List.cons_ne_nil c []) single ends has⟩
  cases has with
  | done outside =>
      apply alone
      cases text with
      | nil => rfl
      | cons d text => exact outside d List.mem_cons_self
  | @more gap word rest others outside nonempty wordInside ends onward =>
      cases gap with
      | nil =>
          have longer : IsAlphanumeric (c :: word) := List.forall_mem_cons.2 ⟨inside, wordInside⟩
          exact ⟨_, HasWords.more (List.forall_mem_nil _) (List.cons_ne_nil c word) longer ends
            onward⟩
      | cons d gap =>
          apply alone
          exact outside d List.mem_cons_self

theorem exists_hasWords
    (text : Text) :
    ∃ runs, HasWords text runs := by
  induction text with
  | nil => exact ⟨[], HasWords.done (List.forall_mem_nil _)⟩
  | cons c text inductionHypothesis =>
      obtain ⟨runs, has⟩ := inductionHypothesis
      by_cases inside : Text.isPlainAlphanumeric c = true
      · exact has.exists_cons_inside inside
      · exact ⟨runs, has.cons_outside (Bool.eq_false_iff.2 inside)⟩

/-- Every text has just one list of maximal runs, its words. -/
theorem hasWords_iff
    {text : Text} {runs : List Text} :
    HasWords text runs ↔ words text = runs := by
  constructor
  · exact words_of_hasWords
  · intro same
    obtain ⟨others, has⟩ := exists_hasWords text
    rw [← same, words_of_hasWords has]
    exact has

/-! ## Names of the same words -/

/-- That words are the same one by one, up to the case of their letters. -/
def AgreeUpToCase (runs others : List Text) : Prop :=
  List.Forall₂ (fun run other => Text.equalsIgnoringCase run other = true) runs others

theorem capitalized_congr
    {word other : Text} (alike : Text.equalsIgnoringCase word other = true) :
    capitalized word = capitalized other := by
  rw [capitalized, capitalized, eq_of_beq alike]

theorem camelCase_congr
    {runs others : List Text} (alike : AgreeUpToCase runs others) :
    camelCase runs = camelCase others := by
  cases alike with
  | nil => rfl
  | @cons run other runs others first behind =>
      have same : runs.map capitalized = others.map capitalized := by
        induction behind with
        | nil => rfl
        | cons next _ inductionHypothesis =>
            rw [List.map_cons, List.map_cons, capitalized_congr next, inductionHypothesis]
      rw [camelCase, camelCase, same, eq_of_beq first]

/-- The name that a title suggests is a small letter with letters and digits behind it, and titles
whose words agree up to letter case suggest the same name. -/
theorem names_follow_the_words :
    (∀ title, IsCamelName (ofTitle title)) ∧
      ∀ {title other : Text} {runs others : List Text},
        HasWords title runs → HasWords other others → AgreeUpToCase runs others →
          ofTitle title = ofTitle other := by
  refine ⟨isCamelName_ofTitle, ?_⟩
  intro title other runs others has hasToo alike
  rw [ofTitle, ofTitle, words_of_hasWords has, words_of_hasWords hasToo, camelCase_congr alike]

/-- Two titles of the same words, of which the first begins with a digit. -/
theorem names_follow_the_words_threeSum :
    HasWords "3Sum Closest" ["3Sum", "Closest"] ∧
      HasWords "¿3SUM\t— closest?" ["3SUM", "closest"] ∧
        IsCamelName (ofTitle "3Sum Closest") ∧
          ofTitle "3Sum Closest" = ofTitle "¿3SUM\t— closest?" := by
  have has : HasWords "3Sum Closest" ["3Sum", "Closest"] := hasWords_iff.2 (by decide)
  have hasToo : HasWords "¿3SUM\t— closest?" ["3SUM", "closest"] := hasWords_iff.2 (by decide)
  have alike : AgreeUpToCase ["3Sum", "Closest"] ["3SUM", "closest"] :=
    .cons (by decide) (.cons (by decide) .nil)
  refine ⟨has, hasToo, names_follow_the_words.1 _, ?_⟩
  exact names_follow_the_words.2 has hasToo alike

end Kata.Name
