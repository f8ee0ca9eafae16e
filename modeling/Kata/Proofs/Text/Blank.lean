import Mathlib.Data.List.TakeWhile
import Kata.Text.Word
import Kata.Proofs.Text.Lines

/-!
# Blanks at the ends

Trimming takes away blanks and nothing else, and no blank character is part of a word. A piece
of a text that begins or ends with a character that is not blank lies clear of the blanks at
that end.
-/

namespace Kata.Text

/-! ## Blanks and words -/

/-- The code points of the blank characters. -/
def blankCodes : List Nat :=
  blankRanges.flatMap fun (low, high) => List.range' low (high + 1 - low)

theorem toNat_mem_blankCodes
    {c : Char} (blank : isBlank c = true) :
    c.toNat ∈ blankCodes := by
  rw [isBlank, inRanges, List.any_eq_true] at blank
  obtain ⟨⟨low, high⟩, member, inside⟩ := blank
  rw [Bool.and_eq_true, decide_eq_true_eq, decide_eq_true_eq] at inside
  refine List.mem_flatMap.2 ⟨(low, high), member, List.mem_range'_1.2 ?_⟩
  omega

/-- No blank character is part of a word. -/
theorem isWord_of_isBlank
    {c : Char} (blank : isBlank c = true) :
    isWord c = false := by
  have none : ∀ code ∈ blankCodes, isWord (Char.ofNat code) = false := by
    decide +kernel
  have here := none c.toNat (toNat_mem_blankCodes blank)
  rw [Char.ofNat_toNat] at here
  exact here

theorem isBlank_of_isWord
    {c : Char} (inWord : isWord c = true) :
    isBlank c = false := by
  by_contra blank
  rw [isWord_of_isBlank (Bool.not_eq_false _ ▸ blank)] at inWord
  exact Bool.false_ne_true inWord

/-- No word goes on with blanks. -/
theorem isWord_head?_of_blank
    {text : Text} (blank : ∀ c ∈ text, isBlank c = true) :
    text.head?.any isWord = false := by
  cases text with
  | nil => rfl
  | cons c text => exact isWord_of_isBlank (blank c List.mem_cons_self)

/-- No word goes on behind the end of a line. -/
theorem isWord_head?_of_ends
    {behind : Text} (ends : behind.head?.all (· == '\n') = true) :
    behind.head?.any isWord = false := by
  cases behind with
  | nil => rfl
  | cons c behind =>
      obtain rfl : c = '\n' := eq_of_beq ends
      rfl

/-! ## Trimming -/

theorem exists_trimStart
    (text : Text) :
    ∃ gap, (∀ c ∈ gap, isBlank c = true) ∧ text = gap ++ trimStart text := by
  refine ⟨text.takeWhile isBlank, fun c member => List.mem_takeWhile_imp member, ?_⟩
  rw [trimStart, List.takeWhile_append_dropWhile]

theorem exists_trimEnd
    (text : Text) :
    ∃ gap, (∀ c ∈ gap, isBlank c = true) ∧ text = trimEnd text ++ gap := by
  refine ⟨(text.reverse.takeWhile isBlank).reverse, ?_, ?_⟩
  · intro c member
    exact List.mem_takeWhile_imp (List.mem_reverse.1 member)
  · rw [trimEnd, dropEndWhile, ← List.reverse_append, List.takeWhile_append_dropWhile,
      List.reverse_reverse]

theorem exists_trim
    (text : Text) :
    ∃ lead trail,
      (∀ c ∈ lead, isBlank c = true) ∧ (∀ c ∈ trail, isBlank c = true) ∧
        text = lead ++ (trim text ++ trail) := by
  obtain ⟨lead, leadBlank, whole⟩ := exists_trimStart text
  obtain ⟨trail, trailBlank, started⟩ := exists_trimEnd (trimStart text)
  refine ⟨lead, trail, leadBlank, trailBlank, ?_⟩
  rw [trim, ← started]
  exact whole

/-- What is left of a text without the blanks at its ends has none at its ends. -/
theorem hasSolidEnds_trim
    {text : Text} (nonempty : trim text ≠ []) :
    hasSolidEnds (trim text) = true := by
  obtain ⟨gap, _, started⟩ := exists_trimEnd (trimStart text)
  obtain ⟨c, rest, whole⟩ := List.exists_cons_of_ne_nil nonempty
  have first : isBlank c = false := by
    have head : (text.dropWhile isBlank).head? = some c := by
      rw [← trimStart, started, ← trim, whole, List.cons_append, List.head?_cons]
    have solid := List.head?_dropWhile_not isBlank text
    rwa [head] at solid
  obtain ⟨d, isLast⟩ : ∃ d, (trim text).getLast? = some d :=
    ⟨_, List.getLast?_eq_some_getLast nonempty⟩
  have last : isBlank d = false := by
    have solid := List.head?_dropWhile_not isBlank (trimStart text).reverse
    have reversed := isLast
    rw [trim, trimEnd, dropEndWhile, List.getLast?_reverse] at reversed
    rwa [reversed] at solid
  rw [hasSolidEnds, isLast, whole]
  simp [first, last]

section Blanks

variable {gap : Text} (blank : ∀ c ∈ gap, isBlank c = true)
include blank

theorem trimStart_append_of_blank
    (text : Text) :
    trimStart (gap ++ text) = trimStart text :=
  List.dropWhile_append_of_pos blank

theorem trimEnd_append_of_blank
    (text : Text) :
    trimEnd (text ++ gap) = trimEnd text := by
  rw [trimEnd, dropEndWhile, List.reverse_append, List.dropWhile_append_of_pos, trimEnd,
    dropEndWhile]
  exact fun c member => blank c (List.mem_reverse.1 member)

theorem trim_of_blank :
    trim gap = [] := by
  have nothing := trimStart_append_of_blank blank []
  rw [List.append_nil] at nothing
  rw [trim, nothing]
  rfl

theorem trim_append_of_blank
    (text : Text) :
    trim (text ++ gap) = trim text := by
  rw [trim, trim, trimStart, List.dropWhile_append, trimStart]
  split
  · next empty =>
    rw [List.isEmpty_iff.1 empty]
    exact trim_of_blank blank
  · exact trimEnd_append_of_blank blank _

end Blanks

/-! ## Pieces clear of the ends -/

section Clear

variable {front piece rest text gap : Text} (blank : ∀ c ∈ gap, isBlank c = true)
include blank

/-- A piece that ends with a character that is not blank lies ahead of the blanks behind a text. -/
theorem exists_rest_of_solidEnd
    {c : Char} (solid : isBlank c = false)
    (whole : text ++ gap = front ++ (piece ++ [c] ++ rest)) :
    ∃ left, rest = left ++ gap ∧ text = front ++ (piece ++ [c] ++ left) := by
  have regrouped : text ++ gap = (front ++ (piece ++ [c])) ++ rest := by
    rw [whole, List.append_assoc front]
  rcases List.append_eq_append_iff.1 regrouped with
    ⟨left, frontEqual, gapEqual⟩ | ⟨left, textEqual, restEqual⟩
  · -- The piece would reach into the blanks, where its last character cannot stand.
    cases left with
    | nil =>
        refine ⟨[], ?_, ?_⟩
        · rw [gapEqual, List.nil_append, List.nil_append]
        · rw [List.append_nil, frontEqual, List.append_nil]
    | cons d left =>
        have last : some c = (d :: left).getLast? := by
          have ends := congrArg List.getLast? frontEqual
          rw [← List.append_assoc, List.getLast?_concat, List.getLast?_append,
            Option.or_of_isSome (by simp)] at ends
          exact ends
        have member : c ∈ gap := by
          rw [gapEqual]
          exact List.mem_append_left _ (List.mem_of_getLast? last.symm)
        rw [blank c member] at solid
        exact absurd solid (by simp)
  · refine ⟨left, restEqual, ?_⟩
    rw [textEqual, List.append_assoc]

/-- A piece that begins with a character that is not blank lies behind the blanks ahead of a
text. -/
theorem exists_front_of_solidStart
    {c : Char} (solid : isBlank c = false)
    (whole : gap ++ text = front ++ (c :: piece ++ rest)) :
    ∃ left, front = gap ++ left ∧ text = left ++ (c :: piece ++ rest) := by
  rcases List.append_eq_append_iff.1 whole with
    ⟨left, frontEqual, textEqual⟩ | ⟨left, gapEqual, pieceEqual⟩
  · exact ⟨left, frontEqual, textEqual⟩
  · cases left with
    | nil =>
        refine ⟨[], ?_, ?_⟩
        · rw [gapEqual, List.append_nil, List.append_nil]
        · rw [pieceEqual, List.nil_append, List.nil_append]
    | cons d left =>
        have same : c = d := by
          rw [List.cons_append, List.cons_append] at pieceEqual
          exact (List.cons.inj pieceEqual).1
        have member : c ∈ gap := by
          rw [gapEqual, same]
          exact List.mem_append_right _ List.mem_cons_self
        rw [blank c member] at solid
        exact absurd solid (by simp)

end Clear

end Kata.Text
