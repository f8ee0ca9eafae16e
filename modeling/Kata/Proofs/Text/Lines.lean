import Kata.Text.Blank
import Kata.Text.Lines

/-!
# Lines and their ends

Joining parts with a character that none of them contains, and splitting there again, gives the
parts back. A text whose first and last characters are not blank is not changed by trimming, and
it has no carriage return to lose.
-/

namespace Kata.Text

/-! ## Joining -/

/-- What stands in a joined text comes from a part or from the separator. -/
theorem mem_joinWith
    {separator : Text} {c : Char} :
    ∀ {parts : List Text},
      c ∈ joinWith separator parts → c ∈ separator ∨ ∃ part ∈ parts, c ∈ part
  | [], member => absurd member List.not_mem_nil
  | [part], member => Or.inr ⟨part, List.mem_cons_self, member⟩
  | part :: next :: rest, member => by
      rw [joinWith, List.mem_append, List.mem_append] at member
      rcases member with (inPart | inSeparator) | inRest
      · exact Or.inr ⟨part, List.mem_cons_self, inPart⟩
      · exact Or.inl inSeparator
      · rcases mem_joinWith inRest with inSeparator | ⟨found, foundMember, inFound⟩
        · exact Or.inl inSeparator
        · exact Or.inr ⟨found, List.mem_cons_of_mem part foundMember, inFound⟩

theorem mem_joinWith_of_mem
    {separator part : Text} {c : Char} (inside : c ∈ part) :
    ∀ {parts : List Text}, part ∈ parts → c ∈ joinWith separator parts
  | [], member => absurd member List.not_mem_nil
  | [only], member => by
      rw [List.mem_singleton] at member
      rw [joinWith, ← member]
      exact inside
  | first :: next :: rest, member => by
      rw [joinWith, List.mem_append, List.mem_append]
      rcases List.mem_cons.1 member with isFirst | isLater
      · exact Or.inl (Or.inl (isFirst ▸ inside))
      · exact Or.inr (mem_joinWith_of_mem inside isLater)

theorem all_joinWith
    {accepts : Char → Bool} {separator : Text} {parts : List Text}
    (separatorAll : separator.all accepts = true)
    (partsAll : ∀ part ∈ parts, part.all accepts = true) :
    (joinWith separator parts).all accepts = true := by
  refine List.all_eq_true.2 fun c member => ?_
  rcases mem_joinWith member with inSeparator | ⟨part, partMember, inPart⟩
  · exact List.all_eq_true.1 separatorAll c inSeparator
  · exact List.all_eq_true.1 (partsAll part partMember) c inPart

/-! ## Leading and closing parts -/

theorem after?_append
    (front rest : Text) :
    after? front (front ++ rest) = some rest := by
  induction front with
  | nil => cases rest <;> rfl
  | cons c front inductionHypothesis =>
      rw [List.cons_append, after?, if_pos rfl, inductionHypothesis]

theorem eq_append_of_after?
    {front rest : Text} :
    ∀ {text : Text}, after? front text = some rest → text = front ++ rest := by
  induction front with
  | nil =>
      intro text found
      rw [after?] at found
      exact Option.some.inj found
  | cons h front inductionHypothesis =>
      intro text found
      cases text with
      | nil => exact absurd found (by simp [after?])
      | cons c text =>
          rw [after?] at found
          split at found
          · next same => rw [inductionHypothesis found, same, List.cons_append]
          · exact absurd found (by simp)

theorem before?_append
    (rest tail : Text) :
    before? tail (rest ++ tail) = some rest := by
  rw [before?, List.reverse_append, after?_append, Option.map_some, List.reverse_reverse]

/-! ## Marks -/

/-- A character of a class is none of the marks that are outside of it. -/
theorem contains_of_outside
    {marks : Text} {accepts : Char → Bool} (outside : marks.all (fun mark => !accepts mark) = true)
    {c : Char} (accepted : accepts c = true) :
    marks.contains c = false := by
  rw [← Bool.not_eq_true, List.contains_iff_mem]
  intro member
  have here := List.all_eq_true.1 outside c member
  rw [accepted] at here
  exact Bool.false_ne_true here

/-! ## Splitting -/

/-- What stands ahead of the first separator joins the first part. -/
theorem splitWhere_append
    {isSeparator : Char → Bool} {front rest part : Text} {parts : List Text}
    (solid : ∀ c ∈ front, isSeparator c = false)
    (split : splitWhere isSeparator rest = part :: parts) :
    splitWhere isSeparator (front ++ rest) = (front ++ part) :: parts := by
  induction front with
  | nil => exact split
  | cons c front inductionHypothesis =>
      rw [List.forall_mem_cons] at solid
      rw [List.cons_append, splitWhere, inductionHypothesis solid.2, solid.1]
      rfl

theorem solid_of_not_mem
    {separator : Char} {text : Text} (absent : separator ∉ text) :
    ∀ c ∈ text, (c == separator) = false := by
  intro c member
  rw [beq_eq_false_iff_ne]
  intro same
  exact absent (same ▸ member)

theorem splitOn_cons_of_ne
    {separator c : Char} (different : c ≠ separator) {text part : Text} {parts : List Text}
    (split : splitOn separator text = part :: parts) :
    splitOn separator (c :: text) = (c :: part) :: parts := by
  have solid : ∀ d ∈ [c], (d == separator) = false :=
    List.forall_mem_singleton.2 (beq_eq_false_iff_ne.2 different)
  exact splitWhere_append solid split

theorem splitOn_of_not_mem
    {separator : Char} {text : Text} (absent : separator ∉ text) :
    splitOn separator text = [text] := by
  have split : splitOn separator (text ++ []) = [text ++ []] :=
    splitWhere_append (solid_of_not_mem absent) rfl
  rwa [List.append_nil] at split

theorem splitOn_append_cons
    {separator : Char} {part : Text} (absent : separator ∉ part) (text : Text) :
    splitOn separator (part ++ separator :: text) = part :: splitOn separator text := by
  have here : splitOn separator (separator :: text) = [] :: splitOn separator text := by
    rw [splitOn, splitWhere, beq_self_eq_true]
    rfl
  have split : splitOn separator (part ++ separator :: text) =
      (part ++ []) :: splitOn separator text :=
    splitWhere_append (solid_of_not_mem absent) here
  rwa [List.append_nil] at split

/-- Splitting undoes joining, if there is a part and no part contains the separator. -/
theorem splitOn_joinWith
    {separator : Char} :
    ∀ {parts : List Text},
      parts ≠ [] →
        (∀ part ∈ parts, separator ∉ part) →
          splitOn separator (joinWith [separator] parts) = parts
  | [], nonempty, _ => absurd rfl nonempty
  | [part], _, absent => splitOn_of_not_mem (absent part List.mem_cons_self)
  | part :: next :: rest, _, absent => by
      rw [List.forall_mem_cons] at absent
      rw [joinWith, List.append_assoc, List.singleton_append, splitOn_append_cons absent.1,
        splitOn_joinWith (List.cons_ne_nil _ _) absent.2]

/-- Joining undoes splitting. -/
theorem joinWith_splitOn
    (separator : Char) (text : Text) :
    splitOn separator text ≠ [] ∧
      joinWith [separator] (splitOn separator text) = text := by
  induction text with
  | nil => exact ⟨List.cons_ne_nil _ _, rfl⟩
  | cons c text inductionHypothesis =>
      obtain ⟨nonempty, joined⟩ := inductionHypothesis
      obtain ⟨part, parts, split⟩ := List.exists_cons_of_ne_nil nonempty
      rw [split] at joined
      by_cases isSeparator : c = separator
      · have here : splitOn separator (c :: text) = [] :: part :: parts := by
          rw [splitOn] at split
          rw [splitOn, splitWhere, split, isSeparator, beq_self_eq_true]
        rw [here]
        refine ⟨List.cons_ne_nil _ _, ?_⟩
        rw [joinWith, joined, isSeparator]
        rfl
      · rw [splitOn_cons_of_ne isSeparator split]
        refine ⟨List.cons_ne_nil _ _, ?_⟩
        cases parts with
        | nil => exact congrArg (c :: ·) joined
        | cons next parts => exact congrArg (c :: ·) joined

/-- The parts of a text hold no characters of their own. -/
theorem mem_of_mem_splitOn
    {separator : Char} {text part : Text} (member : part ∈ splitOn separator text) {c : Char}
    (inside : c ∈ part) :
    c ∈ text := by
  rw [← (joinWith_splitOn separator text).2]
  exact mem_joinWith_of_mem inside member

/-- No part of a text holds a separator. -/
theorem isSeparator_of_mem_splitWhere
    {isSeparator : Char → Bool} {text : Text} :
    ∀ part ∈ splitWhere isSeparator text, ∀ c ∈ part, isSeparator c = false := by
  induction text with
  | nil => exact List.forall_mem_singleton.2 (List.forall_mem_nil _)
  | cons c text inductionHypothesis =>
      rw [splitWhere]
      split
      · exact List.forall_mem_cons.2
          ⟨List.forall_mem_nil _, inductionHypothesis⟩
      · next solid _ => exact List.forall_mem_singleton.2 (List.forall_mem_singleton.2 solid)
      · next part parts solid split =>
        rw [split, List.forall_mem_cons] at inductionHypothesis
        exact List.forall_mem_cons.2
          ⟨List.forall_mem_cons.2 ⟨solid, inductionHypothesis.1⟩, inductionHypothesis.2⟩

/-! ## Lines -/

theorem dropReturn_cases
    (line : Text) :
    dropReturn line = line ∨ line = dropReturn line ++ ['\r'] := by
  rw [dropReturn, before?, List.reverse_singleton]
  cases found : after? ['\r'] line.reverse with
  | none => exact Or.inl rfl
  | some rest =>
      refine Or.inr ?_
      have reversed := congrArg List.reverse (eq_append_of_after? found)
      rw [List.reverse_reverse, List.reverse_append, List.reverse_singleton] at reversed
      exact reversed

theorem mem_of_mem_dropReturn
    {line : Text} {c : Char} (inside : c ∈ dropReturn line) :
    c ∈ line := by
  rcases dropReturn_cases line with same | same
  · rw [same] at inside
    exact inside
  · rw [same]
    exact List.mem_append_left _ inside

theorem mem_of_mem_go
    {parts : List Text} {line : Text} (member : line ∈ lines.go parts) :
    ∃ part ∈ parts, ∀ c ∈ line, c ∈ part := by
  induction parts with
  | nil => exact absurd member List.not_mem_nil
  | cons part parts inductionHypothesis =>
      cases parts with
      | nil =>
          rw [lines.go] at member
          split at member
          · exact absurd member List.not_mem_nil
          · exact ⟨line, member, fun _ inside => inside⟩
      | cons next rest =>
          rw [lines.go] at member
          rcases List.mem_cons.1 member with isFirst | isLater
          · refine ⟨part, List.mem_cons_self, fun c inside => mem_of_mem_dropReturn ?_⟩
            rw [← isFirst]
            exact inside
          · obtain ⟨found, foundMember, covers⟩ := inductionHypothesis isLater
            exact ⟨found, List.mem_cons_of_mem part foundMember, covers⟩

/-- The lines of a text hold no characters of their own, and no line feeds. -/
theorem mem_of_mem_lines
    {text line : Text} (member : line ∈ lines text) {c : Char} (inside : c ∈ line) :
    c ∈ text ∧ c ≠ '\n' := by
  obtain ⟨part, partMember, covers⟩ := mem_of_mem_go member
  refine ⟨mem_of_mem_splitOn partMember (covers c inside), ?_⟩
  exact beq_eq_false_iff_ne.1
    (isSeparator_of_mem_splitWhere part partMember c (covers c inside))

theorem dropReturn_of_not_mem
    {line : Text} (absent : '\r' ∉ line) :
    dropReturn line = line := by
  have missing : before? ['\r'] line = none := by
    rw [before?, List.reverse_singleton, Option.map_eq_none_iff]
    cases written : line.reverse with
    | nil => rfl
    | cons c rest =>
        have different : '\r' ≠ c := by
          rintro rfl
          apply absent
          rw [← List.mem_reverse, written]
          exact List.mem_cons_self
        rw [after?, if_neg different]
  rw [dropReturn, missing]
  rfl

theorem exists_joinWith_go
    (parts : List Text) (absent : ∀ part ∈ parts, '\r' ∉ part) :
    ∃ gap, (∀ c ∈ gap, c = '\n') ∧
      joinWith ['\n'] parts = joinWith ['\n'] (lines.go parts) ++ gap := by
  induction parts with
  | nil => exact ⟨[], List.forall_mem_nil _, rfl⟩
  | cons line parts inductionHypothesis =>
      rw [List.forall_mem_cons] at absent
      cases parts with
      | nil =>
          refine ⟨[], List.forall_mem_nil _, ?_⟩
          rw [lines.go, List.append_nil]
          split
          · next empty => rw [empty]; rfl
          · rfl
      | cons next rest =>
          obtain ⟨gap, lineFeeds, joined⟩ := inductionHypothesis absent.2
          rw [lines.go, dropReturn_of_not_mem absent.1, joinWith, joined]
          cases others : lines.go (next :: rest) with
          | nil =>
              refine ⟨'\n' :: gap, List.forall_mem_cons.2 ⟨rfl, lineFeeds⟩, ?_⟩
              simp [joinWith]
          | cons second later =>
              refine ⟨gap, lineFeeds, ?_⟩
              simp only [joinWith, List.append_assoc]

/-- A text without carriage returns is made up of its lines, up to line feeds at its end. -/
theorem exists_joinWith_lines
    {text : Text} (absent : '\r' ∉ text) :
    ∃ gap, (∀ c ∈ gap, c = '\n') ∧ text = joinWith ['\n'] (lines text) ++ gap := by
  have noReturn : ∀ part ∈ splitOn '\n' text, '\r' ∉ part :=
    fun part member inside => absent (mem_of_mem_splitOn member inside)
  obtain ⟨gap, lineFeeds, joined⟩ := exists_joinWith_go (splitOn '\n' text) noReturn
  refine ⟨gap, lineFeeds, ?_⟩
  rw [lines, ← joined]
  exact (joinWith_splitOn '\n' text).2.symm

/-- The lines of a text without carriage returns make up the text, up to blanks at its end. -/
theorem exists_blank_behind_lines
    {text : Text} (absent : '\r' ∉ text) :
    ∃ gap, (∀ c ∈ gap, isBlank c = true) ∧ text = joinWith ['\n'] (lines text) ++ gap := by
  obtain ⟨gap, lineFeeds, whole⟩ := exists_joinWith_lines absent
  refine ⟨gap, fun c member => ?_, whole⟩
  rw [lineFeeds c member]
  decide

/-! ## Ends of lines -/

/-- Whether a text has a first and a last character, and neither is blank. -/
def hasSolidEnds (text : Text) : Bool :=
  text.head?.any (fun c => !isBlank c) && text.getLast?.any fun c => !isBlank c

theorem hasSolidEnds_iff
    {text : Text} :
    hasSolidEnds text = true ↔
      (∃ c rest, text = c :: rest ∧ isBlank c = false) ∧
        ∃ ahead c, text = ahead ++ [c] ∧ isBlank c = false := by
  rw [hasSolidEnds, Bool.and_eq_true, Option.any_eq_true, Option.any_eq_true]
  simp only [Bool.not_eq_true', List.head?_eq_some_iff, List.getLast?_eq_some_iff]
  constructor
  · rintro ⟨⟨c, ⟨rest, front⟩, solid⟩, ⟨d, ⟨ahead, back⟩, solidEnd⟩⟩
    exact ⟨⟨c, rest, front, solid⟩, ⟨ahead, d, back, solidEnd⟩⟩
  · rintro ⟨⟨c, rest, front, solid⟩, ⟨ahead, d, back, solidEnd⟩⟩
    exact ⟨⟨c, ⟨rest, front⟩, solid⟩, ⟨d, ⟨ahead, back⟩, solidEnd⟩⟩

theorem hasSolidEnds_of_forall
    {text : Text} (nonempty : text ≠ []) (solid : ∀ c ∈ text, isBlank c = false) :
    hasSolidEnds text = true := by
  rw [hasSolidEnds_iff]
  refine ⟨?_, ?_⟩
  · obtain ⟨c, rest, written⟩ := List.exists_cons_of_ne_nil nonempty
    refine ⟨c, rest, written, solid c ?_⟩
    rw [written]
    exact List.mem_cons_self
  · refine ⟨text.dropLast, text.getLast nonempty, ?_, solid _ (List.getLast_mem nonempty)⟩
    exact (List.dropLast_concat_getLast nonempty).symm

/-- A text between two characters that are not blank. -/
theorem hasSolidEnds_enclosed
    {opening closing : Char} (content : Text) (solid : isBlank opening = false)
    (solidEnd : isBlank closing = false) :
    hasSolidEnds (opening :: content ++ [closing]) = true :=
  hasSolidEnds_iff.2
    ⟨⟨opening, content ++ [closing], rfl, solid⟩, ⟨opening :: content, closing, rfl, solidEnd⟩⟩

theorem trim_of_solid
    {text : Text} (solid : hasSolidEnds text = true) :
    trim text = text := by
  obtain ⟨⟨c, rest, front, solidFront⟩, ⟨ahead, d, back, solidBack⟩⟩ := hasSolidEnds_iff.1 solid
  have start : trimStart text = text := by
    rw [trimStart, front, List.dropWhile_cons_of_neg]
    rw [solidFront]
    exact Bool.false_ne_true
  have finish : text.reverse.dropWhile isBlank = text.reverse := by
    rw [back, List.reverse_append, List.reverse_singleton, List.singleton_append,
      List.dropWhile_cons_of_neg]
    rw [solidBack]
    exact Bool.false_ne_true
  rw [trim, start, trimEnd, dropEndWhile, finish, List.reverse_reverse]

theorem before?_return_of_solid
    {text : Text} (solid : hasSolidEnds text = true) :
    before? ['\r'] text = none := by
  obtain ⟨_, ⟨ahead, c, back, solidBack⟩⟩ := hasSolidEnds_iff.1 solid
  have different : '\r' ≠ c := by
    rintro rfl
    exact absurd solidBack (by decide)
  have missing : after? ['\r'] (c :: ahead.reverse) = none := by
    rw [after?, if_neg different]
  rw [before?, List.reverse_singleton, back, List.reverse_append, List.reverse_singleton,
    List.singleton_append, missing]
  rfl

theorem ne_nil_of_solid
    {text : Text} (solid : hasSolidEnds text = true) :
    text ≠ [] := by
  rintro rfl
  exact absurd solid (by decide)

end Kata.Text
