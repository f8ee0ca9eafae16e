import Kata.Proofs.Program.TypeHeads

/-!
# Lines without public types

Where the word `public` is taken away from the heads of types, a line is a line of the text as it
was that is not the head of a public type, or it is blank, or it begins with a word of a head.
-/

namespace Kata.Program

open Pattern

/-! ## Lines that begin with public types -/

/-- What stands behind a public type does not matter, unless it goes on with its last word. -/
theorem IsPublicType.append
    {line behind : Text} (isPublic : IsPublicType line)
    (border : behind.head?.any Text.isWord = false) :
    IsPublicType (line ++ behind) := by
  obtain ⟨gap, head, rest, rfl, isGap, isHead, restBorder⟩ := isPublic
  refine ⟨gap, head, rest ++ behind, by simp only [List.append_assoc], isGap, isHead, ?_⟩
  cases rest with
  | nil => exact border
  | cons c rest => exact restBorder

theorem IsPublicType.head?
    {line : Text} (isPublic : IsPublicType line) :
    line.head? = some 'p' := by
  obtain ⟨gap, head, rest, rfl, _⟩ := isPublic
  rfl

theorem IsPublicType.trimStart
    {line : Text} (isPublic : IsPublicType line) :
    Text.trimStart line = line := by
  obtain ⟨rest, rfl⟩ := List.head?_eq_some_iff.1 isPublic.head?
  exact List.dropWhile_cons_of_neg (by decide)

/-- Trimming a line that begins with a public type takes blanks from its end only. -/
theorem IsPublicType.trim
    {line : Text} (isPublic : IsPublicType line) :
    IsPublicType (Text.trim line) := by
  have start := isPublic.trimStart
  obtain ⟨trail, trailBlank, whole⟩ := Text.exists_trimEnd line
  obtain ⟨gap, head, rest, parts, isGap, isHead, border⟩ := isPublic
  obtain ⟨ahead, last, rfl, isWord⟩ := isHead.ends
  have same :
      Text.trimEnd line ++ trail =
        ("public".toList ++ gap) ++ (ahead ++ [last] ++ rest) := by
    rw [← whole, parts]
    simp only [List.append_assoc]
  obtain ⟨left, isRest, kept⟩ :=
    Text.exists_rest_of_solidEnd trailBlank (Text.isBlank_of_isWord isWord) same
  rw [List.append_assoc] at kept
  rw [Text.trim, start]
  refine ⟨gap, ahead ++ [last], left, kept, isGap, isHead, ?_⟩
  cases left with
  | nil => rfl
  | cons c left =>
      rw [isRest] at border
      exact border

/-- At the start of a line the pattern takes something just if a public type begins there. -/
theorem takesNothing_iff
    {previous : Option Char} (starts : previous.all (· == '\n') = true) {text : Text} :
    TakesNothing Java.publicType previous text ↔ ¬IsPublicType text := by
  constructor
  · rintro nothing ⟨gap, head, rest, whole, isGap, isHead, border⟩
    rw [← List.append_assoc gap, ← List.append_assoc] at whole
    exact nothing whole (takes_publicType.2 ⟨starts, gap, head, rfl, isGap, isHead, border, rfl⟩)
  · intro notPublic piece rest remembered whole takes
    obtain ⟨_, gap, head, rfl, isGap, isHead, border, _⟩ := takes_publicType.1 takes
    refine notPublic ⟨gap, head, rest, ?_, isGap, isHead, border⟩
    rw [whole, List.append_assoc, List.append_assoc]

/-- A line begins with a public type just if the pattern takes something at its start. -/
theorem isPublicType_iff
    {line : Text} :
    IsPublicType line ↔ (matchAt? Java.publicType (Place.start line)).isSome = true := by
  constructor
  · intro isPublic
    by_contra unmatched
    rw [Option.not_isSome_iff_eq_none] at unmatched
    exact (takesNothing_iff rfl).1 (takesNothing_of_matchAt? unmatched) isPublic
  · intro matched
    obtain ⟨found, matched⟩ := Option.isSome_iff_exists.1 matched
    obtain ⟨piece, next⟩ := exists_isNext_of_matchAt? [] matched
    by_contra notPublic
    have nothing : TakesNothing Java.publicType none line := (takesNothing_iff rfl).2 notPublic
    exact @nothing piece found.stop.rest found.stop.remembered next.whole next.takes

instance (line : Text) : Decidable (IsPublicType line) :=
  decidable_of_iff _ isPublicType_iff.symm

/-! ## Lines that begin with words of heads -/

/-- The first line of a text that begins with a word of a head is blank, or begins with it too. -/
theorem BeginsWithTypeWord.firstLine
    {line behind : Text} (begins : BeginsWithTypeWord (line ++ behind))
    (ends : behind.head?.all (· == '\n') = true) :
    (∀ c ∈ line, Text.isBlank c = true) ∨ BeginsWithTypeWord line := by
  obtain ⟨gap, word, rest, whole, blank, isTypeWord⟩ := begins
  rcases List.append_eq_append_iff.1 whole with ⟨more, rfl, _⟩ | ⟨more, rfl, onward⟩
  · exact Or.inl fun c inside => blank c (List.mem_append_left _ inside)
  · rcases List.append_eq_append_iff.1 onward with ⟨left, rfl, _⟩ | ⟨left, rfl, rfl⟩
    · exact Or.inr ⟨gap, word, left, rfl, blank, isTypeWord⟩
    · -- The word does not go on behind the line.
      cases left with
      | nil =>
          rw [List.append_nil] at isTypeWord
          exact Or.inr ⟨gap, more, [], by rw [List.append_nil], blank, isTypeWord⟩
      | cons c left =>
          obtain rfl : c = '\n' := eq_of_beq ends
          exact absurd (by simp) isTypeWord.lineFeed_not_mem

theorem BeginsWithTypeWord.append
    {text : Text} (begins : BeginsWithTypeWord text) (behind : Text) :
    BeginsWithTypeWord (text ++ behind) := by
  obtain ⟨gap, word, rest, rfl, blank, isTypeWord⟩ := begins
  exact ⟨gap, word, rest ++ behind, by simp only [List.append_assoc], blank, isTypeWord⟩

/-- A line that begins in the head of a type is blank, or begins with one of its words. -/
theorem TypeHead.firstLine
    {ahead further more line behind : Text} (isHead : TypeHead (ahead ++ further))
    (inside : further ≠ []) (begins : ahead.getLast?.all (· == '\n') = true)
    (whole : further ++ more = line ++ behind) (ends : behind.head?.all (· == '\n') = true) :
    (∀ c ∈ line, Text.isBlank c = true) ∨ BeginsWithTypeWord line := by
  have beginsWith := (isHead.beginsWithTypeWord rfl inside begins).append more
  rw [whole] at beginsWith
  exact beginsWith.firstLine ends

/-- Trimming a text that begins with a word of a head keeps the word. -/
theorem BeginsWithTypeWord.exists_trim
    {text : Text} (begins : BeginsWithTypeWord text) :
    ∃ word more, Text.trim text = word ++ more ∧ IsTypeWord word := by
  obtain ⟨gap, word, rest, rfl, blank, isTypeWord⟩ := begins
  have ending := List.dropLast_concat_getLast isTypeWord.nonempty
  have solid : ∀ c ∈ word, Text.isBlank c = false :=
    fun c inside => Text.isBlank_of_isWord (isTypeWord.isWord c inside)
  have start : Text.trimStart (gap ++ (word ++ rest)) = word ++ rest := by
    rw [Text.trimStart_append_of_blank blank]
    obtain ⟨c, others, rfl⟩ := List.exists_cons_of_ne_nil isTypeWord.nonempty
    exact List.dropWhile_cons_of_neg (Bool.eq_false_iff.1 (solid c List.mem_cons_self))
  obtain ⟨trail, trailBlank, whole⟩ := Text.exists_trimEnd (word ++ rest)
  have parts :
      Text.trimEnd (word ++ rest) ++ trail =
        [] ++ (word.dropLast ++ [word.getLast isTypeWord.nonempty] ++ rest) := by
    rw [ending, ← whole]
    rfl
  obtain ⟨left, _, kept⟩ :=
    Text.exists_rest_of_solidEnd trailBlank (solid _ (List.getLast_mem isTypeWord.nonempty)) parts
  rw [ending, List.nil_append] at kept
  refine ⟨word, left, ?_, isTypeWord⟩
  rw [Text.trim, start, kept]

/-- A public type does not begin with a word of a head. -/
theorem BeginsWithTypeWord.head?_trim
    {text : Text} (begins : BeginsWithTypeWord text) :
    (Text.trim text).head? ≠ some 'p' := by
  obtain ⟨word, more, trimmed, isTypeWord⟩ := begins.exists_trim
  obtain ⟨c, others, rfl⟩ := List.exists_cons_of_ne_nil isTypeWord.nonempty
  rw [trimmed]
  exact isTypeWord.notPublic

/-! ## Where lines come from -/

/-- That a line behind a text was there before the word `public` was taken away from the heads of
types behind a character: it is no public type, and only blanks ahead of it are sure to be there
still. -/
def WasLine (previous : Option Char) (text front line : Text) : Prop :=
  ∃ ahead behind,
    text = ahead ++ (line ++ behind) ∧ (lastOf previous ahead).all (· == '\n') = true ∧
      behind.head?.all (· == '\n') = true ∧ ¬IsPublicType line ∧
        ((∀ c ∈ front, Text.isBlank c = true) → ahead = front)

theorem lastOf_concat
    (previous : Option Char) (front : Text) (last : Char) :
    lastOf previous (front ++ [last]) = some last := by
  rw [lastOf, List.getLast?_concat]
  rfl

/-- A line feed ends a text that is not empty where a line begins behind it. -/
theorem lineFeed_mem_of_lastOf
    {previous : Option Char} {front piece : Text} (nonempty : piece ≠ [])
    (begins : (lastOf previous (front ++ piece)).all (· == '\n') = true) :
    '\n' ∈ piece := by
  rw [← List.dropLast_concat_getLast nonempty, ← List.append_assoc, lastOf_concat] at begins
  have inside := List.getLast_mem nonempty
  rw [eq_of_beq begins] at inside
  exact inside

theorem getLast?_of_lastOf
    {previous : Option Char} {front piece : Text}
    (begins : (lastOf previous (front ++ piece)).all (· == '\n') = true) :
    piece.getLast?.all (· == '\n') = true := by
  rcases List.eq_nil_or_concat piece with rfl | ⟨before, last, rfl⟩
  · rfl
  · rw [List.concat_eq_append, ← List.append_assoc, lastOf_concat] at begins
    rw [List.concat_eq_append, List.getLast?_concat]
    exact begins

theorem notPublic_of_takesNothing
    {previous : Option Char} (starts : previous.all (· == '\n') = true) {line behind : Text}
    (ends : behind.head?.all (· == '\n') = true)
    (nothing : TakesNothing Java.publicType previous (line ++ behind)) :
    ¬IsPublicType line := by
  intro isPublic
  exact (takesNothing_iff starts).1 nothing (isPublic.append (Text.isWord_head?_of_ends ends))

/-- A line of a text in three parts, of which the second stands at the start of a line, begins
behind the second part or in it, or ends ahead of it. -/
theorem line_cases
    {previous : Option Char} {skipped head rest front line behind : Text}
    (starts : (lastOf previous skipped).all (· == '\n') = true)
    (written : skipped ++ (head ++ rest) = front ++ (line ++ behind)) (whole : '\n' ∉ line)
    (ends : behind.head?.all (· == '\n') = true) :
    (∃ further, front = skipped ++ (head ++ further) ∧ rest = further ++ (line ++ behind)) ∨
      (∃ ahead further,
        front = skipped ++ ahead ∧ head = ahead ++ further ∧ further ++ rest = line ++ behind) ∨
        ∃ more,
          skipped = front ++ (line ++ more) ∧ line ++ more ≠ [] ∧
            more.head?.all (· == '\n') = true := by
  rcases List.append_eq_append_iff.1 written with ⟨between, rfl, later⟩ | ⟨between, rfl, same⟩
  · rcases List.append_eq_append_iff.1 later with ⟨further, rfl, same⟩ | ⟨further, rfl, same⟩
    · exact Or.inl ⟨further, rfl, same⟩
    · exact Or.inr (Or.inl ⟨between, further, rfl, rfl, same.symm⟩)
  · cases between with
    | nil => exact Or.inr (Or.inl ⟨[], head, by simp, rfl, same.symm⟩)
    | cons c between =>
        rcases List.append_eq_append_iff.1 same with ⟨more, ahead, rfl⟩ | ⟨more, rfl, _⟩
        · refine Or.inr (Or.inr ⟨more, by rw [ahead], ahead ▸ List.cons_ne_nil c between, ?_⟩)
          cases more with
          | nil => rfl
          | cons d more => exact ends
        · -- The second part would stand in the middle of the line.
          have inside := lineFeed_mem_of_lastOf (List.cons_ne_nil c between) starts
          exact absurd (List.mem_append_left _ inside) whole

section Finds

variable {place : Place}

/-- A line in a part of a text where no public type begins stays as it is. -/
theorem wasLine_of_skipped
    {piece front line more : Text} {found : Match}
    (next : IsNext Java.publicType place (front ++ (line ++ more)) piece found)
    (begins : (lastOf place.previous front).all (· == '\n') = true) (whole : '\n' ∉ line)
    (nonempty : line ++ more ≠ []) (ends : more.head?.all (· == '\n') = true) :
    WasLine place.previous place.rest front line := by
  obtain ⟨starts, _⟩ := takes_publicType.1 next.takes
  cases more with
  | nil =>
      -- The next public type would have to begin behind the line, and not on a line of its own.
      rw [List.append_nil] at nonempty starts
      exact absurd (lineFeed_mem_of_lastOf nonempty starts) whole
  | cons c more =>
      have nothing :
          TakesNothing Java.publicType (lastOf place.previous front)
            ((line ++ c :: more) ++ (piece ++ found.stop.rest)) :=
        next.first rfl nonempty
      have endsBehind : (c :: more ++ (piece ++ found.stop.rest)).head?.all (· == '\n') = true :=
        ends
      rw [List.append_assoc] at nothing
      refine ⟨front, c :: more ++ (piece ++ found.stop.rest), ?_, begins, endsBehind,
        notPublic_of_takesNothing begins endsBehind nothing, fun _ => rfl⟩
      rw [next.whole]
      simp only [List.append_assoc]

/-- A line behind a public type was behind it before. -/
theorem WasLine.behind
    {skipped piece further line ahead head : Text} {last : Char} {found : Match}
    (next : IsNext Java.publicType place skipped piece found) (isHead : head = ahead ++ [last])
    (isWord : Text.isWord last = true)
    (was : WasLine found.stop.previous found.stop.rest further line) :
    WasLine place.previous place.rest (skipped ++ (head ++ further)) line := by
  obtain ⟨source, rest, whole, begins, ends, notPublic, _⟩ := was
  refine ⟨skipped ++ (piece ++ source), rest, ?_, ?_, ends, notPublic, fun blank => ?_⟩
  · rw [next.whole, whole]
    simp only [List.append_assoc]
  · rw [← List.append_assoc, lastOf_append, ← next.previous]
    exact begins
  · have lastBlank := blank last (by simp [isHead])
    rw [Text.isBlank_of_isWord isWord] at lastBlank
    exact absurd lastBlank Bool.false_ne_true

/-- A line of a text without public types was a line of the text, or is blank, or begins with a word
of a head. -/
theorem wasLine_of_finds
    {all : List Match} (finds : Finds Java.publicType place all) :
    ∀ {front line behind : Text},
      replaceAll.go (fun found => found.textOf 1) place.offset place.rest all =
          front ++ (line ++ behind) →
        (lastOf place.previous front).all (· == '\n') = true → '\n' ∉ line →
          behind.head?.all (· == '\n') = true →
            WasLine place.previous place.rest front line ∨
              (∀ c ∈ line, Text.isBlank c = true) ∨ BeginsWithTypeWord line := by
  induction finds with
  | @done place nothing =>
      intro front line behind written begins whole ends
      have same : place.rest = front ++ (line ++ behind) := written
      exact Or.inl ⟨front, behind, same, begins, ends,
        notPublic_of_takesNothing begins ends (nothing same), fun _ => rfl⟩
  | @more place skipped piece found others next onward inductionHypothesis =>
      intro front line behind written begins whole ends
      obtain ⟨starts, gap, head, isPiece, isGap, isHead, border, remembers⟩ :=
        takes_publicType.1 next.takes
      have named : found.textOf 1 = head := by
        rw [Match.textOf, text?_eq_lookup, remembers]
        rfl
      obtain ⟨early, last, ending, isWord⟩ := isHead.ends
      have stops : found.stop.previous = some last := by
        rw [next.previous, isPiece, ending]
        simp only [← List.append_assoc]
        exact lastOf_concat _ _ last
      rw [next.replaceAll_go, named] at written
      rcases line_cases starts written whole ends with
        ⟨further, rfl, rest⟩ | ⟨ahead, further, rfl, rfl, same⟩ | ⟨more, rfl, nonempty, moreEnds⟩
      · -- The line stands behind the head.
        have beginsBehind : (lastOf found.stop.previous further).all (· == '\n') = true := by
          rw [← List.append_assoc, lastOf_append, ending, ← List.append_assoc, lastOf_concat]
            at begins
          rw [stops]
          exact begins
        exact (inductionHypothesis rest beginsBehind whole ends).imp_left
          fun was => was.behind next ending isWord
      · -- It begins in the head, which does not end with a line feed.
        have inside : further ≠ [] := by
          rintro rfl
          rw [List.append_nil] at ending
          rw [ending, ← List.append_assoc, lastOf_concat] at begins
          rw [eq_of_beq begins] at isWord
          exact absurd isWord (by decide)
        exact Or.inr (isHead.firstLine inside (getLast?_of_lastOf begins) same ends)
      · -- It ends ahead of the head.
        exact Or.inl (wasLine_of_skipped next begins whole nonempty moreEnds)

end Finds

/-- A line of a solution without public types was a line of it that is no public type, or is blank,
or begins with a word of the head of a type. -/
theorem wasLine_of_withoutPublicTypes
    {source front line behind : Text}
    (written : Java.withoutPublicTypes source = front ++ (line ++ behind))
    (between : Text.IsLineBetween front line behind) :
    WasLine none source front line ∨
      (∀ c ∈ line, Text.isBlank c = true) ∨ BeginsWithTypeWord line := by
  have begins : (lastOf none front).all (· == '\n') = true := by
    rw [lastOf, Option.or_none]
    exact between.begins
  exact wasLine_of_finds (finds_matchesIn (by decide) source) written begins between.whole
    between.ends

end Kata.Program
