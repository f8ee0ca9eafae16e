import Kata.Proofs.Text.Blank

/-!
# Where lines stand

The lines of a text stand between its line feeds. Trimming a text takes blanks from its first and
its last line and keeps the lines between them as they are.
-/

namespace Kata.Text

/-! ## Lines between texts -/

/-- That a line stands between two texts: it begins at the start or behind a line feed, and ends at
the end or ahead of one. -/
structure IsLineBetween (front line behind : Text) : Prop where
  begins : front.getLast?.all (· == '\n') = true
  whole : '\n' ∉ line
  ends : behind.head?.all (· == '\n') = true

theorem splitOn_append_separator
    (separator : Char) (left right : Text) :
    splitOn separator (left ++ separator :: right) =
      splitOn separator left ++ splitOn separator right := by
  induction left with
  | nil => exact splitOn_append_cons List.not_mem_nil right
  | cons c left inductionHypothesis =>
      obtain ⟨part, parts, split⟩ := List.exists_cons_of_ne_nil (joinWith_splitOn separator left).1
      by_cases same : c = separator
      · have here :
            ∀ text, splitOn separator (c :: text) = [] :: splitOn separator text := by
          intro text
          rw [same]
          exact splitOn_append_cons List.not_mem_nil text
        rw [List.cons_append, here, here, inductionHypothesis, List.cons_append]
      · rw [split, List.cons_append] at inductionHypothesis
        rw [List.cons_append, splitOn_cons_of_ne same inductionHypothesis,
          splitOn_cons_of_ne same split, List.cons_append]

theorem joinWith_append_cons
    (separator line : Text) (later : List Text) :
    ∀ ahead : List Text,
      joinWith separator (ahead ++ line :: later) =
        ahead.flatMap (· ++ separator) ++ (line ++ later.flatMap (separator ++ ·))
  | [] => by
      rw [List.nil_append, List.flatMap_nil, List.nil_append]
      induction later generalizing line with
      | nil => exact (List.append_nil line).symm
      | cons next later inductionHypothesis =>
          rw [joinWith, inductionHypothesis, List.flatMap_cons, List.append_assoc,
            List.append_assoc]
  | [first] => by
      have onward := joinWith_append_cons separator line later []
      rw [List.nil_append, List.flatMap_nil, List.nil_append] at onward
      rw [List.singleton_append, joinWith, onward, List.flatMap_singleton]
  | first :: next :: ahead => by
      have onward := joinWith_append_cons separator line later (next :: ahead)
      rw [List.cons_append, List.cons_append, joinWith, ← List.cons_append, onward,
        ← List.append_assoc]
      rfl

/-- A line of a text stands behind the lines ahead of it, and ahead of the others. -/
theorem isLineBetween_of_splitOn
    {text line : Text} {ahead later : List Text}
    (split : splitOn '\n' text = ahead ++ line :: later) :
    text = ahead.flatMap (· ++ ['\n']) ++ (line ++ later.flatMap (['\n'] ++ ·)) ∧
      IsLineBetween (ahead.flatMap (· ++ ['\n'])) line (later.flatMap (['\n'] ++ ·)) := by
  have member : line ∈ splitOn '\n' text := by
    rw [split]
    exact List.mem_append_right _ List.mem_cons_self
  have joined := (joinWith_splitOn '\n' text).2
  rw [split, joinWith_append_cons] at joined
  refine ⟨joined.symm, ?_, fun inside => ?_, ?_⟩
  · rcases List.eq_nil_or_concat ahead with rfl | ⟨before, last, rfl⟩
    · rfl
    · rw [List.concat_eq_append, List.flatMap_append, List.flatMap_singleton,
        ← List.append_assoc, List.getLast?_concat]
      rfl
  · exact absurd (isSeparator_of_mem_splitWhere line member '\n' inside) (by decide)
  · cases later with
    | nil => rfl
    | cons next later => rfl

/-- What stands between two texts as a line is one of the lines, behind those of the first text. -/
theorem exists_splitOn_of_between
    {front line behind : Text} (between : IsLineBetween front line behind) :
    ∃ ahead later,
      splitOn '\n' (front ++ (line ++ behind)) = ahead ++ line :: later ∧
        ∀ part ∈ ahead, ∀ c ∈ part, c ∈ front := by
  obtain ⟨later, own⟩ : ∃ later, splitOn '\n' (line ++ behind) = line :: later := by
    cases behind with
    | nil =>
        rw [List.append_nil, splitOn_of_not_mem between.whole]
        exact ⟨[], rfl⟩
    | cons c behind =>
        obtain rfl : c = '\n' := eq_of_beq between.ends
        exact ⟨_, splitOn_append_cons between.whole behind⟩
  rcases List.eq_nil_or_concat front with rfl | ⟨before, last, rfl⟩
  · exact ⟨[], later, own, List.forall_mem_nil _⟩
  · have begins := between.begins
    rw [List.concat_eq_append, List.getLast?_concat] at begins
    obtain rfl : last = '\n' := eq_of_beq begins
    refine ⟨splitOn '\n' before, later, ?_, fun part member c inside => ?_⟩
    · rw [List.concat_eq_append, List.append_assoc, List.singleton_append,
        splitOn_append_separator, own]
    · rw [List.concat_eq_append]
      exact List.mem_append_left _ (mem_of_mem_splitOn member inside)

/-- The lines of a text are what stands between its line feeds. -/
theorem mem_splitOn_iff
    {text line : Text} :
    line ∈ splitOn '\n' text ↔
      ∃ front behind, text = front ++ (line ++ behind) ∧ IsLineBetween front line behind := by
  constructor
  · intro member
    obtain ⟨ahead, later, split⟩ := List.append_of_mem member
    exact ⟨_, _, isLineBetween_of_splitOn split⟩
  · rintro ⟨front, behind, rfl, between⟩
    obtain ⟨ahead, later, split, _⟩ := exists_splitOn_of_between between
    rw [split]
    exact List.mem_append_right _ List.mem_cons_self

/-! ## Trimmed texts -/

theorem exists_firstLine
    (text : Text) :
    ∃ line behind,
      text = line ++ behind ∧ '\n' ∉ line ∧ behind.head?.all (· == '\n') = true := by
  induction text with
  | nil => exact ⟨[], [], rfl, List.not_mem_nil, rfl⟩
  | cons c text inductionHypothesis =>
      by_cases feed : c = '\n'
      · exact ⟨[], c :: text, rfl, List.not_mem_nil, beq_iff_eq.2 feed⟩
      · obtain ⟨line, behind, rfl, whole, ends⟩ := inductionHypothesis
        refine ⟨c :: line, behind, rfl, ?_, ends⟩
        rw [List.mem_cons, not_or]
        exact ⟨Ne.symm feed, whole⟩

theorem exists_lastLine
    (text : Text) :
    ∃ front line,
      text = front ++ line ∧ '\n' ∉ line ∧ front.getLast?.all (· == '\n') = true := by
  obtain ⟨line, behind, reversed, whole, ends⟩ := exists_firstLine text.reverse
  refine ⟨behind.reverse, line.reverse, ?_, ?_, ?_⟩
  · rw [← List.reverse_append, ← reversed, List.reverse_reverse]
  · rw [List.mem_reverse]
    exact whole
  · rw [List.getLast?_reverse]
    exact ends

/-- A line of a trimmed text is a line of the text but for blanks around it, those ahead of it only
if nothing but blanks stands ahead of the line. -/
theorem exists_line_of_mem_trim
    {text line : Text} (member : line ∈ splitOn '\n' (trim text)) :
    ∃ front early late behind,
      text = front ++ ((early ++ (line ++ late)) ++ behind) ∧
        IsLineBetween front (early ++ (line ++ late)) behind ∧
          (∀ c ∈ early, isBlank c = true) ∧ (∀ c ∈ late, isBlank c = true) ∧
            (early = [] ∨ ∀ c ∈ front, isBlank c = true) := by
  obtain ⟨lead, trail, leadBlank, trailBlank, whole⟩ := exists_trim text
  obtain ⟨ahead, rest, split, between⟩ := mem_splitOn_iff.1 member
  -- The end of the line, with the blanks behind the last line.
  obtain ⟨late, behind, ending, lateBlank, lateWhole, ends⟩ :
      ∃ late behind,
        rest ++ trail = late ++ behind ∧ (∀ c ∈ late, isBlank c = true) ∧ '\n' ∉ late ∧
          behind.head?.all (· == '\n') = true := by
    cases rest with
    | nil =>
        obtain ⟨late, behind, rfl, lateWhole, ends⟩ := exists_firstLine trail
        exact ⟨late, behind, rfl, fun c inside => trailBlank c (List.mem_append_left _ inside),
          lateWhole, ends⟩
    | cons c rest =>
        exact ⟨[], c :: rest ++ trail, rfl, List.forall_mem_nil _, List.not_mem_nil, between.ends⟩
  -- The start of the line, with the blanks ahead of the first line.
  obtain ⟨front, early, beginning, earlyBlank, earlyWhole, begins, blankAhead⟩ :
      ∃ front early,
        lead ++ ahead = front ++ early ∧ (∀ c ∈ early, isBlank c = true) ∧ '\n' ∉ early ∧
          front.getLast?.all (· == '\n') = true ∧
            (early = [] ∨ ∀ c ∈ front, isBlank c = true) := by
    rcases List.eq_nil_or_concat ahead with rfl | ⟨before, last, rfl⟩
    · obtain ⟨front, early, rfl, earlyWhole, begins⟩ := exists_lastLine lead
      refine ⟨front, early, List.append_nil _, ?_, earlyWhole, begins, Or.inr ?_⟩
      · exact fun c inside => leadBlank c (List.mem_append_right _ inside)
      · exact fun c inside => leadBlank c (List.mem_append_left _ inside)
    · refine ⟨lead ++ before.concat last, [], (List.append_nil _).symm, List.forall_mem_nil _,
        List.not_mem_nil, ?_, Or.inl rfl⟩
      have begins := between.begins
      rw [List.concat_eq_append, List.getLast?_concat] at begins
      rw [List.concat_eq_append, ← List.append_assoc, List.getLast?_concat]
      exact begins
  refine ⟨front, early, late, behind, ?_, ⟨begins, ?_, ends⟩, earlyBlank, lateBlank, blankAhead⟩
  · calc text = (lead ++ ahead) ++ (line ++ (rest ++ trail)) := by
          rw [whole, split]
          simp only [List.append_assoc]
      _ = front ++ ((early ++ (line ++ late)) ++ behind) := by
          rw [beginning, ending]
          simp only [List.append_assoc]
  · exact List.not_mem_append earlyWhole (List.not_mem_append between.whole lateWhole)

end Kata.Text
