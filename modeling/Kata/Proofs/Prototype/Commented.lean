import Kata.Proofs.Pattern.Matches
import Kata.Proofs.Prototype.Written
import Kata.Proofs.Text.Cuts

/-!
# Types in comments

A comment names the types of the parameters line by line, and then that of the result. Each line
has one mark ahead of its keyword, and the marks are where its types are found.
-/

namespace Kata.Prototype

open Detection (exists_of_takes_dollarName isBlank_of_isDollarName takes_dollarName_of_takes_name
  takes_name_of_isIdentifier)
open Pattern

/-! ## The lines of a comment -/

/-- A parameter as a comment notes it. -/
structure Note where
  name : Text
  type : Text

/-- What a note says behind its mark. -/
def Note.content (note : Note) : Text :=
  "param \x7b" ++ (note.type ++ '\x7d' :: ' ' :: note.name)

/-- The line of a note. -/
def Note.line (note : Note) : Text :=
  " * ".toList ++ '@' :: (note.content ++ ['\n'])

theorem Note.line_append
    (note : Note) (rest : Text) :
    note.line ++ rest = " * ".toList ++ '@' :: (note.content ++ ['\n'] ++ rest) :=
  rfl

/-- The line on the result, behind its mark. -/
def resultContent (type : Text) : Text :=
  "return \x7b" ++ (type ++ ['\x7d'])

/-- Whether a type can stand in braces behind a keyword. -/
def isNotable (type : Text) : Bool :=
  type != [] && !type.contains '\x7d' && !type.contains '@'

/-- That a note has a name and a type that can be read. -/
structure Note.IsReadable (note : Note) : Prop where
  identifier : Name.isIdentifier note.name = true
  notable : isNotable note.type = true

theorem isNotable_iff
    {type : Text} :
    isNotable type = true ↔ type ≠ [] ∧ '\x7d' ∉ type ∧ '@' ∉ type := by
  rw [isNotable, Bool.and_eq_true, Bool.and_eq_true, bne_iff_ne, Bool.not_eq_true',
    Bool.not_eq_true', ← Bool.not_eq_true, ← Bool.not_eq_true, List.contains_iff_mem,
    List.contains_iff_mem, and_assoc]

/-- A note has no mark but the one ahead of it. -/
theorem Note.IsReadable.not_mem
    {note : Note} (readable : note.IsReadable) :
    '@' ∉ note.content ++ ['\n'] := by
  have type := (isNotable_iff.1 readable.notable).2.2
  have name : '@' ∉ note.name := not_mem_of_isIdentifier readable.identifier (by decide)
  unfold Note.content
  simp only [List.mem_append, List.mem_cons, not_or]
  exact ⟨⟨by decide, type, by decide, by decide, name⟩, by decide, List.not_mem_nil⟩

/-- Behind a mark in a comment stands a note, or what stands behind a mark that follows the
notes. -/
theorem content_cases
    {behind tail : Text} (notes : List Note) (readable : ∀ note ∈ notes, note.IsReadable) :
    ∀ {front : Text},
      notes.flatMap Note.line ++ tail = front ++ '@' :: behind →
        (∃ more, behind = "param".toList ++ more) ∨ ∃ front, tail = front ++ '@' :: behind := by
  induction notes with
  | nil => exact fun whole => Or.inr ⟨_, whole⟩
  | cons note notes inductionHypothesis =>
      intro front whole
      rw [List.forall_mem_cons] at readable
      rw [List.flatMap_cons, List.append_assoc, Note.line_append] at whole
      obtain ⟨front, rfl, onward⟩ := Text.exists_behind_of_not_mem (by decide) whole
      cases front with
      | nil =>
          refine Or.inl ⟨" \x7b".toList ++ (note.type ++ '\x7d' :: ' ' :: note.name) ++ '\n' ::
            (notes.flatMap Note.line ++ tail), ?_⟩
          rw [← (List.cons.inj onward).2]
          unfold Note.content
          simp
      | cons c front =>
          obtain ⟨more, rfl, later⟩ :=
            Text.exists_behind_of_not_mem readable.1.not_mem (List.cons.inj onward).2
          exact inductionHypothesis readable.2 later

/-! ## Parameters -/

/-- What the comment on a parameter looks like. -/
theorem exists_of_takes_parameterComment
    {previous : Option Char} {piece rest : Text} {remembered : Remembered}
    (takes : Takes parameterComment previous piece rest remembered) :
    ∃ early type late bracket first others,
      piece =
          '@' :: ("param".toList ++ (early ++ '\x7b' :: (type ++ '\x7d' ::
            (late ++ (bracket ++ first :: others))))) ∧
        (∀ c ∈ early, Text.isBlank c = true) ∧ (∀ c ∈ type, (c != '\x7d') = true) ∧
          (∀ c ∈ late, Text.isBlank c = true) ∧ (bracket = [] ∨ bracket = ['[']) ∧
            isDollarNameStart first = true ∧ (∀ c ∈ first :: others, isDollarName c = true) ∧
              remembered = [(2, first :: others), (1, type)] := by
  obtain ⟨_, _, _, _, isKeyword, atEarly, rfl, rfl⟩ := takes_inOrder_cons.1 takes
  obtain ⟨early, _, _, _, ⟨earlyBlank, rfl⟩, atBrace, rfl, rfl⟩ := takes_inOrder_cons.1 atEarly
  obtain ⟨_, _, _, _, isBrace, atType, rfl, rfl⟩ := takes_inOrder_cons.1 atBrace
  obtain ⟨type, _, _, _, isType, atEnd, rfl, rfl⟩ := takes_inOrder_cons.1 atType
  obtain ⟨_, _, _, _, isEnd, atLate, rfl, rfl⟩ := takes_inOrder_cons.1 atEnd
  obtain ⟨late, _, _, _, ⟨lateBlank, rfl⟩, atBracket, rfl, rfl⟩ := takes_inOrder_cons.1 atLate
  obtain ⟨bracket, _, _, _, isBracket, isGroup, rfl, rfl⟩ := takes_inOrder_cons.1 atBracket
  obtain ⟨rfl, rfl⟩ := (takes_text _).1 isKeyword
  obtain ⟨rfl, rfl⟩ := takes_char.1 isBrace
  obtain ⟨_, typed, rfl⟩ := takes_group.1 isType
  obtain ⟨_, typeChars, rfl⟩ := takes_oneOrMore.1 typed
  obtain ⟨rfl, rfl⟩ := takes_char.1 isEnd
  obtain ⟨_, isName, rfl⟩ := takes_group.1 (takes_inOrder_singleton.1 isGroup)
  obtain rfl := remembered_of_isForgetful _ rfl isName
  obtain ⟨first, others, rfl, starts, nameChars⟩ := exists_of_takes_dollarName isName
  obtain rfl := remembered_of_isForgetful _ rfl isBracket
  have bracketShape : bracket = [] ∨ bracket = ['['] := by
    rcases takes_optional.1 isBracket with present | ⟨rfl, _⟩
    · exact Or.inr (takes_char.1 present).1
    · exact Or.inl rfl
  exact ⟨early, type, late, bracket, first, others, by simp, earlyBlank, typeChars, lateBlank,
    bracketShape, starts, nameChars, rfl⟩

section Note

variable {note : Note} (readable : note.IsReadable)
include readable

/-- A note is taken for the comment on a parameter. -/
theorem exists_takes_parameterComment
    (previous : Option Char) (rest : Text) :
    ∃ remembered, Takes parameterComment previous ('@' :: note.content) rest remembered := by
  obtain ⟨nonempty, typeFlat, _⟩ := isNotable_iff.1 readable.notable
  have parts :
      '@' :: note.content =
        "@param".toList ++ ([' '] ++ (['\x7b'] ++ (note.type ++ (['\x7d'] ++
          ([' '] ++ ([] ++ note.name)))))) := by
    unfold Note.content
    simp
  rw [parts]
  refine exists_takes_onward "@param" ⟨[], (takes_text _).2 ⟨rfl, rfl⟩⟩ ?_
  refine exists_takes_onward [' '] ⟨[], forall_isBlank_space, rfl⟩ ?_
  refine exists_takes_onward ['\x7b'] ⟨[], takes_char.2 ⟨rfl, rfl⟩⟩ ?_
  refine exists_takes_onward note.type (exists_takes_group 1
    ⟨[], takes_oneOrMore.2 ⟨nonempty, Text.forall_bne_of_not_mem typeFlat, rfl⟩⟩) ?_
  refine exists_takes_onward ['\x7d'] ⟨[], takes_char.2 ⟨rfl, rfl⟩⟩ ?_
  refine exists_takes_onward [' '] ⟨[], forall_isBlank_space, rfl⟩ ?_
  refine exists_takes_onward [] ⟨[], takes_optional.2 (Or.inr ⟨rfl, rfl⟩)⟩ ?_
  exact exists_takes_group 2
    ⟨[], takes_dollarName_of_takes_name (takes_name_of_isIdentifier readable.identifier _ _)⟩

/-- A note is cut into its pieces in one way only. -/
theorem eq_of_content
    {early type late bracket others rest behind : Text} {first : Char}
    (whole :
      note.content ++ '\n' :: rest =
        "param".toList ++ (early ++ '\x7b' :: (type ++ '\x7d' ::
          (late ++ (bracket ++ first :: others)))) ++ behind)
    (earlyBlank : ∀ c ∈ early, Text.isBlank c = true) (typeChars : ∀ c ∈ type, (c != '\x7d') = true)
    (lateBlank : ∀ c ∈ late, Text.isBlank c = true) (bracketShape : bracket = [] ∨ bracket = ['['])
    (nameChars : ∀ c ∈ first :: others, isDollarName c = true)
    (stops : behind.head?.any isDollarName = false) :
    type = note.type ∧ first :: others = note.name ∧ behind = '\n' :: rest := by
  have atEarly :
      [' '] ++ '\x7b' :: (note.type ++ '\x7d' :: ' ' :: (note.name ++ '\n' :: rest)) =
        early ++ '\x7b' :: (type ++ '\x7d' ::
          (late ++ (bracket ++ (first :: others ++ behind)))) := by
    unfold Note.content at whole
    simpa using whole
  obtain ⟨rfl, atType⟩ := Text.run_append_inj forall_isBlank_space earlyBlank atEarly rfl rfl
  have typeFlat := Text.forall_bne_of_not_mem (isNotable_iff.1 readable.notable).2.1
  obtain ⟨rfl, atLate⟩ :=
    Text.run_append_inj typeFlat typeChars (List.cons.inj atType).2 rfl rfl
  obtain ⟨c, content, isName⟩ :=
    List.exists_cons_of_ne_nil (Name.ne_nil_of_isIdentifier readable.identifier)
  have names := isDollarName_of_isIdentifier readable.identifier
  have nameStops : (note.name ++ '\n' :: rest).head?.any Text.isBlank = false := by
    rw [isName] at names ⊢
    exact isBlank_of_isDollarName (names c List.mem_cons_self)
  have bracketStops :
      (bracket ++ (first :: others ++ behind)).head?.any Text.isBlank = false := by
    rcases bracketShape with rfl | rfl
    · exact isBlank_of_isDollarName (nameChars first List.mem_cons_self)
    · rfl
  obtain ⟨rfl, atBracket⟩ :=
    Text.run_append_inj forall_isBlank_space lateBlank (List.cons.inj atLate).2 nameStops
      bracketStops
  obtain rfl : bracket = [] := by
    refine bracketShape.resolve_right fun isBracket => ?_
    have absent : '[' ∉ note.name := not_mem_of_isIdentifier readable.identifier (by decide)
    rw [isBracket, isName] at atBracket
    rw [isName, (List.cons.inj atBracket).1] at absent
    exact absent List.mem_cons_self
  obtain ⟨same, atEnd⟩ := Text.run_append_inj names nameChars atBracket rfl stops
  exact ⟨rfl, same.symm, atEnd.symm⟩

/-- The comment that is found on the next parameter is its note. -/
theorem text?_of_isNext
    {place : Place} {skipped piece lead rest : Text} {found : Match}
    (next : IsNext parameterComment place skipped piece found) (absent : '@' ∉ lead)
    (whole : place.rest = lead ++ '@' :: (note.content ++ '\n' :: rest)) :
    found.text? 2 = some note.name ∧ found.text? 1 = some note.type ∧
      found.stop.rest = '\n' :: rest := by
  obtain ⟨early, type, late, bracket, first, others, rfl, earlyBlank, typeChars, lateBlank,
    bracketShape, starts, nameChars, remembers⟩ := exists_of_takes_parameterComment next.takes
  have stops : found.stop.rest.head?.any isDollarName = false :=
    next.stops (.seq (.seq (.seq (.seq (.seq (.seq (.seq (.group (.seq .many)))))))))
  -- Nothing is skipped but what stands ahead of the mark.
  have start := whole.symm.trans next.whole
  rw [List.cons_append] at start
  obtain ⟨more, rfl, onward⟩ := Text.exists_behind_of_not_mem absent start
  obtain ⟨_, takes⟩ :=
    exists_takes_parameterComment readable (lastOf place.previous lead) ('\n' :: rest)
  obtain rfl := next.eq_nil_of_takes takes onward.symm
  obtain ⟨rfl, same, atEnd⟩ :=
    eq_of_content readable (List.cons.inj onward).2 earlyBlank typeChars lateBlank bracketShape
      nameChars stops
  refine ⟨?_, ?_, atEnd⟩
  · rw [text?_eq_lookup, remembers, same]
    rfl
  · rw [text?_eq_lookup, remembers]
    rfl

end Note

/-- The comments that are found on parameters are the notes, in their order. -/
theorem map_textOf_of_finds
    {tail : Text}
    (foreign : ∀ {front more : Text}, tail ≠ front ++ '@' :: ("param".toList ++ more))
    (notes : List Note) (readable : ∀ note ∈ notes, note.IsReadable) :
    ∀ {lead : Text} {place : Place} {comments : List Match},
      '@' ∉ lead → place.rest = lead ++ (notes.flatMap Note.line ++ tail) →
        Finds parameterComment place comments →
          comments.map (fun found => (found.textOf 2, found.textOf 1)) =
            notes.map fun note => (note.name, note.type) := by
  induction notes with
  | nil =>
      intro lead place comments absent whole finds
      cases finds with
      | done => rfl
      | more next _ =>
          obtain ⟨early, type, late, bracket, first, others, rfl, _⟩ :=
            exists_of_takes_parameterComment next.takes
          have start := whole.symm.trans next.whole
          rw [List.cons_append, List.append_assoc] at start
          obtain ⟨more, _, onward⟩ := Text.exists_behind_of_not_mem absent start
          exact absurd onward foreign
  | cons note notes inductionHypothesis =>
      intro lead place comments absent whole finds
      rw [List.forall_mem_cons] at readable
      have leadAbsent : '@' ∉ lead ++ " * ".toList := List.not_mem_append absent (by decide)
      have atNote :
          place.rest =
            (lead ++ " * ".toList) ++ '@' :: (note.content ++ '\n' ::
              (notes.flatMap Note.line ++ tail)) := by
        rw [whole, List.flatMap_cons, List.append_assoc, Note.line_append]
        simp only [List.append_assoc, List.singleton_append]
      cases finds with
      | done nothing =>
          obtain ⟨_, takes⟩ := exists_takes_parameterComment readable.1 _ _
          exact absurd takes (nothing atNote rfl)
      | @more _ _ _ found others next onward =>
          obtain ⟨isName, isType, behind⟩ := text?_of_isNext readable.1 next leadAbsent atNote
          have later := inductionHypothesis readable.2 (by decide : '@' ∉ ['\n']) behind onward
          rw [List.map_cons, List.map_cons, later, Match.textOf, Match.textOf, isName, isType]
          rfl

/-! ## The result -/

/-- What the comment on the result looks like. -/
theorem exists_of_takes_resultComment
    {previous : Option Char} {piece rest : Text} {remembered : Remembered}
    (takes : Takes resultComment previous piece rest remembered) :
    ∃ plural gap type,
      piece = '@' :: ("return".toList ++ (plural ++ (gap ++ '\x7b' :: (type ++ ['\x7d'])))) ∧
        (plural = [] ∨ plural = ['s']) ∧ (∀ c ∈ gap, Text.isBlank c = true) ∧
          (∀ c ∈ type, (c != '\x7d') = true) ∧ remembered = [(1, type)] := by
  obtain ⟨_, _, _, _, isKeyword, atPlural, rfl, rfl⟩ := takes_inOrder_cons.1 takes
  obtain ⟨plural, _, _, _, isPlural, atGap, rfl, rfl⟩ := takes_inOrder_cons.1 atPlural
  obtain ⟨gap, _, _, _, ⟨blank, rfl⟩, atBrace, rfl, rfl⟩ := takes_inOrder_cons.1 atGap
  obtain ⟨_, _, _, _, isBrace, atType, rfl, rfl⟩ := takes_inOrder_cons.1 atBrace
  obtain ⟨type, _, _, _, isType, atEnd, rfl, rfl⟩ := takes_inOrder_cons.1 atType
  obtain ⟨rfl, rfl⟩ := (takes_text _).1 isKeyword
  obtain ⟨rfl, rfl⟩ := takes_char.1 isBrace
  obtain ⟨_, typed, rfl⟩ := takes_group.1 isType
  obtain ⟨_, typeChars, rfl⟩ := takes_oneOrMore.1 typed
  obtain ⟨rfl, rfl⟩ := takes_char.1 (takes_inOrder_singleton.1 atEnd)
  obtain rfl := remembered_of_isForgetful _ rfl isPlural
  refine ⟨plural, gap, type, by simp, ?_, blank, typeChars, rfl⟩
  rcases takes_optional.1 isPlural with present | ⟨rfl, _⟩
  · exact Or.inr (takes_char.1 present).1
  · exact Or.inl rfl

theorem exists_takes_resultComment
    {type : Text} (notable : isNotable type = true) (previous : Option Char) (rest : Text) :
    ∃ remembered, Takes resultComment previous ('@' :: resultContent type) rest remembered := by
  obtain ⟨nonempty, typeFlat, _⟩ := isNotable_iff.1 notable
  have parts :
      '@' :: resultContent type =
        "@return".toList ++ ([] ++ ([' '] ++ (['\x7b'] ++ (type ++ ['\x7d'])))) := by
    unfold resultContent
    simp
  rw [parts]
  refine exists_takes_onward "@return" ⟨[], (takes_text _).2 ⟨rfl, rfl⟩⟩ ?_
  refine exists_takes_onward [] ⟨[], takes_optional.2 (Or.inr ⟨rfl, rfl⟩)⟩ ?_
  refine exists_takes_onward [' '] ⟨[], forall_isBlank_space, rfl⟩ ?_
  refine exists_takes_onward ['\x7b'] ⟨[], takes_char.2 ⟨rfl, rfl⟩⟩ ?_
  exact exists_takes_onward type (exists_takes_group 1
    ⟨[], takes_oneOrMore.2 ⟨nonempty, Text.forall_bne_of_not_mem typeFlat, rfl⟩⟩)
    ⟨[], takes_char.2 ⟨rfl, rfl⟩⟩

/-- A line on the result is cut into its pieces in one way only. -/
theorem eq_of_resultContent
    {result plural gap type rest behind : Text} (notable : isNotable result = true)
    (whole :
      "return".toList ++ (plural ++ (gap ++ '\x7b' :: (type ++ ['\x7d']))) ++ rest =
        resultContent result ++ behind)
    (pluralShape : plural = [] ∨ plural = ['s']) (blank : ∀ c ∈ gap, Text.isBlank c = true)
    (typeChars : ∀ c ∈ type, (c != '\x7d') = true) :
    type = result := by
  have atPlural :
      plural ++ (gap ++ '\x7b' :: (type ++ '\x7d' :: rest)) =
        [' '] ++ '\x7b' :: (result ++ '\x7d' :: behind) := by
    unfold resultContent at whole
    simpa using whole
  obtain rfl : plural = [] := by
    refine pluralShape.resolve_right fun isPlural => ?_
    rw [isPlural] at atPlural
    exact absurd (List.cons.inj atPlural).1 (by decide)
  obtain ⟨rfl, atType⟩ := Text.run_append_inj blank forall_isBlank_space atPlural rfl rfl
  have typeFlat := Text.forall_bne_of_not_mem (isNotable_iff.1 notable).2.1
  exact (Text.run_append_inj typeChars typeFlat (List.cons.inj atType).2 rfl rfl).1

/-! ## Whole comments -/

/-- A text with a comment: notes on the parameters and then a line on the result. -/
def commented (lead : Text) (notes : List Note) (result behind : Text) : Text :=
  lead ++ (notes.flatMap Note.line ++
    (" * ".toList ++ '@' :: (resultContent result ++ behind)))

/-- With different names each note is the first one for its name. -/
theorem lookup_note
    {notes : List Note} (distinct : (notes.map Note.name).Nodup) {note : Note}
    (member : note ∈ notes) :
    (notes.map fun note => (note.name, DataType.ofSpelling? note.type)).lookup note.name =
      some (DataType.ofSpelling? note.type) := by
  induction notes with
  | nil => exact absurd member List.not_mem_nil
  | cons first notes inductionHypothesis =>
      rw [List.map_cons, List.nodup_cons] at distinct
      rw [List.map_cons, List.lookup_cons]
      rcases List.mem_cons.1 member with rfl | isLater
      · rw [beq_self_eq_true]
      · have other : note.name ≠ first.name :=
          fun same => distinct.1 (same ▸ List.mem_map_of_mem isLater)
        rw [beq_false_of_ne other]
        exact inductionHypothesis distinct.2 isLater

section Comment

variable {lead behind result : Text} {notes : List Note}
variable (notable : isNotable result = true) (behindFree : '@' ∉ behind)
include notable behindFree

/-- Behind the notes there is only the mark of the result. -/
theorem eq_of_result
    {front rest : Text}
    (whole : " * ".toList ++ '@' :: (resultContent result ++ behind) = front ++ '@' :: rest) :
    rest = resultContent result ++ behind := by
  have typeFree := (isNotable_iff.1 notable).2.2
  have contentFree : '@' ∉ resultContent result :=
    List.not_mem_append (by decide) (List.not_mem_append typeFree (by decide))
  have parts :=
    (List.append_cons_inj_of_notMem (by decide)
      (List.not_mem_append contentFree behindFree)).1 whole
  exact parts.2.2.symm

variable (readable : ∀ note ∈ notes, note.IsReadable) (leadFree : '@' ∉ lead)
include readable leadFree

/-- The types of all parameters are found in a comment. -/
theorem commentedTypes_commented :
    commentedTypes (commented lead notes result behind) =
      notes.map fun note => (note.name, DataType.ofSpelling? note.type) := by
  have foreign :
      ∀ {front more : Text},
        " * ".toList ++ '@' :: (resultContent result ++ behind) ≠
          front ++ '@' :: ("param".toList ++ more) := by
    intro front more same
    have content := eq_of_result notable behindFree same
    unfold resultContent at content
    exact absurd (List.cons.inj content).1 (by decide)
  have found :=
    map_textOf_of_finds foreign notes readable leadFree rfl
      (finds_matchesIn (by decide) (commented lead notes result behind))
  have typed :=
    congrArg (List.map fun item => (item.1, DataType.ofSpelling? item.2)) found
  rw [List.map_map, List.map_map] at typed
  exact typed

/-- The type of the result is found in a comment. -/
theorem exists_search?_resultComment :
    ∃ found,
      resultComment.search? (commented lead notes result behind) = some found ∧
        found.textOf 1 = result := by
  obtain ⟨_, takes⟩ :=
    exists_takes_resultComment notable
      (lastOf none (lead ++ (notes.flatMap Note.line ++ " * ".toList))) behind
  have occurs : resultComment.occursIn (commented lead notes result behind) = true :=
    occursIn_iff.2 ⟨_, _, _, _, by rw [commented]; simp only [List.append_assoc, List.cons_append],
      takes⟩
  obtain ⟨found, searched⟩ := Option.isSome_iff_exists.1 occurs
  refine ⟨found, searched, ?_⟩
  obtain ⟨ahead, _, takesAt, _⟩ := exists_first_of_search? searched
  obtain ⟨plural, gap, type, rfl, pluralShape, blank, typeChars, remembers⟩ :=
    exists_of_takes_resultComment takesAt.takes
  -- The piece begins at a mark, and only that of the result has the keyword behind it.
  have whole := takesAt.whole
  rw [commented, List.cons_append] at whole
  obtain ⟨more, rfl, onward⟩ := Text.exists_behind_of_not_mem leadFree whole
  have atContent :
      "return".toList ++ (plural ++ (gap ++ '\x7b' :: (type ++ ['\x7d']))) ++ found.stop.rest =
        resultContent result ++ behind := by
    rcases content_cases notes readable onward with ⟨_, isParameter⟩ | ⟨_, atResult⟩
    · exact absurd (List.cons.inj isParameter).1 (by decide)
    · exact eq_of_result notable behindFree atResult
  obtain rfl := eq_of_resultContent notable atContent pluralShape blank typeChars
  rw [Match.textOf, text?_eq_lookup, remembers]
  rfl

/-- A function whose parameters all have notes is read with the types that its comment names. -/
theorem readCommented?_commented
    {name : Text} (distinct : (notes.map Note.name).Nodup)
    (reads :
      Reads .javaScript (commented lead notes result behind) name
        (notes.map fun note => some note.name)) :
    readCommented? (commented lead notes result behind) =
      some
        { name? := some name
          parameters := notes.map fun note => ⟨some note.name, DataType.ofSpelling? note.type⟩
          returnType? := DataType.ofSpelling? result } := by
  obtain ⟨prototype, read, named, params⟩ := reads
  obtain ⟨found, searched, isResult⟩ :=
    exists_search?_resultComment notable behindFree readable leadFree
  rw [ofText?, readCommented?, Option.map_eq_some_iff] at read
  obtain ⟨start, searchedStart, rfl⟩ := read
  have names :
      (splitTopLevel (((start.text? 2).or (start.text? 4)).getD [])).map
          (fun parameter => Text.trim (withoutDefault parameter)) =
        notes.map Note.name := by
    rw [List.map_map] at params
    refine (List.map_inj_right fun _ _ => Option.some.inj).1 ?_
    rw [List.map_map, List.map_map]
    exact params
  have parameters :
      (splitTopLevel (((start.text? 2).or (start.text? 4)).getD [])).map
          (fun parameter =>
            (⟨some (Text.trim (withoutDefault parameter)),
              ((commentedTypes (commented lead notes result behind)).lookup
                (Text.trim (withoutDefault parameter))).join⟩ : Parameter)) =
        notes.map fun note => ⟨some note.name, DataType.ofSpelling? note.type⟩ := by
    have typed :=
      congrArg
        (List.map fun name =>
          (⟨some name,
            ((commentedTypes (commented lead notes result behind)).lookup name).join⟩ : Parameter))
        names
    rw [List.map_map, List.map_map] at typed
    refine typed.trans (List.map_congr_left fun note member => ?_)
    rw [Function.comp_apply, commentedTypes_commented notable behindFree readable leadFree,
      lookup_note distinct member]
    rfl
  rw [readCommented?, searchedStart, Option.map_some]
  dsimp only at named ⊢
  rw [parameters, named, searched, Option.bind_some, isResult]

end Comment

end Kata.Prototype
