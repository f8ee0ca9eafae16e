import Kata.Proofs.Detection.Names
import Kata.Proofs.Detection.Types

/-!
# Words ahead of blanks

A node type is declared by a keyword, blanks and the name of the type. Reading a text from the
front, with the last word and whether blanks followed it in mind, tells whether such a keyword is
ever followed by a letter with which the name of a node type begins. The readings of the parts of
a text add up to the reading of the text.
-/

namespace Kata.Detection

open Pattern

/-! ## Reading a text -/

/-- The word that was read last, and whether blanks were read behind it. -/
structure Reader where
  word : Text
  isBehind : Bool
deriving DecidableEq, Repr

namespace Reader

/-- The reader behind no word. -/
def start : Reader := ⟨[], false⟩

/-- The reader behind one more character. -/
def step (reader : Reader) (c : Char) : Reader :=
  if Text.isBlank c then ⟨reader.word, !reader.word.isEmpty⟩
  else if Text.isWord c then
    if reader.isBehind then ⟨[c], false⟩ else ⟨reader.word ++ [c], false⟩
  else start

/-- The reader behind a text. -/
def read (reader : Reader) (text : Text) : Reader :=
  text.foldl step reader

end Reader

/-- The letters with which the names of the node types begin. -/
def typeInitials : Text := "LTG"

/-- Whether no keyword of a list stands ahead of blanks and an initial of a node type. -/
def isQuiet (keywords : List Text) : Reader → Text → Bool
  | _, [] => true
  | reader, c :: rest =>
    !(reader.isBehind && keywords.contains reader.word && typeInitials.contains c) &&
      isQuiet keywords (reader.step c) rest

section Reading

variable {keywords : List Text}

theorem read_cons
    (reader : Reader) (c : Char) (rest : Text) :
    reader.read (c :: rest) = (reader.step c).read rest :=
  rfl

theorem read_append
    (reader : Reader) (left right : Text) :
    reader.read (left ++ right) = (reader.read left).read right :=
  List.foldl_append

theorem isQuiet_append
    (reader : Reader) (left right : Text) :
    isQuiet keywords reader (left ++ right) =
      (isQuiet keywords reader left && isQuiet keywords (reader.read left) right) := by
  induction left generalizing reader with
  | nil => rfl
  | cons c left inductionHypothesis =>
      rw [List.cons_append, isQuiet, isQuiet, inductionHypothesis, read_cons]
      exact (Bool.and_assoc _ _ _).symm

theorem isQuiet_cons_of_not_initial
    {c : Char} (noInitial : typeInitials.contains c = false) (reader : Reader) (rest : Text) :
    isQuiet keywords reader (c :: rest) = isQuiet keywords (reader.step c) rest := by
  rw [isQuiet, noInitial, Bool.and_false]
  rfl

/-! ## Blanks, marks and names -/

theorem not_initial_of_isBlank
    {c : Char} (blank : Text.isBlank c = true) :
    typeInitials.contains c = false :=
  Text.contains_of_outside (by decide) blank

/-- Blanks behind no word change nothing. -/
theorem isQuiet_start_append_of_blank
    {gap : Text} (blank : ∀ c ∈ gap, Text.isBlank c = true) (rest : Text) :
    isQuiet keywords .start (gap ++ rest) = isQuiet keywords .start rest := by
  induction gap with
  | nil => rfl
  | cons c gap inductionHypothesis =>
      rw [List.forall_mem_cons] at blank
      have step : Reader.start.step c = .start := by
        rw [Reader.step, if_pos blank.1]
        rfl
      rw [List.cons_append, isQuiet_cons_of_not_initial (not_initial_of_isBlank blank.1), step,
        inductionHypothesis blank.2]

/-- Whether a character is neither blank nor part of a word. -/
def isMark (c : Char) : Bool :=
  !Text.isBlank c && !Text.isWord c

/-- Behind a mark reading begins afresh. -/
theorem isQuiet_cons_of_isMark
    {mark : Char} (marks : isMark mark = true) (reader : Reader) (rest : Text) :
    isQuiet keywords reader (mark :: rest) = isQuiet keywords .start rest := by
  have noInitial : typeInitials.contains mark = false :=
    Text.contains_of_outside (by decide) marks
  rw [isMark, Bool.and_eq_true, Bool.not_eq_true', Bool.not_eq_true'] at marks
  have step : reader.step mark = .start := by
    rw [Reader.step, marks.1, marks.2]
    rfl
  rw [isQuiet_cons_of_not_initial noInitial, step]

/-- A word is quiet unless a keyword stands ahead of it. -/
theorem isQuiet_of_forall_isWord
    {text : Text} (words : ∀ c ∈ text, Text.isWord c = true) :
    ∀ {reader : Reader}, (reader.isBehind && keywords.contains reader.word) = false →
      isQuiet keywords reader text = true := by
  induction text with
  | nil => exact fun _ => rfl
  | cons c text inductionHypothesis =>
      intro reader noKeyword
      rw [List.forall_mem_cons] at words
      have inside : (reader.step c).isBehind = false := by
        rw [Reader.step, Text.isBlank_of_isWord words.1, words.1]
        cases reader.isBehind <;> rfl
      rw [isQuiet, noKeyword, inductionHypothesis words.2]
      · rfl
      · rw [inside]
        rfl

/-! ## Keywords ahead of blanks -/

/-- Behind a character that is no part of a word, no word is being read. -/
theorem isBehind_or_word_eq_nil
    {front : Text} (outside : (lastOf none front).any Text.isWord = false) :
    (Reader.start.read front).isBehind = true ∨ (Reader.start.read front).word = [] := by
  rcases List.eq_nil_or_concat' front with rfl | ⟨front, c, rfl⟩
  · exact Or.inr rfl
  · have noWord : Text.isWord c = false := by
      rw [lastOf_append, lastOf_cons, lastOf_nil] at outside
      exact outside
    rw [read_append]
    change ((Reader.start.read front).step c).isBehind = true ∨
      ((Reader.start.read front).step c).word = []
    rw [Reader.step, noWord]
    split
    · cases (Reader.start.read front).word with
      | nil => exact Or.inr rfl
      | cons d word => exact Or.inl rfl
    · exact Or.inr rfl

theorem read_inside_word
    {text : Text} (words : ∀ c ∈ text, Text.isWord c = true) :
    ∀ word : Text, (Reader.mk word false).read text = ⟨word ++ text, false⟩ := by
  induction text with
  | nil => exact fun word => by rw [List.append_nil]; rfl
  | cons c text inductionHypothesis =>
      intro word
      rw [List.forall_mem_cons] at words
      have step : (Reader.mk word false).step c = ⟨word ++ [c], false⟩ := by
        rw [Reader.step, Text.isBlank_of_isWord words.1, words.1]
        rfl
      rw [read_cons, step, inductionHypothesis words.2, List.append_assoc, List.singleton_append]

/-- A word that begins where no word is being read. -/
theorem read_word
    {word : Text} (nonempty : word ≠ []) (words : ∀ c ∈ word, Text.isWord c = true)
    {reader : Reader} (between : reader.isBehind = true ∨ reader.word = []) :
    reader.read word = ⟨word, false⟩ := by
  obtain ⟨c, rest, rfl⟩ := List.exists_cons_of_ne_nil nonempty
  rw [List.forall_mem_cons] at words
  have step : reader.step c = ⟨[c], false⟩ := by
    rw [Reader.step, Text.isBlank_of_isWord words.1, words.1]
    rcases between with behind | noWord
    · rw [behind]
      rfl
    · rw [noWord]
      cases reader.isBehind <;> rfl
  rw [read_cons, step, read_inside_word words.2, List.singleton_append]

theorem read_gap
    {word gap : Text} (nonemptyWord : word ≠ []) (nonempty : gap ≠ [])
    (blank : ∀ c ∈ gap, Text.isBlank c = true) (isBehind : Bool) :
    (Reader.mk word isBehind).read gap = ⟨word, true⟩ := by
  have step :
      ∀ {c : Char} {isBehind : Bool}, Text.isBlank c = true →
        (Reader.mk word isBehind).step c = ⟨word, true⟩ := by
    intro c isBehind isBlank
    rw [Reader.step, if_pos isBlank, List.isEmpty_eq_false_iff.2 nonemptyWord]
    rfl
  induction gap generalizing isBehind with
  | nil => exact absurd rfl nonempty
  | cons c gap inductionHypothesis =>
      rw [List.forall_mem_cons] at blank
      rw [read_cons, step blank.1]
      cases gap with
      | nil => rfl
      | cons d gap => exact inductionHypothesis (List.cons_ne_nil d gap) blank.2 true

/-- A text in which a keyword stands ahead of blanks and an initial is not quiet. -/
theorem isQuiet_eq_false
    {front keyword gap rest : Text} {c : Char}
    (outside : (lastOf none front).any Text.isWord = false) (member : keyword ∈ keywords)
    (nonemptyKeyword : keyword ≠ []) (words : ∀ d ∈ keyword, Text.isWord d = true)
    (nonempty : gap ≠ []) (blank : ∀ d ∈ gap, Text.isBlank d = true)
    (initial : c ∈ typeInitials) :
    isQuiet keywords .start (front ++ (keyword ++ (gap ++ c :: rest))) = false := by
  have isKeyword : keywords.contains keyword = true := List.contains_iff_mem.2 member
  have isInitial : typeInitials.contains c = true := List.contains_iff_mem.2 initial
  rw [isQuiet_append, isQuiet_append, isQuiet_append,
    read_word nonemptyKeyword words (isBehind_or_word_eq_nil outside),
    read_gap nonemptyKeyword nonempty blank, isQuiet, isKeyword, isInitial]
  simp

end Reading

/-! ## Declarations -/

/-- The keywords that declare a type with nothing but blanks between them and the name. -/
def typeKeywords : Language → List Text
  | .python => ["class"]
  | .javaScript => ["class", "function"]
  | .java => ["class", "interface", "record"]
  | .cpp => ["struct", "class"]

theorem isWord_of_mem_typeKeywords
    {language : Language} {keyword : Text} (member : keyword ∈ typeKeywords language) :
    keyword ≠ [] ∧ ∀ c ∈ keyword, Text.isWord c = true := by
  have all :
      (typeKeywords language).all (fun keyword => !keyword.isEmpty && keyword.all Text.isWord) =
        true := by
    cases language <;> decide
  have here := List.all_eq_true.1 all keyword member
  rw [Bool.and_eq_true, Bool.not_eq_true', List.isEmpty_eq_false_iff] at here
  exact ⟨here.1, List.all_eq_true.1 here.2⟩

theorem exists_initial_typeName
    (kind : Structure) :
    ∃ c rest, kind.typeName = c :: rest ∧ c ∈ typeInitials := by
  cases kind with
  | linkedList => exact ⟨'L', "istNode", by decide, by decide⟩
  | binaryTree => exact ⟨'T', "reeNode", by decide, by decide⟩
  | graph => exact ⟨'G', "raphNode", by decide, by decide⟩

/-- No part of a quiet text is a keyword, blanks and the name of a node type. -/
theorem not_keyword_typeName
    {language : Language} {source front keyword between : Text} (kind : Structure) (rest : Text)
    (quiet : isQuiet (typeKeywords language) .start source = true)
    (outside : (lastOf none front).any Text.isWord = false)
    (member : keyword ∈ typeKeywords language) (nonempty : between ≠ [])
    (blank : ∀ c ∈ between, Text.isBlank c = true) :
    source ≠ front ++ (keyword ++ (between ++ (kind.typeName ++ rest))) := by
  intro whole
  obtain ⟨c, others, named, initial⟩ := exists_initial_typeName kind
  obtain ⟨nonemptyKeyword, words⟩ := isWord_of_mem_typeKeywords member
  rw [whole, named, List.cons_append,
    isQuiet_eq_false outside member nonemptyKeyword words nonempty blank initial] at quiet
  exact Bool.false_ne_true quiet

theorem not_takes_keywordAndName
    {language : Language} {source front piece rest : Text} {remembered : Remembered}
    {kind : Structure} (quiet : isQuiet (typeKeywords language) .start source = true)
    (whole : source = front ++ (piece ++ rest)) :
    ¬Takes (keywordAndName (typeKeywords language) kind.typeName) (lastOf none front) piece rest
      remembered := by
  intro takes
  obtain ⟨edge, keyword, member, between, nonempty, blank, rfl, _⟩ := takes_keywordAndName.1 takes
  have outside : (lastOf none front).any Text.isWord = false := by
    obtain ⟨nonemptyKeyword, words⟩ := isWord_of_mem_typeKeywords member
    obtain ⟨c, others, rfl⟩ := List.exists_cons_of_ne_nil nonemptyKeyword
    rw [List.cons_append, List.cons_append, List.head?_cons, Option.any_some,
      words c List.mem_cons_self] at edge
    exact Bool.eq_false_iff.2 edge
  refine not_keyword_typeName kind rest quiet outside member nonempty blank ?_
  rw [whole]
  simp only [List.append_assoc]

theorem isDollarName_typeName
    (kind : Structure) :
    ∀ c ∈ kind.typeName, isDollarName c = true := by
  have all : kind.typeName.all isDollarName = true := by
    cases kind <;> decide
  exact List.all_eq_true.1 all

/-- An indentation at the start of a line ends with no word. -/
theorem not_isWord_lastOf_indentation
    {previous : Option Char} {indentation : Text}
    (starts : previous.all (· == '\n') = true)
    (lineBlank : ∀ c ∈ indentation, isLineBlank c = true) :
    (lastOf previous indentation).any Text.isWord = false := by
  rcases List.eq_nil_or_concat' indentation with rfl | ⟨others, c, rfl⟩
  · rw [lastOf_nil]
    cases previous with
    | none => rfl
    | some c =>
        rw [Option.all_some, beq_iff_eq] at starts
        rw [starts]
        decide
  · have blank := isBlank_of_isLineBlank (lineBlank c List.mem_concat_self)
    rw [lastOf_append, lastOf_cons, lastOf_nil, Option.any_some, Text.isWord_of_isBlank blank]

/-- A quiet text declares no node type, unless in JavaScript its name stands ahead of an equals
sign. -/
theorem declaresType_eq_false
    {language : Language} {source : Text} {kind : Structure}
    (quiet : isQuiet (typeKeywords language) .start source = true)
    (unbound :
      language = .javaScript → ∀ ahead, ¬StandsAhead '=' source ahead kind.typeName) :
    declaresType language source kind.typeName = false := by
  rw [← Bool.not_eq_true, declaresType, occursIn_iff]
  rintro ⟨front, piece, rest, remembered, whole, takes⟩
  cases language with
  | python =>
      obtain ⟨indentation, between, starts, lineBlank, nonempty, blank, rfl⟩ :=
        takes_pythonDeclaration takes
      have outside : (lastOf none (front ++ indentation)).any Text.isWord = false := by
        rw [lastOf_append]
        exact not_isWord_lastOf_indentation starts lineBlank
      refine not_keyword_typeName kind rest quiet outside (List.mem_singleton.2 rfl) nonempty
        (fun c member => isBlank_of_isLineBlank (blank c member)) ?_
      rw [whole]
      simp only [List.append_assoc]
  | javaScript =>
      rcases takes_javaScriptDeclaration takes with words | ⟨left, space, words, blank, rfl⟩
      · exact not_takes_keywordAndName quiet whole words
      · obtain ⟨_, keyword, _, between, nonempty, gapBlank, rfl, _⟩ := takes_keywordAndName.1 words
        refine unbound rfl (front ++ (keyword ++ between))
          ⟨⟨space, rest, blank, ?_⟩, ?_, ?_, isDollarName_typeName kind⟩
        · rw [whole]
          simp only [List.append_assoc, List.singleton_append]
        · exact endsOutside_append front
            (endsOutside_append keyword (endsOutside_of_gap nonempty gapBlank))
        · cases kind <;> decide
  | java => exact not_takes_keywordAndName quiet whole (takes_javaDeclaration takes)
  | cpp =>
      obtain ⟨left, behind, words, rfl⟩ := takes_cppDeclaration takes
      refine not_takes_keywordAndName quiet ?_ words
      rw [whole]
      simp only [List.append_assoc, List.cons_append, List.nil_append]

end Kata.Detection
