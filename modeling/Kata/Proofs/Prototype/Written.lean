import Kata.Proofs.Prototype.Heads
import Kata.Proofs.Prototype.Parameters

/-!
# Heads as they are written

The prototype that is read from a text is that of the first bracket that can be the bracket of a
head. So a head that is written out is read back with its name and its parameters, whatever stands
ahead of it without a head of its own, and whatever stands behind it.
-/

namespace Kata.Prototype

open Detection (endsOutside_append endsOutside_of_gap takes_dollarName_of_takes_name
  takes_name_of_isIdentifier)
open Pattern

theorem isDollarName_of_isIdentifier
    {name : Text} (identifier : Name.isIdentifier name = true) :
    ∀ c ∈ name, isDollarName c = true := by
  intro c member
  have inName := List.all_eq_true.1 (Name.isPlain_of_isIdentifier identifier) c member
  rw [isDollarName, Name.isWord_of_isIdentifierChar inName]
  rfl

theorem forall_isBlank_space :
    ∀ c ∈ [' '], Text.isBlank c = true :=
  List.forall_mem_singleton.2 (by decide)

/-- That the prototype in a text has a given name and parameters of given names. -/
def Reads (language : Language) (text name : Text) (params : List (Option Text)) : Prop :=
  ∃ prototype,
    ofText? language text = some prototype ∧ prototype.name? = some name ∧
      prototype.parameters.map Parameter.name? = params

/-! ## First heads -/

section First

variable {before arguments tail : Text} (rest : Text)
variable (opens : '(' ∉ arguments ++ ')' :: tail) (closes : ')' ∉ arguments)

include closes in
omit opens in
theorem argumentsOf_closed :
    argumentsOf (arguments ++ ')' :: tail ++ rest) = arguments := by
  rw [List.append_assoc, List.cons_append, argumentsOf_append (Text.forall_bne_of_not_mem closes)]

include opens closes

/-- The first head whose types follow the names is read with its name and its parameters. -/
theorem reads_annotatedHead
    (headless : isHeadless annotatedHeads before = true)
    (occurs : annotatedHead.occursIn (before ++ '(' :: (arguments ++ ')' :: tail)) = true) :
    Reads .python (before ++ '(' :: (arguments ++ ')' :: tail ++ rest)) (lastName before).1
      (parameterNames .python arguments) := by
  obtain ⟨found, searched, named, params⟩ :=
    exists_search?_of_isHeadless rest takesHeads_annotatedHead headless (by decide) opens occurs
  rw [← text?_eq_lookup, argumentsOf_closed rest closes] at params
  rw [← text?_eq_lookup] at named
  refine ⟨_, by rw [ofText?, readAnnotated?, searched, Option.map_some], named, ?_⟩
  rw [Match.textOf, params, List.map_map, ← List.filterMap_eq_map, List.filterMap_filter]
  rfl

/-- The first head without types is read with its name and its parameters. -/
theorem reads_untypedHead
    {name : Text} (isAhead : untypedName? before = some name)
    (headless : isHeadless untypedHeads before = true)
    (occurs : untypedHead.occursIn (before ++ '(' :: (arguments ++ ')' :: tail)) = true) :
    Reads .javaScript (before ++ '(' :: (arguments ++ ')' :: tail ++ rest)) name
      (parameterNames .javaScript arguments) := by
  obtain ⟨found, searched, named, params⟩ :=
    exists_search?_of_isHeadless rest takesHeads_untypedHead headless (by decide) opens occurs
  rw [← text?_eq_lookup, ← text?_eq_lookup, argumentsOf_closed rest closes] at params
  rw [← text?_eq_lookup, ← text?_eq_lookup, isAhead] at named
  refine ⟨_, by rw [ofText?, readCommented?, searched, Option.map_some], named, ?_⟩
  dsimp only
  rw [params, List.map_map, parameterNames, ← List.filterMap_eq_map]
  rfl

/-- The first head whose types stand ahead of the names is read with its name and its parameters,
unless it is passed over. -/
theorem reads_typedHead
    (headless : isHeadless typedHeads before = true)
    (occurs : typedHead.occursIn (before ++ '(' :: (arguments ++ ')' :: tail)) = true)
    (named : (lastName before).1 ≠ "Solution")
    (typed : ∀ word ∈ notReturnTypes, ¬word <:+ typeAhead before) :
    Reads .java (before ++ '(' :: (arguments ++ ')' :: tail ++ rest)) (lastName before).1
      (parameterNames .java arguments) := by
  obtain ⟨found, searched, ⟨type, isType, trimmed, suffix⟩, isName, params⟩ :=
    exists_search?_of_isHeadless rest takesHeads_typedHead headless (by decide) opens occurs
  rw [← text?_eq_lookup, argumentsOf_closed rest closes] at params
  rw [← text?_eq_lookup] at isType isName
  have isHead : isFunctionHead found = true := by
    have noWord : notReturnTypes.contains type = false := by
      rw [← Bool.not_eq_true, List.contains_iff_mem]
      exact fun member => typed type member suffix
    rw [isFunctionHead, Match.textOf, Match.textOf, isType, isName, Option.getD_some,
      Option.getD_some, trimmed, noWord]
    exact bne_iff_ne.2 named
  have first :
      (typedHead.matchesIn (before ++ '(' :: (arguments ++ ')' :: tail ++ rest))).find?
          isFunctionHead =
        some found := by
    obtain ⟨others, all⟩ := List.head?_eq_some_iff.1 ((head?_matchesIn _ _).trans searched)
    rw [all, List.find?_cons_of_pos isHead]
  refine ⟨_, by rw [ofText?, readTyped?, first, Option.map_some], isName, ?_⟩
  dsimp only
  rw [Match.textOf, params, List.map_map, parameterNames, ← List.filterMap_eq_map]
  rfl

end First

section Written

variable {front name arguments : Text} (rest : Text)
variable (identifier : Name.isIdentifier name = true)
variable (opens : '(' ∉ arguments) (closes : ')' ∉ arguments)

include identifier in
theorem isNamed_of_isIdentifier
    {space : Text} (spaceBlank : ∀ c ∈ space, Text.isBlank c = true) :
    IsNamed [' '] name space :=
  ⟨List.cons_ne_nil _ _, forall_isBlank_space, Name.ne_nil_of_isIdentifier identifier,
    isDollarName_of_isIdentifier identifier, spaceBlank⟩

/-! ## Types behind names -/

/-- What can stand between the parameters and the colon. -/
def IsResult (result : Text) : Prop :=
  result = [] ∨ ∃ type : Text, result = " -> " ++ type ∧ type ≠ [] ∧ ':' ∉ type ∧ '(' ∉ type

theorem not_mem_of_isResult
    {result : Text} (isResult : IsResult result) :
    '(' ∉ result := by
  rcases isResult with rfl | ⟨type, rfl, _, _, absent⟩
  · exact List.not_mem_nil
  · exact List.not_mem_append (by decide) absent

theorem IsResult.exists_takes
    {result : Text} (isResult : IsResult result) (previous : Option Char) :
    ∃ remembered,
      Takes
        (inOrder
          [blanks,
            optional (inOrder [text "->", blanks, group 3 (seq (one (· != ':')) (few (· != ':')))]),
            blanks, char ':'])
        previous (result ++ [':']) rest remembered := by
  have noBlanks : ∀ c ∈ ([] : Text), Text.isBlank c = true := List.forall_mem_nil _
  have ending :
      ∀ previous, ∃ remembered,
        Takes (inOrder [blanks, char ':']) previous ([] ++ [':']) rest remembered :=
    fun _ => exists_takes_onward [] ⟨[], noBlanks, rfl⟩ ⟨[], takes_char.2 ⟨rfl, rfl⟩⟩
  rcases isResult with rfl | ⟨type, rfl, nonempty, colon, _⟩
  · exact exists_takes_onward [] ⟨[], noBlanks, rfl⟩
      (exists_takes_onward [] ⟨[], Or.inr ⟨rfl, rfl⟩⟩ (ending _))
  · obtain ⟨c, content, rfl⟩ := List.exists_cons_of_ne_nil nonempty
    have plain := Text.forall_bne_of_not_mem colon
    have parts :
        " -> ".toList ++ c :: content ++ [':'] =
          [' '] ++ (("->".toList ++ ([' '] ++ ([c] ++ content))) ++ ([] ++ [':'])) := by
      simp
    rw [parts]
    refine exists_takes_onward [' '] ⟨[], forall_isBlank_space, rfl⟩
      (exists_takes_onward _ ?_ (ending _))
    obtain ⟨remembered, takes⟩ :
        ∃ remembered,
          Takes (inOrder [text "->", blanks, group 3 (seq (one (· != ':')) (few (· != ':')))])
            (lastOf previous [' ']) ("->".toList ++ ([' '] ++ ([c] ++ content)))
            ([] ++ [':'] ++ rest) remembered := by
      refine exists_takes_onward "->" ⟨[], (takes_text _).2 ⟨rfl, rfl⟩⟩ ?_
      refine exists_takes_onward [' '] ⟨[], forall_isBlank_space, rfl⟩ (exists_takes_group 3 ?_)
      exact ⟨[], takes_seq.2 ⟨[c], content, [], [],
        ⟨⟨c, plain c List.mem_cons_self, rfl⟩, rfl⟩,
        ⟨fun d member => plain d (List.mem_cons_of_mem c member), rfl⟩, rfl, rfl⟩⟩
    exact ⟨remembered, takes_optional.2 (Or.inl takes)⟩

include identifier closes

theorem occursIn_annotatedHead
    {result : Text} (isResult : IsResult result) :
    annotatedHead.occursIn
        ((front ++ ("def ".toList ++ name)) ++ '(' :: (arguments ++ ')' :: (result ++ [':']))) =
      true := by
  obtain ⟨remembered, takes⟩ :
      ∃ remembered,
        Takes annotatedHead (lastOf none front)
          ("def".toList ++ ([' '] ++ (name ++ ([] ++ (['('] ++ (arguments ++
            ([')'] ++ (result ++ [':']))))))))
          [] remembered := by
    refine exists_takes_onward "def" ⟨[], (takes_text _).2 ⟨rfl, rfl⟩⟩ ?_
    refine exists_takes_onward [' ']
      ⟨[], takes_gap.2 ⟨List.cons_ne_nil _ _, forall_isBlank_space, rfl⟩⟩ ?_
    refine exists_takes_onward name
      (exists_takes_group 1 ⟨[], takes_name_of_isIdentifier identifier _ _⟩) ?_
    refine exists_takes_onward [] ⟨[], List.forall_mem_nil _, rfl⟩ ?_
    refine exists_takes_onward ['('] ⟨[], takes_char.2 ⟨rfl, rfl⟩⟩ ?_
    refine exists_takes_onward arguments
      (exists_takes_group 2 ⟨[], Text.forall_bne_of_not_mem closes, rfl⟩) ?_
    exact exists_takes_onward [')'] ⟨[], takes_char.2 ⟨rfl, rfl⟩⟩ (isResult.exists_takes [] _)
  exact occursIn_iff.2 ⟨front, _, [], remembered, by simp, takes⟩

include opens

/-- A head whose types follow the names is read back. -/
theorem reads_annotated
    {result : Text} (isResult : IsResult result)
    (headless : isHeadless annotatedHeads front = true) :
    Reads .python
      (front ++ ("def " ++ (name ++ '(' :: (arguments ++ ')' :: (result ++ ':' :: rest))))) name
      (parameterNames .python arguments) := by
  have flatFront : '(' ∉ "def ".toList ++ name :=
    List.not_mem_append (by decide) (not_mem_of_isIdentifier identifier (by decide))
  have flat : '(' ∉ arguments ++ ')' :: (result ++ [':']) := by
    simp only [List.mem_append, List.mem_cons, not_or]
    exact ⟨opens, by decide, not_mem_of_isResult isResult, by decide, List.not_mem_nil⟩
  have ahead : (lastName (front ++ ("def ".toList ++ name))).1 = name := by
    have parts :
        front ++ ("def ".toList ++ name) = (front ++ "def".toList) ++ ([' '] ++ (name ++ [])) := by
      simp
    rw [parts, (isNamed_of_isIdentifier identifier (List.forall_mem_nil _)).lastName]
  have reads :=
    reads_annotatedHead rest flat closes (isHeadless_append_of_not_mem headless flatFront)
      (occursIn_annotatedHead identifier closes isResult)
  rw [ahead] at reads
  simpa only [List.append_assoc, List.cons_append, List.nil_append] using reads

/-! ## No types -/

omit identifier opens in
theorem exists_takes_arguments
    (number : Nat) (previous : Option Char) :
    ∃ remembered,
      Takes (inOrder [char '(', group number (many (· != ')')), char ')']) previous
        (['('] ++ (arguments ++ [')'])) rest remembered := by
  refine exists_takes_onward ['('] ⟨[], takes_char.2 ⟨rfl, rfl⟩⟩ ?_
  exact exists_takes_onward arguments
    (exists_takes_group number ⟨[], Text.forall_bne_of_not_mem closes, rfl⟩)
    ⟨[], takes_char.2 ⟨rfl, rfl⟩⟩

omit opens in
theorem occursIn_declaredHead :
    untypedHead.occursIn
        ((front ++ ("function ".toList ++ name)) ++ '(' :: (arguments ++ [')'])) =
      true := by
  obtain ⟨remembered, takes⟩ :
      ∃ remembered,
        Takes declaredHead (lastOf none front)
          ("function".toList ++ ([' '] ++ (name ++ ([] ++ (['('] ++ (arguments ++ [')']))))))
          [] remembered := by
    refine exists_takes_onward "function" ⟨[], (takes_text _).2 ⟨rfl, rfl⟩⟩ ?_
    refine exists_takes_onward [' ']
      ⟨[], takes_gap.2 ⟨List.cons_ne_nil _ _, forall_isBlank_space, rfl⟩⟩ ?_
    refine exists_takes_onward name
      (exists_takes_group 1
        ⟨[], takes_dollarName_of_takes_name (takes_name_of_isIdentifier identifier _ _)⟩) ?_
    exact exists_takes_onward [] ⟨[], List.forall_mem_nil _, rfl⟩
      (exists_takes_arguments [] closes 2 _)
  exact occursIn_iff.2 ⟨front, _, [], remembered, by simp, Or.inl takes⟩

omit opens closes in
theorem untypedName?_declared :
    untypedName? (front ++ ("function ".toList ++ name)) = some name := by
  have parts :
      front ++ ("function ".toList ++ name) =
        (front ++ "function".toList) ++ ([' '] ++ (name ++ [])) := by
    simp
  rw [untypedName?, parts, (isNamed_of_isIdentifier identifier (List.forall_mem_nil _)).lastName,
    List.append_assoc]
  exact if_pos (endsInWord_append front (by decide) forall_isBlank_space)

/-- A function that is declared without types is read back. -/
theorem reads_declared
    (headless : isHeadless untypedHeads front = true) :
    Reads .javaScript (front ++ ("function " ++ (name ++ '(' :: (arguments ++ ')' :: rest)))) name
      (parameterNames .javaScript arguments) := by
  have flatFront : '(' ∉ "function ".toList ++ name :=
    List.not_mem_append (by decide) (not_mem_of_isIdentifier identifier (by decide))
  have flat : '(' ∉ arguments ++ [')'] := List.not_mem_append opens (by decide)
  have reads :=
    reads_untypedHead rest flat closes (untypedName?_declared identifier)
      (isHeadless_append_of_not_mem headless flatFront) (occursIn_declaredHead identifier closes)
  simpa only [List.append_assoc, List.cons_append, List.nil_append] using reads

omit opens in
theorem occursIn_boundHead :
    untypedHead.occursIn
        ((front ++ ("var ".toList ++ (name ++ " = function".toList))) ++
          '(' :: (arguments ++ [')'])) =
      true := by
  obtain ⟨remembered, takes⟩ :
      ∃ remembered,
        Takes boundHead (lastOf none front)
          ("var".toList ++ ([' '] ++ (name ++ ([' '] ++ (['='] ++ ([' '] ++
            (("function".toList ++ []) ++ (['('] ++ (arguments ++ [')'])))))))))
          [] remembered := by
    refine exists_takes_onward "var" ⟨[], takes_oneOf.2 ⟨List.mem_cons_self, rfl⟩⟩ ?_
    refine exists_takes_onward [' ']
      ⟨[], takes_gap.2 ⟨List.cons_ne_nil _ _, forall_isBlank_space, rfl⟩⟩ ?_
    refine exists_takes_onward name
      (exists_takes_group 3
        ⟨[], takes_dollarName_of_takes_name (takes_name_of_isIdentifier identifier _ _)⟩) ?_
    refine exists_takes_onward [' '] ⟨[], forall_isBlank_space, rfl⟩ ?_
    refine exists_takes_onward ['='] ⟨[], takes_char.2 ⟨rfl, rfl⟩⟩ ?_
    refine exists_takes_onward [' '] ⟨[], forall_isBlank_space, rfl⟩ ?_
    refine exists_takes_onward _ ⟨[], takes_optional.2 (Or.inl ?_)⟩
      (exists_takes_arguments [] closes 4 _)
    exact takes_inOrder_onward "function" ((takes_text _).2 ⟨rfl, rfl⟩)
      ⟨List.forall_mem_nil _, rfl⟩
  exact occursIn_iff.2 ⟨front, _, [], remembered, by simp, Or.inr takes⟩

omit opens closes in
theorem untypedName?_bound :
    untypedName? (front ++ ("var ".toList ++ (name ++ " = function".toList))) = some name := by
  have parts :
      front ++ ("var ".toList ++ (name ++ " = function".toList)) =
        (front ++ ("var".toList ++ ([' '] ++ (name ++ [' ']))) ++ '=' :: [' ']) ++
          ("function".toList ++ []) := by
    simp
  rw [parts, untypedName?_function _ forall_isBlank_space (List.forall_mem_nil _)]
  exact boundName?_append front (by decide)
    (isNamed_of_isIdentifier identifier forall_isBlank_space) forall_isBlank_space

/-- A function without types that is bound to a name is read back. -/
theorem reads_bound
    (headless : isHeadless untypedHeads front = true) :
    Reads .javaScript
      (front ++ ("var " ++ (name ++ (" = function" ++ '(' :: (arguments ++ ')' :: rest))))) name
      (parameterNames .javaScript arguments) := by
  have flatFront : '(' ∉ "var ".toList ++ (name ++ " = function".toList) :=
    List.not_mem_append (by decide)
      (List.not_mem_append (not_mem_of_isIdentifier identifier (by decide)) (by decide))
  have flat : '(' ∉ arguments ++ [')'] := List.not_mem_append opens (by decide)
  have reads :=
    reads_untypedHead rest flat closes (untypedName?_bound identifier)
      (isHeadless_append_of_not_mem headless flatFront) (occursIn_boundHead identifier closes)
  simpa only [List.append_assoc, List.cons_append, List.nil_append] using reads

/-! ## Types ahead of names -/

/-- A type behind a blank, up to the name that has it. -/
def spacedType : Pattern :=
  inOrder [char ' ', group 1 typeText, group 2 typeSeparator, textEnd]

/-- Whether a text ends with a type between blanks, and with no word that is no type. -/
def isSpacedType (type : Text) : Bool :=
  spacedType.occursIn type && !type.contains '(' &&
    notReturnTypes.all fun word => !word.isSuffixOf (Text.dropEndWhile isTypeBorder type)

omit identifier opens closes in
/-- What the type and the separator at the end of a text are taken for. -/
theorem exists_of_occursIn_spacedType
    {type : Text} (occurs : spacedType.occursIn type = true) :
    ∃ ahead word separator,
      type = ahead ++ ' ' :: (word ++ separator) ∧
        (∀ behind, ∃ remembered, Takes typeText (some ' ') word behind remembered) ∧
          ∀ behind, ∃ remembered,
            Takes typeSeparator (lastOf (some ' ') word) separator behind remembered := by
  obtain ⟨ahead, piece, behind, remembered, whole, takes⟩ := occursIn_iff.1 occurs
  obtain ⟨_, _, _, _, isBlank, atWord, rfl, _⟩ := takes_inOrder_cons.1 takes
  obtain ⟨word, _, _, _, isWord, atSeparator, rfl, _⟩ := takes_inOrder_cons.1 atWord
  obtain ⟨separator, _, _, _, isSeparator, ⟨atEnd, rfl, _⟩, rfl, _⟩ :=
    takes_inOrder_cons.1 atSeparator
  obtain ⟨rfl, _⟩ := takes_char.1 isBlank
  obtain ⟨_, takesWord, _⟩ := takes_group.1 isWord
  obtain ⟨_, takesSeparator, _⟩ := takes_group.1 isSeparator
  refine ⟨ahead, word, separator, ?_, fun other => ⟨_, takes_of_ignoresRest rfl other takesWord⟩,
    fun other => ⟨_, takes_of_ignoresRest rfl other takesSeparator⟩⟩
  rw [whole, atEnd]
  simp

section Spaced

variable {type : Text} (occursType : spacedType.occursIn type = true)
variable {space : Text} (spaceBlank : ∀ c ∈ space, Text.isBlank c = true)
include occursType

omit identifier opens closes in
/-- A word without blanks that does not end the type does not end a longer text either. -/
theorem not_suffix_append
    {word : Text} (solid : ' ' ∉ word) (absent : ¬word <:+ Text.dropEndWhile isTypeBorder type) :
    ¬word <:+ Text.dropEndWhile isTypeBorder (front ++ type) := by
  obtain ⟨ahead, typed, separator, rfl, takesWord, takesSeparator⟩ :=
    exists_of_occursIn_spacedType occursType
  obtain ⟨_, wordTaken⟩ := takesWord []
  obtain ⟨_, separatorTaken⟩ := takesSeparator []
  obtain ⟨_, ends, _⟩ := exists_of_takes_typeText wordTaken
  obtain ⟨_, borders, _⟩ := exists_of_takes_typeSeparator separatorTaken
  have dropped :
      ∀ start : Text,
        Text.dropEndWhile isTypeBorder (start ++ ' ' :: (typed ++ separator)) =
          start ++ ' ' :: typed := by
    intro start
    have spaced := dropEndWhile_type ends borders (start ++ [' '])
    rw [List.append_assoc, List.append_assoc] at spaced
    exact spaced
  rw [dropped] at absent
  rw [← List.append_assoc, dropped]
  intro suffix
  rcases List.suffix_or_suffix_of_suffix suffix (List.suffix_append _ _) with short | long
  · exact absent (short.trans (List.suffix_append ahead _))
  · exact solid (long.subset List.mem_cons_self)

omit opens closes in
include identifier spaceBlank in
theorem lastName_spacedType :
    lastName (front ++ (type ++ (name ++ space))) = (name, front ++ type) := by
  obtain ⟨ahead, word, separator, rfl, _, takesSeparator⟩ :=
    exists_of_occursIn_spacedType occursType
  obtain ⟨_, takes⟩ := takesSeparator []
  obtain ⟨_, _, outside, _⟩ := exists_of_takes_typeSeparator takes
  rw [← List.append_assoc]
  exact lastName_append spaceBlank
    (endsOutside_append _ (endsOutside_append _ (endsOutside_append (' ' :: word) outside)))
    (Name.ne_nil_of_isIdentifier identifier) (isDollarName_of_isIdentifier identifier)

include identifier spaceBlank opens closes

theorem occursIn_typedHead :
    typedHead.occursIn
        ((front ++ (type ++ (name ++ space))) ++ '(' :: (arguments ++ [')'])) =
      true := by
  obtain ⟨ahead, word, separator, rfl, takesWord, takesSeparator⟩ :=
    exists_of_occursIn_spacedType occursType
  obtain ⟨remembered, takes⟩ :
      ∃ remembered,
        Takes typedHead (lastOf none (front ++ ahead))
          ([' '] ++ (word ++ (separator ++ (name ++ (space ++ (['('] ++ (arguments ++ [')'])))))))
          [] remembered := by
    refine exists_takes_onward [' '] ⟨[], Or.inr ⟨⟨' ', by decide, rfl⟩, rfl⟩⟩ ?_
    refine exists_takes_onward word (exists_takes_group 1 (takesWord _)) ?_
    refine exists_takes_onward separator (exists_takes_group 2 (takesSeparator _)) ?_
    refine exists_takes_onward name
      (exists_takes_group 3 ⟨[], takes_name_of_isIdentifier identifier _ _⟩) ?_
    refine exists_takes_onward space ⟨[], spaceBlank, rfl⟩ ?_
    refine exists_takes_onward ['('] ⟨[], takes_char.2 ⟨rfl, rfl⟩⟩ ?_
    refine exists_takes_onward arguments (exists_takes_group 4 ⟨[], fun c member => ?_, rfl⟩)
      ⟨[], takes_char.2 ⟨rfl, rfl⟩⟩
    exact Bool.and_eq_true_iff.2
      ⟨Text.forall_bne_of_not_mem opens c member, Text.forall_bne_of_not_mem closes c member⟩
  exact occursIn_iff.2 ⟨front ++ ahead, _, [], remembered, by simp, takes⟩

end Spaced

/-- A head whose types stand ahead of the names is read back. -/
theorem reads_typed
    {type : Text} (spaced : isSpacedType type = true) (named : name ≠ "Solution") {space : Text}
    (spaceBlank : ∀ c ∈ space, Text.isBlank c = true)
    (headless : isHeadless typedHeads front = true) :
    Reads .java
      (front ++ (type ++ (name ++ (space ++ '(' :: (arguments ++ ')' :: rest))))) name
      (parameterNames .java arguments) := by
  rw [isSpacedType, Bool.and_eq_true, Bool.and_eq_true, Bool.not_eq_true', ← Bool.not_eq_true,
    List.contains_iff_mem, List.all_eq_true] at spaced
  obtain ⟨⟨occursType, flatType⟩, noWord⟩ := spaced
  have flatFront : '(' ∉ type ++ (name ++ space) :=
    List.not_mem_append flatType
      (List.not_mem_append (not_mem_of_isIdentifier identifier (by decide))
        (not_mem_of_blank spaceBlank))
  have flat : '(' ∉ arguments ++ [')'] := List.not_mem_append opens (by decide)
  have ahead : lastName (front ++ (type ++ (name ++ space))) = (name, front ++ type) :=
    lastName_spacedType identifier occursType spaceBlank
  have typed :
      ∀ word ∈ notReturnTypes, ¬word <:+ typeAhead (front ++ (type ++ (name ++ space))) := by
    intro word member
    have solid : ' ' ∉ word := by
      have allSolid : notReturnTypes.all (fun word => !word.contains ' ') = true := by decide
      have noBlank := List.all_eq_true.1 allSolid word member
      rw [Bool.not_eq_true', ← Bool.not_eq_true, List.contains_iff_mem] at noBlank
      exact noBlank
    have absent := noWord word member
    rw [Bool.not_eq_true', ← Bool.not_eq_true, List.isSuffixOf_iff_suffix] at absent
    rw [typeAhead, ahead]
    exact not_suffix_append occursType solid absent
  have reads :=
    reads_typedHead rest flat closes (isHeadless_append_of_not_mem headless flatFront)
      (occursIn_typedHead identifier opens closes occursType spaceBlank)
      (by rw [ahead]; exact named) typed
  rw [ahead] at reads
  simpa only [List.append_assoc, List.cons_append, List.nil_append] using reads

end Written

/-! ## C++ -/

theorem parameterNames_cpp
    (arguments : Text) :
    parameterNames .cpp arguments = parameterNames .java arguments :=
  rfl

/-- C++ is read like Java. -/
theorem reads_cpp_iff
    {text name : Text} {params : List (Option Text)} :
    Reads .cpp text name params ↔ Reads .java text name params :=
  Iff.rfl

end Kata.Prototype
