import Kata.Proofs.Prototype.Commented
import Kata.Proofs.Prototype.Leads
import Kata.Proofs.Template.Readable

/-!
# Prototypes that are read back

A prototype that is written in the way of a language is read back from the first to the last: its
name, its parameters with their names, and all types as far as the spellings of the language tell
them.
-/

namespace Kata.Prototype

open Detection (takes_name_of_isIdentifier)
open Pattern
open Template (hasSolidEnds_name isOnePart_name isOwnParameter_annotated isPart isPart_annotated
  isPart_typedParameter isParameterType_written isTame isTame_append isTame_joinWith
  isTame_of_isPlain isTame_typedParameter isTame_written isUnqualified_written not_mem_inPython
  not_mem_of_isTame readTypedParameter_typedParameter)

/-! ## Writing prototypes -/

/-- A parameter as a language writes it. -/
def writtenParameter (language : Language) (param : Schema.Param) : Text :=
  match language with
  | .python => param.name ++ (": " ++ param.type.inPython)
  | .javaScript => param.name
  | .java | .cpp => Template.typedParameter (param.type.written language .parameter) param.name

/-- The parameters as a language writes them, in Python behind the receiver. -/
def writtenParameters (language : Language) (params : List Schema.Param) : List Text :=
  (if language = .python then ["self".toList] else []) ++ params.map (writtenParameter language)

/-- The parameter list of a prototype. -/
def parameterList (language : Language) (schema : Schema) : Text :=
  Text.joinWith ", " (writtenParameters language schema.params)

/-- The type of the result as a language writes it. -/
def resultType (language : Language) (schema : Schema) : Text :=
  schema.returnType.written language .value

/-- The prototype of a function as a language writes it. -/
def written (language : Language) (name : Text) (schema : Schema) : Text :=
  match language with
  | .java | .cpp =>
    resultType language schema ++ " " ++ name ++ "(" ++ parameterList language schema ++ ")"
  | .python =>
    "def " ++ name ++ "(" ++ parameterList .python schema ++ ") -> " ++
      resultType .python schema ++ ":"
  | .javaScript =>
    "/**\n" ++ schema.params.flatMap Template.javaScriptParameter ++ " * @return \x7b" ++
      resultType .javaScript schema ++ "\x7d\n */\nvar " ++ name ++ " = function(" ++
      parameterList .javaScript schema ++ ") \x7b"

/-- What the spellings of a language tell about a function. -/
def spelled (language : Language) (name : Text) (schema : Schema) : Prototype :=
  { name? := some name
    parameters :=
      schema.params.map fun param =>
        ⟨some param.name, DataType.ofSpelling? (param.type.written language .parameter)⟩
    returnType? := DataType.ofSpelling? (resultType language schema) }

/-! ## Parameter lists -/

theorem isPart_writtenParameter
    {param : Schema.Param} (identifier : Name.isIdentifier param.name = true)
    (language : Language) :
    isPart (writtenParameter language param) = true := by
  cases language with
  | python => exact isPart_annotated identifier param.type
  | javaScript =>
      rw [writtenParameter, isPart, isOnePart_name identifier, hasSolidEnds_name identifier]
      rfl
  | java => exact isPart_typedParameter (isParameterType_written param.type).1 identifier
  | cpp => exact isPart_typedParameter (isParameterType_written param.type).2 identifier

theorem isTame_writtenParameter
    {param : Schema.Param} (identifier : Name.isIdentifier param.name = true)
    (language : Language) :
    isTame (writtenParameter language param) = true := by
  have plain := Name.isPlain_of_isIdentifier identifier
  cases language with
  | python =>
      have type : isTame param.type.inPython = true := isTame_written .python .value param.type
      rw [writtenParameter, isTame_append, isTame_append, isTame_of_isPlain plain, type]
      rfl
  | javaScript => exact isTame_of_isPlain plain
  | java => exact isTame_typedParameter (isTame_written .java .parameter param.type) plain
  | cpp => exact isTame_typedParameter (isTame_written .cpp .parameter param.type) plain

theorem mem_writtenParameters
    {language : Language} {params : List Schema.Param} {part : Text}
    (member : part ∈ writtenParameters language params) :
    part = "self" ∨ ∃ param ∈ params, part = writtenParameter language param := by
  rcases List.mem_append.1 member with receiver | written
  · split at receiver
    · exact Or.inl (List.mem_singleton.1 receiver)
    · exact absurd receiver List.not_mem_nil
  · obtain ⟨param, paramMember, rfl⟩ := List.mem_map.1 written
    exact Or.inr ⟨param, paramMember, rfl⟩

section Schema

variable {schema : Schema} (identifiers : schema.HasIdentifiers)
include identifiers

/-- The parameter list of a prototype is split into its parameters. -/
theorem splitTopLevel_parameterList
    (language : Language) :
    splitTopLevel (parameterList language schema) = writtenParameters language schema.params := by
  have parts : ∀ part ∈ writtenParameters language schema.params, isPart part = true := by
    intro part member
    rcases mem_writtenParameters member with rfl | ⟨param, paramMember, rfl⟩
    · decide
    · exact isPart_writtenParameter (identifiers param paramMember) language
  simp only [isPart, Bool.and_eq_true] at parts
  exact splitTopLevel_joinWith (fun part member => (parts part member).1) fun part member =>
    ⟨Text.ne_nil_of_solid (parts part member).2, Text.trim_of_solid (parts part member).2⟩

theorem isTame_parameterList
    (language : Language) :
    isTame (parameterList language schema) = true := by
  refine isTame_joinWith (by decide) fun part member => ?_
  rcases mem_writtenParameters member with rfl | ⟨param, paramMember, rfl⟩
  · decide
  · exact isTame_writtenParameter (identifiers param paramMember) language

theorem not_mem_parameterList
    (language : Language) :
    '(' ∉ parameterList language schema ∧ ')' ∉ parameterList language schema :=
  ⟨not_mem_of_isTame (isTame_parameterList identifiers language) (by decide),
    not_mem_of_isTame (isTame_parameterList identifiers language) (by decide)⟩

end Schema

/-! ## Types ahead of names -/

/-- A type and what separates it from the name of a function. -/
def resultStart : Pattern :=
  inOrder [group 1 typeText, group 2 typeSeparator, textEnd]

/-- Whether a type is read as that of a result. -/
def isResultType (type : Text) : Bool :=
  (matchAt? resultStart (Place.start (type ++ [' ']))).isSome &&
    !notReturnTypes.contains (Text.trim (typePart (type ++ [' ']))) &&
      typePart (type ++ [' ']) ++ Text.trim (borderPart (type ++ [' '])) == type

theorem isResultType_written
    {language : Language} (typed : isTyped language = true) (type : DataType) :
    isResultType (type.written language .value) = true := by
  cases language with
  | python => exact absurd typed (by decide)
  | javaScript => exact absurd typed (by decide)
  | java => cases type <;> decide +kernel
  | cpp => cases type <;> decide +kernel

section Typed

variable {name result : Text} (identifier : Name.isIdentifier name = true)
variable (isResult : isResultType result = true)
include identifier isResult

/-- The type of the result and the name are all of the beginning of a head. -/
theorem exists_takes_typedStart :
    ∃ remembered, Takes typedStart none (result ++ ' ' :: name) [] remembered := by
  rw [isResultType, Bool.and_eq_true, Bool.and_eq_true] at isResult
  obtain ⟨found, matched⟩ := Option.isSome_iff_exists.1 isResult.1.1
  obtain ⟨piece, ⟨whole, takes⟩, _⟩ := exists_of_matchAt? (LiesBehind.start _) matched
  obtain ⟨type, _, _, _, isType, atBorder, rfl, _⟩ := takes_inOrder_cons.1 takes
  obtain ⟨border, _, _, _, isBorder, ⟨atEnd, rfl, _⟩, rfl, _⟩ := takes_inOrder_cons.1 atBorder
  obtain ⟨_, takesType, _⟩ := takes_group.1 isType
  obtain ⟨_, takesBorder, _⟩ := takes_group.1 isBorder
  have parts : result ++ ' ' :: name = [] ++ (type ++ (border ++ (name ++ ([] ++ [])))) := by
    have ahead : result ++ [' '] = type ++ border := by
      rw [whole, atEnd]
      simp
    rw [List.append_cons, ahead]
    simp
  rw [parts]
  refine exists_takes_onward [] ⟨[], Or.inl ⟨rfl, rfl, rfl⟩⟩ ?_
  refine exists_takes_onward type
    (exists_takes_group 1 ⟨_, takes_of_ignoresRest rfl _ takesType⟩) ?_
  refine exists_takes_onward border
    (exists_takes_group 2 ⟨_, takes_of_ignoresRest rfl _ takesBorder⟩) ?_
  refine exists_takes_onward name
    (exists_takes_group 3 ⟨[], takes_name_of_isIdentifier identifier _ _⟩) ?_
  exact exists_takes_onward [] ⟨[], List.forall_mem_nil _, rfl⟩ ⟨[], rfl, rfl, rfl⟩

/-- What is found ahead of a bracket behind the type of the result and the name. -/
theorem exists_search?_typedStart :
    ∃ start,
      typedStart.search? (result ++ ' ' :: name) = some start ∧ start.text? 3 = some name ∧
        start.textOf 1 = typePart (result ++ [' ']) ∧
          start.textOf 2 = borderPart (result ++ [' ']) := by
  obtain ⟨_, takes⟩ := exists_takes_typedStart identifier isResult
  have here : TakesAt typedStart (result ++ ' ' :: name) [] (result ++ ' ' :: name) [] _ :=
    ⟨by simp, takes⟩
  obtain ⟨start, searched⟩ :=
    Option.isSome_iff_exists.1 (occursIn_iff.2 ⟨[], _, [], _, here⟩)
  obtain ⟨ahead, lead, found, first⟩ := exists_first_of_search? searched
  obtain rfl := List.length_eq_zero_iff.1 (Nat.le_zero.1 (first here))
  obtain ⟨atEnd, takesLead⟩ := takes_typedStart.1 found.takes
  have whole := found.whole
  rw [atEnd, List.append_nil, List.nil_append] at whole
  obtain rfl := whole.symm
  have last : lastName (result ++ ' ' :: name) = (name, result ++ [' ']) := by
    have named := (isNamed_of_isIdentifier identifier (List.forall_mem_nil _)).lastName result
    rw [List.append_nil] at named
    exact named
  have remembers := remembered_of_takes_typedLead takesLead
  rw [rememberedLead, last] at remembers
  refine ⟨start, searched, ?_, ?_, ?_⟩
  all_goals
    simp only [Match.textOf, text?_eq_lookup, remembers]
    rfl

end Typed

/-! ## Types behind names -/

/-- A type ahead of a colon is told up to the blanks around it. -/
theorem ofSpelling?_ahead_of_colon
    {gap type late result rest : Text} (gapBlank : ∀ c ∈ gap, Text.isBlank c = true)
    (lateBlank : ∀ c ∈ late, Text.isBlank c = true) (typeFlat : ':' ∉ type) (flat : ':' ∉ result)
    (whole : gap ++ (type ++ (late ++ ':' :: rest)) = ' ' :: (result ++ [':'])) :
    DataType.ofSpelling? type = DataType.ofSpelling? result := by
  have noColon : ∀ {space : Text}, (∀ c ∈ space, Text.isBlank c = true) → ':' ∉ space :=
    fun blank member => absurd (blank ':' member) (by decide)
  have leftFlat : ':' ∉ gap ++ (type ++ late) :=
    List.not_mem_append (noColon gapBlank) (List.not_mem_append typeFlat (noColon lateBlank))
  have rightFlat : ':' ∉ ' ' :: result := List.not_mem_cons_of_ne_of_not_mem (by decide) flat
  have atColon : (gap ++ (type ++ late)) ++ ':' :: rest = (' ' :: result) ++ [':'] := by
    simpa using whole
  obtain ⟨same, _⟩ :=
    Text.run_append_inj (Text.forall_bne_of_not_mem leftFlat)
      (Text.forall_bne_of_not_mem rightFlat) atColon rfl rfl
  have parts := congrArg DataType.withoutBlanks same
  rw [DataType.withoutBlanks_append, DataType.withoutBlanks_append,
    DataType.withoutBlanks_of_blank gapBlank, DataType.withoutBlanks_of_blank lateBlank,
    List.append_nil, List.nil_append] at parts
  exact DataType.ofSpelling?_congr (parts.trans (List.filter_cons_of_neg (by decide)))

/-- The type behind the parameters, up to blanks. -/
theorem exists_lookup_annotatedEnding
    {previous : Option Char} {result piece rest : Text} {remembered : Remembered}
    (flat : ':' ∉ result) (whole : piece ++ rest = " -> ".toList ++ (result ++ [':']))
    (takes : Takes annotatedEnding previous piece rest remembered) :
    ∃ type,
      remembered.lookup 3 = some type ∧
        DataType.ofSpelling? type = DataType.ofSpelling? result := by
  obtain ⟨early, _, _, _, ⟨earlyBlank, rfl⟩, atArrow, rfl, rfl⟩ := takes_inOrder_cons.1 takes
  obtain ⟨arrow, _, _, _, isArrow, atEnd, rfl, rfl⟩ := takes_inOrder_cons.1 atArrow
  obtain ⟨late, _, _, _, ⟨lateBlank, rfl⟩, isColon, rfl, rfl⟩ := takes_inOrder_cons.1 atEnd
  obtain ⟨rfl, rfl⟩ := takes_char.1 (takes_inOrder_singleton.1 isColon)
  rcases takes_optional.1 isArrow with present | ⟨rfl, _⟩
  · obtain ⟨_, _, _, _, isSign, atGap, rfl, rfl⟩ := takes_inOrder_cons.1 present
    obtain ⟨gap, _, _, _, ⟨gapBlank, rfl⟩, isGroup, rfl, rfl⟩ := takes_inOrder_cons.1 atGap
    obtain ⟨rfl, rfl⟩ := (takes_text _).1 isSign
    obtain ⟨_, isType, rfl⟩ := takes_group.1 (takes_inOrder_singleton.1 isGroup)
    obtain ⟨_, others, _, _, ⟨⟨c, first, rfl⟩, rfl⟩, ⟨chars, rfl⟩, rfl, rfl⟩ := takes_seq.1 isType
    have atSign :
        early ++ '-' :: '>' :: (gap ++ (([c] ++ others) ++ (late ++ ':' :: rest))) =
          [' '] ++ '-' :: '>' :: ' ' :: (result ++ [':']) := by
      simpa using whole
    obtain ⟨_, onward⟩ := Text.run_append_inj earlyBlank forall_isBlank_space atSign rfl rfl
    have typeFlat : ':' ∉ [c] ++ others := by
      intro member
      rcases List.mem_append.1 member with isFirst | isOther
      · rw [← List.mem_singleton.1 isFirst] at first
        exact absurd first (by decide)
      · exact absurd (chars ':' isOther) (by decide)
    have behindSign := (List.cons.inj (List.cons.inj onward).2).2
    exact ⟨[c] ++ others, rfl,
      ofSpelling?_ahead_of_colon gapBlank lateBlank typeFlat flat behindSign⟩
  · -- Without an arrow the colon would stand directly behind blanks.
    have blank : ∀ c ∈ early ++ late, Text.isBlank c = true :=
      List.forall_mem_append.2 ⟨earlyBlank, lateBlank⟩
    have atSign :
        (early ++ late) ++ ':' :: rest = [' '] ++ '-' :: '>' :: ' ' :: (result ++ [':']) := by
      simpa using whole
    obtain ⟨_, onward⟩ := Text.run_append_inj blank forall_isBlank_space atSign rfl rfl
    exact absurd (List.cons.inj onward).1 (by decide)

/-- The head of a function whose types follow the names is found with all of its parts. -/
theorem exists_search?_annotatedHead
    {name arguments result : Text} (identifier : Name.isIdentifier name = true)
    (opens : '(' ∉ arguments) (closes : ')' ∉ arguments)
    (nonempty : result ≠ []) (flat : ':' ∉ result) (resultOpens : '(' ∉ result) :
    ∃ found type,
      annotatedHead.search?
          (("def ".toList ++ name) ++
            '(' :: (arguments ++ ')' :: (" -> ".toList ++ result ++ [':']))) =
        some found ∧
        found.text? 1 = some name ∧ found.text? 2 = some arguments ∧
          found.text? 3 = some type ∧ DataType.ofSpelling? type = DataType.ofSpelling? result := by
  have isResult : IsResult (" -> ".toList ++ result) :=
    Or.inr ⟨result, rfl, nonempty, flat, resultOpens⟩
  have aheadFlat : '(' ∉ "def ".toList ++ name :=
    List.not_mem_append (by decide) (not_mem_of_isIdentifier identifier (by decide))
  have innerFlat : '(' ∉ arguments ++ ')' :: (" -> ".toList ++ result ++ [':']) := by
    refine List.not_mem_append opens (List.not_mem_cons_of_ne_of_not_mem (by decide) ?_)
    exact List.not_mem_append (not_mem_of_isResult isResult) (by decide)
  have occurs :
      annotatedHead.occursIn
          (("def ".toList ++ name) ++
            '(' :: (arguments ++ ')' :: (" -> ".toList ++ result ++ [':']))) =
        true :=
    @occursIn_annotatedHead [] name arguments identifier closes _ isResult
  obtain ⟨found, searched⟩ := Option.isSome_iff_exists.1 occurs
  obtain ⟨front, _, takes, _⟩ := exists_first_of_search? searched
  obtain ⟨gap, other, space, inner, behind, rfl, named, innerClosed, isName, isInner, _, late,
    takesEnding, isLate⟩ := exists_of_takes_annotatedHead takes.takes
  -- There is only one bracket that the head can have.
  have whole :
      ("def ".toList ++ name) ++ '(' :: (arguments ++ ')' :: (" -> ".toList ++ result ++ [':'])) =
        (front ++ ("def".toList ++ (gap ++ (other ++ space)))) ++
          '(' :: (inner ++ ')' :: (behind ++ found.stop.rest)) := by
    rw [takes.whole]
    simp only [List.append_assoc, List.cons_append]
  obtain ⟨sameAhead, _, sameBehind⟩ :=
    (List.append_cons_inj_of_notMem aheadFlat innerFlat).1 whole
  obtain ⟨sameInner, sameEnding⟩ :=
    Text.run_append_inj (Text.forall_bne_of_not_mem closes) innerClosed sameBehind rfl rfl
  have sameName : other = name := by
    have last := congrArg (fun ahead => (lastName ahead).1) sameAhead
    have parts : "def ".toList ++ name = "def".toList ++ ([' '] ++ (name ++ [])) := by simp
    rw [parts, (isNamed_of_isIdentifier identifier (List.forall_mem_nil _)).lastName,
      ← List.append_assoc front, named.lastName] at last
    exact last.symm
  obtain ⟨type, isType, same⟩ :=
    exists_lookup_annotatedEnding flat
      ((List.cons.inj sameEnding).2.symm.trans (List.append_assoc _ _ _)) takesEnding
  refine ⟨found, type, searched, ?_, ?_, ?_, same⟩
  · rw [text?_eq_lookup, isName, sameName]
  · rw [text?_eq_lookup, isInner, sameInner]
  · rw [text?_eq_lookup, isLate, isType]

/-! ## Types in comments -/

theorem isNotable_inJavaScript
    (type : DataType) :
    isNotable type.inJavaScript = true := by
  cases type <;> decide

/-- The parameters as the comment notes them. -/
def notes (schema : Schema) : List Note :=
  schema.params.map fun param => ⟨param.name, param.type.inJavaScript⟩

theorem flatMap_javaScriptParameter
    (schema : Schema) :
    schema.params.flatMap Template.javaScriptParameter = (notes schema).flatMap Note.line := by
  rw [notes, List.flatMap_map]
  refine List.flatMap_congr fun param _ => ?_
  unfold Template.javaScriptParameter Note.line Note.content
  simp

/-! ## Reading prototypes -/

section Read

variable {schema : Schema} (identifiers : schema.HasIdentifiers)
include identifiers

theorem map_readTypedParameter
    {language : Language} (typed : isTyped language = true) :
    (writtenParameters language schema.params).map readTypedParameter =
      schema.params.map fun param =>
        ⟨some param.name, DataType.ofSpelling? (param.type.written language .parameter)⟩ := by
  have each :
      ∀ param ∈ schema.params,
        readTypedParameter (writtenParameter language param) =
          ⟨some param.name, DataType.ofSpelling? (param.type.written language .parameter)⟩ := by
    intro param member
    cases language with
    | python => exact absurd typed (by decide)
    | javaScript => exact absurd typed (by decide)
    | java =>
        exact readTypedParameter_typedParameter (isParameterType_written param.type).1
          (isUnqualified_written param.type).1 (identifiers param member)
    | cpp =>
        exact readTypedParameter_typedParameter (isParameterType_written param.type).2
          (isUnqualified_written param.type).2 (identifiers param member)
  have noReceiver : language ≠ .python := by
    rintro rfl
    exact absurd typed (by decide)
  rw [writtenParameters, if_neg noReceiver, List.nil_append, List.map_map]
  exact List.map_congr_left each

theorem map_readAnnotatedParameter :
    ((writtenParameters .python schema.params).filter isOwnParameter).map readAnnotatedParameter =
      schema.params.map fun param =>
        ⟨some param.name, DataType.ofSpelling? (param.type.written .python .parameter)⟩ := by
  have receiver : ¬isOwnParameter "self" = true := by decide
  have own :
      ∀ part ∈ schema.params.map (writtenParameter .python), isOwnParameter part = true := by
    intro part member
    obtain ⟨param, paramMember, rfl⟩ := List.mem_map.1 member
    exact isOwnParameter_annotated (identifiers param paramMember) param.type
  rw [writtenParameters, if_pos rfl, List.singleton_append, List.filter_cons_of_neg receiver,
    List.filter_eq_self.2 own, List.map_map]
  exact List.map_congr_left fun param member =>
    readAnnotatedParameter_append (identifiers param member) (not_mem_inPython param.type)

theorem isReadable_notes :
    ∀ note ∈ notes schema, note.IsReadable := by
  intro note member
  obtain ⟨param, paramMember, rfl⟩ := List.mem_map.1 member
  exact ⟨identifiers param paramMember, isNotable_inJavaScript param.type⟩

/-- No bracket stands in the comment. -/
theorem not_mem_comment :
    '(' ∉ "/**\n".toList ++ ((notes schema).flatMap Note.line ++
      (" * ".toList ++ '@' :: (resultContent (resultType .javaScript schema) ++
        "\n */\n".toList))) := by
  have plain := Template.hasPlainNames_of_hasIdentifiers identifiers
  have notesFlat : '(' ∉ (notes schema).flatMap Note.line := by
    rw [← flatMap_javaScriptParameter]
    intro inside
    obtain ⟨param, member, inParam⟩ := List.mem_flatMap.1 inside
    exact Template.not_mem_javaScriptParameter plain member inParam
  have resultFlat : '(' ∉ resultType .javaScript schema :=
    not_mem_of_isTame (isTame_written .javaScript .value schema.returnType) (by decide)
  have contentFlat : '(' ∉ resultContent (resultType .javaScript schema) :=
    List.not_mem_append (by decide) (List.not_mem_append resultFlat (by decide))
  refine List.not_mem_append (by decide) (List.not_mem_append notesFlat ?_)
  refine List.not_mem_append (by decide) (List.not_mem_cons_of_ne_of_not_mem (by decide) ?_)
  exact List.not_mem_append contentFlat (by decide)

theorem parameterNames_parameterList :
    parameterNames .javaScript (parameterList .javaScript schema) =
      (notes schema).map fun note => some note.name := by
  rw [parameterNames, splitTopLevel_parameterList identifiers, writtenParameters,
    if_neg (by decide), List.nil_append, notes, List.filterMap_map, List.map_map,
    ← List.filterMap_eq_map]
  exact List.filterMap_congr fun param member =>
    congrArg (some ∘ some) (name_of_withoutDefault (identifiers param member))

variable {name : Text} (identifier : Name.isIdentifier name = true)
include identifier

theorem readTyped?_written
    {language : Language} (typed : isTyped language = true) (named : name ≠ "Solution") :
    readTyped? (written language name schema) = some (spelled language name schema) := by
  have parts :
      written language name schema =
        (resultType language schema ++ ' ' :: name) ++
          '(' :: (parameterList language schema ++ ')' :: []) := by
    cases language with
    | python => exact absurd typed (by decide)
    | javaScript => exact absurd typed (by decide)
    | java =>
        unfold written
        simp
    | cpp =>
        unfold written
        simp
  have isResult := isResultType_written typed schema.returnType
  obtain ⟨start, searched, isName, isType, isBorder⟩ :=
    exists_search?_typedStart identifier isResult
  have resultFlat : '(' ∉ resultType language schema :=
    not_mem_of_isTame (isTame_written language .value schema.returnType) (by decide)
  have aheadFlat : '(' ∉ resultType language schema ++ ' ' :: name :=
    List.not_mem_append resultFlat (List.not_mem_cons_of_ne_of_not_mem (by decide)
      (not_mem_of_isIdentifier identifier (by decide)))
  obtain ⟨opens, closes⟩ := not_mem_parameterList identifiers language
  rw [isResultType, Bool.and_eq_true, Bool.and_eq_true, beq_iff_eq] at isResult
  have isHead : isFunctionHead start = true := by
    rw [isFunctionHead, isType, isResult.1.2, Match.textOf, isName]
    exact bne_iff_ne.2 named
  rw [parts, readTyped?_bracket aheadFlat opens closes List.not_mem_nil, resultType, searched,
    Option.filter_some, if_pos isHead, Option.map_some, isName, isType, isBorder, isResult.2,
    splitTopLevel_parameterList identifiers, map_readTypedParameter identifiers typed]
  rfl

theorem readAnnotated?_written :
    readAnnotated? (written .python name schema) = some (spelled .python name schema) := by
  have resultShape : resultType .python schema ≠ [] ∧ ':' ∉ resultType .python schema := by
    unfold resultType
    cases schema.returnType <;> decide
  have resultOpens : '(' ∉ resultType .python schema :=
    not_mem_of_isTame (isTame_written .python .value schema.returnType) (by decide)
  obtain ⟨opens, closes⟩ := not_mem_parameterList identifiers .python
  obtain ⟨found, type, searched, isName, isParameters, isType, same⟩ :=
    exists_search?_annotatedHead identifier opens closes resultShape.1 resultShape.2 resultOpens
  have parts :
      written .python name schema =
        ("def ".toList ++ name) ++ '(' :: (parameterList .python schema ++
          ')' :: (" -> ".toList ++ resultType .python schema ++ [':'])) := by
    unfold written
    simp
  rw [parts, readAnnotated?, searched, Option.map_some, isName, isType, Option.bind_some, same,
    Match.textOf, isParameters, Option.getD_some, splitTopLevel_parameterList identifiers,
    map_readAnnotatedParameter identifiers]
  rfl

/-- The comment and the head behind it name the same parameters. -/
theorem readCommented?_written
    (distinct : (schema.params.map Schema.Param.name).Nodup) :
    readCommented? (written .javaScript name schema) =
      some (spelled .javaScript name schema) := by
  have notable : isNotable (resultType .javaScript schema) = true :=
    isNotable_inJavaScript schema.returnType
  obtain ⟨opens, closes⟩ := not_mem_parameterList identifiers .javaScript
  -- The comment holds no bracket, so the head behind it is the first one.
  have reads :=
    reads_bound " \x7b" identifier opens closes
      (isHeadlessFrom_of_not_mem untypedHeads (not_mem_comment identifiers) [])
  have parts :
      written .javaScript name schema =
        commented "/**\n" (notes schema) (resultType .javaScript schema)
          ("\n */\n".toList ++ ("var ".toList ++ (name ++ (" = function".toList ++
            '(' :: (parameterList .javaScript schema ++ ')' :: " \x7b".toList))))) := by
    unfold written commented resultContent
    rw [flatMap_javaScriptParameter]
    simp
  have behindFree :
      '@' ∉ "\n */\n".toList ++ ("var ".toList ++ (name ++ (" = function".toList ++
        '(' :: (parameterList .javaScript schema ++ ')' :: " \x7b".toList)))) := by
    have listFree : '@' ∉ parameterList .javaScript schema :=
      not_mem_of_isTame (isTame_parameterList identifiers .javaScript) (by decide)
    refine List.not_mem_append (by decide) (List.not_mem_append (by decide) ?_)
    refine List.not_mem_append (not_mem_of_isIdentifier identifier (by decide)) ?_
    refine List.not_mem_append (by decide) (List.not_mem_cons_of_ne_of_not_mem (by decide) ?_)
    exact List.not_mem_append listFree (by decide)
  have names : ((notes schema).map Note.name).Nodup := by
    rw [notes, List.map_map]
    exact distinct
  rw [parts, readCommented?_commented notable behindFree (isReadable_notes identifiers) (by decide)
    names]
  · rw [spelled, notes, List.map_map]
    rfl
  · rw [parameterNames_parameterList identifiers] at reads
    unfold commented
    simpa only [List.append_assoc, List.cons_append] using reads

end Read

/-! ## Round trip -/

/-- Every prototype of the form of a language is read back with its name, with the names of its
parameters in their order, and with the types that the spellings stand for. -/
theorem written_is_read_back
    (language : Language) {schema : Schema} (identifiers : schema.HasIdentifiers)
    (distinct : (schema.params.map Schema.Param.name).Nodup) {name : Text}
    (identifier : Name.isIdentifier name = true) (named : name ≠ "Solution") :
    ofText? language (written language name schema) = some (spelled language name schema) := by
  cases language with
  | python => exact readAnnotated?_written identifiers identifier
  | javaScript => exact readCommented?_written identifiers identifier distinct
  | java => exact readTyped?_written identifiers identifier rfl named
  | cpp => exact readTyped?_written identifiers identifier rfl named

/-- A function with types of two words, with arguments and with marks. -/
def rankSchema : Schema :=
  { params := [{ name := "int", type := .longArray }, { name := "node", type := .listNode }]
    returnType := .long }

/-- In C++ its prototype is read back. -/
theorem written_is_read_back_rank :
    rankSchema.HasIdentifiers ∧ (rankSchema.params.map Schema.Param.name).Nodup ∧
      Name.isIdentifier "rank" = true ∧ ("rank" : Text) ≠ "Solution" ∧
        ofText? .cpp "long long rank(vector<long long>& int, ListNode* node)" =
          some
            { name? := some "rank"
              parameters := [⟨some "int", some .longArray⟩, ⟨some "node", some .listNode⟩]
              returnType? := some .long } := by
  have identifiers : rankSchema.HasIdentifiers := List.all_eq_true.1 (by decide)
  have distinct : (rankSchema.params.map Schema.Param.name).Nodup := by decide
  have identifier : Name.isIdentifier "rank" = true := by decide
  have named : ("rank" : Text) ≠ "Solution" := by decide
  refine ⟨identifiers, distinct, identifier, named, ?_⟩
  have read := written_is_read_back .cpp identifiers distinct identifier named
  have text :
      written .cpp "rank" rankSchema = "long long rank(vector<long long>& int, ListNode* node)" := by
    decide +kernel
  have shape :
      spelled .cpp "rank" rankSchema =
        { name? := some "rank"
          parameters := [⟨some "int", some .longArray⟩, ⟨some "node", some .listNode⟩]
          returnType? := some .long } := by
    decide +kernel
  rw [text, shape] at read
  exact read

end Kata.Prototype
