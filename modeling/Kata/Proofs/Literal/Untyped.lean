import Kata.Literal.Render
import Kata.Proofs.Literal.PythonWords
import Kata.Proofs.Value.RoundTrip

/-!
# Literals of no declared type

A value under the type `any` is written as the data of the type that its shape suggests, or else
as it is. In Python and JavaScript both come to the same text for every shape but one: a list of
lists is taken for a matrix of integers whatever its rows hold. So the literal carries the value,
except that the items of such rows have become integers.

The text is JSON in JavaScript, and becomes the same JSON in Python once its words are replaced.
-/

namespace Kata.Value

/-! ## What a literal carries -/

/-- An entry of a matrix: null, or the integer that a value is read as. -/
def entry (value : Value) : Value :=
  if value.isNull then null else int value.toInt

/-- A list of lists as a matrix of integers. -/
def matrix (rows : List Value) : Value :=
  list (rows.map fun row => list (row.items.map entry))

/-- The value that a literal of no declared type carries. -/
def carried : Value → Value
  | list items => if items.all DataType.isList then matrix items else list items
  | value => value

/-- Whether the rows of a list of lists hold nothing but integers and null. -/
def hasIntegralRows : Value → Bool
  | list items =>
    !items.all DataType.isList || items.all fun row => row.items.all DataType.isIntOrNull
  | _ => true

theorem entry_eq_iff
    (value : Value) :
    value.entry = value ↔ DataType.isIntOrNull value = true := by
  cases value <;> simp [entry, isNull, toInt, asInt?, DataType.isIntOrNull]

theorem map_eq_self_iff
    (f : Value → Value) (items : List Value) :
    items.map f = items ↔ ∀ item ∈ items, f item = item := by
  have identity : items.map f = items.map id ↔ ∀ item ∈ items, f item = id item :=
    List.map_inj_left
  rwa [List.map_id] at identity

theorem exists_of_isList
    {value : Value} (isList : DataType.isList value = true) :
    ∃ items, value = list items := by
  cases value with
  | list items => exact ⟨items, rfl⟩
  | _ => exact absurd isList Bool.false_ne_true

/-- The literal carries the value itself exactly when no row of it holds anything but integers
and null. -/
theorem carried_eq_iff
    (value : Value) :
    value.carried = value ↔ value.hasIntegralRows = true := by
  cases value with
  | list items =>
      by_cases rows : items.all DataType.isList = true
      · have each :
            ∀ row ∈ items,
              list (row.items.map entry) = row ↔ row.items.all DataType.isIntOrNull = true := by
          intro row member
          obtain ⟨inner, rfl⟩ := exists_of_isList (List.all_eq_true.1 rows row member)
          simp only [Value.items, list.injEq, map_eq_self_iff, entry_eq_iff, List.all_eq_true]
        simp only [carried, matrix, hasIntegralRows, rows, if_true, list.injEq, Bool.not_true,
          Bool.false_or, map_eq_self_iff]
        rw [List.all_eq_true]
        exact forall₂_congr each
      · simp [carried, hasIntegralRows, rows]
  | _ => simp [carried, hasIntegralRows]

theorem shape_entry
    (value : Value) :
    isFloatFree value.entry = true ∧ hasDistinctKeys value.entry = true ∧
      nesting value.entry = 0 := by
  rw [entry]
  split <;> exact ⟨rfl, rfl, rfl⟩

theorem forall_mem_matrix
    {rows : List Value} {property : Value → Prop}
    (each : ∀ row : Value, property (list (row.items.map entry))) :
    ∀ item ∈ rows.map fun row => list (row.items.map entry), property item := by
  rw [List.forall_mem_map]
  exact fun row _ => each row

theorem shape_matrix
    (rows : List Value) :
    isFloatFree (matrix rows) = true ∧ hasDistinctKeys (matrix rows) = true ∧
      nesting (matrix rows) ≤ 2 := by
  refine ⟨?_, ?_, ?_⟩
  · rw [matrix, isFloatFree, itemsAreFloatFree_iff]
    apply forall_mem_matrix
    intro row
    rw [isFloatFree, itemsAreFloatFree_iff, List.forall_mem_map]
    exact fun item _ => (shape_entry item).1
  · rw [matrix, hasDistinctKeys, itemsHaveDistinctKeys_iff]
    apply forall_mem_matrix
    intro row
    rw [hasDistinctKeys, itemsHaveDistinctKeys_iff, List.forall_mem_map]
    exact fun item _ => (shape_entry item).2.1
  · rw [matrix, nesting, Nat.succ_le_succ_iff, nestingOfItems_le_iff]
    apply forall_mem_matrix
    intro row
    rw [nesting, Nat.succ_le_succ_iff, nestingOfItems_le_iff, List.forall_mem_map]
    exact fun item _ => Nat.le_of_eq (shape_entry item).2.2

theorem shape_carried
    {value : Value} (free : isFloatFree value = true) (distinct : hasDistinctKeys value = true)
    (shallow : nesting value ≤ 127) :
    isFloatFree value.carried = true ∧ hasDistinctKeys value.carried = true ∧
      nesting value.carried ≤ 127 := by
  cases value with
  | list items =>
      rw [carried]
      split
      · obtain ⟨matrixFree, matrixDistinct, matrixShallow⟩ := shape_matrix items
        exact ⟨matrixFree, matrixDistinct, by omega⟩
      · exact ⟨free, distinct, shallow⟩
  | _ => exact ⟨free, distinct, shallow⟩

end Kata.Value

namespace Kata.Literal

open Value (isFloatFree)

/-! ## Typed data as it is -/

/-- The type by which a list is written under the type `any`: a list of integers and null stays
as it is. -/
theorem resolve_list
    (items : List Value) :
    Value.resolve (.list items) .any =
      if items.all DataType.isList then
        if items.isEmpty then .intArray else .intMatrix
      else if items.all DataType.isInt then
        if items.all DataType.isShortInt then .intArray else .longArray
      else if items.all DataType.isIntOrNull then .any
      else if items.all DataType.isNumber then .doubleArray
      else if items.all DataType.isBool then .booleanArray
      else if items.all DataType.isText then .stringArray
      else .any := by
  cases items with
  | nil => rfl
  | cons item items =>
      rw [Value.resolve, DataType.ofValue?, DataType.ofItems?]
      simp only [List.isEmpty_cons, Bool.false_eq_true, if_false, reduceCtorEq, false_and]
      split_ifs <;> rfl

section Settled

variable (words : Vocabulary)

theorem dynamicItems_eq_map
    (items : List Value) :
    words.dynamicItems items = items.map words.dynamic := by
  induction items with
  | nil => rfl
  | cons item items inductionHypothesis =>
      rw [Vocabulary.dynamicItems, inductionHypothesis, List.map_cons]

theorem array_eq_dynamic
    {element : DataType} {items : List Value}
    (each : ∀ item ∈ items, words.scalar element item = words.dynamic item) :
    words.array element (.list items) = words.dynamic (.list items) := by
  have pieces : items.map (words.scalar element) = items.map words.dynamic :=
    List.map_congr_left each
  rw [Vocabulary.dynamic, dynamicItems_eq_map, ← pieces]
  rfl

theorem scalar_int_eq_dynamic
    (value : Value) :
    words.scalar .int value = words.dynamic value.entry := by
  cases value <;> rfl

theorem scalar_eq_dynamic_of_isInt
    {value : Value} (isInt : DataType.isInt value = true) :
    words.scalar .int value = words.dynamic value ∧
      words.scalar .long value = words.dynamic value := by
  cases value with
  | int n => exact ⟨rfl, rfl⟩
  | _ => exact absurd isInt Bool.false_ne_true

theorem scalar_eq_dynamic_of_isBool
    {value : Value} (isBool : DataType.isBool value = true) :
    words.scalar .boolean value = words.dynamic value := by
  cases value with
  | bool b => rfl
  | _ => exact absurd isBool Bool.false_ne_true

theorem scalar_eq_dynamic_of_isText
    {value : Value} (isText : DataType.isText value = true) :
    words.scalar .string value = words.dynamic value := by
  cases value with
  | text t => rfl
  | _ => exact absurd isText Bool.false_ne_true

theorem matrix_eq_dynamic
    {rows : List Value} (lists : rows.all DataType.isList = true) :
    words.matrix (.list rows) = words.dynamic (Value.matrix rows) := by
  have row_eq_dynamic :
      ∀ row ∈ rows,
        words.array .int row = words.dynamic (.list (row.items.map Value.entry)) := by
    intro row member
    obtain ⟨items, rfl⟩ := Value.exists_of_isList (List.all_eq_true.1 lists row member)
    have pieces :
        items.map (words.scalar .int) = (items.map Value.entry).map words.dynamic := by
      rw [List.map_map]
      exact List.map_congr_left fun item _ => scalar_int_eq_dynamic words item
    rw [Vocabulary.dynamic, dynamicItems_eq_map]
    exact congrArg (enclosed '[' ']') pieces
  rw [Value.matrix, Vocabulary.dynamic, dynamicItems_eq_map, List.map_map]
  exact congrArg (enclosed '[' ']') (List.map_congr_left row_eq_dynamic)

theorem not_isNumber_of_floatFree
    {items : List Value} (free : Value.itemsAreFloatFree items = true)
    (notInts : ¬items.all DataType.isInt = true) :
    ¬items.all DataType.isNumber = true := by
  intro numbers
  apply notInts
  rw [List.all_eq_true] at numbers ⊢
  rw [Value.itemsAreFloatFree_iff] at free
  intro item member
  have number := numbers item member
  have noFloat := free item member
  cases item with
  | int n => rfl
  | float x => exact absurd noFloat Bool.false_ne_true
  | _ => exact absurd number Bool.false_ne_true

theorem literal_list
    {items : List Value} (free : Value.itemsAreFloatFree items = true) :
    words.literal (.list items) .any = words.dynamic (Value.carried (.list items)) := by
  rw [Vocabulary.literal, if_pos rfl, resolve_list, Value.carried]
  -- The cases follow the types of `resolve_list`: only the matrix changes its items.
  split_ifs with lists empty ints short gaps numbers bools texts
  · rw [List.isEmpty_iff] at empty
    subst empty
    rfl
  · exact matrix_eq_dynamic words lists
  · apply array_eq_dynamic
    intro item member
    exact (scalar_eq_dynamic_of_isInt words (List.all_eq_true.1 ints item member)).1
  · apply array_eq_dynamic
    intro item member
    exact (scalar_eq_dynamic_of_isInt words (List.all_eq_true.1 ints item member)).2
  · rfl
  · exact absurd numbers (not_isNumber_of_floatFree free ints)
  · apply array_eq_dynamic
    intro item member
    exact scalar_eq_dynamic_of_isBool words (List.all_eq_true.1 bools item member)
  · apply array_eq_dynamic
    intro item member
    exact scalar_eq_dynamic_of_isText words (List.all_eq_true.1 texts item member)
  · rfl

/-- Under the type `any` a literal is that of what it carries. -/
theorem literal_any
    {value : Value} (free : isFloatFree value = true) :
    words.literal value .any = words.dynamic value.carried := by
  cases value with
  | list items =>
      rw [isFloatFree] at free
      exact literal_list words free
  | int n =>
      rw [Vocabulary.literal, if_pos rfl, Value.resolve, DataType.ofValue?]
      by_cases short : Value.isShort n = true
      · rw [if_pos short]
        rfl
      · rw [if_neg short]
        rfl
  | float x => exact absurd free Bool.false_ne_true
  | _ => rfl

end Settled

/-! ## The literal as JSON -/

mutual

/-- In JavaScript a value is written as its JSON text with blanks between the parts. -/
theorem dynamic_javaScript :
    ∀ value : Value,
      isFloatFree value = true →
        Vocabulary.javaScript.dynamic value = Json.spaced [' '] value.toJson
  | .null, _ => rfl
  | .bool false, _ => rfl
  | .bool true, _ => rfl
  | .int _, _ => rfl
  | .float _, free => absurd free Bool.false_ne_true
  | .text _, _ => rfl
  | .list items, free => by
      rw [isFloatFree] at free
      rw [Vocabulary.dynamic, Value.toJson, Json.spaced, dynamicItems_javaScript items free]
      rfl
  | .record fields, free => by
      rw [isFloatFree] at free
      rw [Vocabulary.dynamic, Value.toJson, Json.spaced, dynamicFields_javaScript fields free]
      rfl

theorem dynamicItems_javaScript :
    ∀ items : List Value,
      Value.itemsAreFloatFree items = true →
        Vocabulary.javaScript.dynamicItems items =
          Json.spacedItems [' '] (Value.toJsonItems items)
  | [], _ => rfl
  | item :: rest, free => by
      rw [Value.itemsAreFloatFree, Bool.and_eq_true] at free
      rw [Vocabulary.dynamicItems, Value.toJsonItems, Json.spacedItems,
        dynamic_javaScript item free.1, dynamicItems_javaScript rest free.2]

theorem dynamicFields_javaScript :
    ∀ fields : List (Text × Value),
      Value.fieldsAreFloatFree fields = true →
        Vocabulary.javaScript.dynamicFields fields =
          Json.spacedMembers [' '] (Value.toJsonMembers fields)
  | [], _ => rfl
  | (key, value) :: rest, free => by
      rw [Value.fieldsAreFloatFree, Bool.and_eq_true] at free
      rw [Vocabulary.dynamicFields, Value.toJsonMembers, Json.spacedMembers,
        dynamic_javaScript value free.1, dynamicFields_javaScript rest free.2]
      rfl

end

/-! ## Reading a literal -/

/-- A literal of no declared type is read back, in JavaScript as JSON and in Python as JSON with
other words, to the value that it carries. This is the value that was written exactly when it is
not a list of lists with anything but integers and null in them. -/
theorem untyped_literals_are_read_back
    {value : Value} (free : isFloatFree value = true)
    (distinct : Value.hasDistinctKeys value = true) (shallow : Value.nesting value ≤ 127) :
    (Json.parse (render .javaScript value .any) = .ok value.carried.toJson ∧
      Value.ofLine (render .javaScript value .any) = value.carried) ∧
    readPython? (render .python value .any) = some value.carried ∧
    (value.carried = value ↔ value.hasIntegralRows = true) := by
  obtain ⟨carriedFree, carriedDistinct, carriedShallow⟩ :=
    Value.shape_carried free distinct shallow
  have blank : ∀ c ∈ [' '], Json.isSpace c = true := by
    simp [Json.isSpace]
  have javaScript : render .javaScript value .any = Json.spaced [' '] value.carried.toJson := by
    rw [render, literal_any _ free, dynamic_javaScript _ carriedFree]
  have python :
      translate? .outside (render .python value .any) =
        some (Json.spaced [' '] value.carried.toJson) := by
    rw [render, literal_any _ free, ← dynamic_javaScript _ carriedFree]
    exact (translates_dynamic _ carriedFree).translate?_eq
  have parsed :=
    Value.parse_spaced_toJson blank carriedFree carriedDistinct carriedShallow
  refine ⟨⟨?_, ?_⟩, ?_, Value.carried_eq_iff value⟩
  · rw [javaScript, parsed]
  · rw [javaScript]
    exact Value.ofLine_spaced blank carriedFree carriedDistinct carriedShallow
  · rw [readPython?, python, Option.bind_some, parsed]
    exact congrArg some (Value.ofJson_toJson value.carried)

/-- A record with all kinds of values, texts that hold the words of both languages, and a list of
lists next to a text. -/
theorem untyped_literals_are_read_back_mixed :
    let value : Value :=
      .record
        [("None", .list [.null, .bool true, .text "None, \"null\"\n"]),
          ("", .list [.list [.text "a"], .text "b", .int (-9223372036854775808)])]
    Value.ofLine (render .javaScript value .any) = value ∧
      readPython? (render .python value .any) = some value := by
  intro value
  have free : isFloatFree value = true := by decide
  have distinct : Value.hasDistinctKeys value = true := by decide
  have shallow : Value.nesting value ≤ 127 := by decide
  obtain ⟨⟨_, javaScript⟩, python, same⟩ :=
    untyped_literals_are_read_back free distinct shallow
  have unchanged : value.carried = value := same.2 (by decide)
  rw [unchanged] at javaScript python
  exact ⟨javaScript, python⟩

/-- A text in a list of lists is lost: the literals hold the integer zero in its place. -/
theorem nested_text_becomes_zero :
    let value : Value := .list [.list [.text "a"]]
    (isFloatFree value = true ∧ Value.hasDistinctKeys value = true ∧
      Value.nesting value ≤ 127) ∧
    render .javaScript value .any = "[[0]]" ∧
    Value.ofLine (render .javaScript value .any) ≠ value ∧
    render .python value .any = "[[0]]" ∧
    readPython? (render .python value .any) ≠ some value := by
  intro value
  have javaScript : render .javaScript value .any = "[[0]]" := by decide
  have python : render .python value .any = "[[0]]" := by decide
  have read : Value.ofLine "[[0]]" = .list [.list [.int 0]] := rfl
  have readInPython : readPython? "[[0]]" = some (.list [.list [.int 0]]) := rfl
  have different : (.list [.list [.int 0]] : Value) ≠ value := by simp [value]
  refine ⟨⟨by decide, by decide, by decide⟩, javaScript, ?_, python, ?_⟩
  · rw [javaScript, read]
    exact different
  · rw [python, readInPython, ne_eq, Option.some.injEq]
    exact different

end Kata.Literal
