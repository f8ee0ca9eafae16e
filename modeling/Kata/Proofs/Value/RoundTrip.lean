import Mathlib.Data.List.TakeWhile
import Kata.Value.Line
import Kata.Proofs.Json.Depth
import Kata.Proofs.Text.Lines
import Kata.Proofs.Value.Shape

/-!
# Reading test values back

A list of values is written as the input of a test case, one value a line. Reading the input gives
the values back: the text of a value has no line feed and no blank at its ends, only the text of
an integer is a numeral, and only the text of a truth value is the word for it. Everything else is
left to the reader of JSON.
-/

namespace Kata.Value

/-- The input of a test case with the given arguments. -/
def toInput (values : List Value) : Text :=
  Text.joinWith ['\n'] (values.map compact)

/-! ## Line feeds -/

theorem lineFeed_not_mem_quote
    (content : Text) :
    '\n' ∉ Json.quote content :=
  fun member => absurd (Json.visible_of_mem_quote content _ member) (by decide)

theorem lineFeed_not_mem_ofInt
    (n : Int) :
    '\n' ∉ Text.ofInt n := by
  intro member
  have inDigits : ∃ m, '\n' ∈ Text.ofNat m := by
    cases n with
    | ofNat n => exact ⟨n, member⟩
    | negSucc n =>
        rw [Text.ofInt, List.mem_cons] at member
        exact ⟨n + 1, member.resolve_left (by decide)⟩
  obtain ⟨m, inDigits⟩ := inDigits
  exact absurd (Text.isDigit_of_mem_ofNat inDigits) (by decide)

theorem lineFeed_not_mem_enclosed
    {opening closing : Char} {parts : List Text} (open' : opening ≠ '\n') (close : closing ≠ '\n')
    (absent : ∀ part ∈ parts, '\n' ∉ part) :
    '\n' ∉ opening :: Text.joinWith [','] parts ++ [closing] := by
  intro member
  rw [List.mem_append, List.mem_cons, List.mem_singleton] at member
  rcases member with (isOpening | inParts) | isClosing
  · exact open' isOpening.symm
  · rcases Text.mem_joinWith inParts with isComma | ⟨part, partMember, inPart⟩
    · exact absurd isComma (by decide)
    · exact absent part partMember inPart
  · exact close isClosing.symm

mutual

/-- A value is written on one line. -/
theorem lineFeed_not_mem_compact :
    ∀ value : Value, isFloatFree value = true → '\n' ∉ compact value
  | null, _ => by decide
  | bool false, _ => by decide
  | bool true, _ => by decide
  | int n, _ => by
      rw [compact]
      exact lineFeed_not_mem_ofInt _
  | float _, free => absurd free Bool.false_ne_true
  | text t, _ => by
      rw [compact]
      exact lineFeed_not_mem_quote t
  | list items, free => by
      rw [isFloatFree] at free
      rw [compact]
      exact lineFeed_not_mem_enclosed (by decide) (by decide)
        (lineFeed_not_mem_compactItems items free)
  | record fields, free => by
      rw [isFloatFree] at free
      rw [compact]
      exact lineFeed_not_mem_enclosed (by decide) (by decide)
        (lineFeed_not_mem_compactFields fields free)

theorem lineFeed_not_mem_compactItems :
    ∀ items : List Value,
      itemsAreFloatFree items = true → ∀ part ∈ compactItems items, '\n' ∉ part
  | [], _ => List.forall_mem_nil _
  | item :: rest, free => by
      rw [itemsAreFloatFree, Bool.and_eq_true] at free
      rw [compactItems, List.forall_mem_cons]
      exact ⟨lineFeed_not_mem_compact item free.1, lineFeed_not_mem_compactItems rest free.2⟩

theorem lineFeed_not_mem_compactFields :
    ∀ fields : List (Text × Value),
      fieldsAreFloatFree fields = true → ∀ part ∈ compactFields fields, '\n' ∉ part
  | [], _ => List.forall_mem_nil _
  | (key, value) :: rest, free => by
      rw [fieldsAreFloatFree, Bool.and_eq_true] at free
      rw [compactFields, List.forall_mem_cons, List.mem_append, List.mem_cons, not_or, not_or]
      exact ⟨⟨lineFeed_not_mem_quote key, by decide, lineFeed_not_mem_compact value free.1⟩,
        lineFeed_not_mem_compactFields rest free.2⟩

end

/-! ## Ends -/

theorem isBlank_of_isDigit
    {c : Char} (digit : c.isDigit = true) :
    Text.isBlank c = false :=
  Text.forall_isDigit (by decide) c digit

theorem hasSolidEnds_ofInt
    (n : Int) :
    Text.hasSolidEnds (Text.ofInt n) = true := by
  apply Text.hasSolidEnds_of_forall (Text.ofInt_ne_nil n)
  intro c member
  cases n with
  | ofNat n => exact isBlank_of_isDigit (Text.isDigit_of_mem_ofNat member)
  | negSucc n =>
      rw [Text.ofInt, List.mem_cons] at member
      rcases member with isMinus | inDigits
      · subst isMinus
        decide
      · exact isBlank_of_isDigit (Text.isDigit_of_mem_ofNat inDigits)

/-- The text of a value begins and ends with a character that is not blank. -/
theorem hasSolidEnds_spaced
    (gap : Text) {value : Value} (free : isFloatFree value = true) :
    Text.hasSolidEnds (Json.spaced gap (toJson value)) = true := by
  cases value with
  | null => rw [toJson, Json.spaced]; decide
  | bool b => cases b <;> (rw [toJson, Json.spaced]; decide)
  | int n =>
      rw [toJson, Json.spaced]
      exact hasSolidEnds_ofInt n.toInt
  | float x => exact absurd free Bool.false_ne_true
  | text t =>
      rw [toJson, Json.spaced]
      exact Text.hasSolidEnds_enclosed _ (by decide) (by decide)
  | list items =>
      rw [toJson, Json.spaced]
      exact Text.hasSolidEnds_enclosed _ (by decide) (by decide)
  | record fields =>
      rw [toJson, Json.spaced]
      exact Text.hasSolidEnds_enclosed _ (by decide) (by decide)

theorem compact_eq_spaced
    {value : Value} (free : isFloatFree value = true) :
    compact value = Json.spaced [] (toJson value) := by
  rw [← compact_toJson value free, Json.compact_eq_spaced]

theorem hasSolidEnds_compact
    {value : Value} (free : isFloatFree value = true) :
    Text.hasSolidEnds (compact value) = true := by
  rw [compact_eq_spaced free]
  exact hasSolidEnds_spaced [] free

/-! ## Numerals -/

/-- A character that begins neither a number nor a word for one. -/
def beginsNoNumeral (c : Char) : Bool :=
  c != '+' && c != '-' && c != 'I' && c != 'N' && c != '.' && !Text.isAnyDigit c

theorem isNumeral_cons_of_beginsNoNumeral
    {c : Char} (begins : beginsNoNumeral c = true) (rest : Text) :
    isNumeral (c :: rest) = false := by
  simp only [beginsNoNumeral, Bool.and_eq_true, bne_iff_ne, ne_eq, Bool.not_eq_true'] at begins
  obtain ⟨⟨⟨⟨⟨notPlus, notMinus⟩, notInfinity⟩, notNaN⟩, notPoint⟩, notDigit⟩ := begins
  have sign : dropSign (c :: rest) = c :: rest := by
    rw [dropSign.eq_def]
    split
    · next equality => exact absurd (List.cons.inj equality).1 notPlus
    · next equality => exact absurd (List.cons.inj equality).1 notMinus
    · rfl
  have infinity : ((c :: rest : Text) == ("Infinity" : String).toList) = false :=
    beq_eq_false_iff_ne.2 fun equality => notInfinity (List.cons.inj equality).1
  have noNumber : ((c :: rest : Text) == ("NaN" : String).toList) = false :=
    beq_eq_false_iff_ne.2 fun equality => notNaN (List.cons.inj equality).1
  have digits : isDigitNumeral (c :: rest) = false := by
    have none : ¬Text.isAnyDigit c = true := by
      rw [notDigit]
      exact Bool.false_ne_true
    rw [isDigitNumeral, List.takeWhile_cons_of_neg none, List.dropWhile_cons_of_neg none]
    split
    · next equality => exact absurd (List.cons.inj equality).1 notPoint
    · rfl
  rw [isNumeral, sign, infinity, noNumber, digits]
  rfl

theorem isAnyDigit_span_ofNat
    (n : Nat) :
    (Text.ofNat n).takeWhile Text.isAnyDigit = Text.ofNat n ∧
      (Text.ofNat n).dropWhile Text.isAnyDigit = [] := by
  have all : ∀ c ∈ Text.ofNat n, Text.isAnyDigit c = true :=
    fun c member => Text.isAnyDigit_of_isDigit (Text.isDigit_of_mem_ofNat member)
  exact ⟨List.takeWhile_eq_self_iff.2 all, List.dropWhile_eq_nil_iff.2 all⟩

theorem isDigitNumeral_ofNat
    (n : Nat) :
    isDigitNumeral (Text.ofNat n) = true := by
  obtain ⟨whole, behind⟩ := isAnyDigit_span_ofNat n
  rw [isDigitNumeral, whole, behind]
  cases written : Text.ofNat n with
  | nil => exact absurd written (Text.ofNat_ne_nil n)
  | cons c rest => rfl

/-- The digits of a number are what is left of it without its sign. -/
theorem dropSign_ofInt
    (n : Int) :
    dropSign (Text.ofInt n) = Text.ofNat n.natAbs := by
  cases n with
  | ofNat n =>
      rw [Text.ofInt, dropSign.eq_def]
      split
      · next written => exact absurd written (Text.ofNat_ne_cons (by decide))
      · next written => exact absurd written (Text.ofNat_ne_cons (by decide))
      · rfl
  | negSucc n => rfl

theorem isNumeral_ofInt
    (n : Int) :
    isNumeral (Text.ofInt n) = true := by
  rw [isNumeral, dropSign_ofInt, isDigitNumeral_ofNat, Bool.or_true]

/-- The numeral of an integer of 64 bits stands for that integer. -/
theorem ofNumeral_ofInt
    (n : Int64) :
    ofNumeral (Text.ofInt n.toInt) = int n := by
  have notInfinity : Text.ofNat n.toInt.natAbs ≠ ("Infinity" : String).toList :=
    Text.ofNat_ne_cons (by decide)
  have notNaN : Text.ofNat n.toInt.natAbs ≠ ("NaN" : String).toList :=
    Text.ofNat_ne_cons (by decide)
  rw [ofNumeral]
  simp only [dropSign_ofInt, if_neg notInfinity, if_neg notNaN, readWord?_ofInt]

/-- A numeral stands for a value without parts. -/
theorem shape_ofNumeral
    (numeral : Text) :
    hasDistinctKeys (ofNumeral numeral) = true ∧ nesting (ofNumeral numeral) ≤ 127 := by
  rw [ofNumeral]
  split
  · exact ⟨rfl, Nat.zero_le _⟩
  · split
    · exact ⟨rfl, Nat.zero_le _⟩
    · split
      · exact ⟨rfl, Nat.zero_le _⟩
      · split <;> exact ⟨rfl, Nat.zero_le _⟩

/-! ## Single lines -/

/-- A line that begins neither a numeral nor a word for a truth value is JSON, if it can be. -/
theorem ofLine_of_parse
    {c : Char} {rest : Text} {json : Json} (solid : Text.hasSolidEnds (c :: rest) = true)
    (begins : beginsNoNumeral c = true) (notTrue : c ≠ 't') (notFalse : c ≠ 'f')
    (parsed : Json.parse (c :: rest) = .ok json) :
    ofLine (c :: rest) = ofJson json := by
  have isNotTrue : c :: rest ≠ ("true" : String).toList :=
    fun equality => notTrue (List.cons.inj equality).1
  have isNotFalse : c :: rest ≠ ("false" : String).toList :=
    fun equality => notFalse (List.cons.inj equality).1
  have notNumeral : ¬isNumeral (c :: rest) = true := by
    rw [isNumeral_cons_of_beginsNoNumeral begins]
    exact Bool.false_ne_true
  rw [ofLine, Text.trim_of_solid solid]
  simp only [if_neg (List.cons_ne_nil c rest), if_neg isNotTrue, if_neg isNotFalse,
    if_neg notNumeral, parsed]

/-- The text of an integer is read as that integer. -/
theorem ofLine_ofInt
    (n : Int64) :
    ofLine (Text.ofInt n.toInt) = int n := by
  have isNotWord :
      ∀ {c : Char} {word : Text}, beginsNoNumeral c = true → Text.ofInt n.toInt ≠ c :: word := by
    intro c word begins equality
    have numeral := isNumeral_ofInt n.toInt
    rw [equality, isNumeral_cons_of_beginsNoNumeral begins] at numeral
    exact Bool.false_ne_true numeral
  have isNotTrue : Text.ofInt n.toInt ≠ ("true" : String).toList := isNotWord (by decide)
  have isNotFalse : Text.ofInt n.toInt ≠ ("false" : String).toList := isNotWord (by decide)
  rw [ofLine, Text.trim_of_solid (hasSolidEnds_ofInt n.toInt)]
  simp only [if_neg (Text.ofInt_ne_nil n.toInt), if_neg isNotTrue, if_neg isNotFalse,
    isNumeral_ofInt, if_true, ofNumeral_ofInt]

section Spaced

variable {gap : Text} (blank : ∀ c ∈ gap, Json.isSpace c = true)
variable {value : Value} (free : isFloatFree value = true)
variable (distinct : hasDistinctKeys value = true) (shallow : nesting value ≤ 127)

include blank free distinct shallow

theorem parse_spaced_toJson :
    Json.parse (Json.spaced gap (toJson value)) = .ok (toJson value) := by
  have keys : Json.hasDistinctKeys (toJson value) = true := by
    rw [← hasDistinctKeys_ofJson, ofJson_toJson, distinct]
  have depth : Json.nesting (toJson value) < Json.depthLimit := by
    rw [← nesting_ofJson, ofJson_toJson]
    exact Nat.lt_succ_of_le shallow
  exact Json.parse_spaced blank (isExact_toJson value free) keys depth

/-- The text of a value is read as that value, with or without blanks between its parts. -/
theorem ofLine_spaced :
    ofLine (Json.spaced gap (toJson value)) = value := by
  have solid := hasSolidEnds_spaced gap free
  have parsed := parse_spaced_toJson blank free distinct shallow
  have back := ofJson_toJson value
  cases value with
  | null => rw [← back]; exact ofLine_of_parse solid (by decide) (by decide) (by decide) parsed
  | bool b => cases b <;> rfl
  | int n =>
      rw [toJson, Json.spaced]
      exact ofLine_ofInt n
  | float x => exact absurd free Bool.false_ne_true
  | text t =>
      refine Eq.trans ?_ back
      exact ofLine_of_parse solid (by decide) (by decide) (by decide) parsed
  | list items =>
      refine Eq.trans ?_ back
      rw [toJson, Json.spaced] at solid parsed ⊢
      exact ofLine_of_parse solid (by decide) (by decide) (by decide) parsed
  | record fields =>
      refine Eq.trans ?_ back
      rw [toJson, Json.spaced] at solid parsed ⊢
      exact ofLine_of_parse solid (by decide) (by decide) (by decide) parsed

end Spaced

theorem ofLine_compact
    {value : Value} (free : isFloatFree value = true) (distinct : hasDistinctKeys value = true)
    (shallow : nesting value ≤ 127) :
    ofLine (compact value) = value := by
  rw [compact_eq_spaced free]
  exact ofLine_spaced (List.forall_mem_nil _) free distinct shallow

/-- What a line stands for has distinct keys and is nested at most 127 deep. -/
theorem shape_ofLine
    (line : Text) :
    hasDistinctKeys (ofLine line) = true ∧ nesting (ofLine line) ≤ 127 := by
  rw [ofLine]
  split
  · exact ⟨rfl, Nat.zero_le _⟩
  · split
    · exact ⟨rfl, Nat.zero_le _⟩
    · split
      · exact ⟨rfl, Nat.zero_le _⟩
      · split
        · exact shape_ofNumeral _
        · split
          · next json parsed =>
            rw [hasDistinctKeys_ofJson, nesting_ofJson]
            exact ⟨Json.hasDistinctKeys_of_parse parsed, Json.nesting_of_parse parsed⟩
          · exact ⟨rfl, Nat.zero_le _⟩

/-! ## Whole inputs -/

theorem inputLines_joinWith
    {parts : List Text} (solid : ∀ part ∈ parts, Text.hasSolidEnds part = true)
    (absent : ∀ part ∈ parts, '\n' ∉ part) :
    inputLines (Text.joinWith ['\n'] parts) = parts := by
  by_cases empty : parts = []
  · subst empty
    decide
  · have kept :
        parts.map (fun line => (Text.before? ['\r'] line).getD line) = parts.map id := by
      apply List.map_congr_left
      intro part member
      rw [Text.before?_return_of_solid (solid part member)]
      rfl
    rw [inputLines, Text.splitOn_joinWith empty absent, kept, List.map_id, List.filter_eq_self]
    intro part member
    rw [Text.trim_of_solid (solid part member), bne_iff_ne]
    exact Text.ne_nil_of_solid (solid part member)

/-- The values of a list are read back from the input that they are written as. -/
theorem ofInput_toInput
    {values : List Value} (free : ∀ value ∈ values, isFloatFree value = true)
    (distinct : ∀ value ∈ values, hasDistinctKeys value = true)
    (shallow : ∀ value ∈ values, nesting value ≤ 127) :
    ofInput (toInput values) = values := by
  have lines : inputLines (toInput values) = values.map compact := by
    apply inputLines_joinWith
    · rw [List.forall_mem_map]
      exact fun value member => hasSolidEnds_compact (free value member)
    · rw [List.forall_mem_map]
      exact fun value member => lineFeed_not_mem_compact value (free value member)
  have each : ∀ value ∈ values, (ofLine ∘ compact) value = value :=
    fun value member =>
      ofLine_compact (free value member) (distinct value member) (shallow value member)
  rw [ofInput, lines, List.map_map, List.map_congr_left each]
  exact List.map_id' values

/-- Writing and reading inputs are inverse to each other on values without floating-point numbers:
distinct keys and at most 127 levels are enough for a list of values to be read back, every line
that is read has them, and so an input can be written anew from its values. -/
theorem written_inputs_are_read_back :
    (∀ values : List Value,
      (∀ value ∈ values,
        isFloatFree value = true ∧ hasDistinctKeys value = true ∧ nesting value ≤ 127) →
      ofInput (toInput values) = values) ∧
    (∀ line : Text, hasDistinctKeys (ofLine line) = true ∧ nesting (ofLine line) ≤ 127) ∧
    (∀ input : Text,
      (∀ value ∈ ofInput input, isFloatFree value = true) →
      ofInput (toInput (ofInput input)) = ofInput input) := by
  refine ⟨?_, shape_ofLine, ?_⟩
  · intro values shaped
    exact ofInput_toInput
      (fun value member => (shaped value member).1)
      (fun value member => (shaped value member).2.1)
      (fun value member => (shaped value member).2.2)
  · intro input free
    -- A value of an input comes from one of its lines.
    have shaped :
        ∀ value ∈ ofInput input, hasDistinctKeys value = true ∧ nesting value ≤ 127 := by
      rw [ofInput, List.forall_mem_map]
      exact fun line _ => shape_ofLine line
    exact ofInput_toInput free
      (fun value member => (shaped value member).1)
      (fun value member => (shaped value member).2)

/-- Texts that look like numbers, words and line ends, inside and outside of a record, in a list
of values; and an input with a repeated key, a carriage return and a line that is not JSON. -/
theorem written_inputs_are_read_back_hard :
    let values : List Value :=
      [.text "true", .text "42", .text "a\r\n\"\\b\t", .null, .bool false,
        .record [("", .list [.int (-9223372036854775808), .list []]), ("k\n", .text "")]]
    let input : Text := "\x7b\"a\": 1, \"b\": [null], \"a\": \"2\"\x7d\r\n\n  [1, ]\n+07\n\"true\""
    ofInput (toInput values) = values ∧ ofInput (toInput (ofInput input)) = ofInput input := by
  intro values input
  have shaped :
      values.all (fun value =>
        isFloatFree value && hasDistinctKeys value && decide (nesting value ≤ 127)) = true := by
    decide +kernel
  have free : (ofInput input).all isFloatFree = true := by
    decide +kernel
  rw [List.all_eq_true] at shaped free
  refine ⟨written_inputs_are_read_back.1 values fun value member => ?_,
    written_inputs_are_read_back.2.2 input free⟩
  have conditions := shaped value member
  rw [Bool.and_eq_true, Bool.and_eq_true, decide_eq_true_eq] at conditions
  exact ⟨conditions.1.1, conditions.1.2, conditions.2⟩

end Kata.Value
