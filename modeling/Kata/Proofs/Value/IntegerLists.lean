import Kata.Proofs.Json.Lists
import Kata.Proofs.Value.Integers

/-!
# Integers in lists

An integer of 64 bits means the same in a list as on a line of its own, with one exception: minus
zero, which is the integer zero on a line and a floating-point number in a list.
-/

namespace Kata.Value

/-! ## Literals -/

/-- Digits without a needless zero at the front. -/
def IsPlainRow (digits : Text) : Prop :=
  Json.IsDigitRow digits ∧ (digits.head? = some '0' → digits = ['0'])

/-- An integer literal of JSON: digits without a needless zero, perhaps behind a minus sign. -/
inductive IsLiteral : Text → Prop
  | bare {digits : Text} : IsPlainRow digits → IsLiteral digits
  | minus {digits : Text} : IsPlainRow digits → IsLiteral ('-' :: digits)

/-- The literal of minus zero. -/
def minusZero : Text := "-0"

/-- A natural number in digits, behind a minus sign if it is to be negative. -/
def signed (negative : Bool) (n : Nat) : Text :=
  if negative then '-' :: Text.ofNat n else Text.ofNat n

theorem isPlainRow_of_all
    {digits : Text} (nonempty : digits ≠ []) (all : digits.all Char.isDigit = true)
    (plain : digits.head? = some '0' → digits = ['0']) :
    IsPlainRow digits :=
  ⟨⟨nonempty, List.all_eq_true.1 all⟩, plain⟩

theorem IsPlainRow.exists_ofNat
    {digits : Text} (plain : IsPlainRow digits) :
    ∃ n, digits = Text.ofNat n :=
  have denoted := (Text.denotes_iff digits _).2 ⟨plain.1.1, plain.1.2, rfl⟩
  ⟨_, denoted.eq_ofNat plain.2⟩

theorem IsLiteral.exists_signed
    {literal : Text} (isLiteral : IsLiteral literal) :
    ∃ negative n, literal = signed negative n := by
  cases isLiteral with
  | bare plain =>
      obtain ⟨n, written⟩ := plain.exists_ofNat
      exact ⟨false, n, written⟩
  | minus plain =>
      obtain ⟨n, written⟩ := plain.exists_ofNat
      exact ⟨true, n, by rw [written]; rfl⟩

theorem denotes_ofNat
    (n : Nat) :
    Text.Denotes (Text.ofNat n) n :=
  (Text.toNat?_eq_some_iff _ _).1 (Text.toNat?_ofNat n)

theorem spells_signed
    (negative : Bool) (n : Nat) :
    Text.Spells (signed negative n) (if negative then -(n : Int) else n) := by
  cases negative with
  | false => exact Text.Spells.bare (denotes_ofNat n)
  | true => exact Text.Spells.minus (denotes_ofNat n)

theorem hasSolidEnds_signed
    (negative : Bool) (n : Nat) :
    Text.hasSolidEnds (signed negative n) = true := by
  have digits : ∀ c ∈ Text.ofNat n, Text.isBlank c = false :=
    fun c member => isBlank_of_isDigit (Text.isDigit_of_mem_ofNat member)
  cases negative with
  | false => exact Text.hasSolidEnds_of_forall (Text.ofNat_ne_nil n) digits
  | true =>
      apply Text.hasSolidEnds_of_forall (List.cons_ne_nil _ _)
      rw [List.forall_mem_cons]
      exact ⟨by decide, digits⟩

/-- On a line of its own, a literal stands for the integer that it spells. -/
theorem ofLine_signed
    {negative : Bool} {n : Nat} {word : Int64}
    (spelled : Text.Spells (signed negative n) word.toInt) :
    ofLine (signed negative n) = int word := by
  rw [ofLine_eq_int_iff, Text.trim_of_solid (hasSolidEnds_signed negative n)]
  exact spelled

/-! ## Literals in JSON -/

section Fits

variable {negative : Bool} {n : Nat} {word : Int64}
variable (spelled : Text.Spells (signed negative n) word.toInt)
include spelled

theorem toInt_of_spells_signed :
    word.toInt = if negative then -(n : Int) else n :=
  spelled.unique (spells_signed negative n)

theorem le_greatestWord :
    n ≤ Json.greatestWord := by
  have value := toInt_of_spells_signed spelled
  have least := Int64.minValue_le_toInt word
  have greatest : word.toInt ≤ 9223372036854775807 := Int64.toInt_le word
  have lower : Int64.minValue.toInt = -9223372036854775808 := rfl
  have limit : Json.greatestWord = 18446744073709551615 := rfl
  split at value <;> omega

theorem standsFor_signed :
    Json.StandsFor (signed negative n) (Json.exactInteger negative n) := by
  have fits := le_greatestWord spelled
  cases negative with
  | false =>
      have exactly : Json.isExact (.int n) = true := by
        have lower : Int64.minValue.toInt = -9223372036854775808 := rfl
        rw [Json.isExact, decide_eq_true_eq]
        omega
      constructor
      · obtain ⟨c, others, written, opening⟩ := Json.exists_opening_ofInt n
        exact ⟨c, others, by
          rw [← Json.skipSpace_opening opening, ← written]; rfl, opening⟩
      · intro steps depth rest enough _ ends
        obtain ⟨steps, rfl⟩ : ∃ m, steps = m + 1 := ⟨steps - 1, by omega⟩
        exact ⟨[], by simp, Json.readValue_ofInt exactly steps depth ends⟩
  | true =>
      constructor
      · exact ⟨'-', _, Json.skipSpace_cons (by decide) _, by decide⟩
      · intro steps depth rest enough _ ends
        obtain ⟨steps, rfl⟩ : ∃ m, steps = m + 1 := ⟨steps - 1, by omega⟩
        refine ⟨[], by simp, ?_⟩
        rw [signed, if_pos rfl, List.cons_append, Json.readValue,
          Json.skipSpace_cons (by decide)]
        exact Json.readNumber_ofNat true fits ends

end Fits

/-- What a literal stands for in a list. -/
def inList (literal : Text) : Value :=
  if literal = minusZero then float (-0.0) else ofLine literal

theorem signed_eq_minusZero_iff
    (negative : Bool) (n : Nat) :
    signed negative n = minusZero ↔ negative = true ∧ n = 0 := by
  constructor
  · intro written
    cases negative with
    | false => exact absurd written (Text.ofNat_ne_cons (by decide))
    | true =>
        have digits : Text.ofNat n = ['0'] := (List.cons.inj written).2
        exact ⟨rfl, (Text.ofNat_eq_zero_cons n digits).1⟩
  · rintro ⟨rfl, rfl⟩
    rfl

theorem ofJson_exactInteger
    {negative : Bool} {n : Nat} {word : Int64}
    (spelled : Text.Spells (signed negative n) word.toInt) :
    ofJson (Json.exactInteger negative n) = inList (signed negative n) := by
  have value := toInt_of_spells_signed spelled
  have least := Int64.minValue_le_toInt word
  rw [inList, ofLine_signed spelled]
  by_cases isMinusZero : signed negative n = minusZero
  · obtain ⟨rfl, rfl⟩ := (signed_eq_minusZero_iff _ _).1 isMinusZero
    rfl
  · rw [if_neg isMinusZero]
    cases negative with
    | false =>
        rw [if_neg Bool.false_ne_true] at value
        rw [Json.exactInteger, if_pos (by decide), ofJson, ← value, word?_toInt]
    | true =>
        rw [if_pos rfl] at value
        have positive : 0 < n :=
          Nat.pos_of_ne_zero fun zero => isMinusZero ((signed_eq_minusZero_iff _ _).2 ⟨rfl, zero⟩)
        rw [Json.exactInteger, if_neg (by decide), if_pos ⟨positive, by omega⟩, ofJson, ← value,
          word?_toInt]

theorem collapse_exactInteger
    (negative : Bool) (n : Nat) :
    Json.collapse (Json.exactInteger negative n) = Json.exactInteger negative n := by
  rw [Json.exactInteger]
  split
  · rfl
  · split <;> rfl

/-! ## Lists of literals -/

/-- The integer literals whose integers fit into 64 bits. -/
def IsWordLiteral (literal : Text) : Prop :=
  IsLiteral literal ∧ ∃ word : Int64, Text.Spells literal word.toInt

theorem exists_jsons
    {literals : List Text} (each : ∀ literal ∈ literals, IsWordLiteral literal) :
    ∃ jsons,
      List.Forall₂ Json.StandsFor literals jsons ∧ Json.nestingOfItems jsons = 0 ∧
        Json.collapseAll jsons = jsons ∧ ofJsonItems jsons = literals.map inList := by
  induction literals with
  | nil =>
      exact ⟨[], List.Forall₂.nil, rfl, rfl, rfl⟩
  | cons literal literals inductionHypothesis =>
      rw [List.forall_mem_cons] at each
      obtain ⟨⟨isLiteral, word, spelled⟩, others⟩ := each
      obtain ⟨jsons, stand, flat, kept, values⟩ := inductionHypothesis others
      obtain ⟨negative, n, rfl⟩ := isLiteral.exists_signed
      refine ⟨Json.exactInteger negative n :: jsons,
        List.Forall₂.cons (standsFor_signed spelled) stand, ?_, ?_, ?_⟩
      · simp [Json.nestingOfItems, Json.nesting_exactInteger, flat]
      · simp [Json.collapseAll, collapse_exactInteger, kept]
      · simp [ofJsonItems, ofJson_exactInteger spelled, values]

theorem ofLine_listText
    {literals : List Text} (each : ∀ literal ∈ literals, IsWordLiteral literal) :
    ofLine (Json.listText literals) = list (literals.map inList) := by
  obtain ⟨jsons, stand, flat, kept, values⟩ := exists_jsons each
  have shallow : Json.nesting (.array jsons) < Json.depthLimit := by
    rw [Json.nesting, flat]
    decide
  have parsed : Json.parse (Json.listText literals) = .ok (.array jsons) := by
    rw [Json.parse, Json.parseAll_of_standsFor (Json.standsFor_listText stand) shallow]
    simp [Except.map, Json.collapse, kept]
  have solid := Text.hasSolidEnds_enclosed (Text.joinWith [','] literals)
    (show Text.isBlank '[' = false by decide) (show Text.isBlank ']' = false by decide)
  rw [← values]
  exact ofLine_of_parse solid (by decide) (by decide) (by decide) parsed

theorem isWordLiteral_of_toInt?
    {literal : Text} (word : Int64) (isLiteral : IsLiteral literal)
    (read : Text.toInt? literal = some word.toInt) :
    IsWordLiteral literal :=
  ⟨isLiteral, word, (Text.toInt?_eq_some_iff _ _).1 read⟩

theorem isWordLiteral_minusZero :
    IsWordLiteral minusZero :=
  have plain : IsPlainRow ['0'] := isPlainRow_of_all (by decide) (by decide) (by decide)
  isWordLiteral_of_toInt? 0 (IsLiteral.minus plain) (by decide)

theorem ofLine_minusZero :
    ofLine minusZero = int 0 :=
  (ofLine_eq_int_iff _ _).2 ((Text.toInt?_eq_some_iff _ _).1 (by decide))

theorem inList_eq_ofLine_iff
    (literal : Text) :
    inList literal = ofLine literal ↔ literal ≠ minusZero := by
  rw [inList]
  by_cases isMinusZero : literal = minusZero
  · subst isMinusZero
    simp [ofLine_minusZero]
  · simp [isMinusZero]

/-- A list of integers of 64 bits is read like the integers on lines of their own if and only if
none of them is written as minus zero. In any case only minus zero is read in another way: as
a floating-point number. -/
theorem integers_in_lists_are_lines_iff
    {literals : List Text} (each : ∀ literal ∈ literals, IsWordLiteral literal) :
    (ofLine (Json.listText literals) = list (literals.map ofLine) ↔
      minusZero ∉ literals) ∧
    ofLine (Json.listText literals) =
      list (literals.map fun literal =>
        if literal = minusZero then float (-0.0) else ofLine literal) := by
  have read := ofLine_listText each
  refine ⟨?_, read⟩
  rw [read, Value.list.injEq, List.map_inj_left]
  simp only [inList_eq_ofLine_iff]
  constructor
  · exact fun different member => different _ member rfl
  · rintro absent literal member rfl
    exact absent member

/-- The least and the greatest integer of 64 bits, zero, and minus zero behind them. -/
theorem integers_in_lists_are_lines_iff_extremes :
    let literals : List Text := ["-9223372036854775808", "9223372036854775807", "0"]
    ofLine (Json.listText literals) = list (literals.map ofLine) ∧
      ofLine (Json.listText (literals ++ [minusZero])) ≠
        list ((literals ++ [minusZero]).map ofLine) := by
  intro literals
  have least : IsLiteral "-9223372036854775808".toList :=
    IsLiteral.minus (isPlainRow_of_all (by decide) (by decide) (by decide))
  have greatest : IsLiteral "9223372036854775807".toList :=
    IsLiteral.bare (isPlainRow_of_all (by decide) (by decide) (by decide))
  have zero : IsLiteral "0".toList :=
    IsLiteral.bare (isPlainRow_of_all (by decide) (by decide) (by decide))
  have each : ∀ literal ∈ literals, IsWordLiteral literal := by
    simp only [literals, List.forall_mem_cons]
    exact ⟨isWordLiteral_of_toInt? Int64.minValue least (by decide),
      isWordLiteral_of_toInt? Int64.maxValue greatest (by decide),
      isWordLiteral_of_toInt? 0 zero (by decide), List.forall_mem_nil _⟩
  have all : ∀ literal ∈ literals ++ [minusZero], IsWordLiteral literal := by
    simpa only [List.forall_mem_append, List.forall_mem_singleton] using
      ⟨each, isWordLiteral_minusZero⟩
  constructor
  · exact (integers_in_lists_are_lines_iff each).1.2 (by decide)
  · intro same
    exact (integers_in_lists_are_lines_iff all).1.1 same (by simp)

/-- Minus zero is an integer literal of JSON whose value fits into 64 bits; on a line it is the
integer zero, and in a list it is not. -/
theorem minusZero_differs_in_lists :
    IsWordLiteral minusZero ∧ ofLine minusZero = int 0 ∧
      ofLine (Json.listText [minusZero]) = list [float (-0.0)] ∧
      ofLine (Json.listText [minusZero]) ≠ list ([minusZero].map ofLine) := by
  have read : ofLine (Json.listText [minusZero]) = list [float (-0.0)] :=
    ofLine_listText (List.forall_mem_singleton.2 isWordLiteral_minusZero)
  refine ⟨isWordLiteral_minusZero, ofLine_minusZero, read, ?_⟩
  rw [read, List.map_singleton, ofLine_minusZero]
  simp

end Kata.Value
