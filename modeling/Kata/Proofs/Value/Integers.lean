import Kata.Proofs.Text.Blank
import Kata.Proofs.Text.Numerals
import Kata.Proofs.Value.RoundTrip

/-!
# Integer lines

A line stands for an integer exactly when it spells one that fits into 64 bits: an optional sign
and decimal digits, zeros at the front included. Integers that do not fit are floating-point
numbers, and neither digits of other scripts nor JSON give an integer in any other way.
-/

namespace Kata.Json

/-! ## Integers in JSON -/

/-- Whether a text is a row of decimal digits. -/
def IsDigitRow (digits : Text) : Prop :=
  digits ≠ [] ∧ ∀ c ∈ digits, c.isDigit = true

theorem eq_of_readBehindInteger
    {negative : Bool} {significand skipped : Nat} {text rest : Text} {n : Int}
    (read : readBehindInteger negative significand skipped text = .ok (int n, rest)) :
    rest = text := by
  have floats : ∀ x : Float, Json.float x ≠ int n := by
    simp
  have refused :
      ∀ result, Gives (· ≠ int n) result → result ≠ .ok (int n, rest) :=
    fun result gives equality => gives _ _ equality rfl
  rw [readBehindInteger.eq_def] at read
  split at read
  · exact absurd read (refused _ (gives_readFraction floats _ _ _ _))
  · split at read
    · injection read with equality
      exact (congrArg Prod.snd equality).symm
    · exact absurd read (refused _ (gives_readScaled floats _ _ _ _))

theorem exists_digits_of_readNumber
    {negative : Bool} {text rest : Text} {n : Int}
    (read : readNumber negative text = .ok (int n, rest)) :
    ∃ digits, IsDigitRow digits ∧ text = digits ++ rest := by
  rw [readNumber.eq_def] at read
  split at read
  · simp [Fault.here] at read
  · split at read
    · simp [Fault.ahead] at read
    · refine ⟨['0'], by simp [IsDigitRow], ?_⟩
      rw [eq_of_readBehindInteger read]
      rfl
  · next c others _ =>
    split at read
    · next digit =>
      refine ⟨c :: others.takeWhile Char.isDigit, ⟨List.cons_ne_nil _ _, ?_⟩, ?_⟩
      · rw [List.forall_mem_cons]
        exact ⟨digit, fun d member => List.mem_takeWhile_imp member⟩
      · rw [eq_of_readBehindInteger read, List.cons_append, List.takeWhile_append_dropWhile]
    · simp [Fault.here] at read

theorem exists_digits_of_readValue
    {steps depth : Nat} {text rest : Text} {n : Int}
    (read : readValue steps depth text = .ok (int n, rest)) :
    ∃ digits, IsDigitRow digits ∧
      (skipSpace text = digits ++ rest ∨ skipSpace text = '-' :: (digits ++ rest)) := by
  cases steps with
  | zero => simp [readValue, Fault.here] at read
  | succ steps =>
      rw [readValue] at read
      split at read
      · simp [Fault.here] at read
      · simp [map_eq_ok_iff] at read
      · simp [map_eq_ok_iff] at read
      · simp [map_eq_ok_iff] at read
      · next whole =>
        obtain ⟨digits, row, written⟩ := exists_digits_of_readNumber read
        exact ⟨digits, row, Or.inr (by rw [whole, written])⟩
      · simp [map_eq_ok_iff] at read
      · split at read
        · simp [Fault.ahead] at read
        · simp [map_eq_ok_iff] at read
      · split at read
        · simp [Fault.ahead] at read
        · simp [map_eq_ok_iff] at read
      · next whole =>
        split at read
        · obtain ⟨digits, row, written⟩ := exists_digits_of_readNumber read
          exact ⟨digits, row, Or.inl (by rw [whole, written])⟩
        · simp [Fault.ahead] at read

theorem eq_int_of_collapse
    {value : Json} {n : Int} (collapsed : collapse value = int n) :
    value = int n := by
  cases value <;> simp_all [collapse]

theorem isBlank_of_isSpace
    {c : Char} (space : isSpace c = true) :
    Text.isBlank c = true := by
  simp only [isSpace, Bool.or_eq_true, beq_iff_eq] at space
  rcases space with ((rfl | rfl) | rfl) | rfl <;> decide

theorem skipSpace_of_solid
    {text : Text} (solid : Text.hasSolidEnds text = true) :
    skipSpace text = text := by
  obtain ⟨⟨c, rest, rfl, firstSolid⟩, _⟩ := Text.hasSolidEnds_iff.1 solid
  apply skipSpace_cons
  by_contra space
  rw [isBlank_of_isSpace (by simpa using space)] at firstSolid
  exact Bool.noConfusion firstSolid

/-- Nothing but blanks behind a piece of a text means nothing, if the text ends with no blank. -/
theorem eq_nil_of_solid
    {piece rest : Text} (solid : Text.hasSolidEnds (piece ++ rest) = true)
    (space : skipSpace rest = []) :
    rest = [] := by
  rw [skipSpace, List.dropWhile_eq_nil_iff] at space
  obtain ⟨_, ⟨front, last, whole, lastSolid⟩⟩ := Text.hasSolidEnds_iff.1 solid
  by_contra nonempty
  have member : last ∈ rest := by
    have ends := congrArg List.getLast? whole
    rw [List.getLast?_concat, List.getLast?_append, Option.or_of_isSome (by simpa)] at ends
    exact List.mem_of_getLast? ends
  rw [isBlank_of_isSpace (space last member)] at lastSolid
  exact Bool.noConfusion lastSolid

/-- A JSON text that stands for an integer is a row of digits, perhaps behind a minus sign. -/
theorem exists_digits_of_parse
    {text : Text} {n : Int} (solid : Text.hasSolidEnds text = true)
    (parsed : parse text = .ok (int n)) :
    ∃ digits, IsDigitRow digits ∧ (text = digits ∨ text = '-' :: digits) := by
  obtain ⟨value, whole, collapsed⟩ := map_eq_ok_iff.1 parsed
  rw [parseAll] at whole
  obtain ⟨⟨found, rest⟩, read, finished⟩ := bind_eq_ok_iff.1 whole
  dsimp only at finished
  rw [finish] at finished
  split at finished
  · next space =>
    injection finished with same
    rw [same, eq_int_of_collapse collapsed] at read
    obtain ⟨digits, row, written⟩ := exists_digits_of_readValue read
    rw [skipSpace_of_solid solid] at written
    refine ⟨digits, row, ?_⟩
    rcases written with written | written
    · rw [written] at solid
      rw [eq_nil_of_solid solid space, List.append_nil] at written
      exact Or.inl written
    · rw [written, ← List.cons_append] at solid
      rw [eq_nil_of_solid solid space, List.append_nil] at written
      exact Or.inr written
  · simp [Fault.ahead] at finished

end Kata.Json

namespace Kata.Value

/-! ## Numerals -/

theorem dropSign_of_isDigit
    {c : Char} (digit : c.isDigit = true) (rest : Text) :
    dropSign (c :: rest) = c :: rest := by
  rw [dropSign.eq_3]
  all_goals
    intro _ equality
    cases equality
    exact absurd digit (by decide)

theorem isDigitNumeral_of_row
    {digits : Text} (row : Json.IsDigitRow digits) :
    isDigitNumeral digits = true := by
  have all : ∀ c ∈ digits, Text.isAnyDigit c = true :=
    fun c member => Text.isAnyDigit_of_isDigit (row.2 c member)
  have whole : digits.takeWhile Text.isAnyDigit = digits := List.takeWhile_eq_self_iff.2 all
  have behind : digits.dropWhile Text.isAnyDigit = [] := List.dropWhile_eq_nil_iff.2 all
  simp [isDigitNumeral, whole, behind, isExponent, row.1]

/-- Digits are a numeral, with a minus sign as well as without one. -/
theorem isNumeral_of_row
    {digits text : Text} (row : Json.IsDigitRow digits)
    (written : text = digits ∨ text = '+' :: digits ∨ text = '-' :: digits) :
    dropSign text = digits ∧ isNumeral text = true := by
  have body : dropSign text = digits := by
    rcases written with rfl | rfl | rfl
    · obtain ⟨c, rest, rfl⟩ := List.exists_cons_of_ne_nil row.1
      exact dropSign_of_isDigit (row.2 c List.mem_cons_self) rest
    · rfl
    · rfl
  refine ⟨body, ?_⟩
  simp [isNumeral, body, isDigitNumeral_of_row row]

theorem isDigitRow_of_denotes
    {digits : Text} {n : Nat} (denoted : Text.Denotes digits n) :
    Json.IsDigitRow digits :=
  have described := (Text.denotes_iff digits n).1 denoted
  ⟨described.1, described.2.1⟩

/-- A spelled integer is a numeral that is left as its digits without the sign. -/
theorem exists_row_of_spells
    {text : Text} {n : Int} (spelled : Text.Spells text n) :
    ∃ digits, Json.IsDigitRow digits ∧
      (text = digits ∨ text = '+' :: digits ∨ text = '-' :: digits) := by
  cases spelled with
  | bare denoted => exact ⟨_, isDigitRow_of_denotes denoted, Or.inl rfl⟩
  | plus denoted => exact ⟨_, isDigitRow_of_denotes denoted, Or.inr (Or.inl rfl)⟩
  | minus denoted => exact ⟨_, isDigitRow_of_denotes denoted, Or.inr (Or.inr rfl)⟩

theorem ne_word_of_row
    {digits : Text} (row : Json.IsDigitRow digits) {c : Char} (letter : c.isDigit = false)
    (word : Text) :
    digits ≠ c :: word := by
  rintro rfl
  have digit := row.2 c List.mem_cons_self
  rw [letter] at digit
  exact Bool.noConfusion digit

/-- What a spelled integer stands for is settled by whether it fits into 64 bits. -/
theorem ofNumeral_of_spells
    {text : Text} {n : Int} (spelled : Text.Spells text n) :
    ofNumeral text =
      match word? n with
      | some word => int word
      | none => ((Decimal.readFloat? text).map float).getD (.text text) := by
  obtain ⟨digits, row, written⟩ := exists_row_of_spells spelled
  obtain ⟨body, _⟩ := isNumeral_of_row row written
  have notInfinity : digits ≠ ("Infinity" : String).toList := ne_word_of_row row (by decide) _
  have notNaN : digits ≠ ("NaN" : String).toList := ne_word_of_row row (by decide) _
  have read : readWord? text = word? n := by
    rw [readWord?, (Text.toInt?_eq_some_iff text n).2 spelled, Option.bind_some]
  rw [ofNumeral]
  simp only [body, if_neg notInfinity, if_neg notNaN, read]
  cases word? n with
  | some word => rfl
  | none => cases Decimal.readFloat? text <;> rfl

/-- A line that spells an integer is left to the reader of numerals. -/
theorem ofLine_of_spells
    {line : Text} {n : Int} (spelled : Text.Spells (Text.trim line) n) :
    ofLine line = ofNumeral (Text.trim line) := by
  obtain ⟨digits, row, written⟩ := exists_row_of_spells spelled
  obtain ⟨body, numeral⟩ := isNumeral_of_row row written
  have notEmpty : Text.trim line ≠ [] := by
    intro empty
    rw [empty] at numeral
    exact absurd numeral (by decide)
  have notTrue : Text.trim line ≠ ("true" : String).toList := by
    intro word
    rw [word] at numeral
    exact absurd numeral (by decide)
  have notFalse : Text.trim line ≠ ("false" : String).toList := by
    intro word
    rw [word] at numeral
    exact absurd numeral (by decide)
  simp only [ofLine, if_neg notEmpty, if_neg notTrue, if_neg notFalse, numeral, if_true]

theorem exists_magnitude_of_row
    {digits : Text} (row : Json.IsDigitRow digits) :
    ∃ x, Decimal.readMagnitude? digits = some x := by
  have whole : digits.takeWhile Char.isDigit = digits := List.takeWhile_eq_self_iff.2 row.2
  have behind : digits.dropWhile Char.isDigit = [] := List.dropWhile_eq_nil_iff.2 row.2
  simp [Decimal.readMagnitude?, Decimal.spanDigits, whole, behind, row.1, Decimal.readExponent?]

theorem exists_float_of_spells
    {text : Text} {n : Int} (spelled : Text.Spells text n) :
    ∃ x, Decimal.readFloat? text = some x := by
  obtain ⟨digits, row, written⟩ := exists_row_of_spells spelled
  obtain ⟨x, magnitude⟩ := exists_magnitude_of_row row
  rcases written with rfl | rfl | rfl
  · refine ⟨x, ?_⟩
    rw [Decimal.readFloat?.eq_3]
    · exact magnitude
    · exact fun _ => ne_word_of_row row (by decide) _
    · exact fun _ => ne_word_of_row row (by decide) _
  · exact ⟨x, magnitude⟩
  · refine ⟨-x, ?_⟩
    rw [Decimal.readFloat?, magnitude]
    rfl

/-! ## Integers of 64 bits -/

theorem word?_eq_some_iff
    (n : Int) (word : Int64) :
    word? n = some word ↔ n = word.toInt := by
  constructor
  · intro fits
    rw [word?] at fits
    split at fits
    · next bounds =>
      cases fits
      exact (Int64.toInt_ofInt_of_le bounds.1 (Int.lt_add_one_of_le bounds.2)).symm
    · exact absurd fits (by simp)
  · rintro rfl
    exact word?_toInt word

theorem word?_eq_none_iff
    (n : Int) :
    word? n = none ↔ n < -9223372036854775808 ∨ 9223372036854775808 ≤ n := by
  have least : Int64.minValue.toInt = -9223372036854775808 := rfl
  have greatest : Int64.maxValue.toInt = 9223372036854775807 := rfl
  rw [word?, least, greatest]
  split <;> simp <;> omega

theorem spells_of_ofNumeral
    {text : Text} {n : Int64} (stands : ofNumeral text = int n) :
    Text.Spells text n.toInt := by
  rw [ofNumeral] at stands
  split at stands
  · exact absurd stands (by simp)
  · split at stands
    · exact absurd stands (by simp)
    · split at stands
      · next read =>
        cases stands
        obtain ⟨m, spelled, fits⟩ := Option.bind_eq_some_iff.1 read
        rw [← (word?_eq_some_iff m n).1 fits, ← Text.toInt?_eq_some_iff]
        exact spelled
      · split at stands <;> exact absurd stands (by simp)

theorem eq_int_of_ofJson
    {json : Json} {n : Int64} (stands : ofJson json = int n) :
    json = .int n.toInt := by
  cases json with
  | int m =>
      rw [ofJson] at stands
      split at stands
      · next fits =>
        cases stands
        rw [(word?_eq_some_iff m n).1 fits]
      · exact absurd stands (by simp)
  | _ => simp [ofJson] at stands

theorem ofLine_eq_int_iff
    (line : Text) (n : Int64) :
    ofLine line = int n ↔ Text.Spells (Text.trim line) n.toInt := by
  constructor
  · intro stands
    rw [ofLine] at stands
    split at stands
    · exact absurd stands (by simp)
    · next nonempty =>
      split at stands
      · exact absurd stands (by simp)
      · split at stands
        · exact absurd stands (by simp)
        · split at stands
          · exact spells_of_ofNumeral stands
          · next notNumeral =>
            split at stands
            · -- JSON gives an integer only for what is a numeral already.
              next json parsed =>
              rw [eq_int_of_ofJson stands] at parsed
              obtain ⟨digits, row, written⟩ :=
                Json.exists_digits_of_parse (Text.hasSolidEnds_trim nonempty) parsed
              have numeral := (isNumeral_of_row row (by tauto)).2
              exact absurd numeral notNumeral
            · exact absurd stands (by simp)
  · intro spelled
    rw [ofLine_of_spells spelled, ofNumeral_of_spells spelled, word?_toInt]

theorem exists_float_ofLine
    {line : Text} {n : Int} (spelled : Text.Spells (Text.trim line) n)
    (outside : n < -9223372036854775808 ∨ 9223372036854775808 ≤ n) :
    ∃ x, ofLine line = float x := by
  obtain ⟨x, read⟩ := exists_float_of_spells spelled
  refine ⟨x, ?_⟩
  rw [ofLine_of_spells spelled, ofNumeral_of_spells spelled, (word?_eq_none_iff n).2 outside,
    read]
  rfl

/-- The digits of a spelled integer are those of the Latin script. -/
theorem isDigit_of_spells
    {text : Text} {n : Int} (spelled : Text.Spells text n) {c : Char} (member : c ∈ text)
    (digit : Text.isAnyDigit c = true) :
    c.isDigit = true := by
  obtain ⟨digits, row, written⟩ := exists_row_of_spells spelled
  rcases written with rfl | rfl | rfl
  · exact row.2 c member
  · rcases List.mem_cons.1 member with rfl | later
    · exact absurd digit (by decide)
    · exact row.2 c later
  · rcases List.mem_cons.1 member with rfl | later
    · exact absurd digit (by decide)
    · exact row.2 c later

/-- Integer lines are recognised exactly: a line stands for an integer of 64 bits if and only if it
spells that integer, in decimal digits behind at most one sign. An integer that does not fit is
a floating-point number, and digits of other scripts and other JSON texts are no integers. -/
theorem integer_lines_are_spelled :
    (∀ (line : Text) (n : Int64),
      ofLine line = int n ↔ Text.Spells (Text.trim line) n.toInt) ∧
    (∀ (line : Text) (n : Int),
      Text.Spells (Text.trim line) n →
        n < -9223372036854775808 ∨ 9223372036854775808 ≤ n → ∃ x, ofLine line = float x) ∧
    (∀ (line : Text) (c : Char),
      c ∈ Text.trim line → Text.isAnyDigit c = true → c.isDigit = false →
        ∀ n, ofLine line ≠ int n) ∧
    (∀ (line : Text) (json : Json),
      Json.parse (Text.trim line) = .ok json → (∀ n, ¬Text.Spells (Text.trim line) n) →
        ∀ n, ofLine line ≠ int n) := by
  refine ⟨ofLine_eq_int_iff, fun _ _ => exists_float_ofLine, ?_, ?_⟩
  · intro line c member digit foreign n stands
    have latin := isDigit_of_spells ((ofLine_eq_int_iff line n).1 stands) member digit
    rw [foreign] at latin
    exact Bool.noConfusion latin
  · intro line json _ unspelled n stands
    exact unspelled n.toInt ((ofLine_eq_int_iff line n).1 stands)

/-- A negative integer with zeros ahead of its digits and blanks around it, the least integer that
is too great, digits of two scripts in one line, and a list of one integer. -/
theorem integer_lines_are_spelled_edges :
    ofLine " -007\t".toList = int (-7) ∧
      (∃ x, ofLine "+9223372036854775808".toList = float x) ∧
      (∀ n, ofLine "1\u0663".toList ≠ int n) ∧ ∀ n, ofLine "[5]".toList ≠ int n := by
  have negative : Text.Spells (Text.trim " -007\t".toList) (-7) :=
    (Text.toInt?_eq_some_iff _ _).1 (by decide)
  have great : Text.Spells (Text.trim "+9223372036854775808".toList) 9223372036854775808 :=
    (Text.toInt?_eq_some_iff _ _).1 (by decide)
  have unspelled : ∀ n, ¬Text.Spells (Text.trim "[5]".toList) n := by
    intro n spelled
    have unread : Text.toInt? (Text.trim "[5]".toList) = none := by decide
    rw [← Text.toInt?_eq_some_iff, unread] at spelled
    exact absurd spelled (by simp)
  obtain ⟨exactly, beyond, foreign, other⟩ := integer_lines_are_spelled
  refine ⟨(exactly _ _).2 negative, beyond _ _ great (by decide), ?_, ?_⟩
  · exact foreign _ '\u0663' (by decide) (by decide) (by decide)
  · exact other _ (.array [.int 5]) rfl unspelled

end Kata.Value
