import Kata.Json.Printer
import Kata.Json.Reader
import Kata.Proofs.Text.Digits

/-!
# Reading the leaves of a JSON text

What the reader does with a blank, a word, a written integer and a quoted text when more text
follows. Each leaf is read exactly, and the text behind it is left.
-/

namespace Kata.Json

/-! ## Blanks and words -/

theorem skipSpace_append
    {gap : Text} (blank : ∀ c ∈ gap, isSpace c = true) (text : Text) :
    skipSpace (gap ++ text) = skipSpace text := by
  induction gap with
  | nil => rfl
  | cons c gap inductionHypothesis =>
      rw [List.forall_mem_cons] at blank
      rw [List.cons_append, skipSpace, List.dropWhile_cons_of_pos blank.1]
      exact inductionHypothesis blank.2

theorem skipSpace_cons
    {c : Char} (solid : isSpace c = false) (rest : Text) :
    skipSpace (c :: rest) = c :: rest := by
  rw [skipSpace, List.dropWhile_cons_of_neg]
  rw [solid]
  exact Bool.false_ne_true

@[simp]
theorem readWord_append
    (word rest : Text) :
    readWord word (word ++ rest) = .ok rest := by
  induction word with
  | nil => rfl
  | cons w word inductionHypothesis =>
      rw [List.cons_append, readWord, if_pos rfl, inductionHypothesis]

/-! ## Integers -/

/-- Whether a number cannot go on with a text. -/
def endsNumber (rest : Text) : Bool :=
  rest.head?.all fun c => !c.isDigit && c != '.' && c != 'e' && c != 'E'

/-- A number whose digits fit into 64 bits is taken in without a loss. -/
theorem absorb_of_le
    (digits : Text) :
    ∀ significand : Nat,
      Nat.ofDigitChars 10 digits significand ≤ greatestWord →
        absorb significand digits = (Nat.ofDigitChars 10 digits significand, 0) := by
  induction digits with
  | nil =>
      intro significand _
      rfl
  | cons c digits inductionHypothesis =>
      intro significand fits
      have grown :
          Nat.ofDigitChars 10 (c :: digits) significand =
            Nat.ofDigitChars 10 digits (10 * significand + Text.digitValue c) :=
        Nat.ofDigitChars_cons
      rw [grown] at fits ⊢
      have ahead :
          10 * significand + Text.digitValue c ≤
            Nat.ofDigitChars 10 digits (10 * significand + Text.digitValue c) := by
        rw [Nat.ofDigitChars_eq_ofDigitChars_zero]
        exact Nat.le_add_right_of_le (Nat.le_mul_of_pos_left _ (Nat.pow_pos (by decide)))
      rw [absorb, if_pos (Nat.le_trans ahead fits)]
      exact inductionHypothesis _ fits

theorem absorb_ofNat
    {n : Nat} (fits : n ≤ greatestWord) :
    absorb 0 (Text.ofNat n) = (n, 0) := by
  have value : Nat.ofDigitChars 10 (Text.ofNat n) 0 = n :=
    Nat.ofDigitChars_ten_toDigits
  rw [absorb_of_le (Text.ofNat n) 0 (by rw [value]; exact fits), value]

theorem takeWhile_digits_append
    {digits rest : Text} (allDigits : ∀ c ∈ digits, c.isDigit = true)
    (ends : endsNumber rest = true) :
    (digits ++ rest).takeWhile Char.isDigit = digits := by
  have restNone : rest.takeWhile Char.isDigit = [] := by
    cases rest with
    | nil => rfl
    | cons c rest =>
        rw [endsNumber, List.head?_cons, Option.all_some] at ends
        rw [List.takeWhile_cons_of_neg]
        intro digit
        rw [digit] at ends
        exact Bool.false_ne_true ends
  rw [List.takeWhile_append_of_pos allDigits, restNone, List.append_nil]

theorem dropWhile_digits_append
    {digits rest : Text} (allDigits : ∀ c ∈ digits, c.isDigit = true)
    (ends : endsNumber rest = true) :
    (digits ++ rest).dropWhile Char.isDigit = rest := by
  have split := List.takeWhile_append_dropWhile (p := Char.isDigit) (l := digits ++ rest)
  rw [takeWhile_digits_append allDigits ends] at split
  exact List.append_cancel_left split

/-- Behind the digits of an integer the number is complete. -/
theorem readBehindInteger_of_ends
    (negative : Bool) (significand : Nat) {rest : Text} (ends : endsNumber rest = true) :
    readBehindInteger negative significand 0 rest =
      .ok (exactInteger negative significand, rest) := by
  cases rest with
  | nil => rfl
  | cons c rest =>
      simp only [endsNumber, List.head?_cons, Option.all_some, Bool.and_eq_true, bne_iff_ne,
        ne_eq] at ends
      obtain ⟨⟨⟨_, notPoint⟩, notSmallMark⟩, notLargeMark⟩ := ends
      rw [readBehindInteger.eq_def]
      split
      · next equality =>
        injection equality with headEqual _
        exact absurd headEqual notPoint
      · rw [if_pos ⟨rfl, by simp [notSmallMark], by simp [notLargeMark]⟩]

/-- The written form of a natural number of 64 bits is read exactly. -/
theorem readNumber_ofNat
    (negative : Bool) {n : Nat} (fits : n ≤ greatestWord) {rest : Text}
    (ends : endsNumber rest = true) :
    readNumber negative (Text.ofNat n ++ rest) = .ok (exactInteger negative n, rest) := by
  have allDigits : ∀ c ∈ Text.ofNat n, c.isDigit = true :=
    fun c member => Text.isDigit_of_mem_ofNat member
  have nothingLeft := absorb_ofNat fits
  cases written : Text.ofNat n with
  | nil => exact absurd written (Text.ofNat_ne_nil n)
  | cons first others =>
      rw [written] at allDigits nothingLeft
      rw [List.cons_append, readNumber.eq_def]
      split
      · next equality => exact absurd equality (List.cons_ne_nil _ _)
      · next restEqual equality =>
        -- Only zero begins with the digit zero, and then nothing else is written.
        injection equality with headEqual tailEqual
        subst headEqual
        obtain ⟨zero, empty⟩ := Text.ofNat_eq_zero_cons n written
        subst zero empty tailEqual
        have noDigit : (([] : Text) ++ rest).head?.any Char.isDigit = false := by
          cases rest with
          | nil => rfl
          | cons c rest =>
              simp only [endsNumber, List.head?_cons, Option.all_some, Bool.and_eq_true,
                Bool.not_eq_true'] at ends
              exact ends.1.1.1
        rw [noDigit, if_neg Bool.false_ne_true, List.nil_append]
        exact readBehindInteger_of_ends negative 0 ends
      · next c restEqual _ equality =>
        injection equality with headEqual tailEqual
        subst headEqual tailEqual
        rw [List.forall_mem_cons] at allDigits
        rw [if_pos allDigits.1, takeWhile_digits_append allDigits.2 ends,
          dropWhile_digits_append allDigits.2 ends]
        simp only [nothingLeft]
        exact readBehindInteger_of_ends negative n ends

/-! ## Quoted texts -/

/-- Put a character ahead of a text that was read. -/
def ahead (c : Char) (found : Text × Text) : Text × Text :=
  (c :: found.1, found.2)

theorem readQuoted_plain
    {c : Char} (rest : Text) (notQuote : c ≠ '"') (notBackslash : c ≠ '\\')
    (visible : 32 ≤ c.toNat) :
    readQuoted (c :: rest) = (readQuoted rest).map (ahead c) := by
  rw [readQuoted.eq_6 c rest notQuote (fun isBackslash _ => notBackslash isBackslash)
    (fun _ _ _ _ _ isBackslash _ => notBackslash isBackslash)
    (fun _ _ isBackslash _ => notBackslash isBackslash), if_neg (by omega)]
  rfl

theorem readQuoted_escaped
    {c plain : Char} (rest : Text) (escape : escapedChar? c = some plain) (notHex : c ≠ 'u') :
    readQuoted ('\\' :: c :: rest) = (readQuoted rest).map (ahead plain) := by
  have noHex :
      ∀ (a b d e : Char) (others : Text),
        c = 'u' → rest = a :: b :: d :: e :: others → False :=
    fun _ _ _ _ _ isHex _ => notHex isHex
  rw [readQuoted.eq_5 c rest noHex, escape]
  rfl

theorem hexWord?_hexDigits :
    ∀ n < 32,
      hexWord? (hexDigit (n / 4096 % 16)) (hexDigit (n / 256 % 16)) (hexDigit (n / 16 % 16))
        (hexDigit (n % 16)) = some n := by
  decide

theorem readQuoted_control
    {c : Char} (rest : Text) (control : c.toNat < 32) :
    readQuoted ('\\' :: 'u' :: hexDigits c.toNat ++ rest) =
      (readQuoted rest).map (ahead c) := by
  rw [hexDigits]
  simp only [List.cons_append, List.nil_append]
  rw [readQuoted.eq_4, hexWord?_hexDigits c.toNat control]
  have notLow : ¬(0xdc00 ≤ c.toNat ∧ c.toNat ≤ 0xdfff) := by omega
  have notHigh : c.toNat < 0xd800 ∨ 0xdbff < c.toNat := by omega
  simp only [if_neg notLow, if_pos notHigh, Char.ofNat_toNat]
  rfl

/-- No control character is the letter of an escape. -/
theorem visible_of_escapedChar?
    {letter plain : Char} (escape : escapedChar? letter = some plain) :
    32 ≤ letter.toNat := by
  have none : ∀ n < 32, escapedChar? (Char.ofNat n) = none := by
    decide
  rcases Nat.lt_or_ge letter.toNat 32 with control | visible
  · have here := none letter.toNat control
    rw [Char.ofNat_toNat, escape] at here
    exact nomatch here
  · exact visible

/-- A character stands in a quoted text behind a backslash, by its number, or as it is. -/
theorem quoteChar_cases
    (c : Char) :
    (∃ letter, quoteChar c = ['\\', letter] ∧ escapedChar? letter = some c ∧ letter ≠ 'u') ∨
      (quoteChar c = '\\' :: 'u' :: hexDigits c.toNat ∧ c.toNat < 32) ∨
      (quoteChar c = [c] ∧ c ≠ '"' ∧ c ≠ '\\' ∧ 32 ≤ c.toNat) := by
  by_cases isQuote : c = '"'
  · subst isQuote; exact Or.inl ⟨'"', rfl, rfl, by decide⟩
  by_cases isBackslash : c = '\\'
  · subst isBackslash; exact Or.inl ⟨'\\', rfl, rfl, by decide⟩
  by_cases isLineFeed : c = '\n'
  · subst isLineFeed; exact Or.inl ⟨'n', rfl, rfl, by decide⟩
  by_cases isReturn : c = '\r'
  · subst isReturn; exact Or.inl ⟨'r', rfl, rfl, by decide⟩
  by_cases isTab : c = '\t'
  · subst isTab; exact Or.inl ⟨'t', rfl, rfl, by decide⟩
  by_cases isBackspace : c = '\x08'
  · subst isBackspace; exact Or.inl ⟨'b', rfl, rfl, by decide⟩
  by_cases isFormFeed : c = '\x0c'
  · subst isFormFeed; exact Or.inl ⟨'f', rfl, rfl, by decide⟩
  rw [quoteChar, if_neg isQuote, if_neg isBackslash, if_neg isLineFeed, if_neg isReturn,
    if_neg isTab, if_neg isBackspace, if_neg isFormFeed]
  by_cases control : c.toNat < 32
  · rw [if_pos control]
    exact Or.inr (Or.inl ⟨rfl, control⟩)
  · rw [if_neg control]
    exact Or.inr (Or.inr ⟨rfl, isQuote, isBackslash, by omega⟩)

/-- A character as it stands in a quoted text is read back. -/
theorem readQuoted_quoteChar
    (c : Char) (rest : Text) :
    readQuoted (quoteChar c ++ rest) = (readQuoted rest).map (ahead c) := by
  rcases quoteChar_cases c with
    ⟨letter, written, escape, notHex⟩ | ⟨written, control⟩ |
      ⟨written, notQuote, notBackslash, visible⟩
  · rw [written]
    exact readQuoted_escaped rest escape notHex
  · rw [written]
    exact readQuoted_control rest control
  · rw [written]
    exact readQuoted_plain rest notQuote notBackslash visible

/-- A quoted text is read back up to its closing quote. -/
theorem readQuoted_quote
    (content rest : Text) :
    readQuoted (content.flatMap quoteChar ++ '"' :: rest) = .ok (content, rest) := by
  induction content with
  | nil =>
      rw [List.flatMap_nil, List.nil_append, readQuoted]
  | cons c content inductionHypothesis =>
      rw [List.flatMap_cons, List.append_assoc, readQuoted_quoteChar, inductionHypothesis]
      rfl

theorem visible_hexDigits
    {n : Nat} (control : n < 32) :
    ∀ d ∈ hexDigits n, 32 ≤ d.toNat := by
  have each : ∀ n < 32, (hexDigits n).all (fun d => decide (32 ≤ d.toNat)) = true := by
    decide
  intro d member
  exact of_decide_eq_true (List.all_eq_true.1 (each n control) d member)

/-- A quoted text has no control characters. -/
theorem visible_of_mem_quote
    (content : Text) :
    ∀ d ∈ quote content, 32 ≤ d.toNat := by
  intro d member
  rw [quote, List.mem_append, List.mem_cons, List.mem_flatMap, List.mem_singleton] at member
  rcases member with (isQuote | ⟨c, _, inChar⟩) | isQuote
  · rw [isQuote]
    decide
  · rcases quoteChar_cases c with
      ⟨letter, written, escape, _⟩ | ⟨written, control⟩ | ⟨written, _, _, visible⟩
    · rw [written, List.mem_cons, List.mem_singleton] at inChar
      rcases inChar with isBackslash | isLetter
      · rw [isBackslash]
        decide
      · rw [isLetter]
        exact visible_of_escapedChar? escape
    · rw [written, List.mem_cons, List.mem_cons] at inChar
      rcases inChar with isBackslash | isMark | inDigits
      · rw [isBackslash]
        decide
      · rw [isMark]
        decide
      · exact visible_hexDigits control d inDigits
    · rw [written, List.mem_singleton] at inChar
      rw [inChar]
      exact visible
  · rw [isQuote]
    decide

end Kata.Json
