import Kata.Literal.Render
import Kata.Proofs.Json.Leaves

/-!
# Text literals

A text that is written as a literal is read back up to the closing quote, and all that follows is
left, whatever the text holds: backslashes, quotes, control characters, or digits and letters that
could be taken for a part of an escape. A literal stands on one line.
-/

namespace Kata.Literal

open Json (ahead)

/-! ## Reading an escape -/

/-- The value of an octal digit. -/
def octalValue? (c : Char) : Option Nat :=
  if 48 ≤ c.toNat ∧ c.toNat ≤ 55 then some (c.toNat - 48) else none

def octalWord? (a b c : Char) : Option Nat := do
  let a ← octalValue? a
  let b ← octalValue? b
  let c ← octalValue? c
  return 64 * a + 8 * b + c

/-- The character with a number, if it is the number of a character. -/
def numberedChar? (n : Nat) : Option Char :=
  if n.isValidChar then some (Char.ofNat n) else none

/-- The character of an escape of one letter inside the given quotes. -/
def letterEscape? (quote letter : Char) : Option Char :=
  if letter = '\\' then some '\\'
  else if letter = 'n' then some '\n'
  else if letter = 'r' then some '\r'
  else if letter = 't' then some '\t'
  else if letter = quote then some quote
  else none

/-- Read a character that is given by its number, behind the backslash. -/
def ControlEscape.read? : ControlEscape → Text → Option (Char × Text)
  | hexadecimal, 'u' :: a :: b :: c :: d :: rest =>
    ((Json.hexWord? a b c d).bind numberedChar?).map fun plain => (plain, rest)
  | octal, a :: b :: c :: rest =>
    ((octalWord? a b c).bind numberedChar?).map fun plain => (plain, rest)
  | _, _ => none

/-- Read an escape behind its backslash: a letter, or else a number. -/
def readEscape? (style : ControlEscape) (quote : Char) : Text → Option (Char × Text)
  | [] => none
  | letter :: rest =>
    match letterEscape? quote letter with
    | some plain => some (plain, rest)
    | none => style.read? (letter :: rest)

theorem length_read?
    {style : ControlEscape} {text behind : Text} {plain : Char}
    (found : style.read? text = some (plain, behind)) :
    behind.length < text.length := by
  rw [ControlEscape.read?.eq_def] at found
  split at found
  · obtain ⟨_, _, same⟩ := Option.map_eq_some_iff.1 found
    cases same
    simp only [List.length_cons]
    omega
  · obtain ⟨_, _, same⟩ := Option.map_eq_some_iff.1 found
    cases same
    simp only [List.length_cons]
    omega
  · exact nomatch found

theorem length_readEscape?
    {style : ControlEscape} {quote : Char} {text behind : Text} {plain : Char}
    (found : readEscape? style quote text = some (plain, behind)) :
    behind.length < text.length := by
  cases text with
  | nil => exact nomatch found
  | cons letter rest =>
      rw [readEscape?] at found
      split at found
      · cases found
        exact Nat.lt_succ_self _
      · exact length_read? found

/-! ## Reading a literal -/

/-- Read the inside of a literal up to the first quote that is not escaped. -/
def readInside? (style : ControlEscape) (quote : Char) (text : Text) : Option (Text × Text) :=
  match text with
  | [] => none
  | c :: rest =>
    if c = quote then some ([], rest)
    else if c = '\\' then
      match found : readEscape? style quote rest with
      | none => none
      | some (plain, behind) =>
        have : behind.length < rest.length := length_readEscape? found
        (readInside? style quote behind).map (ahead plain)
    else (readInside? style quote rest).map (ahead c)
termination_by text.length

def readBetween? (style : ControlEscape) (quote : Char) : Text → Option (Text × Text)
  | [] => none
  | c :: rest => if c = quote then readInside? style quote rest else none

/-- Read a literal between double quotes, as JSON has it. -/
def readJsonText? : Text → Option (Text × Text)
  | '"' :: rest => (Json.readQuoted rest).toOption
  | _ => none

/-- Read a text literal of a language. -/
def readText? (language : Language) (text : Text) : Option (Text × Text) :=
  match language with
  | .python => readJsonText? text
  | .javaScript => readJsonText? text
  | .java => readBetween? .hexadecimal '"' text
  | .cpp => readBetween? .octal '"' text

/-! ## Characters as they stand in a literal -/

def isLiteralQuote (quote : Char) : Bool :=
  quote == '"' || quote == '\''

theorem ne_of_isLiteralQuote
    {quote other : Char} (quotes : isLiteralQuote quote = true)
    (different : isLiteralQuote other = false) :
    quote ≠ other := by
  rintro rfl
  rw [quotes] at different
  exact Bool.noConfusion different

theorem visible_of_isLiteralQuote
    {quote : Char} (quotes : isLiteralQuote quote = true) :
    32 ≤ quote.toNat := by
  simp only [isLiteralQuote, Bool.or_eq_true, beq_iff_eq] at quotes
  rcases quotes with isDouble | isSingle
  · rw [isDouble]
    decide
  · rw [isSingle]
    decide

/-- A character stands in a literal behind a backslash, by its number, or as it is. -/
theorem escapeChar_cases
    (style : ControlEscape) {quote : Char} (quotes : isLiteralQuote quote = true) (c : Char) :
    (∃ letter, escapeChar style quote c = ['\\', letter] ∧
        letterEscape? quote letter = some c ∧ 32 ≤ letter.toNat) ∨
      (escapeChar style quote c = style.write c ∧ c.toNat < 32) ∨
      (escapeChar style quote c = [c] ∧ c ≠ quote ∧ c ≠ '\\' ∧ 32 ≤ c.toNat) := by
  by_cases isBackslash : c = '\\'
  · subst isBackslash; exact Or.inl ⟨'\\', rfl, rfl, by decide⟩
  by_cases isLineFeed : c = '\n'
  · subst isLineFeed; exact Or.inl ⟨'n', rfl, rfl, by decide⟩
  by_cases isReturn : c = '\r'
  · subst isReturn; exact Or.inl ⟨'r', rfl, rfl, by decide⟩
  by_cases isTab : c = '\t'
  · subst isTab; exact Or.inl ⟨'t', rfl, rfl, by decide⟩
  rw [escapeChar, if_neg isBackslash, if_neg isLineFeed, if_neg isReturn, if_neg isTab]
  by_cases isQuote : c = quote
  · subst isQuote
    have notN : c ≠ 'n' := ne_of_isLiteralQuote quotes (by decide)
    have notR : c ≠ 'r' := ne_of_isLiteralQuote quotes (by decide)
    have notT : c ≠ 't' := ne_of_isLiteralQuote quotes (by decide)
    have letter : letterEscape? c c = some c := by
      rw [letterEscape?, if_neg isBackslash, if_neg notN, if_neg notR, if_neg notT, if_pos rfl]
    rw [if_pos rfl]
    exact Or.inl ⟨c, rfl, letter, visible_of_isLiteralQuote quotes⟩
  · rw [if_neg isQuote]
    by_cases control : c.toNat < 32
    · rw [if_pos control]
      exact Or.inr (Or.inl ⟨rfl, control⟩)
    · rw [if_neg control]
      exact Or.inr (Or.inr ⟨rfl, isQuote, isBackslash, by omega⟩)

theorem numberedChar?_toNat
    (c : Char) :
    numberedChar? c.toNat = some c := by
  have valid : c.toNat.isValidChar := c.valid
  rw [numberedChar?, if_pos valid, Char.ofNat_toNat]

theorem octalWord?_octalDigits :
    ∀ n < 32,
      octalWord? (Json.hexDigit (n / 64 % 8)) (Json.hexDigit (n / 8 % 8)) (Json.hexDigit (n % 8)) =
        some n := by
  decide

/-- The number of a control character is not taken for an escape of one letter. -/
theorem readEscape?_write
    (style : ControlEscape) {quote : Char} (quotes : isLiteralQuote quote = true) {c : Char}
    (control : c.toNat < 32) (rest : Text) :
    ∃ number, style.write c = '\\' :: number ∧
      readEscape? style quote (number ++ rest) = some (c, rest) := by
  cases style with
  | hexadecimal =>
      have notLetter : letterEscape? quote 'u' = none := by
        have notQuote : 'u' ≠ quote := Ne.symm (ne_of_isLiteralQuote quotes (by decide))
        simp [letterEscape?, notQuote]
      have word := Json.hexWord?_hexDigits c.toNat control
      refine ⟨'u' :: Json.hexDigits c.toNat, rfl, ?_⟩
      rw [List.cons_append, readEscape?, notLetter, Json.hexDigits]
      simp only [List.cons_append, List.nil_append, ControlEscape.read?, word, Option.bind_some,
        numberedChar?_toNat, Option.map_some]
  | octal =>
      have leadingZero : Json.hexDigit (c.toNat / 64 % 8) = '0' := by
        have small : c.toNat / 64 % 8 = 0 := by omega
        rw [small]
        decide
      have notLetter : letterEscape? quote '0' = none := by
        have notQuote : '0' ≠ quote := Ne.symm (ne_of_isLiteralQuote quotes (by decide))
        simp [letterEscape?, notQuote]
      have word := octalWord?_octalDigits c.toNat control
      refine ⟨octalDigits c.toNat, rfl, ?_⟩
      rw [octalDigits, leadingZero] at *
      rw [List.cons_append, readEscape?, notLetter]
      simp only [List.cons_append, List.nil_append, ControlEscape.read?, word, Option.bind_some,
        numberedChar?_toNat, Option.map_some]

theorem readInside?_escape
    {style : ControlEscape} {quote plain : Char} {text behind : Text} (notBackslash : quote ≠ '\\')
    (found : readEscape? style quote text = some (plain, behind)) :
    readInside? style quote ('\\' :: text) = (readInside? style quote behind).map (ahead plain) := by
  rw [readInside?, if_neg (Ne.symm notBackslash), if_pos rfl]
  split
  · next missing =>
    rw [found] at missing
    exact nomatch missing
  · next other othersBehind same =>
    rw [found] at same
    cases same
    rfl

theorem readInside?_escapeChar
    (style : ControlEscape) {quote : Char} (quotes : isLiteralQuote quote = true) (c : Char)
    (rest : Text) :
    readInside? style quote (escapeChar style quote c ++ rest) =
      (readInside? style quote rest).map (ahead c) := by
  have notBackslash : quote ≠ '\\' := ne_of_isLiteralQuote quotes (by decide)
  rcases escapeChar_cases style quotes c with
    ⟨letter, written, escape, _⟩ | ⟨written, control⟩ | ⟨written, notQuote, plain, _⟩
  · have found : readEscape? style quote (letter :: rest) = some (c, rest) := by
      rw [readEscape?, escape]
    rw [written]
    exact readInside?_escape notBackslash found
  · obtain ⟨number, numbered, found⟩ := readEscape?_write style quotes control rest
    rw [written, numbered]
    exact readInside?_escape notBackslash found
  · rw [written, List.singleton_append, readInside?, if_neg notQuote, if_neg plain]

/-! ## Whole literals -/

/-- An escaped text is read back up to its closing quote. -/
theorem readInside?_escaped
    (style : ControlEscape) {quote : Char} (quotes : isLiteralQuote quote = true)
    (text rest : Text) :
    readInside? style quote (escape style quote text ++ quote :: rest) = some (text, rest) := by
  rw [escape]
  induction text with
  | nil => rw [List.flatMap_nil, List.nil_append, readInside?, if_pos rfl]
  | cons c text inductionHypothesis =>
      rw [List.flatMap_cons, List.append_assoc, readInside?_escapeChar style quotes,
        inductionHypothesis]
      rfl

theorem visible_write
    (style : ControlEscape) :
    ∀ n < 32, (style.write (Char.ofNat n)).all (fun d => decide (32 ≤ d.toNat)) = true := by
  cases style with
  | hexadecimal => decide
  | octal => decide

theorem visible_of_mem_escape
    (style : ControlEscape) {quote : Char} (quotes : isLiteralQuote quote = true) (text : Text) :
    ∀ d ∈ escape style quote text, 32 ≤ d.toNat := by
  intro d member
  obtain ⟨c, _, inChar⟩ := List.mem_flatMap.1 member
  rcases escapeChar_cases style quotes c with
    ⟨letter, written, _, visible⟩ | ⟨written, control⟩ | ⟨written, _, _, visible⟩
  · rw [written, List.mem_cons, List.mem_singleton] at inChar
    rcases inChar with isBackslash | isLetter
    · rw [isBackslash]
      decide
    · rw [isLetter]
      exact visible
  · have numbered := visible_write style c.toNat control
    rw [Char.ofNat_toNat, List.all_eq_true] at numbered
    rw [written] at inChar
    exact of_decide_eq_true (numbered d inChar)
  · rw [written, List.mem_singleton] at inChar
    rw [inChar]
    exact visible

theorem not_mem_of_visible
    {text : Text} (visible : ∀ c ∈ text, 32 ≤ c.toNat) :
    '\n' ∉ text ∧ '\r' ∉ text :=
  ⟨fun member => absurd (visible _ member) (by decide),
    fun member => absurd (visible _ member) (by decide)⟩

/-- An escaped text between its quotes is read back and stands on one line. -/
theorem escaped_between_quotes
    (style : ControlEscape) {quote : Char} (quotes : isLiteralQuote quote = true)
    (text rest : Text) :
    let written := quote :: escape style quote text ++ [quote]
    readBetween? style quote (written ++ rest) = some (text, rest) ∧
      '\n' ∉ written ∧ '\r' ∉ written := by
  intro written
  have inside := readInside?_escaped style quotes text rest
  have regrouped : written ++ rest = quote :: (escape style quote text ++ quote :: rest) := by
    simp [written]
  have visible : ∀ c ∈ written, 32 ≤ c.toNat := by
    have quoteVisible := visible_of_isLiteralQuote quotes
    intro c member
    rw [List.mem_append, List.mem_cons, List.mem_singleton] at member
    rcases member with (isOpening | inText) | isClosing
    · rw [isOpening]
      exact quoteVisible
    · exact visible_of_mem_escape style quotes text c inText
    · rw [isClosing]
      exact quoteVisible
  refine ⟨?_, not_mem_of_visible visible⟩
  rw [regrouped, readBetween?, if_pos rfl, inside]

theorem quoted_in_json
    (text rest : Text) :
    readJsonText? (Json.quote text ++ rest) = some (text, rest) ∧
      '\n' ∉ Json.quote text ∧ '\r' ∉ Json.quote text := by
  have inside := Json.readQuoted_quote text rest
  have regrouped :
      Json.quote text ++ rest = '"' :: (text.flatMap Json.quoteChar ++ '"' :: rest) := by
    simp [Json.quote]
  refine ⟨?_, not_mem_of_visible (Json.visible_of_mem_quote text)⟩
  rw [regrouped, readJsonText?, inside]
  rfl

/-- In every language a text that is written as a literal is read back, whatever follows, and
stands on one line; and so does any text that is escaped between single quotes. -/
theorem text_literals_are_read_back :
    (∀ (language : Language) (text rest : Text),
      let written := render language (.text text) .string
      readText? language (written ++ rest) = some (text, rest) ∧
        '\n' ∉ written ∧ '\r' ∉ written) ∧
    (∀ (style : ControlEscape) (text rest : Text),
      let written := '\'' :: escape style '\'' text ++ ['\'']
      readBetween? style '\'' (written ++ rest) = some (text, rest) ∧
        '\n' ∉ written ∧ '\r' ∉ written) := by
  refine ⟨fun language text rest => ?_, fun style text rest => ?_⟩
  · have double : isLiteralQuote '"' = true := by decide
    cases language with
    | python => exact quoted_in_json text rest
    | javaScript => exact quoted_in_json text rest
    | java => exact escaped_between_quotes .hexadecimal double text rest
    | cpp => exact escaped_between_quotes .octal double text rest
  · have single : isLiteralQuote '\'' = true := by decide
    exact escaped_between_quotes style single text rest

end Kata.Literal
