import Kata.Proofs.Json.Lists

/-!
# Reading with more text behind

What a reader returns does not change when it may take more steps, when it may go another number
of levels deep that is still enough for the value, or when more text follows, provided that the
added text does not carry on a number. Hence a text that is read as a value when it stands alone
stands for this value in lists and objects.
-/

namespace Kata.Json

/-! ## Added texts -/

/-- Whether no number goes on from what a reader left into an added text. -/
def Parted (rest more : Text) : Prop :=
  rest = [] → endsNumber more = true

/-- Whether a reader, given more text, returns the same and leaves this text too. -/
def Extends {α : Type} (more : Text) (alone extended : Except Fault (α × Text)) : Prop :=
  ∀ found rest, alone = .ok (found, rest) → Parted rest more →
    extended = .ok (found, rest ++ more)

theorem extends_error
    {α : Type} (more : Text) (fault : Fault) (extended : Except Fault (α × Text)) :
    Extends more (.error fault) extended := by
  intro found rest read
  exact absurd read (by simp)

theorem extends_ok
    {α : Type} (more : Text) (found : α) (rest : Text) :
    Extends more (.ok (found, rest)) (.ok (found, rest ++ more)) := by
  intro other behind read _
  cases read
  rfl

/-! ## Numbers -/

section Numbers

variable {more : Text}

theorem digits_append
    {text : Text} (parted : Parted (text.dropWhile Char.isDigit) more) :
    (text ++ more).takeWhile Char.isDigit = text.takeWhile Char.isDigit ∧
      (text ++ more).dropWhile Char.isDigit = text.dropWhile Char.isDigit ++ more := by
  have whole : text.takeWhile Char.isDigit ++ text.dropWhile Char.isDigit = text :=
    List.takeWhile_append_dropWhile
  have allDigits : ∀ c ∈ text.takeWhile Char.isDigit, c.isDigit = true :=
    fun c member => List.mem_takeWhile_imp member
  by_cases empty : text.dropWhile Char.isDigit = []
  · have ends := parted empty
    rw [empty, List.append_nil] at whole
    rw [empty, List.nil_append]
    rw [whole] at allDigits ⊢
    exact ⟨takeWhile_digits_append allDigits ends, dropWhile_digits_append allDigits ends⟩
  · have dropped :
        (text ++ more).dropWhile Char.isDigit = text.dropWhile Char.isDigit ++ more := by
      rw [List.dropWhile_append, if_neg (by simpa using empty)]
    have both :=
      List.takeWhile_append_dropWhile (p := Char.isDigit) (l := text ++ more)
    rw [dropped, ← List.append_assoc] at both
    have taken :
        (text ++ more).takeWhile Char.isDigit ++ text.dropWhile Char.isDigit =
          text.takeWhile Char.isDigit ++ text.dropWhile Char.isDigit := by
      rw [whole]
      exact List.append_cancel_right both
    exact ⟨List.append_cancel_right taken, dropped⟩

theorem head?_ne_of_ends
    (ends : endsNumber more = true) :
    more.head? ≠ some '.' ∧ more.head? ≠ some 'e' ∧ more.head? ≠ some 'E' ∧
      more.head?.any Char.isDigit = false := by
  cases more with
  | nil => simp
  | cons c more =>
      simp only [endsNumber, List.head?_cons, Option.all_some, Bool.and_eq_true, bne_iff_ne,
        ne_eq, Bool.not_eq_true'] at ends
      obtain ⟨⟨⟨notDigit, notPoint⟩, notSmallMark⟩, notLargeMark⟩ := ends
      simp [notDigit, notPoint, notSmallMark, notLargeMark]

theorem extends_floatFromParts
    (negative : Bool) (significand : Nat) (exponent : Int) (rest : Text) :
    Extends more (floatFromParts negative significand exponent rest)
      (floatFromParts negative significand exponent (rest ++ more)) := by
  rw [floatFromParts, floatFromParts]
  split
  · exact extends_ok _ _ _
  · exact extends_error _ _ _

theorem rest_of_floatFromParts
    {negative : Bool} {significand : Nat} {exponent : Int} {text rest : Text} {value : Json}
    (read : floatFromParts negative significand exponent text = .ok (value, rest)) :
    rest = text := by
  rw [floatFromParts] at read
  split at read
  · cases read
    rfl
  · exact absurd read (by simp [Fault.here])

/-! ### Exponents -/

theorem readExponentDigits_some_append
    {text rest : Text} {n value : Nat}
    (read : readExponentDigits n text = (some value, rest)) (parted : Parted rest more) :
    readExponentDigits n (text ++ more) = (some value, rest ++ more) := by
  induction text generalizing n with
  | nil =>
      cases read
      cases more with
      | nil => rfl
      | cons c more =>
          have notDigit := (head?_ne_of_ends (parted rfl)).2.2.2
          rw [List.head?_cons, Option.any_some] at notDigit
          rw [List.nil_append, readExponentDigits, if_neg (by simp [notDigit])]
  | cons c text inductionHypothesis =>
      rw [readExponentDigits] at read
      rw [List.cons_append, readExponentDigits]
      split
      · next digit =>
        rw [if_pos digit] at read
        dsimp only at read ⊢
        split
        · next small =>
          rw [if_pos small] at read
          exact inductionHypothesis read
        · next large =>
          rw [if_neg large] at read
          exact absurd read (by simp)
      · next notDigit =>
        rw [if_neg notDigit] at read
        cases read
        rfl

theorem readExponentDigits_none_append
    {text rest : Text} {n : Nat}
    (read : readExponentDigits n text = (none, rest)) (more : Text) :
    readExponentDigits n (text ++ more) = (none, rest ++ more) := by
  induction text generalizing n with
  | nil => exact absurd read (by simp [readExponentDigits])
  | cons c text inductionHypothesis =>
      rw [readExponentDigits] at read
      rw [List.cons_append, readExponentDigits]
      split
      · next digit =>
        rw [if_pos digit] at read
        dsimp only at read ⊢
        split
        · next small =>
          rw [if_pos small] at read
          exact inductionHypothesis read
        · next large =>
          rw [if_neg large] at read
          cases read
          rfl
      · next notDigit =>
        rw [if_neg notDigit] at read
        exact absurd read (by simp)

/-- What follows the sign of an exponent. -/
def readBehindSign (negative : Bool) (significand : Nat) (exponent : Int) (isNegative : Bool) :
    Text → Except Fault (Json × Text)
  | [] => Fault.here .endInValue []
  | c :: rest =>
    if c.isDigit then
      match readExponentDigits (Text.digitValue c) rest with
      | (some value, rest) =>
        let sum := if isNegative then exponent - value else exponent + value
        floatFromParts negative significand (max (-greatestExponent - 1) (min greatestExponent sum))
          rest
      | (none, rest) =>
        if significand ≠ 0 ∧ !isNegative then Fault.here .numberTooLarge rest
        else .ok (.float (if negative then -0.0 else 0.0), rest.dropWhile Char.isDigit)
    else Fault.here .badNumber rest

/-- Whether an exponent has a minus sign, and what follows its sign. -/
def exponentSign : Text → Bool × Text
  | '+' :: rest => (false, rest)
  | '-' :: rest => (true, rest)
  | rest => (false, rest)

theorem readExponent_eq
    (negative : Bool) (significand : Nat) (exponent : Int) (text : Text) :
    readExponent negative significand exponent text =
      readBehindSign negative significand exponent (exponentSign text).1
        (exponentSign text).2 := by
  rfl

theorem exponentSign_append
    {text : Text} (nonempty : text ≠ []) (more : Text) :
    exponentSign (text ++ more) = ((exponentSign text).1, (exponentSign text).2 ++ more) := by
  cases text with
  | nil => exact absurd rfl nonempty
  | cons c text =>
      by_cases isPlus : c = '+'
      · subst isPlus
        rfl
      · by_cases isMinus : c = '-'
        · subst isMinus
          rfl
        · simp [exponentSign, isPlus, isMinus]

theorem extends_readBehindSign
    (negative : Bool) (significand : Nat) (exponent : Int) (isNegative : Bool) (text : Text) :
    Extends more (readBehindSign negative significand exponent isNegative text)
      (readBehindSign negative significand exponent isNegative (text ++ more)) := by
  cases text with
  | nil => exact extends_error _ _ _
  | cons c text =>
      rw [List.cons_append, readBehindSign, readBehindSign]
      split
      · rcases digits : readExponentDigits (Text.digitValue c) text with ⟨_ | n, rest⟩
        · rw [readExponentDigits_none_append digits more]
          dsimp only
          split
          · exact extends_error _ _ _
          · intro value behind read parted
            cases read
            rw [(digits_append parted).2]
        · intro value behind read parted
          dsimp only at read
          have left := rest_of_floatFromParts read
          subst left
          rw [readExponentDigits_some_append digits parted]
          exact extends_floatFromParts _ _ _ _ _ _ read parted
      · exact extends_error _ _ _

theorem extends_readExponent
    (negative : Bool) (significand : Nat) (exponent : Int) (text : Text) :
    Extends more (readExponent negative significand exponent text)
      (readExponent negative significand exponent (text ++ more)) := by
  rw [readExponent_eq, readExponent_eq]
  by_cases empty : text = []
  · subst empty
    exact extends_error _ _ _
  · rw [exponentSign_append empty]
    exact extends_readBehindSign _ _ _ _ _

/-! ### Integer parts and fractions -/

theorem readScaled_of_head
    (negative : Bool) (significand : Nat) (exponent : Int) {text : Text}
    (notSmallMark : text.head? ≠ some 'e') (notLargeMark : text.head? ≠ some 'E') :
    readScaled negative significand exponent text =
      floatFromParts negative significand exponent text := by
  rw [readScaled.eq_def]
  split
  · exact absurd rfl notSmallMark
  · exact absurd rfl notLargeMark
  · rfl

theorem extends_readScaled
    (negative : Bool) (significand : Nat) (exponent : Int) (text : Text) :
    Extends more (readScaled negative significand exponent text)
      (readScaled negative significand exponent (text ++ more)) := by
  cases text with
  | nil =>
      intro value rest read parted
      have left := rest_of_floatFromParts read
      subst left
      obtain ⟨_, notSmallMark, notLargeMark, _⟩ := head?_ne_of_ends (parted rfl)
      rw [List.nil_append, readScaled_of_head _ _ _ notSmallMark notLargeMark]
      exact extends_floatFromParts _ _ _ _ _ _ read parted
  | cons c text =>
      rw [readScaled.eq_def, readScaled.eq_def]
      by_cases isSmallMark : c = 'e'
      · subst isSmallMark
        exact extends_readExponent _ _ _ _
      · by_cases isLargeMark : c = 'E'
        · subst isLargeMark
          exact extends_readExponent _ _ _ _
        · simp only [List.cons_append, List.cons.injEq, isSmallMark, isLargeMark, false_and,
            imp_self, implies_true]
          exact extends_floatFromParts _ _ _ (c :: text)

theorem rest_of_readScaled_nil
    {negative : Bool} {significand : Nat} {exponent : Int} {rest : Text} {value : Json}
    (read : readScaled negative significand exponent [] = .ok (value, rest)) :
    rest = [] :=
  rest_of_floatFromParts read

theorem extends_readFraction
    (negative : Bool) (significand : Nat) (exponent : Int) (text : Text) :
    Extends more (readFraction negative significand exponent text)
      (readFraction negative significand exponent (text ++ more)) := by
  intro value rest read parted
  rw [readFraction] at read ⊢
  dsimp only at read ⊢
  split at read
  · split at read <;> exact absurd read (by simp [Fault.ahead])
  · next nonempty =>
    have behind : Parted (text.dropWhile Char.isDigit) more := by
      intro empty
      rw [empty] at read
      exact parted (rest_of_readScaled_nil read)
    obtain ⟨taken, dropped⟩ := digits_append behind
    rw [taken, dropped, if_neg nonempty]
    exact extends_readScaled _ _ _ _ _ _ read parted

theorem readBehindInteger_of_head
    (negative : Bool) (significand skipped : Nat) {rest : Text}
    (notPoint : rest.head? ≠ some '.') :
    readBehindInteger negative significand skipped rest =
      if skipped = 0 ∧ rest.head? ≠ some 'e' ∧ rest.head? ≠ some 'E' then
        .ok (exactInteger negative significand, rest)
      else readScaled negative significand skipped rest := by
  rw [readBehindInteger.eq_def]
  split
  · exact absurd rfl notPoint
  · rfl

theorem rest_of_readBehindInteger_nil
    {negative : Bool} {significand skipped : Nat} {rest : Text} {value : Json}
    (read : readBehindInteger negative significand skipped [] = .ok (value, rest)) :
    rest = [] := by
  rw [readBehindInteger_of_head _ _ _ (by simp)] at read
  split at read
  · cases read
    rfl
  · exact rest_of_readScaled_nil read

theorem extends_readBehindInteger
    (negative : Bool) (significand skipped : Nat) (text : Text) :
    Extends more (readBehindInteger negative significand skipped text)
      (readBehindInteger negative significand skipped (text ++ more)) := by
  intro value rest read parted
  cases text with
  | nil =>
      obtain ⟨notPoint, notSmallMark, notLargeMark, _⟩ :=
        head?_ne_of_ends (parted (rest_of_readBehindInteger_nil read))
      rw [readBehindInteger_of_head _ _ _ (by simp)] at read
      rw [List.nil_append, readBehindInteger_of_head _ _ _ notPoint]
      by_cases complete : skipped = 0
      · rw [if_pos ⟨complete, by simp, by simp⟩] at read
        rw [if_pos ⟨complete, notSmallMark, notLargeMark⟩]
        cases read
        rfl
      · rw [if_neg (by simp [complete])] at read ⊢
        exact extends_readScaled _ _ _ [] _ _ read parted
  | cons c text =>
      by_cases isPoint : c = '.'
      · subst isPoint
        exact extends_readFraction _ _ _ _ _ _ read parted
      · rw [readBehindInteger_of_head _ _ _ (by simpa using isPoint)] at read
        rw [List.cons_append, readBehindInteger_of_head _ _ _ (by simpa using isPoint)]
        rw [List.head?_cons] at read ⊢
        by_cases complete : skipped = 0 ∧ some c ≠ some 'e' ∧ some c ≠ some 'E'
        · rw [if_pos complete] at read ⊢
          cases read
          rfl
        · rw [if_neg complete] at read ⊢
          exact extends_readScaled _ _ _ (c :: text) _ _ read parted

theorem extends_readNumber
    (negative : Bool) (text : Text) :
    Extends more (readNumber negative text) (readNumber negative (text ++ more)) := by
  intro value rest read parted
  rw [readNumber.eq_def] at read
  split at read
  · exact absurd read (by simp [Fault.here])
  · next behind =>
    split at read
    · exact absurd read (by simp [Fault.ahead])
    · next noDigit =>
      have extendedNoDigit : ¬(behind ++ more).head?.any Char.isDigit = true := by
        cases behind with
        | nil =>
            rw [List.nil_append,
              (head?_ne_of_ends (parted (rest_of_readBehindInteger_nil read))).2.2.2]
            exact Bool.false_ne_true
        | cons c behind => exact noDigit
      rw [List.cons_append, readNumber, if_neg extendedNoDigit]
      exact extends_readBehindInteger _ _ _ _ _ _ read parted
  · next c behind notZero =>
    split at read
    · next digit =>
      have digits : Parted (behind.dropWhile Char.isDigit) more := by
        intro empty
        rw [empty] at read
        exact parted (rest_of_readBehindInteger_nil read)
      obtain ⟨taken, dropped⟩ := digits_append digits
      rw [List.cons_append, readNumber, if_pos digit, taken, dropped]
      · exact extends_readBehindInteger _ _ _ _ _ _ read parted
      · exact notZero
    · exact absurd read (by simp [Fault.here])

end Numbers

/-! ## Words, quoted texts and signs -/

theorem readWord_extended
    {word text rest : Text} (read : readWord word text = .ok rest) (more : Text) :
    readWord word (text ++ more) = .ok (rest ++ more) := by
  induction word generalizing text with
  | nil =>
      cases read
      rfl
  | cons w word inductionHypothesis =>
      cases text with
      | nil => exact absurd read (by simp [readWord, Fault.here])
      | cons c text =>
          rw [readWord] at read
          rw [List.cons_append, readWord]
          split at read
          · next same =>
            rw [if_pos same]
            exact inductionHypothesis read
          · exact absurd read (by simp [Fault.here])

theorem word_extended
    {value found : Json} {word text rest : Text}
    (read : ((readWord word text).map fun behind => (value, behind)) = .ok (found, rest))
    (more : Text) :
    ((readWord word (text ++ more)).map fun behind => (value, behind)) =
      .ok (found, rest ++ more) := by
  obtain ⟨behind, finished, equality⟩ := map_eq_ok_iff.1 read
  cases equality
  rw [readWord_extended finished]
  rfl

/-! ### Quoted texts -/

theorem hexFault_ne_ok
    {α : Type} (text : Text) (found : α) :
    hexFault text ≠ .ok found := by
  rw [hexFault]
  split <;> simp [Fault.here]

theorem surrogateFault_ne_ok
    {α : Type} (text : Text) (found : α) :
    surrogateFault text ≠ .ok found := by
  rw [surrogateFault.eq_def]
  split
  · simp [Fault.here]
  · simp [Fault.here]
  · exact hexFault_ne_ok _ _
  · simp [Fault.ahead]
  · simp [Fault.ahead]

section Escapes

variable {a b c d : Char} {code : Nat} (word : hexWord? a b c d = some code)
include word

theorem readQuoted_numbered
    (notTrailing : ¬(0xdc00 ≤ code ∧ code ≤ 0xdfff)) (notLeading : code < 0xd800 ∨ 0xdbff < code)
    (rest : Text) :
    readQuoted ('\\' :: 'u' :: a :: b :: c :: d :: rest) =
      (readQuoted rest).map (ahead (Char.ofNat code)) := by
  rw [readQuoted.eq_4, word]
  dsimp only
  rw [if_neg notTrailing, if_pos notLeading]
  rfl

theorem readQuoted_paired
    {e f g h : Char} {low : Nat} (lowWord : hexWord? e f g h = some low)
    (notTrailing : ¬(0xdc00 ≤ code ∧ code ≤ 0xdfff))
    (leading : ¬(code < 0xd800 ∨ 0xdbff < code)) (trailing : ¬(low < 0xdc00 ∨ 0xdfff < low))
    (rest : Text) :
    readQuoted ('\\' :: 'u' :: a :: b :: c :: d :: '\\' :: 'u' :: e :: f :: g :: h :: rest) =
      (readQuoted rest).map
        (ahead (Char.ofNat ((code - 0xd800) * 1024 + (low - 0xdc00) + 0x10000))) := by
  rw [readQuoted.eq_4, word]
  dsimp only
  rw [if_neg notTrailing, if_neg leading]
  simp only [lowWord, if_neg trailing]
  rfl

end Escapes

theorem ahead_extended
    {c : Char} {text rest content : Text} {more : Text}
    (kept :
      ∀ {content : Text},
        readQuoted text = .ok (content, rest) →
          readQuoted (text ++ more) = .ok (content, rest ++ more))
    (read : (readQuoted text).map (ahead c) = .ok (content, rest)) :
    (readQuoted (text ++ more)).map (ahead c) = .ok (content, rest ++ more) := by
  obtain ⟨⟨others, behind⟩, first, equality⟩ := map_eq_ok_iff.1 read
  cases equality
  rw [kept first]
  rfl

theorem readQuoted_extended
    {text rest content : Text} (read : readQuoted text = .ok (content, rest)) (more : Text) :
    readQuoted (text ++ more) = .ok (content, rest ++ more) := by
  fun_induction readQuoted text generalizing content with
  | case2 behind =>
      cases read
      rw [List.cons_append, readQuoted]
  | case6 a b c d behind code word notTrailing notLeading inductionHypothesis =>
      simp only [List.cons_append]
      rw [readQuoted_numbered word notTrailing notLeading]
      exact ahead_extended inductionHypothesis read
  | case9 a b c d code word notTrailing leading e f g h behind low lowWord trailing whole =>
      rename_i inductionHypothesis
      simp only [List.cons_append]
      rw [readQuoted_paired word lowWord notTrailing leading trailing]
      exact ahead_extended inductionHypothesis read
  | case11 c behind notNumbered plain escape inductionHypothesis =>
      have notHex : c ≠ 'u' := by
        rintro rfl
        exact absurd escape (by simp [escapedChar?])
      rw [List.cons_append, List.cons_append, readQuoted_escaped _ escape notHex]
      exact ahead_extended inductionHypothesis read
  | case15 c behind notQuote notAlone notNumbered notEscape visible inductionHypothesis =>
      have notBackslash : c ≠ '\\' := by
        intro isBackslash
        cases behind with
        | nil => exact notAlone isBackslash rfl
        | cons d others => exact notEscape d others isBackslash rfl
      rw [List.cons_append, readQuoted_plain _ notQuote notBackslash (by omega)]
      exact ahead_extended inductionHypothesis read
  | case4 => exact absurd read (hexFault_ne_ok _ _)
  | case7 => exact absurd read (hexFault_ne_ok _ _)
  | case12 => exact absurd read (hexFault_ne_ok _ _)
  | case10 => exact absurd read (surrogateFault_ne_ok _ _)
  | _ => exact absurd read (by simp [Fault.here])

/-! ### Signs between the parts -/

theorem skipSpace_append_of_cons
    {text rest : Text} {c : Char} (skipped : skipSpace text = c :: rest) (more : Text) :
    skipSpace (text ++ more) = c :: (rest ++ more) := by
  rw [skipSpace_append_of_ne_nil (by simp [skipped]), skipped, List.cons_append]

theorem nextItem_extended
    {isFirst : Bool} {text : Text} {next : Option Text}
    (found : nextItem isFirst text = .ok next) (more : Text) :
    nextItem isFirst (text ++ more) = .ok (next.map (· ++ more)) := by
  rw [nextItem] at found
  split at found
  · exact absurd found (by simp [Fault.here])
  · next skipped =>
    cases found
    rw [nextItem, skipSpace_append_of_cons skipped]
    rfl
  · next c rest notEnd skipped =>
    rw [nextItem, skipSpace_append_of_cons skipped]
    simp only
    by_cases first : isFirst = true
    · rw [if_pos first] at found ⊢
      cases found
      rfl
    · rw [if_neg first] at found ⊢
      by_cases comma : c = ','
      · rw [if_pos comma] at found ⊢
        split at found
        · exact absurd found (by simp [Fault.here])
        · exact absurd found (by simp [Fault.here])
        · next nonempty notClosed =>
          cases found
          obtain ⟨d, others, item⟩ := List.exists_cons_of_ne_nil nonempty
          have closed : d ≠ ']' := by
            rintro rfl
            exact notClosed others item
          rw [skipSpace_append_of_cons item, item]
          simp [closed]
      · rw [if_neg comma] at found
        exact absurd found (by simp [Fault.ahead])

theorem nextKey_extended
    {isFirst : Bool} {text : Text} {next : Option Text}
    (found : nextKey isFirst text = .ok next) (more : Text) :
    nextKey isFirst (text ++ more) = .ok (next.map (· ++ more)) := by
  rw [nextKey] at found
  split at found
  · exact absurd found (by simp [Fault.here])
  · next skipped =>
    cases found
    rw [nextKey, skipSpace_append_of_cons skipped]
    rfl
  · next c rest notEnd skipped =>
    rw [nextKey, skipSpace_append_of_cons skipped]
    simp only
    by_cases first : isFirst = true
    · rw [if_pos first] at found ⊢
      by_cases quote : c = '"'
      · rw [if_pos quote] at found ⊢
        cases found
        rfl
      · rw [if_neg quote] at found
        exact absurd found (by simp [Fault.ahead])
    · rw [if_neg first] at found ⊢
      by_cases comma : c = ','
      · rw [if_pos comma] at found ⊢
        split at found
        · exact absurd found (by simp [Fault.here])
        · next key quoted =>
          cases found
          rw [skipSpace_append_of_cons quoted]
          rfl
        · exact absurd found (by simp [Fault.here])
        · exact absurd found (by simp [Fault.ahead])
      · rw [if_neg comma] at found
        exact absurd found (by simp [Fault.ahead])

theorem behindColon_extended
    {text rest : Text} (found : behindColon text = .ok rest) (more : Text) :
    behindColon (text ++ more) = .ok (rest ++ more) := by
  rw [behindColon] at found
  split at found
  · exact absurd found (by simp [Fault.here])
  · next skipped =>
    cases found
    rw [behindColon, skipSpace_append_of_cons skipped]
    rfl
  · exact absurd found (by simp [Fault.ahead])

/-- Where something follows in a list, blanks are not all that is left. -/
theorem ne_nil_of_nextItem
    {isFirst : Bool} {text : Text} {next : Option Text}
    (found : nextItem isFirst text = .ok next) :
    skipSpace text ≠ [] := by
  intro empty
  rw [nextItem, empty] at found
  exact absurd found (by simp [Fault.here])

theorem ne_nil_of_nextKey
    {isFirst : Bool} {text : Text} {next : Option Text}
    (found : nextKey isFirst text = .ok next) :
    skipSpace text ≠ [] := by
  intro empty
  rw [nextKey, empty] at found
  exact absurd found (by simp [Fault.here])

theorem parted_of_ne_nil
    {rest : Text} (nonempty : skipSpace rest ≠ []) (more : Text) :
    Parted rest more := by
  rintro rfl
  exact absurd rfl nonempty

theorem drop_skipSpace_append
    {text : Text} (nonempty : skipSpace text ≠ []) (more : Text) :
    (skipSpace (text ++ more)).drop 1 = (skipSpace text).drop 1 ++ more := by
  rw [skipSpace_append_of_ne_nil nonempty, List.drop_append_of_le_length]
  exact List.length_pos_iff.2 nonempty

/-! ## Values -/

/-- What the three readers do with more steps, with another depth that is enough for what they
return, and with more text behind. -/
structure Persists (steps : Nat) : Prop where
  value :
    ∀ {depth : Nat} {text rest : Text} {value : Json},
      readValue steps depth text = .ok (value, rest) →
        ∀ {further deeper : Nat} {more : Text},
          steps ≤ further → nesting value < deeper → Parted rest more →
            readValue further deeper (text ++ more) = .ok (value, rest ++ more)
  items :
    ∀ {depth : Nat} {isFirst : Bool} {text rest : Text} {items : List Json},
      readItems steps depth isFirst text = .ok (items, rest) →
        ∀ {further deeper : Nat},
          steps ≤ further → nestingOfItems items < deeper →
            ∀ more : Text,
              readItems further deeper isFirst (text ++ more) = .ok (items, rest ++ more)
  members :
    ∀ {depth : Nat} {isFirst : Bool} {text rest : Text} {members : List (Text × Json)},
      readMembers steps depth isFirst text = .ok (members, rest) →
        ∀ {further deeper : Nat},
          steps ≤ further → nestingOfMembers members < deeper →
            ∀ more : Text,
              readMembers further deeper isFirst (text ++ more) = .ok (members, rest ++ more)

theorem readItems_ne_nil
    {steps depth : Nat} {isFirst : Bool} {text rest : Text} {items : List Json}
    (read : readItems steps depth isFirst text = .ok (items, rest)) :
    skipSpace text ≠ [] := by
  cases steps with
  | zero => exact absurd read (by simp [readItems, Fault.here])
  | succ steps =>
      rw [readItems] at read
      obtain ⟨next, found, _⟩ := bind_eq_ok_iff.1 read
      exact ne_nil_of_nextItem found

theorem readMembers_ne_nil
    {steps depth : Nat} {isFirst : Bool} {text rest : Text} {members : List (Text × Json)}
    (read : readMembers steps depth isFirst text = .ok (members, rest)) :
    skipSpace text ≠ [] := by
  cases steps with
  | zero => exact absurd read (by simp [readMembers, Fault.here])
  | succ steps =>
      rw [readMembers] at read
      obtain ⟨next, found, _⟩ := bind_eq_ok_iff.1 read
      exact ne_nil_of_nextKey found

section Steps

variable {steps : Nat} (persists : Persists steps)
include persists

theorem persists_items
    {depth : Nat} {isFirst : Bool} {text rest : Text} {items : List Json}
    (read : readItems (steps + 1) depth isFirst text = .ok (items, rest))
    {further deeper : Nat} (enough : steps ≤ further)
    (shallow : nestingOfItems items < deeper) (more : Text) :
    readItems (further + 1) deeper isFirst (text ++ more) = .ok (items, rest ++ more) := by
  have nonempty := readItems_ne_nil read
  rw [readItems] at read
  obtain ⟨next, found, read⟩ := bind_eq_ok_iff.1 read
  have extended := nextItem_extended found more
  cases next with
  | none =>
      cases read
      rw [readItems_none extended, drop_skipSpace_append nonempty]
  | some behind =>
      obtain ⟨⟨item, afterItem⟩, first, read⟩ := bind_eq_ok_iff.1 read
      obtain ⟨⟨others, afterItems⟩, later, read⟩ := bind_eq_ok_iff.1 read
      cases read
      rw [nestingOfItems, Nat.max_lt] at shallow
      have parted := parted_of_ne_nil (readItems_ne_nil later) more
      exact readItems_some extended (persists.value first enough shallow.1 parted)
        (persists.items later enough shallow.2 more)

theorem persists_members
    {depth : Nat} {isFirst : Bool} {text rest : Text} {members : List (Text × Json)}
    (read : readMembers (steps + 1) depth isFirst text = .ok (members, rest))
    {further deeper : Nat} (enough : steps ≤ further)
    (shallow : nestingOfMembers members < deeper) (more : Text) :
    readMembers (further + 1) deeper isFirst (text ++ more) = .ok (members, rest ++ more) := by
  have nonempty := readMembers_ne_nil read
  rw [readMembers] at read
  obtain ⟨next, found, read⟩ := bind_eq_ok_iff.1 read
  have extended := nextKey_extended found more
  cases next with
  | none =>
      cases read
      rw [readMembers_none extended, drop_skipSpace_append nonempty]
  | some behind =>
      obtain ⟨⟨key, afterKey⟩, name, read⟩ := bind_eq_ok_iff.1 read
      obtain ⟨afterColon, colon, read⟩ := bind_eq_ok_iff.1 read
      obtain ⟨⟨value, afterValue⟩, first, read⟩ := bind_eq_ok_iff.1 read
      obtain ⟨⟨others, afterMembers⟩, later, read⟩ := bind_eq_ok_iff.1 read
      cases read
      rw [nestingOfMembers, Nat.max_lt] at shallow
      have parted := parted_of_ne_nil (readMembers_ne_nil later) more
      exact readMembers_some extended (readQuoted_extended name more)
        (behindColon_extended colon more) (persists.value first enough shallow.1 parted)
        (persists.members later enough shallow.2 more)

theorem persists_value
    {depth : Nat} {text rest : Text} {value : Json}
    (read : readValue (steps + 1) depth text = .ok (value, rest))
    {further deeper : Nat} {more : Text} (enough : steps ≤ further)
    (shallow : nesting value < deeper) (parted : Parted rest more) :
    readValue (further + 1) deeper (text ++ more) = .ok (value, rest ++ more) := by
  rw [readValue] at read
  split at read
  · exact absurd read (by simp [Fault.here])
  · next skipped =>
    rw [readValue, skipSpace_append_of_cons skipped]
    exact word_extended read more
  · next skipped =>
    rw [readValue, skipSpace_append_of_cons skipped]
    exact word_extended read more
  · next skipped =>
    rw [readValue, skipSpace_append_of_cons skipped]
    exact word_extended read more
  · next skipped =>
    rw [readValue, skipSpace_append_of_cons skipped]
    exact extends_readNumber _ _ _ _ read parted
  · next skipped =>
    obtain ⟨⟨content, behind⟩, quoted, equality⟩ := map_eq_ok_iff.1 read
    cases equality
    rw [readValue, skipSpace_append_of_cons skipped]
    exact congrArg (Except.map _) (readQuoted_extended quoted more)
  · next skipped =>
    split at read
    · exact absurd read (by simp [Fault.ahead])
    · obtain ⟨⟨items, behind⟩, content, equality⟩ := map_eq_ok_iff.1 read
      cases equality
      rw [nesting] at shallow
      rw [← readValue_drop_space, skipSpace_append_of_cons skipped]
      exact readValue_array (by omega) (persists.items content enough (by omega) more)
  · next skipped =>
    split at read
    · exact absurd read (by simp [Fault.ahead])
    · obtain ⟨⟨members, behind⟩, content, equality⟩ := map_eq_ok_iff.1 read
      cases equality
      rw [nesting] at shallow
      rw [← readValue_drop_space, skipSpace_append_of_cons skipped]
      exact readValue_object (by omega) (persists.members content enough (by omega) more)
  · next c behind _ _ _ _ _ _ _ skipped =>
    split at read
    · next digit =>
      rw [readValue, skipSpace_append_of_cons skipped]
      simp only [if_pos digit]
      exact extends_readNumber _ (c :: behind) _ _ read parted
    · exact absurd read (by simp [Fault.ahead])

end Steps

theorem persists
    (steps : Nat) :
    Persists steps := by
  induction steps with
  | zero =>
      constructor
      · intro depth text rest value read
        exact absurd read (by simp [readValue, Fault.here])
      · intro depth isFirst text rest items read
        exact absurd read (by simp [readItems, Fault.here])
      · intro depth isFirst text rest members read
        exact absurd read (by simp [readMembers, Fault.here])
  | succ steps inductionHypothesis =>
      constructor
      · intro depth text rest value read further deeper more enough shallow parted
        obtain ⟨further, rfl⟩ : ∃ n, further = n + 1 := ⟨further - 1, by omega⟩
        exact persists_value inductionHypothesis read (by omega) shallow parted
      · intro depth isFirst text rest items read further deeper enough shallow more
        obtain ⟨further, rfl⟩ : ∃ n, further = n + 1 := ⟨further - 1, by omega⟩
        exact persists_items inductionHypothesis read (by omega) shallow more
      · intro depth isFirst text rest members read further deeper enough shallow more
        obtain ⟨further, rfl⟩ : ∃ n, further = n + 1 := ⟨further - 1, by omega⟩
        exact persists_members inductionHypothesis read (by omega) shallow more

/-! ## Whole texts -/

theorem exists_opening_of_readValue
    {steps depth : Nat} {text rest : Text} {value : Json}
    (read : readValue steps depth text = .ok (value, rest)) :
    ∃ c others, skipSpace text = c :: others ∧ isOpening c = true := by
  cases steps with
  | zero => exact absurd read (by simp [readValue, Fault.here])
  | succ steps =>
      rw [readValue] at read
      cases skipped : skipSpace text with
      | nil =>
          rw [skipped] at read
          exact absurd read (by simp [Fault.here])
      | cons c others =>
          have solid : isSpace c = false := by
            have head := List.head?_dropWhile_not isSpace text
            rw [← skipSpace, skipped] at head
            simpa using head
          have notEnd : c ≠ ']' := by
            rintro rfl
            rw [skipped] at read
            exact absurd read (by simp [Fault.ahead])
          exact ⟨c, others, rfl, by simp [isOpening, solid, notEnd]⟩

/-- A text that is read as a value when it stands alone stands for this value. -/
theorem standsFor_of_parseAll
    {text : Text} {value : Json} (parsed : parseAll text = .ok value) :
    StandsFor text value := by
  obtain ⟨gap, blank, read⟩ := exists_readValue_of_parseAll parsed
  constructor
  · exact exists_opening_of_readValue read
  · intro steps depth rest enough shallow ends
    exact ⟨gap, blank, (persists _).value read enough shallow fun _ => ends⟩

/-- A text that stands for a value of more levels than the reader goes is refused. -/
theorem exists_fault_of_standsFor
    {text : Text} {value : Json} (stands : StandsFor text value)
    (deep : depthLimit ≤ nesting value) :
    ∃ fault, parseAll text = .error fault := by
  cases parsed : parseAll text with
  | error fault => exact ⟨fault, rfl⟩
  | ok other =>
      -- A reader that may go deep enough for both finds both, and so they are the same.
      obtain ⟨gap, _, read⟩ := exists_readValue_of_parseAll parsed
      have shallow := nesting_of_parseAll parsed
      have parted : Parted gap [] := fun _ => rfl
      have enough : nesting other < nesting value + 1 := by omega
      have found := (persists _).value read (Nat.le_refl _) enough parted
      obtain ⟨_, _, wanted⟩ :=
        stands.reads _ (nesting value + 1) [] (Nat.le_refl _) (Nat.lt_succ_self _) rfl
      rw [found, Except.ok.injEq, Prod.mk.injEq] at wanted
      rw [wanted.1] at shallow
      omega

end Kata.Json
