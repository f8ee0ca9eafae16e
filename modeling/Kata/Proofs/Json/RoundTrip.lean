import Kata.Proofs.Json.Leaves
import Kata.Proofs.Json.Shape

/-!
# Reading back what was written

A value without floating-point numbers whose integers fit into 64 bits is read back from its text,
if it is nested no deeper than the reader goes. The text may have blanks behind its commas and
colons, always the same ones. If the keys of each object are distinct, then nothing is lost by
collapsing either, and parsing is a left inverse of writing.
-/

namespace Kata.Json

/-! ## Written values -/

mutual

/-- A value on one line, with a gap behind each comma and each colon. -/
def spaced (gap : Text) : Json → Text
  | null => "null"
  | bool b => boolText b
  | int n => Text.ofInt n
  | float x => floatText x
  | string t => quote t
  | array items => '[' :: Text.joinWith (',' :: gap) (spacedItems gap items) ++ [']']
  | object members =>
    '\x7b' :: Text.joinWith (',' :: gap) (spacedMembers gap members) ++ ['\x7d']

/-- The texts of a list of values. -/
def spacedItems (gap : Text) : List Json → List Text
  | [] => []
  | item :: rest => spaced gap item :: spacedItems gap rest

/-- The texts of a list of members. -/
def spacedMembers (gap : Text) : List (Text × Json) → List Text
  | [] => []
  | (key, value) :: rest =>
    (quote key ++ ':' :: gap ++ spaced gap value) :: spacedMembers gap rest

end

mutual

/-- The compact form is the one without gaps. -/
theorem compact_eq_spaced :
    ∀ value : Json, compact value = spaced [] value
  | null => rfl
  | bool _ => rfl
  | int _ => rfl
  | float _ => rfl
  | string _ => rfl
  | array items => by rw [compact, spaced, compactItems_eq_spacedItems items]
  | object members => by rw [compact, spaced, compactMembers_eq_spacedMembers members]

theorem compactItems_eq_spacedItems :
    ∀ items : List Json, compactItems items = spacedItems [] items
  | [] => rfl
  | item :: rest => by
      rw [compactItems, spacedItems, compact_eq_spaced item, compactItems_eq_spacedItems rest]

theorem compactMembers_eq_spacedMembers :
    ∀ members : List (Text × Json), compactMembers members = spacedMembers [] members
  | [] => rfl
  | (key, value) :: rest => by
      rw [compactMembers, spacedMembers, compact_eq_spaced value,
        compactMembers_eq_spacedMembers rest]
      simp

end

mutual

/-- Whether a value has no floating-point numbers and only integers that are read exactly. -/
def isExact : Json → Bool
  | int n => decide (Int64.minValue.toInt ≤ n ∧ n ≤ greatestWord)
  | float _ => false
  | array items => itemsAreExact items
  | object members => membersAreExact members
  | _ => true

/-- Whether all of a list of values are exact. -/
def itemsAreExact : List Json → Bool
  | [] => true
  | item :: rest => isExact item && itemsAreExact rest

/-- Whether the values of all of a list of members are exact. -/
def membersAreExact : List (Text × Json) → Bool
  | [] => true
  | (_, value) :: rest => isExact value && membersAreExact rest

end

/-! ## Where values begin -/

/-- A character that is neither a blank nor the end of a list. -/
def isOpening (c : Char) : Bool :=
  !isSpace c && c != ']'

theorem isOpening_of_isDigit
    {c : Char} (digit : c.isDigit = true) :
    isOpening c = true :=
  Text.forall_isDigit (by decide) c digit

theorem exists_opening_ofInt
    (n : Int) :
    ∃ c others, Text.ofInt n = c :: others ∧ isOpening c = true := by
  cases n with
  | ofNat n =>
      cases written : Text.ofNat n with
      | nil => exact absurd written (Text.ofNat_ne_nil n)
      | cons first others =>
          have member : first ∈ Text.ofNat n := by
            rw [written]
            exact List.mem_cons_self
          exact ⟨first, others, written,
            isOpening_of_isDigit (Text.isDigit_of_mem_ofNat member)⟩
  | negSucc n => exact ⟨'-', _, rfl, by decide⟩

/-- A written value begins with a character of its own. -/
theorem exists_opening
    (gap : Text) {value : Json} (exact : isExact value = true) :
    ∃ c others, spaced gap value = c :: others ∧ isOpening c = true := by
  cases value with
  | null => exact ⟨'n', _, rfl, by decide⟩
  | bool b =>
      cases b with
      | false => exact ⟨'f', _, rfl, by decide⟩
      | true => exact ⟨'t', _, rfl, by decide⟩
  | int n =>
      rw [spaced]
      exact exists_opening_ofInt n
  | float x => exact absurd exact Bool.false_ne_true
  | string t => exact ⟨'"', _, rfl, by decide⟩
  | array items => exact ⟨'[', _, rfl, by decide⟩
  | object members => exact ⟨'\x7b', _, rfl, by decide⟩

theorem length_spaced_pos
    (gap : Text) {value : Json} (exact : isExact value = true) :
    0 < (spaced gap value).length := by
  obtain ⟨c, others, written, _⟩ := exists_opening gap exact
  rw [written]
  exact Nat.succ_pos _

/-! ## Between the parts -/

section Steps

variable {gap : Text} (blank : ∀ c ∈ gap, isSpace c = true)

theorem skipSpace_opening
    {c : Char} (opening : isOpening c = true) (rest : Text) :
    skipSpace (c :: rest) = c :: rest := by
  rw [isOpening, Bool.and_eq_true, Bool.not_eq_true'] at opening
  exact skipSpace_cons opening.1 rest

theorem nextItem_end
    (isFirst : Bool) (rest : Text) :
    nextItem isFirst (']' :: rest) = .ok none := by
  rw [nextItem, skipSpace_cons (by decide)]
  rfl

theorem nextItem_first
    {c : Char} (opening : isOpening c = true) (rest : Text) :
    nextItem true (c :: rest) = .ok (some (c :: rest)) := by
  have notEnd : c ≠ ']' := by
    rintro rfl
    exact absurd opening (by decide)
  rw [nextItem, skipSpace_opening opening]
  split
  · next equality => exact absurd equality (List.cons_ne_nil _ _)
  · next equality =>
    injection equality with headEqual _
    exact absurd headEqual notEnd
  · next equality => rw [← equality, if_pos rfl]

include blank in
theorem nextItem_later
    {c : Char} (opening : isOpening c = true) (rest : Text) :
    nextItem false (',' :: (gap ++ c :: rest)) = .ok (some (c :: rest)) := by
  have notEnd : c ≠ ']' := by
    rintro rfl
    exact absurd opening (by decide)
  have skipped : skipSpace (gap ++ c :: rest) = c :: rest := by
    rw [skipSpace_append blank, skipSpace_opening opening]
  rw [nextItem, skipSpace_cons (by decide)]
  change (if false = true then _ else if ',' = ',' then _ else _) = _
  rw [if_neg Bool.false_ne_true, if_pos rfl, skipped]
  split
  · next equality => exact absurd equality (List.cons_ne_nil _ _)
  · next equality =>
    injection equality with headEqual _
    exact absurd headEqual notEnd
  · rfl

/-- A written value is where the first item of a list is looked for. -/
theorem nextItem_spaced
    (gap : Text) {value : Json} (exact : isExact value = true) (rest : Text) :
    nextItem true (spaced gap value ++ rest) = .ok (some (spaced gap value ++ rest)) := by
  obtain ⟨c, others, written, opening⟩ := exists_opening gap exact
  rw [written, List.cons_append]
  exact nextItem_first opening _

include blank in
/-- A written value behind a comma is where a later item of a list is looked for. -/
theorem nextItem_comma_spaced
    {value : Json} (exact : isExact value = true) (rest : Text) :
    nextItem false (',' :: (gap ++ (spaced gap value ++ rest))) =
      .ok (some (spaced gap value ++ rest)) := by
  obtain ⟨c, others, written, opening⟩ := exists_opening gap exact
  rw [written, List.cons_append]
  exact nextItem_later blank opening _

theorem nextKey_end
    (isFirst : Bool) (rest : Text) :
    nextKey isFirst ('\x7d' :: rest) = .ok none := by
  rw [nextKey, skipSpace_cons (by decide)]
  rfl

theorem nextKey_first
    (rest : Text) :
    nextKey true ('"' :: rest) = .ok (some rest) := by
  rw [nextKey, skipSpace_cons (by decide)]
  rfl

include blank in
theorem nextKey_later
    (rest : Text) :
    nextKey false (',' :: (gap ++ '"' :: rest)) = .ok (some rest) := by
  have skipped : skipSpace (gap ++ '"' :: rest) = '"' :: rest := by
    rw [skipSpace_append blank, skipSpace_cons (by decide)]
  rw [nextKey, skipSpace_cons (by decide)]
  change (if false = true then _ else if ',' = ',' then _ else _) = _
  rw [if_neg Bool.false_ne_true, if_pos rfl, skipped]
  rfl

theorem behindColon_cons
    (rest : Text) :
    behindColon (':' :: rest) = .ok rest := by
  rw [behindColon, skipSpace_cons (by decide)]
  rfl

end Steps

/-! ## Steps of the reader -/

section Reader

variable {steps depth : Nat} {isFirst : Bool} {text behind rest final : Text}

theorem readItems_none
    (next : nextItem isFirst text = .ok none) :
    readItems (steps + 1) depth isFirst text = .ok ([], (skipSpace text).drop 1) := by
  rw [readItems, next]
  rfl

theorem readItems_some
    {item : Json} {items : List Json}
    (next : nextItem isFirst text = .ok (some behind))
    (first : readValue steps depth behind = .ok (item, rest))
    (others : readItems steps depth false rest = .ok (items, final)) :
    readItems (steps + 1) depth isFirst text = .ok (item :: items, final) := by
  rw [readItems, next]
  simp only [bind, Except.bind, first, others]

theorem readMembers_none
    (next : nextKey isFirst text = .ok none) :
    readMembers (steps + 1) depth isFirst text = .ok ([], (skipSpace text).drop 1) := by
  rw [readMembers, next]
  rfl

theorem readMembers_some
    {key afterKey afterColon : Text} {value : Json} {members : List (Text × Json)}
    (next : nextKey isFirst text = .ok (some behind))
    (name : readQuoted behind = .ok (key, afterKey))
    (colon : behindColon afterKey = .ok afterColon)
    (first : readValue steps depth afterColon = .ok (value, rest))
    (others : readMembers steps depth false rest = .ok (members, final)) :
    readMembers (steps + 1) depth isFirst text = .ok ((key, value) :: members, final) := by
  rw [readMembers, next]
  simp only [bind, Except.bind, name, colon, first, others]

theorem readValue_array
    {items : List Json} (deep : 1 < depth)
    (content : readItems steps (depth - 1) true text = .ok (items, rest)) :
    readValue (steps + 1) depth ('[' :: text) = .ok (array items, rest) := by
  have entered :
      readValue (steps + 1) depth ('[' :: text) =
        (readItems steps (depth - 1) true text).map fun found =>
          (array found.1, found.2) := by
    rw [readValue, skipSpace_cons (by decide)]
    exact if_neg (Nat.not_le.2 deep)
  rw [entered, content]
  rfl

theorem readValue_object
    {members : List (Text × Json)} (deep : 1 < depth)
    (content : readMembers steps (depth - 1) true text = .ok (members, rest)) :
    readValue (steps + 1) depth ('\x7b' :: text) = .ok (object members, rest) := by
  have entered :
      readValue (steps + 1) depth ('\x7b' :: text) =
        (readMembers steps (depth - 1) true text).map fun found =>
          (object found.1, found.2) := by
    rw [readValue, skipSpace_cons (by decide)]
    exact if_neg (Nat.not_le.2 deep)
  rw [entered, content]
  rfl

/-- Blanks ahead of a value do not matter. -/
theorem readValue_skipSpace
    {gap : Text} (blank : ∀ c ∈ gap, isSpace c = true) (text : Text) :
    readValue (steps + 1) depth (gap ++ text) = readValue (steps + 1) depth text := by
  rw [readValue, readValue, skipSpace_append blank]

end Reader

/-! ## Reading values -/

/-- An integer that fits into 64 bits is read from its written form. -/
theorem readValue_ofInt
    {n : Int} (exact : isExact (int n) = true) (steps depth : Nat) {rest : Text}
    (ends : endsNumber rest = true) :
    readValue (steps + 1) depth (Text.ofInt n ++ rest) = .ok (int n, rest) := by
  rw [isExact, decide_eq_true_eq] at exact
  cases n with
  | ofNat n =>
      have fits : n ≤ greatestWord := Int.ofNat_le.1 exact.2
      have number := readNumber_ofNat false fits ends
      cases written : Text.ofNat n with
      | nil => exact absurd written (Text.ofNat_ne_nil n)
      | cons first others =>
          have digit : first.isDigit = true := by
            apply Text.isDigit_of_mem_ofNat (n := n)
            rw [written]
            exact List.mem_cons_self
          rw [written] at number
          rw [Text.ofInt, written, List.cons_append, readValue,
            skipSpace_opening (isOpening_of_isDigit digit)]
          -- None of the characters that open another value is a digit.
          split
          · next equality => exact absurd equality (List.cons_ne_nil _ _)
          all_goals
            next equality =>
              injection equality with headEqual tailEqual
              subst headEqual
              first
                | exact absurd digit (by decide)
                | rw [if_pos digit, ← tailEqual]
                  exact number
  | negSucc n =>
      have small : n + 1 ≤ greatestWord ∧ Int64.minValue.toInt ≤ -((n + 1 : Nat) : Int) := by
        have least := exact.1
        have value : Int64.minValue.toInt = -9223372036854775808 := rfl
        have greatest : greatestWord = 18446744073709551615 := rfl
        omega
      rw [Text.ofInt, List.cons_append, readValue, skipSpace_cons (by decide)]
      refine (readNumber_ofNat true small.1 ends).trans ?_
      rw [exactInteger, if_neg (by decide), if_pos ⟨Nat.succ_pos n, small.2⟩]
      rfl

/-- The parts behind the first, each behind a comma and a gap. -/
def followers (gap : Text) (parts : List Text) : Text :=
  parts.flatMap fun part => ',' :: (gap ++ part)

theorem joinWith_cons
    (gap part : Text) (parts : List Text) :
    Text.joinWith (',' :: gap) (part :: parts) = part ++ followers gap parts := by
  induction parts generalizing part with
  | nil => rw [Text.joinWith, followers, List.flatMap_nil, List.append_nil]
  | cons next parts inductionHypothesis =>
      rw [Text.joinWith, inductionHypothesis, followers, followers, List.flatMap_cons]
      simp only [List.cons_append, List.append_assoc]

theorem endsNumber_followers
    (gap : Text) (parts : List Text) {closing : Char} (rest : Text)
    (ends : endsNumber (closing :: rest) = true) :
    endsNumber (followers gap parts ++ closing :: rest) = true := by
  cases parts with
  | nil => exact ends
  | cons part parts => rfl

/-- The text of a list, piece by piece. -/
theorem spaced_array_append
    (gap : Text) (item : Json) (items : List Json) (rest : Text) :
    spaced gap (array (item :: items)) ++ rest =
      '[' :: (spaced gap item ++ (followers gap (spacedItems gap items) ++ ']' :: rest)) := by
  simp [spaced, spacedItems, joinWith_cons]

/-- The text of an object, piece by piece. -/
theorem spaced_object_append
    (gap key : Text) (value : Json) (members : List (Text × Json)) (rest : Text) :
    spaced gap (object ((key, value) :: members)) ++ rest =
      '\x7b' :: '"' :: (key.flatMap quoteChar ++ '"' :: ':' :: (gap ++ (spaced gap value ++
        (followers gap (spacedMembers gap members) ++ '\x7d' :: rest)))) := by
  simp [spaced, spacedMembers, joinWith_cons, quote]

theorem followers_items_cons
    (gap : Text) (item : Json) (items : List Json) (rest : Text) :
    followers gap (spacedItems gap (item :: items)) ++ rest =
      ',' :: (gap ++ (spaced gap item ++ (followers gap (spacedItems gap items) ++ rest))) := by
  simp [followers, spacedItems]

theorem followers_members_cons
    (gap key : Text) (value : Json) (members : List (Text × Json)) (rest : Text) :
    followers gap (spacedMembers gap ((key, value) :: members)) ++ rest =
      ',' :: (gap ++ '"' :: (key.flatMap quoteChar ++ '"' :: ':' :: (gap ++ (spaced gap value ++
        (followers gap (spacedMembers gap members) ++ rest))))) := by
  simp [followers, spacedMembers, quote]

mutual

/-- A written value is read back, and what follows it is left. Two steps for each character are
enough, since every level and every part of a value has characters of its own. -/
theorem readValue_spaced
    {gap : Text} (blank : ∀ c ∈ gap, isSpace c = true) :
    ∀ (value : Json) (steps depth : Nat) (rest : Text),
      isExact value = true →
        2 * (spaced gap value).length ≤ steps →
          nesting value < depth →
            endsNumber rest = true →
              readValue steps depth (spaced gap value ++ rest) = .ok (value, rest)
  | _, 0, _, _, exact, enough, _, _ => by
      have nonempty := length_spaced_pos gap exact
      omega
  | null, steps + 1, depth, rest, _, _, _, _ => by
      rw [spaced, readValue]
      exact congrArg (Except.map _) (readWord_append "ull" rest)
  | bool false, steps + 1, depth, rest, _, _, _, _ => by
      rw [spaced, readValue]
      exact congrArg (Except.map _) (readWord_append "alse" rest)
  | bool true, steps + 1, depth, rest, _, _, _, _ => by
      rw [spaced, readValue]
      exact congrArg (Except.map _) (readWord_append "rue" rest)
  | int n, steps + 1, depth, rest, exact, _, _, ends => by
      rw [spaced]
      exact readValue_ofInt exact steps depth ends
  | float _, _, _, _, exact, _, _, _ => absurd exact Bool.false_ne_true
  | string t, steps + 1, depth, rest, _, _, _, _ => by
      rw [spaced, quote, List.cons_append, List.cons_append, List.append_assoc, readValue]
      exact congrArg (Except.map _) (readQuoted_quote t rest)
  | array [], steps + 1, depth, rest, _, enough, shallow, _ => by
      obtain ⟨steps, rfl⟩ : ∃ n, steps = n + 1 := ⟨steps - 1, by simp [spaced] at enough; omega⟩
      have deep : 1 < depth := by
        rw [nesting] at shallow
        omega
      exact readValue_array deep (readItems_none (nextItem_end true rest))
  | array (item :: items), steps + 1, depth, rest, exact, enough, shallow, _ => by
      rw [isExact, itemsAreExact, Bool.and_eq_true] at exact
      rw [nesting, nestingOfItems] at shallow
      have long := congrArg List.length (spaced_array_append gap item items [])
      simp only [List.append_nil, List.length_cons, List.length_append, List.length_nil] at long
      have nonempty := length_spaced_pos gap exact.1
      obtain ⟨steps, rfl⟩ : ∃ n, steps = n + 1 := ⟨steps - 1, by omega⟩
      have first :=
        readValue_spaced blank item steps (depth - 1)
          (followers gap (spacedItems gap items) ++ ']' :: rest) exact.1 (by omega) (by omega)
          (endsNumber_followers gap _ rest rfl)
      have others :=
        readItems_followers blank items steps (depth - 1) rest exact.2 (by omega) (by omega)
      rw [spaced_array_append]
      exact readValue_array (by omega)
        (readItems_some (nextItem_spaced gap exact.1 _) first others)
  | object [], steps + 1, depth, rest, _, enough, shallow, _ => by
      obtain ⟨steps, rfl⟩ : ∃ n, steps = n + 1 := ⟨steps - 1, by simp [spaced] at enough; omega⟩
      have deep : 1 < depth := by
        rw [nesting] at shallow
        omega
      exact readValue_object deep (readMembers_none (nextKey_end true rest))
  | object ((key, value) :: members), steps + 1, depth, rest, exact, enough, shallow, _ => by
      rw [isExact, membersAreExact, Bool.and_eq_true] at exact
      rw [nesting, nestingOfMembers] at shallow
      have long := congrArg List.length (spaced_object_append gap key value members [])
      simp only [List.append_nil, List.length_cons, List.length_append, List.length_nil] at long
      obtain ⟨steps, rfl⟩ : ∃ n, steps = n + 2 := ⟨steps - 2, by omega⟩
      have first :=
        readValue_spaced blank value (steps + 1) (depth - 1)
          (followers gap (spacedMembers gap members) ++ '\x7d' :: rest) exact.1 (by omega)
          (by omega) (endsNumber_followers gap _ rest rfl)
      have others :=
        readMembers_followers blank members (steps + 1) (depth - 1) rest exact.2 (by omega)
          (by omega)
      rw [← readValue_skipSpace blank] at first
      rw [spaced_object_append]
      exact readValue_object (by omega)
        (readMembers_some (nextKey_first _) (readQuoted_quote key _) (behindColon_cons _) first
          others)

/-- The items behind the first are read back, up to the end of their list. -/
theorem readItems_followers
    {gap : Text} (blank : ∀ c ∈ gap, isSpace c = true) :
    ∀ (items : List Json) (steps depth : Nat) (rest : Text),
      itemsAreExact items = true →
        2 * (followers gap (spacedItems gap items)).length < steps →
          nestingOfItems items < depth →
            readItems steps depth false
                (followers gap (spacedItems gap items) ++ ']' :: rest) =
              .ok (items, rest)
  | _, 0, _, _, _, enough, _ => absurd enough (Nat.not_lt_zero _)
  | [], steps + 1, depth, rest, _, _, _ => readItems_none (nextItem_end false rest)
  | item :: items, steps + 1, depth, rest, exact, enough, shallow => by
      rw [itemsAreExact, Bool.and_eq_true] at exact
      rw [nestingOfItems] at shallow
      have long := congrArg List.length (followers_items_cons gap item items [])
      simp only [List.append_nil, List.length_cons, List.length_append] at long
      have first :=
        readValue_spaced blank item steps depth
          (followers gap (spacedItems gap items) ++ ']' :: rest) exact.1 (by omega) (by omega)
          (endsNumber_followers gap _ rest rfl)
      have others :=
        readItems_followers blank items steps depth rest exact.2 (by omega) (by omega)
      rw [followers_items_cons]
      exact readItems_some (nextItem_comma_spaced blank exact.1 _) first others

/-- The members behind the first are read back, up to the end of their object. -/
theorem readMembers_followers
    {gap : Text} (blank : ∀ c ∈ gap, isSpace c = true) :
    ∀ (members : List (Text × Json)) (steps depth : Nat) (rest : Text),
      membersAreExact members = true →
        2 * (followers gap (spacedMembers gap members)).length < steps →
          nestingOfMembers members < depth →
            readMembers steps depth false
                (followers gap (spacedMembers gap members) ++ '\x7d' :: rest) =
              .ok (members, rest)
  | _, 0, _, _, _, enough, _ => absurd enough (Nat.not_lt_zero _)
  | [], steps + 1, depth, rest, _, _, _ => readMembers_none (nextKey_end false rest)
  | (key, value) :: members, steps + 1, depth, rest, exact, enough, shallow => by
      rw [membersAreExact, Bool.and_eq_true] at exact
      rw [nestingOfMembers] at shallow
      have long := congrArg List.length (followers_members_cons gap key value members [])
      simp only [List.append_nil, List.length_cons, List.length_append] at long
      obtain ⟨steps, rfl⟩ : ∃ n, steps = n + 1 := ⟨steps - 1, by omega⟩
      have first :=
        readValue_spaced blank value (steps + 1) depth
          (followers gap (spacedMembers gap members) ++ '\x7d' :: rest) exact.1 (by omega)
          (by omega) (endsNumber_followers gap _ rest rfl)
      have others :=
        readMembers_followers blank members (steps + 1) depth rest exact.2 (by omega) (by omega)
      rw [← readValue_skipSpace blank] at first
      rw [followers_members_cons]
      exact readMembers_some (nextKey_later blank _) (readQuoted_quote key _) (behindColon_cons _)
        first others

end

/-- A written value is all of its text. -/
theorem parseAll_spaced
    {gap : Text} (blank : ∀ c ∈ gap, isSpace c = true) {value : Json}
    (exact : isExact value = true) (shallow : nesting value < depthLimit) :
    parseAll (spaced gap value) = .ok value := by
  have read :=
    readValue_spaced blank value (2 * (spaced gap value).length + 2) depthLimit [] exact
      (Nat.le_add_right _ 2) shallow rfl
  rw [List.append_nil] at read
  rw [parseAll, read]
  rfl

/-- Parsing undoes writing. -/
theorem parse_spaced
    {gap : Text} (blank : ∀ c ∈ gap, isSpace c = true) {value : Json}
    (exact : isExact value = true) (distinct : hasDistinctKeys value = true)
    (shallow : nesting value < depthLimit) :
    parse (spaced gap value) = .ok value := by
  rw [parse, parseAll_spaced blank exact shallow]
  exact congrArg Except.ok (collapse_of_distinct value distinct)

end Kata.Json
