import Kata.Pattern.Names
import Kata.Schema
import Kata.Proofs.Text.Blank
import Kata.Proofs.Text.Digits

/-!
# Identifiers

What a title suggests is an identifier, and every parameter of a schema has an identifier for its
name, however the schema came about. Reducing an identifier to an identifier leaves it as it is.
-/

namespace Kata.Name

/-! ## Characters of identifiers -/

/-- Whether a text is an identifier: letters, digits and underscores, and no digit in front. -/
def isIdentifier : Text → Bool
  | [] => false
  | first :: rest => Pattern.isNameStart first && rest.all isIdentifierChar

/-- Whether a text has only characters of identifiers. -/
def isPlain (text : Text) : Bool :=
  text.all isIdentifierChar

theorem isIdentifierChar_iff
    {c : Char} :
    isIdentifierChar c = true ↔ (c.isAlpha = true ∨ c.isDigit = true) ∨ c = '_' := by
  rw [isIdentifierChar, Text.isPlainAlphanumeric, Bool.or_eq_true, Bool.or_eq_true, beq_iff_eq]

theorem isIdentifierChar_of_isNameStart
    {c : Char} (starts : Pattern.isNameStart c = true) :
    isIdentifierChar c = true := by
  rw [Pattern.isNameStart, Bool.or_eq_true, beq_iff_eq] at starts
  rcases starts with letter | underscore
  · exact isIdentifierChar_iff.2 (Or.inl (Or.inl letter))
  · exact isIdentifierChar_iff.2 (Or.inr underscore)

theorem isPlain_of_isIdentifier
    {text : Text} (identifier : isIdentifier text = true) :
    isPlain text = true := by
  cases text with
  | nil => rfl
  | cons first rest =>
      rw [isIdentifier, Bool.and_eq_true] at identifier
      rw [isPlain, List.all_cons, isIdentifierChar_of_isNameStart identifier.1, identifier.2]
      rfl

theorem ne_nil_of_isIdentifier
    {text : Text} (identifier : isIdentifier text = true) :
    text ≠ [] := by
  rintro rfl
  exact Bool.false_ne_true identifier

theorem toNat_lt_of_isIdentifierChar
    {c : Char} (inside : isIdentifierChar c = true) :
    c.toNat < 128 := by
  rcases isIdentifierChar_iff.1 inside with (letter | digit) | underscore
  · have bounds :
        (decide (c.val ≥ 'A'.val ∧ c.val ≤ 'Z'.val) ||
          (decide (c.val ≥ 'a'.val) && decide (c.val ≤ 'z'.val))) = true := letter
    simp only [Bool.or_eq_true, Bool.and_eq_true, decide_eq_true_eq, ge_iff_le,
      UInt32.le_iff_toNat_le] at bounds
    change (65 ≤ c.toNat ∧ c.toNat ≤ 90) ∨ (97 ≤ c.toNat ∧ c.toNat ≤ 122) at bounds
    omega
  · have bounds := (Text.isDigit_iff_toNat c).1 digit
    omega
  · rw [underscore]
    decide

/-- Every character of an identifier is part of a word. -/
theorem isWord_of_isIdentifierChar
    {c : Char} (inside : isIdentifierChar c = true) :
    Text.isWord c = true := by
  rw [Text.isWord, if_pos (toNat_lt_of_isIdentifierChar inside)]
  exact inside

/-! ## Names from titles -/

theorem isIdentifierChar_of_isPlainAlphanumeric
    {c : Char} (alphanumeric : Text.isPlainAlphanumeric c = true) :
    isIdentifierChar c = true := by
  rw [isIdentifierChar, alphanumeric]
  rfl

/-- What holds of the letters and digits among the first code points holds of each of them. -/
@[elab_as_elim]
theorem forall_isPlainAlphanumeric
    {property : Char → Prop}
    (each :
      ∀ code < 128,
        Text.isPlainAlphanumeric (Char.ofNat code) = true → property (Char.ofNat code))
    (c : Char) (alphanumeric : Text.isPlainAlphanumeric c = true) :
    property c := by
  have small := toNat_lt_of_isIdentifierChar (isIdentifierChar_of_isPlainAlphanumeric alphanumeric)
  have here := each c.toNat small
  rw [Char.ofNat_toNat] at here
  exact here alphanumeric

/-- Changing the case of a letter leaves a letter. -/
theorem isPlainAlphanumeric_toLower_toUpper
    {c : Char} (alphanumeric : Text.isPlainAlphanumeric c = true) :
    Text.isPlainAlphanumeric c.toLower = true ∧ Text.isPlainAlphanumeric c.toUpper = true :=
  forall_isPlainAlphanumeric (by decide +kernel) c alphanumeric

/-- A letter that is written small is a small letter. -/
theorem isLower_toLower
    {c : Char} (alphanumeric : Text.isPlainAlphanumeric c = true)
    (notDigit : ¬c.toLower.isDigit = true) :
    c.toLower.isLower = true := by
  have small : c.toLower.isDigit = true ∨ c.toLower.isLower = true :=
    forall_isPlainAlphanumeric (by decide +kernel) c alphanumeric
  exact small.resolve_left notDigit

/-- That a text has only letters and digits. -/
def IsAlphanumeric (text : Text) : Prop :=
  ∀ c ∈ text, Text.isPlainAlphanumeric c = true

theorem isAlphanumeric_of_mem_words
    {title word : Text} (member : word ∈ words title) :
    IsAlphanumeric word := by
  intro c inside
  have inSplit := (List.mem_filter.1 member).1
  have solid := Text.isSeparator_of_mem_splitWhere word inSplit c inside
  simpa using solid

theorem isAlphanumeric_lowercase
    {word : Text} (alphanumeric : IsAlphanumeric word) :
    IsAlphanumeric (Text.lowercase word) := by
  intro c inside
  obtain ⟨d, member, rfl⟩ := List.mem_map.1 inside
  exact (isPlainAlphanumeric_toLower_toUpper (alphanumeric d member)).1

theorem isAlphanumeric_capitalized
    {word : Text} (alphanumeric : IsAlphanumeric word) :
    IsAlphanumeric (capitalized word) := by
  have small := isAlphanumeric_lowercase alphanumeric
  rw [capitalized]
  cases written : Text.lowercase word with
  | nil => exact List.forall_mem_nil _
  | cons first rest =>
      rw [written, IsAlphanumeric, List.forall_mem_cons] at small
      exact List.forall_mem_cons.2 ⟨(isPlainAlphanumeric_toLower_toUpper small.1).2, small.2⟩

theorem isAlphanumeric_camelCase
    {parts : List Text} (alphanumeric : ∀ word ∈ parts, IsAlphanumeric word) :
    IsAlphanumeric (camelCase parts) := by
  cases parts with
  | nil => exact List.forall_mem_nil _
  | cons first rest =>
      rw [List.forall_mem_cons] at alphanumeric
      refine List.forall_mem_append.2 ⟨isAlphanumeric_lowercase alphanumeric.1, ?_⟩
      intro c inside
      obtain ⟨part, partMember, inPart⟩ := List.mem_flatten.1 inside
      obtain ⟨word, wordMember, rfl⟩ := List.mem_map.1 partMember
      exact isAlphanumeric_capitalized (alphanumeric.2 word wordMember) c inPart

theorem isPlain_of_isAlphanumeric
    {text : Text} (alphanumeric : IsAlphanumeric text) :
    isPlain text = true :=
  List.all_eq_true.2 fun c inside =>
    isIdentifierChar_of_isPlainAlphanumeric (alphanumeric c inside)

/-- The words of a title are not empty, so the first of them gives the first character. -/
theorem exists_first_of_camelCase
    {title : Text} {first : Char} {rest : Text} (written : camelCase (words title) = first :: rest) :
    ∃ c, Text.isPlainAlphanumeric c = true ∧ first = c.toLower := by
  cases found : words title with
  | nil =>
      rw [found] at written
      exact absurd written (List.cons_ne_nil first rest).symm
  | cons word others =>
      have member : word ∈ words title := found ▸ List.mem_cons_self
      have nonempty : word ≠ [] := by
        have kept := (List.mem_filter.1 member).2
        rwa [bne_iff_ne] at kept
      obtain ⟨c, behind, rfl⟩ := List.exists_cons_of_ne_nil nonempty
      rw [found] at written
      refine ⟨c, isAlphanumeric_of_mem_words member c List.mem_cons_self, ?_⟩
      exact (List.cons.inj written).1.symm

/-- That a name is a small letter with letters and digits behind it. -/
def IsCamelName (name : Text) : Prop :=
  ∃ first rest, name = first :: rest ∧ first.isLower = true ∧ IsAlphanumeric rest

/-- The name that a title suggests begins with a small letter and has only letters and digits. -/
theorem isCamelName_ofTitle
    (title : Text) :
    IsCamelName (ofTitle title) := by
  have alphanumeric : IsAlphanumeric (camelCase (words title)) :=
    isAlphanumeric_camelCase fun word member => isAlphanumeric_of_mem_words member
  have plain : ∀ name : Text, name.all Text.isPlainAlphanumeric = true → IsAlphanumeric name :=
    fun name all => List.all_eq_true.1 all
  rw [ofTitle]
  cases written : camelCase (words title) with
  | nil => exact ⟨'s', "olution".toList, rfl, rfl, plain _ (by decide)⟩
  | cons first rest =>
      rw [written] at alphanumeric
      by_cases digit : first.isDigit = true
      · simp only [digit, if_true]
        refine ⟨'s', "olve".toList ++ first :: rest, rfl, rfl, ?_⟩
        exact List.forall_mem_append.2 ⟨plain _ (by decide), alphanumeric⟩
      · simp only [digit]
        obtain ⟨c, isPlain, rfl⟩ := exists_first_of_camelCase written
        rw [IsAlphanumeric, List.forall_mem_cons] at alphanumeric
        exact ⟨c.toLower, rest, rfl, isLower_toLower isPlain digit, alphanumeric.2⟩

theorem isIdentifier_ofTitle
    (title : Text) :
    isIdentifier (ofTitle title) = true := by
  obtain ⟨first, rest, written, small, alphanumeric⟩ := isCamelName_ofTitle title
  have letter : first.isAlpha = true := by
    change (first.isUpper || first.isLower) = true
    rw [small, Bool.or_true]
  rw [written, isIdentifier, Pattern.isNameStart, letter, Bool.true_or, Bool.true_and]
  exact isPlain_of_isAlphanumeric alphanumeric

/-! ## Names of parameters -/

/-- Letters and the underscore begin an identifier, and digits do not. -/
theorem isNameStart_iff
    {c : Char} :
    Pattern.isNameStart c = true ↔ isIdentifierChar c = true ∧ c.isDigit = false := by
  constructor
  · intro starts
    refine ⟨isIdentifierChar_of_isNameStart starts, Bool.eq_false_iff.2 fun digit => ?_⟩
    have none : Pattern.isNameStart c = false := Text.forall_isDigit (by decide) c digit
    rw [starts] at none
    exact Bool.noConfusion none
  · rintro ⟨inside, notDigit⟩
    rw [Pattern.isNameStart, Bool.or_eq_true, beq_iff_eq]
    rcases isIdentifierChar_iff.1 inside with (letter | digit) | underscore
    · exact Or.inl letter
    · rw [notDigit] at digit
      exact Bool.noConfusion digit
    · exact Or.inr underscore

/-- Whatever a text is reduced to is an identifier. -/
theorem isIdentifier_identifier?
    {text name : Text} (identifier : identifier? text = some name) :
    isIdentifier name = true := by
  have kept : isPlain ((Text.trim text).filter isIdentifierChar) = true :=
    List.all_eq_true.2 fun c member => (List.mem_filter.1 member).2
  rw [identifier?] at identifier
  cases written : (Text.trim text).filter isIdentifierChar with
  | nil =>
      rw [written] at identifier
      exact absurd identifier (by simp)
  | cons first rest =>
      rw [written] at identifier kept
      obtain rfl := Option.some.inj identifier
      by_cases digit : first.isDigit = true
      · rw [if_pos digit]
        exact kept
      · rw [isPlain, List.all_cons, Bool.and_eq_true] at kept
        have starts := isNameStart_iff.2 ⟨kept.1, Bool.eq_false_iff.2 digit⟩
        rw [if_neg digit, isIdentifier, starts, kept.2]
        rfl

/-- An identifier is reduced to itself. -/
theorem identifier?_of_isIdentifier
    {name : Text} (identifier : isIdentifier name = true) :
    identifier? name = some name := by
  have plain := isPlain_of_isIdentifier identifier
  have solid : ∀ c ∈ name, Text.isBlank c = false :=
    fun c member =>
      Text.isBlank_of_isWord (isWord_of_isIdentifierChar (List.all_eq_true.1 plain c member))
  have trimmed := Text.trim_of_solid
    (Text.hasSolidEnds_of_forall (ne_nil_of_isIdentifier identifier) solid)
  have kept : name.filter isIdentifierChar = name :=
    List.filter_eq_self.2 (List.all_eq_true.1 plain)
  rw [identifier?, trimmed, kept]
  cases name with
  | nil => exact absurd identifier Bool.false_ne_true
  | cons first rest =>
      rw [isIdentifier, Bool.and_eq_true] at identifier
      have notDigit : ¬first.isDigit = true := by
        rw [(isNameStart_iff.1 identifier.1).2]
        exact Bool.false_ne_true
      simp only [if_neg notDigit]

theorem isPlain_append
    {left right : Text} (leftPlain : isPlain left = true) (rightPlain : isPlain right = true) :
    isPlain (left ++ right) = true := by
  rw [isPlain, List.all_append, Bool.and_eq_true]
  exact ⟨leftPlain, rightPlain⟩

theorem isPlain_ofNat
    (n : Nat) :
    isPlain (Text.ofNat n) = true :=
  List.all_eq_true.2 fun _ member =>
    isIdentifierChar_iff.2 (Or.inl (Or.inr (Text.isDigit_of_mem_ofNat member)))

theorem isIdentifier_positionalName
    (index : Nat) :
    isIdentifier (Schema.positionalName index) = true := by
  cases index with
  | zero => decide
  | succ index =>
      have behind : isPlain ("aram" ++ Text.ofNat (index + 2)) = true :=
        isPlain_append (by decide) (isPlain_ofNat (index + 2))
      exact behind

end Kata.Name

namespace Kata.Schema

/-- That every parameter of a schema has an identifier for its name. -/
def HasIdentifiers (schema : Schema) : Prop :=
  ∀ param ∈ schema.params, Name.isIdentifier param.name = true

/-- That every parameter of a schema has a name with only characters of identifiers. -/
def HasPlainNames (schema : Schema) : Prop :=
  ∀ param ∈ schema.params, Name.isPlain param.name = true

theorem isIdentifier_name_param
    (sources : Sources) (name? : Option Text) (index : Nat) :
    Name.isIdentifier (sources.param name? index).name = true := by
  change Name.isIdentifier ((name?.bind Name.identifier?).getD (positionalName index)) = true
  cases found : name?.bind Name.identifier? with
  | none => exact Name.isIdentifier_positionalName index
  | some name =>
      obtain ⟨text, _, identifier⟩ := Option.bind_eq_some_iff.1 found
      exact Name.isIdentifier_identifier? identifier

/-- Whatever is stored with a problem, the parameters get identifiers for their names. -/
theorem hasIdentifiers_ofProblem
    (problem : Problem) :
    (ofProblem problem).HasIdentifiers := by
  intro param member
  obtain ⟨⟨name?, index⟩, _, rfl⟩ := List.mem_map.1 member
  exact isIdentifier_name_param (Sources.ofProblem problem) name? index

theorem hasPlainNames_ofProblem
    (problem : Problem) :
    (ofProblem problem).HasPlainNames :=
  fun param member => Name.isPlain_of_isIdentifier (hasIdentifiers_ofProblem problem param member)

end Kata.Schema
