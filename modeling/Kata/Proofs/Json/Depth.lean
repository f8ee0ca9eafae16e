import Mathlib.Data.List.TakeWhile
import Kata.Json.Reader
import Kata.Proofs.Json.Shape

/-!
# How deep a value can be that was read

The reader gives up a level with each array or object that it enters, so what it returns is nested
less deep than it was allowed to go. Hence every value that parses has at most 127 levels, and
the keys of each of its objects are distinct.
-/

namespace Kata.Json

/-! ## Results -/

section Results

variable {ε α β : Type}

theorem map_eq_ok_iff
    {f : α → β} {result : Except ε α} {b : β} :
    result.map f = .ok b ↔ ∃ a, result = .ok a ∧ f a = b := by
  cases result with
  | error fault => simp [Except.map]
  | ok a => simp [Except.map]

theorem bind_eq_ok_iff
    {f : α → Except ε β} {result : Except ε α} {b : β} :
    result >>= f = .ok b ↔ ∃ a, result = .ok a ∧ f a = .ok b := by
  cases result with
  | error fault => simp [bind, Except.bind]
  | ok a => simp [bind, Except.bind]

end Results

/-! ## Numbers -/

/-- Whether what a reader returns, if anything, has a property. -/
def Gives (property : Json → Prop) (result : Except Fault (Json × Text)) : Prop :=
  ∀ value rest, result = .ok (value, rest) → property value

section Gives

variable {property : Json → Prop}

theorem gives_error
    (fault : Fault) :
    Gives property (.error fault) := by
  intro value rest equality
  exact absurd equality (by simp)

theorem gives_ok
    {value : Json} (holds : property value) (rest : Text) :
    Gives property (.ok (value, rest)) := by
  intro found behind equality
  cases equality
  exact holds

section Floats

variable (floats : ∀ x, property (.float x))
include floats

theorem gives_floatFromParts
    (negative : Bool) (significand : Nat) (exponent : Int) (rest : Text) :
    Gives property (floatFromParts negative significand exponent rest) := by
  rw [floatFromParts]
  split
  · exact gives_ok (floats _) _
  · exact gives_error _

theorem gives_readExponent
    (negative : Bool) (significand : Nat) (exponent : Int) (text : Text) :
    Gives property (readExponent negative significand exponent text) := by
  unfold readExponent
  split
  split
  · exact gives_error _
  · split
    · split
      · exact gives_floatFromParts floats _ _ _ _
      · split
        · exact gives_error _
        · exact gives_ok (floats _) _
    · exact gives_error _

theorem gives_readScaled
    (negative : Bool) (significand : Nat) (exponent : Int) (text : Text) :
    Gives property (readScaled negative significand exponent text) := by
  rw [readScaled.eq_def]
  split
  · exact gives_readExponent floats _ _ _ _
  · exact gives_readExponent floats _ _ _ _
  · exact gives_floatFromParts floats _ _ _ _

theorem gives_readFraction
    (negative : Bool) (significand : Nat) (exponent : Int) (text : Text) :
    Gives property (readFraction negative significand exponent text) := by
  rw [readFraction]
  dsimp only
  split
  · split <;> exact gives_error _
  · exact gives_readScaled floats _ _ _ _

variable (integers : ∀ negative n, property (exactInteger negative n))
include integers

theorem gives_readBehindInteger
    (negative : Bool) (significand skipped : Nat) (rest : Text) :
    Gives property (readBehindInteger negative significand skipped rest) := by
  rw [readBehindInteger.eq_def]
  split
  · exact gives_readFraction floats _ _ _ _
  · split
    · exact gives_ok (integers _ _) _
    · exact gives_readScaled floats _ _ _ _

theorem gives_readNumber
    (negative : Bool) (text : Text) :
    Gives property (readNumber negative text) := by
  rw [readNumber.eq_def]
  split
  · exact gives_error _
  · split
    · exact gives_error _
    · exact gives_readBehindInteger floats integers _ _ _ _
  · split
    · exact gives_readBehindInteger floats integers _ _ _ _
    · exact gives_error _

end Floats

end Gives

/-- Whether what a reader returns, if anything, is a value without parts. -/
def GivesLeaf (result : Except Fault (Json × Text)) : Prop :=
  ∀ value rest, result = .ok (value, rest) → nesting value = 0

theorem nesting_exactInteger
    (negative : Bool) (n : Nat) :
    nesting (exactInteger negative n) = 0 := by
  rw [exactInteger]
  split
  · rfl
  · split <;> rfl

theorem givesLeaf_readNumber
    (negative : Bool) (text : Text) :
    GivesLeaf (readNumber negative text) :=
  gives_readNumber (fun _ => rfl) nesting_exactInteger negative text

/-! ## Values -/

/-- What the three readers keep, by the number of steps that they may take. -/
structure StaysBelow (steps : Nat) : Prop where
  value :
    ∀ {depth : Nat} {text rest : Text} {value : Json},
      readValue steps depth text = .ok (value, rest) → nesting value ≤ depth - 1
  items :
    ∀ {depth : Nat} {isFirst : Bool} {text rest : Text} {items : List Json},
      readItems steps depth isFirst text = .ok (items, rest) → nestingOfItems items ≤ depth - 1
  members :
    ∀ {depth : Nat} {isFirst : Bool} {text rest : Text} {members : List (Text × Json)},
      readMembers steps depth isFirst text = .ok (members, rest) →
        nestingOfMembers members ≤ depth - 1

theorem staysBelow_value
    {steps : Nat} (below : StaysBelow steps) {depth : Nat} {text rest : Text} {value : Json}
    (read : readValue (steps + 1) depth text = .ok (value, rest)) :
    nesting value ≤ depth - 1 := by
  rw [readValue] at read
  split at read
  · exact absurd read (by simp [Fault.here])
  · obtain ⟨_, _, equality⟩ := map_eq_ok_iff.1 read
    cases equality
    exact Nat.zero_le _
  · obtain ⟨_, _, equality⟩ := map_eq_ok_iff.1 read
    cases equality
    exact Nat.zero_le _
  · obtain ⟨_, _, equality⟩ := map_eq_ok_iff.1 read
    cases equality
    exact Nat.zero_le _
  · rw [givesLeaf_readNumber _ _ _ _ read]
    exact Nat.zero_le _
  · obtain ⟨_, _, equality⟩ := map_eq_ok_iff.1 read
    cases equality
    exact Nat.zero_le _
  · split at read
    · exact absurd read (by simp [Fault.ahead])
    · obtain ⟨⟨items, behind⟩, content, equality⟩ := map_eq_ok_iff.1 read
      cases equality
      have bound := below.items content
      rw [nesting]
      omega
  · split at read
    · exact absurd read (by simp [Fault.ahead])
    · obtain ⟨⟨members, behind⟩, content, equality⟩ := map_eq_ok_iff.1 read
      cases equality
      have bound := below.members content
      rw [nesting]
      omega
  · split at read
    · rw [givesLeaf_readNumber _ _ _ _ read]
      exact Nat.zero_le _
    · exact absurd read (by simp [Fault.ahead])

theorem staysBelow_items
    {steps : Nat} (below : StaysBelow steps) {depth : Nat} {isFirst : Bool} {text rest : Text}
    {items : List Json}
    (read : readItems (steps + 1) depth isFirst text = .ok (items, rest)) :
    nestingOfItems items ≤ depth - 1 := by
  rw [readItems] at read
  obtain ⟨next, _, read⟩ := bind_eq_ok_iff.1 read
  cases next with
  | none =>
      cases read
      exact Nat.zero_le _
  | some behind =>
      obtain ⟨⟨item, afterItem⟩, first, read⟩ := bind_eq_ok_iff.1 read
      obtain ⟨⟨others, afterItems⟩, later, read⟩ := bind_eq_ok_iff.1 read
      cases read
      rw [nestingOfItems, Nat.max_le]
      exact ⟨below.value first, below.items later⟩

theorem staysBelow_members
    {steps : Nat} (below : StaysBelow steps) {depth : Nat} {isFirst : Bool} {text rest : Text}
    {members : List (Text × Json)}
    (read : readMembers (steps + 1) depth isFirst text = .ok (members, rest)) :
    nestingOfMembers members ≤ depth - 1 := by
  rw [readMembers] at read
  obtain ⟨next, _, read⟩ := bind_eq_ok_iff.1 read
  cases next with
  | none =>
      cases read
      exact Nat.zero_le _
  | some behind =>
      obtain ⟨⟨key, afterKey⟩, _, read⟩ := bind_eq_ok_iff.1 read
      obtain ⟨afterColon, _, read⟩ := bind_eq_ok_iff.1 read
      obtain ⟨⟨value, afterValue⟩, first, read⟩ := bind_eq_ok_iff.1 read
      obtain ⟨⟨others, afterMembers⟩, later, read⟩ := bind_eq_ok_iff.1 read
      cases read
      rw [nestingOfMembers, Nat.max_le]
      exact ⟨below.value first, below.members later⟩

theorem staysBelow
    (steps : Nat) :
    StaysBelow steps := by
  induction steps with
  | zero =>
      constructor
      · intro depth text rest value read
        exact absurd read (by simp [readValue, Fault.here])
      · intro depth isFirst text rest items read
        exact absurd read (by simp [readItems, Fault.here])
      · intro depth isFirst text rest members read
        exact absurd read (by simp [readMembers, Fault.here])
  | succ steps inductionHypothesis =>
      exact
        { value := staysBelow_value inductionHypothesis
          items := staysBelow_items inductionHypothesis
          members := staysBelow_members inductionHypothesis }

/-! ## Whole texts -/

theorem eq_ok_of_finish
    {value found : Json} {rest : Text} (finished : finish value rest = .ok found) :
    value = found ∧ skipSpace rest = [] := by
  rw [finish] at finished
  split at finished
  · next skipped =>
    cases finished
    exact ⟨rfl, skipped⟩
  · exact absurd finished (by simp [Fault.ahead])

theorem exists_readValue_of_parseAll
    {text : Text} {value : Json} (parsed : parseAll text = .ok value) :
    ∃ gap, (∀ c ∈ gap, isSpace c = true) ∧
      readValue (2 * text.length + 2) depthLimit text = .ok (value, gap) := by
  rw [parseAll] at parsed
  obtain ⟨⟨found, gap⟩, read, finished⟩ := bind_eq_ok_iff.1 parsed
  obtain ⟨rfl, empty⟩ := eq_ok_of_finish finished
  exact ⟨gap, List.dropWhile_eq_nil_iff.1 empty, read⟩

theorem nesting_of_parseAll
    {text : Text} {value : Json} (parsed : parseAll text = .ok value) :
    nesting value < depthLimit := by
  obtain ⟨gap, _, read⟩ := exists_readValue_of_parseAll parsed
  have bound := (staysBelow _).value read
  have limit : depthLimit = 128 := rfl
  omega

/-- A value that parses is nested at most 127 deep. -/
theorem nesting_of_parse
    {text : Text} {value : Json} (parsed : parse text = .ok value) :
    nesting value ≤ 127 := by
  obtain ⟨whole, read, equality⟩ := map_eq_ok_iff.1 parsed
  rw [← equality]
  exact Nat.le_trans (nesting_collapse_le whole) (Nat.le_of_lt_succ (nesting_of_parseAll read))

/-- The keys of each object of a value that parses are distinct. -/
theorem hasDistinctKeys_of_parse
    {text : Text} {value : Json} (parsed : parse text = .ok value) :
    hasDistinctKeys value = true := by
  obtain ⟨whole, _, equality⟩ := map_eq_ok_iff.1 parsed
  rw [← equality]
  exact hasDistinctKeys_collapse whole

end Kata.Json
