import Kata.Proofs.Prototype.Leads
import Kata.Proofs.Prototype.Types

/-!
# Parameters without names

A prototype can give the types of its parameters only. Nothing need stand between the type and the
name of a parameter for the two to be told apart, so a type that ends like a name loses its end to
one, and all other types are kept.
-/

namespace Kata.Prototype

open DataType (isForeign ofSpelling?_trim not_prefix_of_isSome trim_ne_nil_of_isSome withoutBlanks
  withoutBlanks_append withoutBlanks_trim)
open Pattern

/-! ## Types that end like names -/

/-- That a text ends, up to blanks, with a name behind a character that a type can end with, and
that perhaps blanks stand between the two. -/
def EndsInName (type : Text) : Prop :=
  ∃ front last gap first others,
    Text.trim type = (front ++ [last]) ++ (gap ++ first :: others) ∧ '\n' ∉ front ∧
      isTypeEnd last = true ∧ (∀ c ∈ gap, Text.isBlank c = true) ∧ isNameStart first = true ∧
        ∀ c ∈ others, Text.isWord c = true

/-- These are the texts in which a type ahead of a name is found. -/
theorem endsInName_iff
    {type : Text} :
    EndsInName type ↔ typedParameter.occursIn (Text.trim type) = true := by
  constructor
  · rintro ⟨front, last, gap, first, others, whole, line, ends, blank, starts, words⟩
    obtain ⟨remembered, takes⟩ :
        ∃ remembered,
          Takes typedParameter none
            ([] ++ ((front ++ [last]) ++ (gap ++ (([first] ++ others) ++ [])))) [] remembered := by
      refine exists_takes_onward [] ⟨[], rfl, rfl, rfl⟩ ?_
      refine exists_takes_onward (front ++ [last]) (exists_takes_group 1 ⟨[], ?_⟩) ?_
      · exact takes_seq.2 ⟨front, [last], [], [], ⟨Text.forall_bne_of_not_mem line, rfl⟩,
          ⟨⟨last, ends, rfl⟩, rfl⟩, rfl, rfl⟩
      refine exists_takes_onward gap ⟨[], blank, rfl⟩ ?_
      refine exists_takes_onward ([first] ++ others) (exists_takes_group 2 ⟨[], ?_⟩)
        ⟨[], rfl, rfl, rfl⟩
      exact takes_seq.2 ⟨[first], others, [], [], ⟨⟨first, starts, rfl⟩, rfl⟩, ⟨words, rfl⟩, rfl,
        rfl⟩
    refine occursIn_iff.2 ⟨[], _, [], remembered, ?_, takes⟩
    rw [whole]
    simp
  · intro occurs
    obtain ⟨found, searched⟩ := Option.isSome_iff_exists.1 occurs
    obtain ⟨front, last, gap, first, others, whole, line, ends, blank, starts, words, _⟩ :=
      exists_of_search?_typedParameter searched
    exact ⟨front, last, gap, first, others, whole, line, ends, blank, starts, words⟩

instance (type : Text) : Decidable (EndsInName type) :=
  decidable_of_iff _ endsInName_iff.symm

/-- Of the spellings of types, those that are words lose their end to a name, but for three with a
digit in the place of a name. -/
theorem endsInName_spelling_iff
    {type : DataType} {spelling : Text} (known : spelling ∈ type.spellings) :
    EndsInName spelling ↔
      spelling.all Text.isWord = true ∧ spelling ∉ ["i32".toList, "i64".toList, "f64".toList] := by
  have table :
      ∀ spelling ∈ type.spellings,
        (EndsInName spelling ↔
          spelling.all Text.isWord = true ∧
            spelling ∉ ["i32".toList, "i64".toList, "f64".toList]) := by
    cases type <;> decide +kernel
  exact table spelling known

/-! ## Single types -/

section Accepted

variable {type : Text} (accepted : (DataType.ofSpelling? type).isSome = true)
include accepted

theorem after?_of_isForeign
    {word : Text} (foreign : isForeign (withoutBlanks word) = true) :
    Text.after? word (Text.trim type) = none := by
  rw [← Option.not_isSome_iff_eq_none]
  intro found
  obtain ⟨rest, begins⟩ := Option.isSome_iff_exists.1 found
  have whole := congrArg withoutBlanks (Text.eq_append_of_after? begins)
  rw [withoutBlanks_trim, withoutBlanks_append] at whole
  exact not_prefix_of_isSome foreign accepted (whole ▸ List.prefix_append _ _)

/-- A type is not taken for one with a qualifier. -/
theorem bare_of_isSome :
    Text.dropRepeated "const " (Text.dropRepeated "final " (Text.trim type)) = Text.trim type :=
  bare_of_none (after?_of_isForeign accepted (by decide +kernel))
    (after?_of_isForeign accepted (by decide +kernel))

/-- A type alone is kept exactly if it does not end like a name. -/
theorem readTypedParameter_trim_iff :
    readTypedParameter (Text.trim type) = ⟨none, DataType.ofSpelling? type⟩ ↔
      ¬EndsInName type := by
  rw [readTypedParameter, bare_of_isSome accepted, endsInName_iff, occursIn]
  cases searched : typedParameter.search? (Text.trim type) with
  | none =>
      rw [ofSpelling?_trim]
      exact ⟨fun _ found => Bool.false_ne_true found, fun _ => rfl⟩
  | some found =>
      obtain ⟨_, _, _, first, others, _, _, _, _, _, _, _, named⟩ :=
        exists_of_search?_typedParameter searched
      dsimp only
      rw [named]
      constructor
      · exact fun same => absurd (congrArg Parameter.name? same) (Option.some_ne_none _)
      · exact fun none => absurd rfl none

end Accepted

/-! ## Lists of types -/

theorem not_mem_joinWith
    {mark : Char} {parts : List Text} (separator : mark ∉ ", ".toList)
    (absent : ∀ part ∈ parts, mark ∉ part) :
    mark ∉ Text.joinWith ", " parts := by
  intro member
  rcases Text.mem_joinWith member with inSeparator | ⟨part, partMember, inPart⟩
  · exact separator inSeparator
  · exact absent part partMember inPart

/-- Types without names are all kept exactly if each but the last closes its brackets and none ends
like a name. Only types that leave a bracket open are left out here where others have commas in
brackets. -/
theorem unnamed_types_are_kept_iff
    {language : Language} (typed : isTyped language = true) {head : Text} (flat : '(' ∉ head)
    {bare : Prototype} (isHead : ofText? language (head ++ "()") = some bare) {types : List Text}
    (accepted : ∀ type ∈ types, (DataType.ofSpelling? type).isSome = true)
    (opens : ∀ type ∈ types, '(' ∉ type) (closes : ∀ type ∈ types, ')' ∉ type)
    (commas : ∀ type ∈ types, hasInnerCommas 0 type = true)
    (plain :
      (∀ type ∈ types, ',' ∉ type) ∨ ∀ type ∈ types.dropLast, endDepth 0 type = 0) :
    ofText? language (head ++ '(' :: (Text.joinWith ", " types ++ [')'])) =
        some { bare with parameters := types.map fun type => ⟨none, DataType.ofSpelling? type⟩ } ↔
      (∀ type ∈ types.dropLast, endDepth 0 type = 0) ∧ ∀ type ∈ types, ¬EndsInName type := by
  have listOpens : '(' ∉ Text.joinWith ", " types := not_mem_joinWith (by decide) opens
  have listCloses : ')' ∉ Text.joinWith ", " types := not_mem_joinWith (by decide) closes
  -- Only the parameters depend on what stands in the bracket.
  have read :
      readTyped? (head ++ '(' :: (Text.joinWith ", " types ++ [')'])) =
        some
          { bare with
            parameters := (splitTopLevel (Text.joinWith ", " types)).map readTypedParameter } := by
    have empty := readTyped?_bracket flat List.not_mem_nil List.not_mem_nil List.not_mem_nil
    rw [ofText?_of_isTyped typed] at isHead
    obtain ⟨start, found, rfl⟩ := Option.map_eq_some_iff.1 (empty.symm.trans isHead)
    rw [readTyped?_bracket flat listOpens listCloses List.not_mem_nil, found]
    rfl
  have each :
      (types.map Text.trim).map readTypedParameter =
          types.map (fun type => ⟨none, DataType.ofSpelling? type⟩) ↔
        ∀ type ∈ types, ¬EndsInName type := by
    rw [List.map_map, List.map_inj_left]
    exact forall₂_congr fun type member => readTypedParameter_trim_iff (accepted type member)
  have solid : ∀ type ∈ types, Text.trim type ≠ [] :=
    fun type member => trim_ne_nil_of_isSome (accepted type member)
  rw [ofText?_of_isTyped typed, read, Option.some.injEq, Prototype.mk.injEq]
  constructor
  · rintro ⟨_, kept, _⟩
    have closed : ∀ type ∈ types.dropLast, endDepth 0 type = 0 := by
      refine plain.elim (fun absent => ?_) id
      exact closed_of_length_splitTopLevel absent
        ((List.length_map _).symm.trans ((congrArg List.length kept).trans (List.length_map _)))
    rw [splitTopLevel_joinWith_trim commas closed solid] at kept
    exact ⟨closed, each.1 kept⟩
  · rintro ⟨closed, unnamed⟩
    rw [splitTopLevel_joinWith_trim commas closed solid]
    exact ⟨rfl, each.2 unnamed, rfl⟩

/-- Types that end with brackets, with marks or with digits behind a single letter. -/
def keptTypes : List Text :=
  ["vector<int>&", "ListNode*", "f64"]

/-- In C++ they are all kept. -/
theorem unnamed_types_are_kept_iff_count :
    ofText? .cpp "int count()" = some ⟨some "count", [], some .int⟩ ∧
      (∀ type ∈ keptTypes, (DataType.ofSpelling? type).isSome = true) ∧
        (∀ type ∈ keptTypes, '(' ∉ type) ∧ (∀ type ∈ keptTypes, ')' ∉ type) ∧
          (∀ type ∈ keptTypes, hasInnerCommas 0 type = true) ∧
            (∀ type ∈ keptTypes, ',' ∉ type) ∧
              ofText? .cpp "int count(vector<int>&, ListNode*, f64)" =
                some
                  { name? := some "count"
                    parameters := [⟨none, some .intArray⟩, ⟨none, some .listNode⟩,
                      ⟨none, some .double⟩]
                    returnType? := some .int } := by
  have isHead : ofText? .cpp "int count()" = some ⟨some "count", [], some .int⟩ := by
    decide +kernel
  have accepted : ∀ type ∈ keptTypes, (DataType.ofSpelling? type).isSome = true := by
    decide +kernel
  have opens : ∀ type ∈ keptTypes, '(' ∉ type := by decide
  have closes : ∀ type ∈ keptTypes, ')' ∉ type := by decide
  have commas : ∀ type ∈ keptTypes, hasInnerCommas 0 type = true := by decide
  have absent : ∀ type ∈ keptTypes, ',' ∉ type := by decide
  refine ⟨isHead, accepted, opens, closes, commas, absent, ?_⟩
  have flat : '(' ∉ "int count".toList := by decide
  have kept :=
    (unnamed_types_are_kept_iff (by decide) flat isHead accepted opens closes commas
      (Or.inl absent)).2 ⟨by decide, by decide +kernel⟩
  have whole :
      "int count".toList ++ '(' :: (Text.joinWith ", " keptTypes ++ [')']) =
        "int count(vector<int>&, ListNode*, f64)".toList := by
    decide +kernel
  have parameters :
      keptTypes.map (fun type => ⟨none, DataType.ofSpelling? type⟩) =
        [⟨none, some .intArray⟩, ⟨none, some .listNode⟩, (⟨none, some .double⟩ : Parameter)] := by
    decide +kernel
  rw [whole, parameters] at kept
  exact kept

/-- The type of an integer is cut into a type that stands for nothing and a name. -/
theorem int_is_cut_into_type_and_name :
    (DataType.ofSpelling? "int").isSome = true ∧
      ofText? .java "int f(int)" = some ⟨some "f", [⟨some "nt", none⟩], some .int⟩ := by
  decide +kernel

end Kata.Prototype
