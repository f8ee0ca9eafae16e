import Kata.Json.Basic

/-!
# The shape of JSON values

How deep a value is nested, and whether the keys of each of its objects are distinct. Collapsing
makes the keys distinct, nests nothing deeper, and leaves a value alone whose keys are distinct
already.
-/

namespace Kata.Json

/-! ## Measures -/

mutual

/-- How many arrays and objects lie inside each other at most. -/
def nesting : Json → Nat
  | array items => nestingOfItems items + 1
  | object members => nestingOfMembers members + 1
  | _ => 0

/-- The deepest nesting in a list of values. -/
def nestingOfItems : List Json → Nat
  | [] => 0
  | item :: rest => max (nesting item) (nestingOfItems rest)

/-- The deepest nesting in a list of members. -/
def nestingOfMembers : List (Text × Json) → Nat
  | [] => 0
  | (_, value) :: rest => max (nesting value) (nestingOfMembers rest)

end

mutual

/-- Whether the keys of each object are distinct. -/
def hasDistinctKeys : Json → Bool
  | array items => itemsHaveDistinctKeys items
  | object members => decide (members.map Prod.fst).Nodup && membersHaveDistinctKeys members
  | _ => true

/-- Whether the keys of each object in a list of values are distinct. -/
def itemsHaveDistinctKeys : List Json → Bool
  | [] => true
  | item :: rest => hasDistinctKeys item && itemsHaveDistinctKeys rest

/-- Whether the keys of each object below a list of members are distinct. -/
def membersHaveDistinctKeys : List (Text × Json) → Bool
  | [] => true
  | (_, value) :: rest => hasDistinctKeys value && membersHaveDistinctKeys rest

end

theorem nestingOfMembers_le_iff
    (members : List (Text × Json)) (bound : Nat) :
    nestingOfMembers members ≤ bound ↔ ∀ member ∈ members, nesting member.2 ≤ bound := by
  induction members with
  | nil => simp [nestingOfMembers]
  | cons member members inductionHypothesis =>
      rw [nestingOfMembers, Nat.max_le, inductionHypothesis, List.forall_mem_cons]

theorem membersHaveDistinctKeys_iff
    (members : List (Text × Json)) :
    membersHaveDistinctKeys members = true ↔
      ∀ member ∈ members, hasDistinctKeys member.2 = true := by
  induction members with
  | nil => simp [membersHaveDistinctKeys]
  | cons member members inductionHypothesis =>
      rw [membersHaveDistinctKeys, Bool.and_eq_true, inductionHypothesis, List.forall_mem_cons]

/-! ## Setting members -/

section Members

variable {κ α : Type} [DecidableEq κ]

/-- Setting a member adds its key only where the key is new. -/
theorem map_fst_setMember
    (key : κ) (value : α) (members : List (κ × α)) :
    (setMember key value members).map Prod.fst =
      if key ∈ members.map Prod.fst then members.map Prod.fst
      else members.map Prod.fst ++ [key] := by
  induction members with
  | nil => simp [setMember]
  | cons member members inductionHypothesis =>
      obtain ⟨k, old⟩ := member
      by_cases same : k = key
      · simp [setMember, same]
      · have different : key ≠ k := Ne.symm same
        simp only [setMember, if_neg same, List.map_cons, inductionHypothesis, List.mem_cons,
          different, false_or]
        split <;> rfl

theorem nodup_setMember
    (key : κ) (value : α) {members : List (κ × α)} (nodup : (members.map Prod.fst).Nodup) :
    ((setMember key value members).map Prod.fst).Nodup := by
  rw [map_fst_setMember]
  split
  · exact nodup
  · next absent =>
    rw [List.nodup_append]
    refine ⟨nodup, List.nodup_cons.2 ⟨List.not_mem_nil, List.nodup_nil⟩, ?_⟩
    intro present presentMember added addedMember equality
    rw [List.mem_singleton] at addedMember
    rw [equality, addedMember] at presentMember
    exact absent presentMember

theorem mem_setMember
    {key : κ} {value : α} {members : List (κ × α)} {member : κ × α}
    (found : member ∈ setMember key value members) :
    member.2 = value ∨ member ∈ members := by
  induction members with
  | nil =>
      rw [setMember, List.mem_singleton] at found
      exact Or.inl (congrArg Prod.snd found)
  | cons first members inductionHypothesis =>
      obtain ⟨k, old⟩ := first
      rw [setMember] at found
      split at found
      · rcases List.mem_cons.1 found with equality | later
        · exact Or.inl (congrArg Prod.snd equality)
        · exact Or.inr (List.mem_cons_of_mem _ later)
      · rcases List.mem_cons.1 found with equality | later
        · exact Or.inr (List.mem_cons.2 (Or.inl equality))
        · rcases inductionHypothesis later with isValue | present
          · exact Or.inl isValue
          · exact Or.inr (List.mem_cons_of_mem _ present)

theorem setMember_of_not_mem
    {key : κ} (value : α) {members : List (κ × α)} (absent : key ∉ members.map Prod.fst) :
    setMember key value members = members ++ [(key, value)] := by
  induction members with
  | nil => rfl
  | cons member members inductionHypothesis =>
      obtain ⟨k, old⟩ := member
      rw [List.map_cons, List.mem_cons, not_or] at absent
      rw [setMember, if_neg (Ne.symm absent.1), inductionHypothesis absent.2, List.cons_append]

/-- What the fold that collapses members keeps: distinct keys, and no value that is new. -/
theorem foldl_setMember
    (members : List (κ × α)) :
    ∀ kept : List (κ × α),
      (kept.map Prod.fst).Nodup →
        let collapsed := members.foldl (fun kept (key, value) => setMember key value kept) kept
        (collapsed.map Prod.fst).Nodup ∧
          ∀ member ∈ collapsed,
            member ∈ kept ∨ ∃ source ∈ members, member.2 = source.2 := by
  induction members with
  | nil => exact fun kept nodup => ⟨nodup, fun member found => Or.inl found⟩
  | cons first members inductionHypothesis =>
      intro kept nodup
      obtain ⟨nodupBehind, origin⟩ :=
        inductionHypothesis _ (nodup_setMember first.1 first.2 nodup)
      refine ⟨nodupBehind, fun member found => ?_⟩
      rcases origin member found with present | ⟨source, sourceMember, equality⟩
      · rcases mem_setMember present with isFirst | inKept
        · exact Or.inr ⟨first, List.mem_cons_self, isFirst⟩
        · exact Or.inl inKept
      · exact Or.inr ⟨source, List.mem_cons_of_mem _ sourceMember, equality⟩

theorem nodup_collapseMembers
    (members : List (κ × α)) :
    ((collapseMembers members).map Prod.fst).Nodup :=
  (foldl_setMember members [] List.nodup_nil).1

theorem exists_of_mem_collapseMembers
    {members : List (κ × α)} {member : κ × α} (found : member ∈ collapseMembers members) :
    ∃ source ∈ members, member.2 = source.2 := by
  rcases (foldl_setMember members [] List.nodup_nil).2 member found with inNothing | origin
  · exact absurd inNothing List.not_mem_nil
  · exact origin

theorem foldl_setMember_of_nodup
    (members : List (κ × α)) :
    ∀ kept : List (κ × α),
      ((kept ++ members).map Prod.fst).Nodup →
        members.foldl (fun kept (key, value) => setMember key value kept) kept =
          kept ++ members := by
  induction members with
  | nil =>
      intro kept _
      exact (List.append_nil kept).symm
  | cons first members inductionHypothesis =>
      intro kept nodup
      have absent : first.1 ∉ kept.map Prod.fst := by
        intro present
        rw [List.map_append, List.nodup_append] at nodup
        exact nodup.2.2 first.1 present first.1 List.mem_cons_self rfl
      rw [List.append_cons] at nodup ⊢
      simp only [List.foldl_cons, setMember_of_not_mem first.2 absent]
      exact inductionHypothesis _ nodup

theorem collapseMembers_of_nodup
    {members : List (κ × α)} (nodup : (members.map Prod.fst).Nodup) :
    collapseMembers members = members :=
  foldl_setMember_of_nodup members [] nodup

end Members

/-! ## Collapsing -/

mutual

/-- Collapsing leaves a value alone whose keys are distinct. -/
theorem collapse_of_distinct :
    ∀ value : Json, hasDistinctKeys value = true → collapse value = value
  | null, _ => rfl
  | bool _, _ => rfl
  | int _, _ => rfl
  | float _, _ => rfl
  | string _, _ => rfl
  | array items, distinct => by
      rw [hasDistinctKeys] at distinct
      rw [collapse, collapseAll_of_distinct items distinct]
  | object members, distinct => by
      rw [hasDistinctKeys, Bool.and_eq_true, decide_eq_true_eq] at distinct
      rw [collapse, collapseValues_of_distinct members distinct.2,
        collapseMembers_of_nodup distinct.1]

theorem collapseAll_of_distinct :
    ∀ items : List Json, itemsHaveDistinctKeys items = true → collapseAll items = items
  | [], _ => rfl
  | item :: rest, distinct => by
      rw [itemsHaveDistinctKeys, Bool.and_eq_true] at distinct
      rw [collapseAll, collapse_of_distinct item distinct.1,
        collapseAll_of_distinct rest distinct.2]

theorem collapseValues_of_distinct :
    ∀ members : List (Text × Json),
      membersHaveDistinctKeys members = true → collapseValues members = members
  | [], _ => rfl
  | (key, value) :: rest, distinct => by
      rw [membersHaveDistinctKeys, Bool.and_eq_true] at distinct
      rw [collapseValues, collapse_of_distinct value distinct.1,
        collapseValues_of_distinct rest distinct.2]

end

mutual

/-- Collapsing makes the keys of each object distinct. -/
theorem hasDistinctKeys_collapse :
    ∀ value : Json, hasDistinctKeys (collapse value) = true
  | null => rfl
  | bool _ => rfl
  | int _ => rfl
  | float _ => rfl
  | string _ => rfl
  | array items => by
      rw [collapse, hasDistinctKeys]
      exact itemsHaveDistinctKeys_collapseAll items
  | object members => by
      rw [collapse, hasDistinctKeys, Bool.and_eq_true, decide_eq_true_eq]
      refine ⟨nodup_collapseMembers _, (membersHaveDistinctKeys_iff _).2 ?_⟩
      intro member found
      obtain ⟨source, sourceMember, equality⟩ := exists_of_mem_collapseMembers found
      rw [equality]
      exact (membersHaveDistinctKeys_iff _).1
        (membersHaveDistinctKeys_collapseValues members) source sourceMember

theorem itemsHaveDistinctKeys_collapseAll :
    ∀ items : List Json, itemsHaveDistinctKeys (collapseAll items) = true
  | [] => rfl
  | item :: rest => by
      rw [collapseAll, itemsHaveDistinctKeys, hasDistinctKeys_collapse item,
        itemsHaveDistinctKeys_collapseAll rest, Bool.and_self]

theorem membersHaveDistinctKeys_collapseValues :
    ∀ members : List (Text × Json), membersHaveDistinctKeys (collapseValues members) = true
  | [] => rfl
  | (_, value) :: rest => by
      rw [collapseValues, membersHaveDistinctKeys, hasDistinctKeys_collapse value,
        membersHaveDistinctKeys_collapseValues rest, Bool.and_self]

end

mutual

/-- Collapsing nests nothing deeper. -/
theorem nesting_collapse_le :
    ∀ value : Json, nesting (collapse value) ≤ nesting value
  | null => Nat.le_refl _
  | bool _ => Nat.le_refl _
  | int _ => Nat.le_refl _
  | float _ => Nat.le_refl _
  | string _ => Nat.le_refl _
  | array items => by
      rw [collapse, nesting, nesting]
      exact Nat.succ_le_succ (nestingOfItems_collapseAll_le items)
  | object members => by
      rw [collapse, nesting, nesting]
      apply Nat.succ_le_succ
      rw [nestingOfMembers_le_iff]
      intro member found
      obtain ⟨source, sourceMember, equality⟩ := exists_of_mem_collapseMembers found
      rw [equality]
      exact (nestingOfMembers_le_iff _ _).1
        (nestingOfMembers_collapseValues_le members) source sourceMember

theorem nestingOfItems_collapseAll_le :
    ∀ items : List Json, nestingOfItems (collapseAll items) ≤ nestingOfItems items
  | [] => Nat.le_refl _
  | item :: rest => by
      have head := nesting_collapse_le item
      have tail := nestingOfItems_collapseAll_le rest
      rw [collapseAll, nestingOfItems, nestingOfItems]
      omega

theorem nestingOfMembers_collapseValues_le :
    ∀ members : List (Text × Json),
      nestingOfMembers (collapseValues members) ≤ nestingOfMembers members
  | [] => Nat.le_refl _
  | (_, value) :: rest => by
      have head := nesting_collapse_le value
      have tail := nestingOfMembers_collapseValues_le rest
      rw [collapseValues, nestingOfMembers, nestingOfMembers]
      omega

end

end Kata.Json
