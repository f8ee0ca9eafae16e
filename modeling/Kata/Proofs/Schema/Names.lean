import Mathlib.Data.List.Nodup
import Kata.Schema
import Kata.Proofs.Text.Digits

/-!
# Names of parameters

A parameter that is given no name is named by its place. The names by place differ from one another,
but nothing keeps them apart from the names that are given. So the parameters of a schema have
pairwise distinct names just if the given names are pairwise distinct and none of them is the name
by place of a parameter that is given none.
-/

namespace Kata.Schema

/-! ## Names by place -/

/-- Only the first place has a name without digits. -/
theorem positionalName_succ_ne
    (index : Nat) :
    positionalName (index + 1) ≠ positionalName 0 := by
  intro same
  have suffix : "param".toList ++ Text.ofNat (index + 2) = "param".toList ++ [] := same
  exact Text.ofNat_ne_nil (index + 2) (List.append_cancel_left suffix)

theorem positionalName_injective :
    Function.Injective positionalName := by
  intro i j same
  cases i with
  | zero =>
      cases j with
      | zero => rfl
      | succ j => exact absurd same.symm (positionalName_succ_ne j)
  | succ i =>
      cases j with
      | zero => exact absurd same (positionalName_succ_ne i)
      | succ j =>
          have digits : Text.ofNat (i + 2) = Text.ofNat (j + 2) := List.append_cancel_left same
          have numbers := congrArg Text.digitsValue digits
          rw [Text.digitsValue_ofNat, Text.digitsValue_ofNat] at numbers
          omega

/-! ## Given names -/

/-- The names that the parameters are given, reduced to identifiers. A parameter may be given none,
or one of which nothing is left. -/
def Sources.givenNames (sources : Sources) : List (Option Text) :=
  sources.names.map fun name? => name?.bind Name.identifier?

/-- Given names, with the names by place where there is none. -/
def completed (given : List (Option Text)) : List Text :=
  given.mapIdx fun index name? => name?.getD (positionalName index)

theorem map_name_params
    (sources : Sources) :
    sources.schema.params.map Param.name = completed sources.givenNames := by
  change (sources.names.zipIdx.map fun named => sources.param named.1 named.2).map Param.name = _
  rw [completed, Sources.givenNames, List.mapIdx_eq_zipIdx_map, List.zipIdx_map, List.map_map,
    List.map_map]
  rfl

section Completed

variable {given : List (Option Text)}

theorem nodup_completed_iff_getElem :
    (completed given).Nodup ↔
      ∀ i j, ∀ (hi : i < given.length) (hj : j < given.length), i < j →
        given[i].getD (positionalName i) ≠ given[j].getD (positionalName j) := by
  rw [List.Nodup, List.pairwise_iff_getElem]
  simp only [completed, List.length_mapIdx, List.getElem_mapIdx]

theorem nodup_filterMap_iff_getElem :
    (given.filterMap id).Nodup ↔
      ∀ i j, ∀ (hi : i < given.length) (hj : j < given.length), i < j →
        ∀ name, given[i] = some name → given[j] ≠ some name := by
  rw [List.Nodup, List.pairwise_filterMap, List.pairwise_iff_getElem]
  refine forall₅_congr fun i j hi hj _ => ?_
  constructor
  · intro distinct name atFirst atSecond
    exact distinct name atFirst name atSecond rfl
  · rintro distinct name atFirst other atSecond rfl
    exact distinct name atFirst atSecond

/-- At two places the completed names differ just if no given name stands at both, and a place
without a name is not met at the other by its name by place. -/
theorem getD_ne_getD_iff
    {i j : Nat} (ahead : i < j) (first second : Option Text) :
    first.getD (positionalName i) ≠ second.getD (positionalName j) ↔
      (∀ name, first = some name → second ≠ some name) ∧
        (first = none → second ≠ some (positionalName i)) ∧
          (second = none → first ≠ some (positionalName j)) := by
  cases first with
  | none =>
      cases second with
      | none => simp [positionalName_injective.ne (Nat.ne_of_lt ahead)]
      | some name => simp [eq_comm]
  | some name =>
      cases second with
      | none => simp
      | some other => simp [eq_comm]

/-- Names by place and given names are pairwise distinct together just if the given names are, and
none of them is the name of a place without one. -/
theorem nodup_completed_iff :
    (completed given).Nodup ↔
      (given.filterMap id).Nodup ∧
        ∀ index, given[index]? = some none → some (positionalName index) ∉ given := by
  rw [nodup_completed_iff_getElem, nodup_filterMap_iff_getElem]
  constructor
  · intro distinct
    have parts := fun i j hi hj ahead => (getD_ne_getD_iff ahead _ _).1 (distinct i j hi hj ahead)
    refine ⟨fun i j hi hj ahead => (parts i j hi hj ahead).1, fun index nameless member => ?_⟩
    obtain ⟨hi, isNone⟩ := List.getElem?_eq_some_iff.1 nameless
    obtain ⟨j, hj, isName⟩ := List.getElem_of_mem member
    rcases Nat.lt_trichotomy index j with ahead | rfl | behind
    · exact (parts index j hi hj ahead).2.1 isNone isName
    · rw [isNone] at isName
      exact nomatch isName
    · exact (parts j index hj hi behind).2.2 isNone isName
  · rintro ⟨distinct, unclaimed⟩ i j hi hj ahead
    refine (getD_ne_getD_iff ahead _ _).2 ⟨distinct i j hi hj ahead, ?_, ?_⟩
    · intro isNone isName
      apply unclaimed i (List.getElem?_eq_some_iff.2 ⟨hi, isNone⟩)
      rw [← isName]
      exact List.getElem_mem hj
    · intro isNone isName
      apply unclaimed j (List.getElem?_eq_some_iff.2 ⟨hj, isNone⟩)
      rw [← isName]
      exact List.getElem_mem hi

end Completed

/-! ## The names of a schema -/

/-- The parameters of a problem have pairwise distinct names just if the names that they are given
are pairwise distinct, once reduced to identifiers, and none of those is the name by place of a
parameter that is given none. -/
theorem parameter_names_are_distinct_iff
    (problem : Problem) :
    ((ofProblem problem).params.map Param.name).Nodup ↔
      ((Sources.ofProblem problem).givenNames.filterMap id).Nodup ∧
        ∀ index, (Sources.ofProblem problem).givenNames[index]? = some none →
          some (positionalName index) ∉ (Sources.ofProblem problem).givenNames := by
  rw [ofProblem, map_name_params]
  exact nodup_completed_iff

/-- A problem whose first parameter is stored without a name, and whose second one has the name that
the first is given by its place. -/
def claimedName : Problem :=
  { Problem.titled "Sum" with
    parameterSchema? :=
      some (.object [("params", .array [.string "int",
        .object [("name", .string "param"), ("type", .string "int")]])]) }

/-- The only name that is given is distinct from itself alone, and yet both parameters have it. -/
theorem claimed_name_is_shared :
    (Sources.ofProblem claimedName).givenNames = [none, some "param".toList] ∧
      ((Sources.ofProblem claimedName).givenNames.filterMap id).Nodup ∧
        (ofProblem claimedName).params.map Param.name = ["param".toList, "param".toList] ∧
          ¬((ofProblem claimedName).params.map Param.name).Nodup := by
  decide +kernel

end Kata.Schema
