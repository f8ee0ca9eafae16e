import Mathlib.Data.List.Forall2
import Kata.Problem.File
import Kata.Proofs.Json.Records
import Kata.Proofs.Text.Cuts
import Kata.Proofs.Text.Order

/-!
# Directories of problem files

The problem files of a directory are read in the order of the bytes of their names, in whatever
order the directory lists them. Either all of them are read, or the first that is not decides.
-/

namespace Kata.Problem

/-! ## Names of problem files -/

theorem fileExtension?_eq_some_iff
    {name ending : Text} :
    fileExtension? name = some ending ↔
      ∃ stem, stem ≠ [] ∧ name = stem ++ '.' :: ending ∧ '.' ∉ ending := by
  constructor
  · intro found
    rw [fileExtension?] at found
    split at found
    · exact absurd found (by simp)
    · next tail front notFront cut =>
      obtain ⟨whole, absent⟩ := Text.cutAt?_eq_some_iff.1 cut
      cases found
      refine ⟨front.reverse, ?_, ?_, by simpa using absent⟩
      · rw [ne_eq, List.reverse_eq_nil_iff]
        exact fun empty => notFront empty
      · rw [← List.reverse_reverse name, whole]
        simp
    · exact absurd found (by simp)
  · rintro ⟨stem, nonempty, rfl, absent⟩
    have backward : (stem ++ '.' :: ending).reverse = ending.reverse ++ '.' :: stem.reverse := by
      simp
    have cut : '.' ∉ ending.reverse := by
      simpa using absent
    obtain ⟨c, others, front⟩ :=
      List.exists_cons_of_ne_nil (mt List.reverse_eq_nil_iff.1 nonempty)
    rw [fileExtension?, backward, Text.cutAt?_append cut, front]
    simp

/-- Whether a name ends in `.json` and has something ahead of it. -/
def HasJsonEnding (name : Text) : Prop :=
  ∃ stem, stem ≠ [] ∧ name = stem ++ ".json".toList

theorem isFileName_iff
    (name : Text) :
    isFileName name = true ↔ HasJsonEnding name := by
  have ending : '.' :: "json".toList = ".json".toList := by decide
  rw [isFileName, beq_iff_eq, fileExtension?_eq_some_iff, ending, HasJsonEnding]
  simp

/-! ## The order of the files -/

/-- Whether files are the problem files of a directory in the order of the bytes of their
names. -/
structure InOrder (files ordered : List (Text × Text)) : Prop where
  members : ∀ file, file ∈ ordered ↔ file ∈ files ∧ HasJsonEnding file.1
  ascending : ordered.Pairwise fun earlier later => Text.bytes earlier.1 < Text.bytes later.1

theorem mem_sortedFiles
    (files : List (Text × Text)) (file : Text × Text) :
    file ∈ sortedFiles files ↔ file ∈ files ∧ HasJsonEnding file.1 := by
  rw [sortedFiles, (List.mergeSort_perm _ _).mem_iff, List.mem_filter, isFileName_iff]

theorem pairwise_sortedFiles
    (files : List (Text × Text)) :
    (sortedFiles files).Pairwise fun earlier later =>
      Text.before earlier.1 later.1 = true := by
  apply List.pairwise_mergeSort
  · exact fun first second third => Text.before_trans first.1 second.1 third.1
  · exact fun first second => Text.before_total first.1 second.1

/-- Files of different names are sorted by the bytes of their names. -/
theorem inOrder_sortedFiles
    {files : List (Text × Text)} (distinct : (files.map Prod.fst).Nodup) :
    InOrder files (sortedFiles files) where
  members := mem_sortedFiles files
  ascending := by
    have names : ((sortedFiles files).map Prod.fst).Nodup := by
      rw [sortedFiles, ((List.mergeSort_perm _ _).map Prod.fst).nodup_iff]
      exact distinct.sublist (List.filter_sublist.map Prod.fst)
    rw [List.Nodup, List.pairwise_map] at names
    exact (pairwise_sortedFiles files).imp₂
      (fun _ _ => Text.bytes_lt_of_before) names

theorem InOrder.nodup
    {files ordered : List (Text × Text)} (inOrder : InOrder files ordered) :
    ordered.Nodup := by
  refine inOrder.ascending.imp ?_
  rintro earlier later smaller rfl
  exact List.lt_irrefl _ smaller

/-- However a directory lists its files, they are in one order only. -/
theorem InOrder.unique
    {files enumerated ordered others : List (Text × Text)} (perm : enumerated.Perm files)
    (left : InOrder files ordered) (right : InOrder enumerated others) :
    others = ordered := by
  have sameMembers : others.Perm ordered := by
    rw [List.perm_ext_iff_of_nodup right.nodup left.nodup]
    intro file
    rw [left.members, right.members, perm.mem_iff]
  exact
    List.Perm.eq_of_pairwise (fun _ _ _ _ forth back => absurd back (List.lt_asymm forth))
      right.ascending left.ascending sameMembers

/-! ## Reading the files -/

/-- What reading files one after another gives: the problems of all, or the error of the first
file that has one. -/
inductive Outcome (ordered : List (Text × Text)) : Except FileError (List Problem) → Prop
  | all {lists : List (List Problem)} :
      List.Forall₂ (fun file problems => ofFile file.2 = .ok problems) ordered lists →
        Outcome ordered (.ok lists.flatten)
  | first {ahead behind : List (Text × Text)} {file : Text × Text} {error : FileError} :
      ordered = ahead ++ file :: behind →
        (∀ earlier ∈ ahead, ∃ problems, ofFile earlier.2 = .ok problems) →
          ofFile file.2 = .error error →
            Outcome ordered (.error error)

theorem outcome_ofDirectory
    (files : List (Text × Text)) :
    Outcome (sortedFiles files) (ofDirectory files) := by
  rcases Json.forall₂_or_exists_first (fun file : Text × Text => ofFile file.2)
      (sortedFiles files) with
    ⟨lists, each⟩ | ⟨ahead, file, behind, error, split, passed, failed⟩
  · have whole : ofDirectory files = .ok lists.flatten := by
      rw [ofDirectory, Json.mapM_eq_ok_iff.2 each]
      rfl
    rw [whole]
    exact Outcome.all each
  · have whole : ofDirectory files = .error error := by
      rw [ofDirectory, Json.mapM_error_of_split split passed failed]
      rfl
    rw [whole]
    exact Outcome.first split passed failed

/-- Files of different names are read in the order of the bytes of their names, however the
directory lists them. -/
theorem outcome_of_inOrder
    {files enumerated ordered : List (Text × Text)} (distinct : (files.map Prod.fst).Nodup)
    (perm : enumerated.Perm files) (inOrder : InOrder files ordered) :
    Outcome ordered (ofDirectory enumerated) := by
  have sorted : InOrder enumerated (sortedFiles enumerated) :=
    inOrder_sortedFiles ((perm.map Prod.fst).nodup_iff.2 distinct)
  rw [← inOrder.unique perm sorted]
  exact outcome_ofDirectory enumerated

end Kata.Problem
