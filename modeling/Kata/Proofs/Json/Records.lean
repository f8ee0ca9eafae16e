import Mathlib.Data.List.Forall2
import Kata.Json.Record
import Kata.Proofs.Json.Depth

/-!
# Lists and records that are read

A list is read if each of its items is, and else the first item that is not decides. Members of
unknown names change nothing in a record.
-/

namespace Kata.Json

/-! ## Lists -/

section Lists

variable {ε α β : Type} {f : α → Except ε β}

theorem mapM_eq_ok_iff
    {items : List α} {results : List β} :
    items.mapM f = .ok results ↔
      List.Forall₂ (fun item result => f item = .ok result) items results := by
  induction items generalizing results with
  | nil =>
      rw [List.mapM_nil, List.forall₂_nil_left_iff]
      exact ⟨fun equality => by cases equality; rfl, fun equality => by rw [equality]; rfl⟩
  | cons item items inductionHypothesis =>
      rw [List.mapM_cons, bind_eq_ok_iff, List.forall₂_cons_left_iff]
      constructor
      · rintro ⟨result, first, rest⟩
        obtain ⟨others, later, equality⟩ := bind_eq_ok_iff.1 rest
        cases equality
        exact ⟨result, others, first, inductionHypothesis.1 later, rfl⟩
      · rintro ⟨result, others, first, later, rfl⟩
        exact ⟨result, first, bind_eq_ok_iff.2 ⟨others, inductionHypothesis.2 later, rfl⟩⟩

theorem mapM_error_of_split
    {items ahead behind : List α} {item : α} {error : ε} (split : items = ahead ++ item :: behind)
    (passed : ∀ earlier ∈ ahead, ∃ result, f earlier = .ok result)
    (failed : f item = .error error) :
    items.mapM f = .error error := by
  subst split
  induction ahead with
  | nil =>
      rw [List.nil_append, List.mapM_cons, failed]
      rfl
  | cons earlier ahead inductionHypothesis =>
      rw [List.forall_mem_cons] at passed
      obtain ⟨⟨result, first⟩, later⟩ := passed
      rw [List.cons_append, List.mapM_cons, first]
      change (List.mapM f (ahead ++ item :: behind) >>= _) = _
      rw [inductionHypothesis later]
      rfl

/-- Either all items are read, or some item is the first that is not. -/
theorem forall₂_or_exists_first
    (f : α → Except ε β) (items : List α) :
    (∃ results, List.Forall₂ (fun item result => f item = .ok result) items results) ∨
      ∃ ahead item behind error,
        items = ahead ++ item :: behind ∧
          (∀ earlier ∈ ahead, ∃ result, f earlier = .ok result) ∧ f item = .error error := by
  induction items with
  | nil => exact Or.inl ⟨[], List.Forall₂.nil⟩
  | cons item items inductionHypothesis =>
      cases first : f item with
      | error error => exact Or.inr ⟨[], item, items, error, rfl, by simp, first⟩
      | ok result =>
          rcases inductionHypothesis with
            ⟨results, later⟩ | ⟨ahead, other, behind, error, rfl, passed, failed⟩
          · exact Or.inl ⟨result :: results, List.Forall₂.cons first later⟩
          · refine Or.inr ⟨item :: ahead, other, behind, error, rfl, ?_, failed⟩
            rw [List.forall_mem_cons]
            exact ⟨⟨result, first⟩, passed⟩

end Lists

/-! ## Records -/

section Records

variable {σ : Type} {r : Record σ} {members : List (Text × Json)}

/-- Members of unknown names change nothing. -/
theorem visitMembers_of_unknown
    (unknown : ∀ member ∈ members, r.fields.find? (·.goesBy member.1) = none)
    (seen : List Text) (state : σ) :
    r.visitMembers members seen state = .ok (seen, state) := by
  induction members with
  | nil => rfl
  | cons member members inductionHypothesis =>
      rw [List.forall_mem_cons] at unknown
      rw [Record.visitMembers, unknown.1]
      exact inductionHypothesis unknown.2

/-- A record whose fields all have unknown names lacks the first field that has to be there. -/
theorem read_of_unknown
    (unknown : ∀ member ∈ members, r.fields.find? (·.goesBy member.1) = none)
    {field : RecordField σ} (missing : r.missing? [] = some field) :
    r.read (object members) = .error (.missingField field.name) := by
  rw [Record.read, visitMembers_of_unknown unknown]
  simp only [bind, Except.bind, missing]

end Records

end Kata.Json
