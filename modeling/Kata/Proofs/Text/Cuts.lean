import Kata.Text.Basic

/-!
# Cuts

Where a text is cut behind a run of characters, or at a character that does not stand ahead of the
cut, it can be cut there in one way only.
-/

namespace Kata.Text

theorem forall_bne_of_not_mem
    {mark : Char} {text : Text} (absent : mark ∉ text) :
    ∀ c ∈ text, (c != mark) = true := by
  rintro c member
  rw [bne_iff_ne]
  rintro rfl
  exact absent member

section Runs

variable {accepts : Char → Bool}

/-- A run that does not go on behind its end cannot go on there. -/
theorem eq_nil_of_run
    {rest run behind : Text} (all : ∀ c ∈ run, accepts c = true)
    (stops : rest.head?.any accepts = false) (whole : rest = run ++ behind) :
    run = [] := by
  cases run with
  | nil => rfl
  | cons c run =>
      rw [whole, List.cons_append, List.head?_cons, Option.any_some, all c List.mem_cons_self]
        at stops
      exact Bool.noConfusion stops

/-- A text begins in one way only with a run of characters that does not go on behind it. -/
theorem run_append_inj
    {run other rest behind : Text} (all : ∀ c ∈ run, accepts c = true)
    (allToo : ∀ c ∈ other, accepts c = true) (same : run ++ rest = other ++ behind)
    (stops : rest.head?.any accepts = false) (stopsToo : behind.head?.any accepts = false) :
    run = other ∧ rest = behind := by
  induction run generalizing other with
  | nil =>
      obtain rfl := eq_nil_of_run allToo stops same
      exact ⟨rfl, same⟩
  | cons c run inductionHypothesis =>
      cases other with
      | nil => exact absurd (eq_nil_of_run all stopsToo same.symm) (List.cons_ne_nil c run)
      | cons d other =>
          rw [List.forall_mem_cons] at all allToo
          obtain ⟨rfl, onward⟩ := List.cons.inj same
          obtain ⟨rfl, behindSame⟩ := inductionHypothesis all.2 allToo.2 onward
          exact ⟨rfl, behindSame⟩

end Runs

/-- A mark does not stand in a part of a text that has none. -/
theorem exists_behind_of_not_mem
    {mark : Char} {behind rest : Text} {left : Text} :
    ∀ {front : Text},
      mark ∉ left → left ++ behind = front ++ mark :: rest →
        ∃ more, front = left ++ more ∧ behind = more ++ mark :: rest := by
  induction left with
  | nil => exact fun {front} _ whole => ⟨front, rfl, whole⟩
  | cons c left inductionHypothesis =>
      intro front absent whole
      rw [List.mem_cons, not_or] at absent
      cases front with
      | nil => exact absurd (List.cons.inj whole).1.symm absent.1
      | cons d front =>
          obtain ⟨rfl, same⟩ := List.cons.inj whole
          obtain ⟨more, rfl, onward⟩ := inductionHypothesis absent.2 same
          exact ⟨more, rfl, onward⟩

theorem cutAt?_append
    {mark : Char} {front : Text} (absent : mark ∉ front) (rest : Text) :
    cutAt? mark (front ++ mark :: rest) = some (front, rest) := by
  induction front with
  | nil => rw [List.nil_append, cutAt?, if_pos rfl]
  | cons c front inductionHypothesis =>
      rw [List.mem_cons, not_or] at absent
      rw [List.cons_append, cutAt?, if_neg (Ne.symm absent.1), inductionHypothesis absent.2]
      rfl

theorem cutAt?_eq_some_iff
    {mark : Char} {text front rest : Text} :
    cutAt? mark text = some (front, rest) ↔ text = front ++ mark :: rest ∧ mark ∉ front := by
  constructor
  · intro cut
    induction text generalizing front with
    | nil => exact absurd cut (by simp [cutAt?])
    | cons c text inductionHypothesis =>
        rw [cutAt?] at cut
        split at cut
        · next same =>
          cases cut
          exact ⟨by rw [same, List.nil_append], List.not_mem_nil⟩
        · next different =>
          obtain ⟨⟨ahead, behind⟩, found, equality⟩ := Option.map_eq_some_iff.1 cut
          cases equality
          obtain ⟨whole, absent⟩ := inductionHypothesis found
          refine ⟨by rw [whole, List.cons_append], ?_⟩
          rw [List.mem_cons, not_or]
          exact ⟨Ne.symm different, absent⟩
  · rintro ⟨rfl, absent⟩
    exact cutAt?_append absent rest

end Kata.Text
