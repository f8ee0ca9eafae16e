import Kata.Proofs.Pattern.Search

/-!
# Where captures stand

Running a pattern keeps every property of places that one step and one remembered piece keep. So
the places that a match goes through lie in the text, and each piece that it remembers stands in
the text behind as many characters as the match says.
-/

namespace Kata.Pattern

/-! ## What a run keeps -/

/-- That a property of places is kept by a step over one character and by remembering a piece. -/
structure IsKept (holds : Place → Prop) : Prop where
  step :
    ∀ {offset : Nat} {previous : Option Char} {c : Char} {rest : Text}
      {captures : List (Nat × Capture)},
      holds ⟨offset, previous, c :: rest, captures⟩ →
        holds ⟨offset + 1, some c, rest, captures⟩
  capture :
    ∀ {place reached : Place} (number : Nat),
      holds place → holds reached →
        holds
          { reached with
            captures :=
              (number, ⟨place.offset, place.rest.take (reached.offset - place.offset)⟩) ::
                reached.captures }

section Kept

variable {α : Type} {holds : Place → Prop} {answer : Place → Option α} {result : α}

/-- That a run with a continuation arrives at a place with a property. -/
def ArrivesWith (holds : Place → Prop) (answer : Place → Option α) (result : α) : Prop :=
  ∃ reached, holds reached ∧ answer reached = some result

section Runs

variable {accepts : Char → Bool} {captures : List (Nat × Capture)} (kept : IsKept holds)
include kept

theorem arrivesWith_runMany
    (rest : Text) :
    ∀ {offset : Nat} {previous : Option Char},
      holds ⟨offset, previous, rest, captures⟩ →
        runMany accepts answer captures rest offset previous = some result →
          ArrivesWith holds answer result := by
  induction rest with
  | nil => exact fun here ran => ⟨_, here, ran⟩
  | cons c rest inductionHypothesis =>
      intro offset previous here ran
      rw [runMany_cons, Option.or_eq_some_iff] at ran
      rcases ran with further | ⟨_, stays⟩
      · split at further
        · exact inductionHypothesis (kept.step here) further
        · exact absurd further (Option.some_ne_none result).symm
      · exact ⟨_, here, stays⟩

theorem arrivesWith_runFew
    (rest : Text) :
    ∀ {offset : Nat} {previous : Option Char},
      holds ⟨offset, previous, rest, captures⟩ →
        runFew accepts answer captures rest offset previous = some result →
          ArrivesWith holds answer result := by
  induction rest with
  | nil => exact fun here ran => ⟨_, here, ran⟩
  | cons c rest inductionHypothesis =>
      intro offset previous here ran
      rw [runFew_cons, Option.or_eq_some_iff] at ran
      rcases ran with stays | ⟨_, further⟩
      · exact ⟨_, here, stays⟩
      · split at further
        · exact inductionHypothesis (kept.step here) further
        · exact absurd further (Option.some_ne_none result).symm

end Runs

theorem arrivesWith_runRepeated
    {body : Pattern}
    (bodyKeeps :
      ∀ {place : Place} {answer : Place → Option α},
        holds place → run body place answer = some result → ArrivesWith holds answer result)
    (rounds : Nat) :
    ∀ {place : Place},
      holds place → runRepeated (run body) answer rounds place = some result →
        ArrivesWith holds answer result := by
  induction rounds with
  | zero => exact fun here ran => ⟨_, here, ran⟩
  | succ rounds inductionHypothesis =>
      intro place here ran
      rw [runRepeated_succ, Option.or_eq_some_iff] at ran
      rcases ran with further | ⟨_, stays⟩
      · obtain ⟨reached, there, onward⟩ := bodyKeeps here further
        by_cases progress : place.offset < reached.offset
        · simp only [if_pos progress] at onward
          exact inductionHypothesis there onward
        · simp only [if_neg progress] at onward
          exact absurd onward (Option.some_ne_none result).symm
      · exact ⟨place, here, stays⟩

/-- Whatever steps and remembered pieces keep, a run of any pattern keeps. -/
theorem arrivesWith_run
    (kept : IsKept holds) (p : Pattern) :
    ∀ {place : Place} {answer : Place → Option α},
      holds place → run p place answer = some result → ArrivesWith holds answer result := by
  induction p with
  | empty => exact fun here ran => ⟨_, here, ran⟩
  | one accepts =>
      intro place answer here ran
      obtain ⟨offset, previous, rest, captures⟩ := place
      cases rest with
      | nil => exact absurd ran (Option.some_ne_none result).symm
      | cons c rest =>
          by_cases accepted : accepts c = true
          · refine ⟨_, kept.step here, ?_⟩
            simpa only [run, Place.step?, if_pos accepted] using ran
          · simp [run, Place.step?, accepted] at ran
  | textStart | textEnd | lineStart | wordEdge =>
      intro place answer here ran
      rw [run] at ran
      split at ran
      · exact ⟨place, here, ran⟩
      · exact absurd ran (Option.some_ne_none result).symm
  | seq first second firstKeeps secondKeeps =>
      intro place answer here ran
      rw [run] at ran
      obtain ⟨between, there, onward⟩ := firstKeeps here ran
      exact secondKeeps there onward
  | either first second firstKeeps secondKeeps =>
      intro place answer here ran
      rw [run_either, Option.or_eq_some_iff] at ran
      rcases ran with atFirst | ⟨_, atSecond⟩
      · exact firstKeeps here atFirst
      · exact secondKeeps here atSecond
  | many accepts => exact fun here ran => arrivesWith_runMany kept _ here ran
  | few accepts => exact fun here ran => arrivesWith_runFew kept _ here ran
  | repeated body bodyKeeps =>
      exact fun here ran => arrivesWith_runRepeated bodyKeeps _ here ran
  | group number body bodyKeeps =>
      intro place answer here ran
      rw [run] at ran
      obtain ⟨reached, there, answered⟩ := bodyKeeps here ran
      exact ⟨_, kept.capture number here there, answered⟩

end Kept

/-! ## Places of remembered pieces -/

/-- That a remembered piece stands in a text where it is said to begin. -/
def Capture.StandsIn (text : Text) (capture : Capture) : Prop :=
  ∃ front rest, text = front ++ (capture.text ++ rest) ∧ capture.start = front.length

/-- That a place lies in a text, and that every piece remembered there stands in the text. -/
structure LiesIn (text : Text) (place : Place) : Prop where
  behind : ∃ front, LiesBehind text front place
  captures : ∀ entry ∈ place.captures, entry.2.StandsIn text

theorem isKept_liesIn
    (text : Text) :
    IsKept (LiesIn text) where
  step := by
    intro offset previous c rest captures here
    obtain ⟨front, behind⟩ := here.behind
    exact ⟨⟨front ++ [c], behind.reaches (Reaches.run [c] rest)⟩, here.captures⟩
  capture := by
    intro place reached number here there
    obtain ⟨front, behind⟩ := here.behind
    obtain ⟨further, reachedBehind⟩ := there.behind
    refine ⟨⟨further, reachedBehind.whole, reachedBehind.offset, reachedBehind.previous⟩, ?_⟩
    intro entry member
    rcases List.mem_cons.1 member with isNew | isOld
    · rw [isNew]
      refine ⟨front, place.rest.drop (reached.offset - place.offset), ?_, behind.offset⟩
      rw [List.take_append_drop]
      exact behind.whole
    · exact there.captures entry isOld

theorem liesIn_of_matchAt?
    {p : Pattern} {text front : Text} {place : Place} {found : Match}
    (behind : LiesBehind text front place) (matched : matchAt? p place = some found) :
    LiesIn text found.stop := by
  rw [matchAt?, Option.map_eq_some_iff] at matched
  obtain ⟨stop, ran, rfl⟩ := matched
  have here : LiesIn text { place with captures := [] } :=
    ⟨⟨front, behind.whole, behind.offset, behind.previous⟩, List.forall_mem_nil _⟩
  obtain ⟨reached, there, answered⟩ := arrivesWith_run (isKept_liesIn text) p here ran
  rw [Option.some.injEq] at answered
  exact answered ▸ there

/-- Each piece that a match remembers stands in the text where the match says. -/
theorem standsIn_of_capture?
    {p : Pattern} {text : Text} {found : Match} {number : Nat} {capture : Capture}
    (member : found ∈ p.matchesIn text) (remembers : found.capture? number = some capture) :
    capture.StandsIn text := by
  obtain ⟨front, place, behind, matched⟩ := exists_matchAt?_of_mem_matchesIn member
  rw [Match.capture?, List.lookup_eq_some_iff] at remembers
  obtain ⟨ahead, others, split, _⟩ := remembers
  apply (liesIn_of_matchAt? behind matched).captures (number, capture)
  rw [split]
  exact List.mem_append_right ahead List.mem_cons_self

end Kata.Pattern
