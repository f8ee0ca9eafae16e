import Kata.Pattern.Basic

/-!
# What patterns mean

Which pieces of text a pattern takes is a relation between the pattern, the character ahead of the
piece, the piece, the text behind it, and the pieces that are remembered. Running a pattern is
right: it arrives only behind pieces that the pattern takes, and if one of these satisfies the
continuation, then some piece is found. Which one is found first is left open here.
-/

namespace Kata.Pattern

/-! ## Taking pieces -/

/-- Remembered pieces by their numbers, the latest first. -/
abbrev Remembered := List (Nat × Text)

/-- The last character of a piece, or if it is empty the character ahead of it. -/
def lastOf (previous : Option Char) (piece : Text) : Option Char :=
  piece.getLast?.or previous

/-- A row of pieces, none of them empty. -/
inductive InRow (takes : Option Char → Text → Text → Remembered → Prop) :
    Option Char → Text → Text → Remembered → Prop
  | done (previous : Option Char) (rest : Text) : InRow takes previous [] rest []
  | more {previous : Option Char} {piece others rest : Text} {early late : Remembered}
      (nonempty : piece ≠ []) (first : takes previous piece (others ++ rest) early)
      (row : InRow takes (lastOf previous piece) others rest late) :
      InRow takes previous (piece ++ others) rest (late ++ early)

/-- Whether a pattern can take a piece behind a character and ahead of a text, and what it
remembers then. -/
def Takes : Pattern → Option Char → Text → Text → Remembered → Prop
  | empty, _, piece, _, remembered => piece = [] ∧ remembered = []
  | one accepts, _, piece, _, remembered =>
    (∃ c, accepts c = true ∧ piece = [c]) ∧ remembered = []
  | textStart, previous, piece, _, remembered =>
    previous = none ∧ piece = [] ∧ remembered = []
  | textEnd, _, piece, rest, remembered => rest = [] ∧ piece = [] ∧ remembered = []
  | lineStart, previous, piece, _, remembered =>
    previous.all (· == '\n') = true ∧ piece = [] ∧ remembered = []
  | wordEdge, previous, piece, rest, remembered =>
    previous.any Text.isWord ≠ rest.head?.any Text.isWord ∧ piece = [] ∧ remembered = []
  | seq first second, previous, piece, rest, remembered =>
    ∃ left right early late,
      Takes first previous left (right ++ rest) early ∧
        Takes second (lastOf previous left) right rest late ∧
          piece = left ++ right ∧ remembered = late ++ early
  | either first second, previous, piece, rest, remembered =>
    Takes first previous piece rest remembered ∨ Takes second previous piece rest remembered
  | many accepts, _, piece, _, remembered =>
    (∀ c ∈ piece, accepts c = true) ∧ remembered = []
  | few accepts, _, piece, _, remembered =>
    (∀ c ∈ piece, accepts c = true) ∧ remembered = []
  | repeated body, previous, piece, rest, remembered =>
    InRow (Takes body) previous piece rest remembered
  | group number body, previous, piece, rest, remembered =>
    ∃ inner, Takes body previous piece rest inner ∧ remembered = (number, piece) :: inner

theorem lastOf_nil
    (previous : Option Char) :
    lastOf previous [] = previous :=
  rfl

theorem lastOf_cons
    (previous : Option Char) (c : Char) (piece : Text) :
    lastOf previous (c :: piece) = lastOf (some c) piece := by
  rw [lastOf, lastOf, List.getLast?_cons]
  cases piece.getLast? with
  | none => rfl
  | some last => rfl

theorem lastOf_append
    (previous : Option Char) (left right : Text) :
    lastOf previous (left ++ right) = lastOf (lastOf previous left) right := by
  rw [lastOf, lastOf, lastOf, List.getLast?_append, Option.or_assoc]

/-! ## Places -/

/-- The texts remembered at a place. -/
def Place.remembered (place : Place) : Remembered :=
  place.captures.map fun (number, capture) => (number, capture.text)

/-- That a place lies behind a piece that begins at another place. -/
structure Reaches (place : Place) (piece : Text) (remembered : Remembered) (reached : Place) :
    Prop where
  rest : place.rest = piece ++ reached.rest
  offset : reached.offset = place.offset + piece.length
  previous : reached.previous = lastOf place.previous piece
  remembered : reached.remembered = remembered ++ place.remembered

theorem Reaches.refl
    (place : Place) :
    Reaches place [] [] place :=
  ⟨rfl, rfl, rfl, rfl⟩

theorem Reaches.trans
    {place between reached : Place} {left right : Text} {early late : Remembered}
    (first : Reaches place left early between) (second : Reaches between right late reached) :
    Reaches place (left ++ right) (late ++ early) reached where
  rest := by rw [first.rest, second.rest, List.append_assoc]
  offset := by rw [second.offset, first.offset, List.length_append, Nat.add_assoc]
  previous := by rw [second.previous, first.previous, lastOf_append]
  remembered := by rw [second.remembered, first.remembered, List.append_assoc]

/-- The place behind the next character. -/
theorem Reaches.step
    {place next : Place} {c : Char} (step : place.step? = some (c, next)) :
    Reaches place [c] [] next := by
  rw [Place.step?] at step
  split at step
  · exact absurd step (by simp)
  · next rest equality =>
    cases step
    exact ⟨equality, rfl, rfl, rfl⟩

/-- The place behind a run of characters. -/
theorem Reaches.run
    {offset : Nat} {previous : Option Char} {captures : List (Nat × Capture)}
    (piece rest : Text) :
    Reaches ⟨offset, previous, piece ++ rest, captures⟩ piece []
      ⟨offset + piece.length, lastOf previous piece, rest, captures⟩ :=
  ⟨rfl, rfl, rfl, rfl⟩

/-- The place behind a group that is remembered. -/
theorem Reaches.capture
    {place reached : Place} {piece : Text} {inner : Remembered} (number : Nat)
    (body : Reaches place piece inner reached) :
    Reaches place piece ((number, piece) :: inner)
      { reached with
        captures :=
          (number, ⟨place.offset, place.rest.take (reached.offset - place.offset)⟩) ::
            reached.captures } where
  rest := body.rest
  offset := body.offset
  previous := body.previous
  remembered := by
    have whole : place.rest.take (reached.offset - place.offset) = piece := by
      rw [body.offset, Nat.add_sub_cancel_left, body.rest, List.take_left]
    rw [Place.remembered, List.map_cons, whole, List.cons_append]
    exact congrArg _ body.remembered

/-! ## Choices -/

section Choices

variable {α : Type} {accepts : Char → Bool} {answer : Place → Option α}
  {captures : List (Nat × Capture)}

theorem runMany_cons
    (c : Char) (rest : Text) (offset : Nat) (previous : Option Char) :
    runMany accepts answer captures (c :: rest) offset previous =
      (if accepts c then runMany accepts answer captures rest (offset + 1) (some c)
        else none).or (answer ⟨offset, previous, c :: rest, captures⟩) := by
  rw [runMany]
  split
  · cases runMany accepts answer captures rest (offset + 1) (some c) <;> rfl
  · rfl

theorem runFew_cons
    (c : Char) (rest : Text) (offset : Nat) (previous : Option Char) :
    runFew accepts answer captures (c :: rest) offset previous =
      (answer ⟨offset, previous, c :: rest, captures⟩).or
        (if accepts c then runFew accepts answer captures rest (offset + 1) (some c)
          else none) := by
  rw [runFew]
  cases answer ⟨offset, previous, c :: rest, captures⟩ <;> rfl

theorem runRepeated_succ
    (body : Place → (Place → Option α) → Option α) (rounds : Nat) (place : Place) :
    runRepeated body answer (rounds + 1) place =
      (body place fun reached =>
        if place.offset < reached.offset then runRepeated body answer rounds reached
        else none).or (answer place) := by
  rw [runRepeated]
  cases body place fun reached =>
    if place.offset < reached.offset then runRepeated body answer rounds reached else none <;> rfl

theorem run_either
    (first second : Pattern) (place : Place) :
    run (either first second) place answer =
      (run first place answer).or (run second place answer) := by
  rw [run]
  cases run first place answer <;> rfl

end Choices

/-! ## Arriving behind pieces -/

section Sound

variable {α : Type}

/-- That a run with a continuation comes from a piece that a relation allows. -/
def ComesFrom (takes : Option Char → Text → Text → Remembered → Prop) (place : Place)
    (answer : Place → Option α) (result : α) : Prop :=
  ∃ piece remembered reached,
    Reaches place piece remembered reached ∧
      takes place.previous piece reached.rest remembered ∧ answer reached = some result

/-- A run of characters of a class, as both kinds of runs allow it. -/
def TakesRun (accepts : Char → Bool) (_ : Option Char) (piece _ : Text)
    (remembered : Remembered) : Prop :=
  (∀ c ∈ piece, accepts c = true) ∧ remembered = []

theorem comesFrom_stay
    {accepts : Char → Bool} {place : Place} {answer : Place → Option α} {result : α}
    (answered : answer place = some result) :
    ComesFrom (TakesRun accepts) place answer result :=
  ⟨[], [], place, Reaches.refl place, ⟨List.forall_mem_nil _, rfl⟩,
    answered⟩

theorem comesFrom_further
    {accepts : Char → Bool} {answer : Place → Option α} {captures : List (Nat × Capture)}
    {result : α} {c : Char} {rest : Text} {offset : Nat} {previous : Option Char}
    (accepted : accepts c = true)
    (further :
      ComesFrom (TakesRun accepts) ⟨offset + 1, some c, rest, captures⟩ answer result) :
    ComesFrom (TakesRun accepts) ⟨offset, previous, c :: rest, captures⟩ answer result := by
  obtain ⟨piece, remembered, reached, reaches, ⟨all, nothing⟩, answered⟩ := further
  have first : Reaches ⟨offset, previous, c :: rest, captures⟩ [c] []
      ⟨offset + 1, some c, rest, captures⟩ := Reaches.run [c] rest
  refine ⟨c :: piece, remembered ++ [], reached, first.trans reaches, ⟨?_, ?_⟩, answered⟩
  · exact List.forall_mem_cons.2 ⟨accepted, all⟩
  · rw [nothing, List.append_nil]

theorem comesFrom_runMany
    {accepts : Char → Bool} {answer : Place → Option α} {captures : List (Nat × Capture)}
    {result : α} (rest : Text) :
    ∀ {offset : Nat} {previous : Option Char},
      runMany accepts answer captures rest offset previous = some result →
        ComesFrom (TakesRun accepts) ⟨offset, previous, rest, captures⟩ answer result := by
  induction rest with
  | nil => exact fun found => comesFrom_stay found
  | cons c rest inductionHypothesis =>
      intro offset previous found
      rw [runMany_cons, Option.or_eq_some_iff] at found
      rcases found with further | ⟨_, stays⟩
      · split at further
        · next accepted => exact comesFrom_further accepted (inductionHypothesis further)
        · exact absurd further (by simp)
      · exact comesFrom_stay stays

theorem comesFrom_runFew
    {accepts : Char → Bool} {answer : Place → Option α} {captures : List (Nat × Capture)}
    {result : α} (rest : Text) :
    ∀ {offset : Nat} {previous : Option Char},
      runFew accepts answer captures rest offset previous = some result →
        ComesFrom (TakesRun accepts) ⟨offset, previous, rest, captures⟩ answer result := by
  induction rest with
  | nil => exact fun found => comesFrom_stay found
  | cons c rest inductionHypothesis =>
      intro offset previous found
      rw [runFew_cons, Option.or_eq_some_iff] at found
      rcases found with stays | ⟨_, further⟩
      · exact comesFrom_stay stays
      · split at further
        · next accepted => exact comesFrom_further accepted (inductionHypothesis further)
        · exact absurd further (by simp)

/-- Of the pieces behind which the continuation answers, the shortest is found. -/
theorem exists_shortest_of_runFew
    {accepts : Char → Bool} {answer : Place → Option α} {captures : List (Nat × Capture)}
    {result : α} (rest : Text) :
    ∀ {offset : Nat} {previous : Option Char},
      runFew accepts answer captures rest offset previous = some result →
        ∃ piece behind,
          rest = piece ++ behind ∧
            answer ⟨offset + piece.length, lastOf previous piece, behind, captures⟩ = some result ∧
              ∀ {shorter more : Text},
                piece = shorter ++ more → more ≠ [] →
                  answer ⟨offset + shorter.length, lastOf previous shorter, more ++ behind,
                    captures⟩ = none := by
  have stays :
      ∀ {rest : Text} {offset : Nat} {previous : Option Char},
        answer ⟨offset, previous, rest, captures⟩ = some result →
          ∃ piece behind,
            rest = piece ++ behind ∧
              answer ⟨offset + piece.length, lastOf previous piece, behind, captures⟩ =
                  some result ∧
                ∀ {shorter more : Text},
                  piece = shorter ++ more → more ≠ [] →
                    answer ⟨offset + shorter.length, lastOf previous shorter, more ++ behind,
                      captures⟩ = none := by
    intro rest offset previous answered
    refine ⟨[], rest, rfl, answered, fun whole nonempty => ?_⟩
    exact absurd (List.append_eq_nil_iff.1 whole.symm).2 nonempty
  induction rest with
  | nil => exact fun found => stays found
  | cons c rest inductionHypothesis =>
      intro offset previous found
      rw [runFew_cons, Option.or_eq_some_iff] at found
      rcases found with answered | ⟨unanswered, further⟩
      · exact stays answered
      · split at further
        · obtain ⟨piece, behind, rfl, answered, shortest⟩ := inductionHypothesis further
          have onward :
              ∀ (taken left : Text),
                answer ⟨offset + (c :: taken).length, lastOf previous (c :: taken), left, captures⟩ =
                  answer ⟨offset + 1 + taken.length, lastOf (some c) taken, left, captures⟩ := by
            intro taken left
            rw [lastOf_cons, List.length_cons, Nat.add_comm taken.length, ← Nat.add_assoc]
          refine ⟨c :: piece, behind, rfl, (onward _ _).trans answered, ?_⟩
          intro shorter more whole nonempty
          cases shorter with
          | nil =>
              rw [List.nil_append] at whole
              rw [← whole]
              exact unanswered
          | cons d shorter =>
              obtain ⟨rfl, same⟩ := List.cons.inj whole
              exact (onward _ _).trans (shortest same nonempty)
        · exact absurd further (by simp)

/-- That every run of a pattern comes from a piece that it takes. -/
def IsSound (p : Pattern) : Prop :=
  ∀ {α : Type} {place : Place} {answer : Place → Option α} {result : α},
    run p place answer = some result → ComesFrom (Takes p) place answer result

theorem comesFrom_runRepeated
    {body : Pattern} (sound : IsSound body) {answer : Place → Option α} {result : α}
    (rounds : Nat) :
    ∀ {place : Place},
      runRepeated (run body) answer rounds place = some result →
        ComesFrom (InRow (Takes body)) place answer result := by
  have stay :
      ∀ {place : Place}, answer place = some result →
        ComesFrom (InRow (Takes body)) place answer result :=
    fun answered => ⟨[], [], _, Reaches.refl _, InRow.done _ _, answered⟩
  induction rounds with
  | zero => exact fun found => stay found
  | succ rounds inductionHypothesis =>
      intro place found
      rw [runRepeated_succ, Option.or_eq_some_iff] at found
      rcases found with further | ⟨_, stays⟩
      · obtain ⟨piece, early, between, first, takes, later⟩ := sound further
        dsimp only at later
        split at later
        · next progress =>
          obtain ⟨others, late, reached, row, takesRow, answered⟩ := inductionHypothesis later
          have nonempty : piece ≠ [] := by
            rintro rfl
            rw [first.offset] at progress
            exact absurd progress (Nat.lt_irrefl _)
          rw [row.rest] at takes
          rw [first.previous] at takesRow
          exact ⟨piece ++ others, late ++ early, reached, first.trans row,
            InRow.more nonempty takes takesRow, answered⟩
        · exact absurd later (by simp)
      · exact stay stays

theorem isSound_seq
    {first second : Pattern} (firstSound : IsSound first) (secondSound : IsSound second) :
    IsSound (seq first second) := by
  intro α place answer result found
  rw [run] at found
  obtain ⟨left, early, between, reachesFirst, takesFirst, found⟩ := firstSound found
  obtain ⟨right, late, reached, reachesSecond, takesSecond, answered⟩ := secondSound found
  rw [reachesSecond.rest] at takesFirst
  rw [reachesFirst.previous] at takesSecond
  exact ⟨left ++ right, late ++ early, reached, reachesFirst.trans reachesSecond,
    ⟨left, right, early, late, takesFirst, takesSecond, rfl, rfl⟩, answered⟩

/-- Running a pattern arrives only behind pieces that it takes. -/
theorem isSound
    (p : Pattern) :
    IsSound p := by
  induction p with
  | empty =>
      intro α place answer result found
      exact ⟨[], [], place, Reaches.refl place, ⟨rfl, rfl⟩, found⟩
  | one accepts =>
      intro α place answer result found
      rw [run] at found
      split at found
      · next c next step =>
        split at found
        · next accepted =>
          exact ⟨[c], [], next, Reaches.step step, ⟨⟨c, accepted, rfl⟩, rfl⟩, found⟩
        · exact absurd found (by simp)
      · exact absurd found (by simp)
  | textStart =>
      intro α place answer result found
      rw [run] at found
      split at found
      · next first =>
        exact ⟨[], [], place, Reaches.refl place, ⟨Option.isNone_iff_eq_none.1 first, rfl, rfl⟩,
          found⟩
      · exact absurd found (by simp)
  | textEnd =>
      intro α place answer result found
      rw [run] at found
      split at found
      · next last =>
        exact ⟨[], [], place, Reaches.refl place, ⟨List.isEmpty_iff.1 last, rfl, rfl⟩, found⟩
      · exact absurd found (by simp)
  | lineStart =>
      intro α place answer result found
      rw [run] at found
      split at found
      · next starts =>
        exact ⟨[], [], place, Reaches.refl place, ⟨starts, rfl, rfl⟩, found⟩
      · exact absurd found (by simp)
  | wordEdge =>
      intro α place answer result found
      rw [run] at found
      split at found
      · next edge =>
        rw [Place.atWordEdge, bne_iff_ne] at edge
        exact ⟨[], [], place, Reaches.refl place, ⟨edge, rfl, rfl⟩, found⟩
      · exact absurd found (by simp)
  | seq first second firstSound secondSound => exact isSound_seq firstSound secondSound
  | either first second firstSound secondSound =>
      intro α place answer result found
      rw [run_either, Option.or_eq_some_iff] at found
      rcases found with found | ⟨_, found⟩
      · obtain ⟨piece, remembered, reached, reaches, takes, answered⟩ := firstSound found
        exact ⟨piece, remembered, reached, reaches, Or.inl takes, answered⟩
      · obtain ⟨piece, remembered, reached, reaches, takes, answered⟩ := secondSound found
        exact ⟨piece, remembered, reached, reaches, Or.inr takes, answered⟩
  | many accepts =>
      intro α place answer result found
      rw [run] at found
      exact comesFrom_runMany place.rest found
  | few accepts =>
      intro α place answer result found
      rw [run] at found
      exact comesFrom_runFew place.rest found
  | repeated body bodySound =>
      intro α place answer result found
      rw [run] at found
      exact comesFrom_runRepeated bodySound _ found
  | group number body bodySound =>
      intro α place answer result found
      rw [run] at found
      obtain ⟨piece, inner, reached, reaches, takes, answered⟩ := bodySound found
      exact ⟨piece, _, _, reaches.capture number, ⟨inner, takes, rfl⟩, answered⟩

end Sound

/-! ## Finding pieces -/

section Complete

variable {α : Type}

/-- That a continuation answers wherever a piece ends. -/
def AnswersBehind (answer : Place → Option α) (place : Place) (piece rest : Text)
    (remembered : Remembered) : Prop :=
  ∀ reached,
    Reaches place piece remembered reached → reached.rest = rest → (answer reached).isSome = true

/-- That a run finds something if there is a piece that the pattern takes. -/
def IsComplete (p : Pattern) : Prop :=
  ∀ {α : Type} {place : Place} {answer : Place → Option α} {piece rest : Text}
    {remembered : Remembered},
    place.rest = piece ++ rest → Takes p place.previous piece rest remembered →
      AnswersBehind answer place piece rest remembered → (run p place answer).isSome = true

theorem isSome_runMany
    {accepts : Char → Bool} {answer : Place → Option α} {captures : List (Nat × Capture)}
    {rest : Text} (piece : Text) :
    ∀ {offset : Nat} {previous : Option Char},
      (∀ c ∈ piece, accepts c = true) →
        (answer ⟨offset + piece.length, lastOf previous piece, rest, captures⟩).isSome = true →
          (runMany accepts answer captures (piece ++ rest) offset previous).isSome = true := by
  induction piece with
  | nil =>
      intro offset previous _ answered
      rw [List.nil_append]
      cases rest with
      | nil => exact answered
      | cons c rest =>
          have here : (answer ⟨offset, previous, c :: rest, captures⟩).isSome = true := answered
          rw [runMany_cons, Option.isSome_or, here, Bool.or_true]
  | cons c piece inductionHypothesis =>
      intro offset previous all answered
      rw [List.forall_mem_cons] at all
      rw [lastOf_cons, List.length_cons, Nat.add_comm piece.length, ← Nat.add_assoc] at answered
      rw [List.cons_append, runMany_cons, if_pos all.1, Option.isSome_or,
        inductionHypothesis all.2 answered, Bool.true_or]

theorem isSome_runFew
    {accepts : Char → Bool} {answer : Place → Option α} {captures : List (Nat × Capture)}
    {rest : Text} (piece : Text) :
    ∀ {offset : Nat} {previous : Option Char},
      (∀ c ∈ piece, accepts c = true) →
        (answer ⟨offset + piece.length, lastOf previous piece, rest, captures⟩).isSome = true →
          (runFew accepts answer captures (piece ++ rest) offset previous).isSome = true := by
  induction piece with
  | nil =>
      intro offset previous _ answered
      rw [List.nil_append]
      cases rest with
      | nil => exact answered
      | cons c rest =>
          have here : (answer ⟨offset, previous, c :: rest, captures⟩).isSome = true := answered
          rw [runFew_cons, Option.isSome_or, here, Bool.true_or]
  | cons c piece inductionHypothesis =>
      intro offset previous all answered
      rw [List.forall_mem_cons] at all
      rw [lastOf_cons, List.length_cons, Nat.add_comm piece.length, ← Nat.add_assoc] at answered
      rw [List.cons_append, runFew_cons, if_pos all.1, Option.isSome_or,
        inductionHypothesis all.2 answered, Bool.or_true]

/-- A row of pieces is found if there are as many rounds as it has characters. -/
theorem isSome_runRepeated
    {body : Pattern} (complete : IsComplete body) {answer : Place → Option α}
    {previous : Option Char} {piece rest : Text} {remembered : Remembered}
    (row : InRow (Takes body) previous piece rest remembered) :
    ∀ {rounds : Nat} {place : Place},
      place.previous = previous → place.rest = piece ++ rest → piece.length ≤ rounds →
        AnswersBehind answer place piece rest remembered →
          (runRepeated (run body) answer rounds place).isSome = true := by
  induction row with
  | done previous rest =>
      intro rounds place _ whole _ answered
      have here : (answer place).isSome = true := answered place (Reaches.refl place) whole
      cases rounds with
      | zero => exact here
      | succ rounds => rw [runRepeated_succ, Option.isSome_or, here, Bool.or_true]
  | @more previous piece others rest early late nonempty first row inductionHypothesis =>
      intro rounds place ahead whole enough answered
      subst ahead
      have long := List.length_pos_iff.2 nonempty
      rw [List.length_append] at enough
      obtain ⟨rounds, rfl⟩ : ∃ n, rounds = n + 1 := ⟨rounds - 1, by omega⟩
      rw [List.append_assoc] at whole
      rw [runRepeated_succ, Option.isSome_or, Bool.or_eq_true]
      refine Or.inl (complete whole first ?_)
      intro between reaches behind
      have progress : place.offset < between.offset := by
        rw [reaches.offset]
        omega
      dsimp only
      rw [if_pos progress]
      refine inductionHypothesis reaches.previous behind (by omega) ?_
      exact fun reached later final => answered reached (reaches.trans later) final

theorem isComplete_seq
    {first second : Pattern} (firstComplete : IsComplete first)
    (secondComplete : IsComplete second) :
    IsComplete (seq first second) := by
  rintro α place answer piece rest remembered whole
    ⟨left, right, early, late, takesFirst, takesSecond, rfl, rfl⟩ answered
  rw [List.append_assoc] at whole
  rw [run]
  refine firstComplete whole takesFirst fun between reaches behind => ?_
  rw [← reaches.previous] at takesSecond
  refine secondComplete behind takesSecond fun reached later final => ?_
  exact answered reached (reaches.trans later) final

/-- Running a pattern finds something if there is a piece that it takes. -/
theorem isComplete
    (p : Pattern) :
    IsComplete p := by
  induction p with
  | empty =>
      rintro α place answer piece rest remembered whole ⟨rfl, rfl⟩ answered
      exact answered place (Reaches.refl place) whole
  | one accepts =>
      rintro α place answer piece rest remembered whole ⟨⟨c, accepted, rfl⟩, rfl⟩ answered
      have step :
          place.step? =
            some (c, { place with offset := place.offset + 1, previous := some c, rest }) := by
        rw [Place.step?, whole]
        rfl
      rw [run, step]
      simp only [accepted, if_true]
      exact answered _ (Reaches.step step) rfl
  | textStart =>
      rintro α place answer piece rest remembered whole ⟨first, rfl, rfl⟩ answered
      rw [run, if_pos (Option.isNone_iff_eq_none.2 first)]
      exact answered place (Reaches.refl place) whole
  | textEnd =>
      rintro α place answer piece rest remembered whole ⟨rfl, rfl, rfl⟩ answered
      rw [run, if_pos (List.isEmpty_iff.2 whole)]
      exact answered place (Reaches.refl place) whole
  | lineStart =>
      rintro α place answer piece rest remembered whole ⟨starts, rfl, rfl⟩ answered
      rw [run, if_pos starts]
      exact answered place (Reaches.refl place) whole
  | wordEdge =>
      rintro α place answer piece rest remembered whole ⟨edge, rfl, rfl⟩ answered
      have atEdge : place.atWordEdge = true := by
        rw [Place.atWordEdge, bne_iff_ne, whole]
        exact edge
      rw [run, if_pos atEdge]
      exact answered place (Reaches.refl place) whole
  | seq first second firstComplete secondComplete =>
      exact isComplete_seq firstComplete secondComplete
  | either first second firstComplete secondComplete =>
      rintro α place answer piece rest remembered whole (takes | takes) answered
      · rw [run_either, Option.isSome_or, firstComplete whole takes answered, Bool.true_or]
      · rw [run_either, Option.isSome_or, secondComplete whole takes answered, Bool.or_true]
  | many accepts =>
      rintro α place answer piece rest remembered whole ⟨all, rfl⟩ answered
      rw [run, whole]
      apply isSome_runMany piece all
      exact answered _ ⟨whole, rfl, rfl, rfl⟩ rfl
  | few accepts =>
      rintro α place answer piece rest remembered whole ⟨all, rfl⟩ answered
      rw [run, whole]
      apply isSome_runFew piece all
      exact answered _ ⟨whole, rfl, rfl, rfl⟩ rfl
  | repeated body bodyComplete =>
      rintro α place answer piece rest remembered whole row answered
      rw [run]
      refine isSome_runRepeated bodyComplete row rfl whole ?_ answered
      rw [whole, List.length_append]
      exact Nat.le_add_right _ _
  | group number body bodyComplete =>
      rintro α place answer piece rest remembered whole ⟨inner, takes, rfl⟩ answered
      rw [run]
      refine bodyComplete whole takes fun reached reaches behind => ?_
      exact answered _ (reaches.capture number) behind

end Complete

end Kata.Pattern
