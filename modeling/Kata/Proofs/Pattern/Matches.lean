import Kata.Proofs.Pattern.Names
import Kata.Proofs.Pattern.Search

/-!
# All matches of a text

The matches of a text are found one behind the other. Each is the first one behind the end of the
one before, and behind the last one the pattern takes nothing more. A pattern that ends with a run
of characters leaves none of them behind its match.
-/

namespace Kata.Pattern

/-! ## Patterns that take some text -/

/-- Whether a pattern takes at least one character. -/
def takesSome : Pattern → Bool
  | one _ => true
  | seq first second => takesSome first || takesSome second
  | either first second => takesSome first && takesSome second
  | group _ body => takesSome body
  | _ => false

theorem ne_nil_of_takesSome
    {p : Pattern} (progresses : takesSome p = true) :
    ∀ {previous : Option Char} {piece rest : Text} {remembered : Remembered},
      Takes p previous piece rest remembered → piece ≠ [] := by
  induction p with
  | one accepts =>
      rintro _ _ _ _ ⟨⟨c, _, rfl⟩, _⟩
      exact List.cons_ne_nil c []
  | seq first second firstHypothesis secondHypothesis =>
      rw [takesSome, Bool.or_eq_true] at progresses
      rintro _ _ _ _ ⟨left, right, _, _, atFirst, atSecond, rfl, _⟩
      rcases progresses with firstProgresses | secondProgresses
      · exact List.append_ne_nil_of_left_ne_nil (firstHypothesis firstProgresses atFirst) right
      · exact List.append_ne_nil_of_right_ne_nil left (secondHypothesis secondProgresses atSecond)
  | either first second firstHypothesis secondHypothesis =>
      rw [takesSome, Bool.and_eq_true] at progresses
      rintro _ _ _ _ (atFirst | atSecond)
      · exact firstHypothesis progresses.1 atFirst
      · exact secondHypothesis progresses.2 atSecond
  | group number body inductionHypothesis =>
      rintro _ _ _ _ ⟨_, takes, _⟩
      exact inductionHypothesis progresses takes
  | _ => exact absurd progresses Bool.false_ne_true

/-! ## The next match -/

/-- That a pattern takes no piece at the start of a text behind a character. -/
def TakesNothing (p : Pattern) (previous : Option Char) (text : Text) : Prop :=
  ∀ {piece rest : Text} {remembered : Remembered},
    text = piece ++ rest → ¬Takes p previous piece rest remembered

theorem takesNothing_of_matchAt?
    {p : Pattern} {place : Place} (unmatched : matchAt? p place = none) :
    TakesNothing p place.previous place.rest := by
  intro piece rest remembered whole takes
  have found : (matchAt? p place).isSome = true := by
    rw [matchAt?, Option.isSome_map]
    exact isComplete p whole takes fun _ _ _ => rfl
  rw [unmatched] at found
  exact Bool.false_ne_true found

/-- That a match is the first one at or behind a place, with the text that is skipped ahead of it
and the piece that is taken. -/
structure IsNext (p : Pattern) (place : Place) (skipped piece : Text) (found : Match) : Prop where
  whole : place.rest = skipped ++ (piece ++ found.stop.rest)
  matched :
    matchAt? p
        ⟨place.offset + skipped.length, lastOf place.previous skipped, piece ++ found.stop.rest,
          []⟩ =
      some found
  start : found.start = place.offset + skipped.length
  offset : found.stop.offset = found.start + piece.length
  previous : found.stop.previous = lastOf place.previous (skipped ++ piece)
  takes : Takes p (lastOf place.previous skipped) piece found.stop.rest found.stop.remembered
  first :
    ∀ {shorter more : Text}, skipped = shorter ++ more → more ≠ [] →
      TakesNothing p (lastOf place.previous shorter) (more ++ (piece ++ found.stop.rest))

/-- The next match is not skipped. -/
theorem IsNext.eq_nil_of_takes
    {p : Pattern} {place : Place} {lead more piece taken behind : Text} {found : Match}
    {remembered : Remembered} (next : IsNext p place (lead ++ more) piece found)
    (takes : Takes p (lastOf place.previous lead) taken behind remembered)
    (same : more ++ (piece ++ found.stop.rest) = taken ++ behind) :
    more = [] := by
  cases more with
  | nil => rfl
  | cons c more => exact absurd takes (next.first rfl (List.cons_ne_nil c more) same)

/-- A match from a place is the next one there. -/
theorem exists_isNext_of_matchAt?
    {p : Pattern} {offset : Nat} {previous : Option Char} {rest : Text} {found : Match}
    (captures : List (Nat × Capture))
    (matched : matchAt? p ⟨offset, previous, rest, []⟩ = some found) :
    ∃ piece, IsNext p ⟨offset, previous, rest, captures⟩ [] piece found := by
  have known := matched
  rw [matchAt?, Option.map_eq_some_iff] at matched
  obtain ⟨stop, ran, rfl⟩ := matched
  obtain ⟨piece, remembered, reached, reaches, takes, answered⟩ := isSound p ran
  obtain rfl : reached = stop := Option.some.inj answered
  have kept : reached.remembered = remembered := by
    rw [reaches.remembered]
    exact List.append_nil remembered
  have whole : rest = piece ++ reached.rest := reaches.rest
  refine ⟨piece, whole, ?_, rfl, reaches.offset, reaches.previous, ?_, ?_⟩
  · rw [← whole]
    exact known
  · rw [kept]
    exact takes
  · exact fun split nonempty => absurd (List.append_eq_nil_iff.1 split.symm).2 nonempty

/-- The first match that is searched from a place is the next one there. -/
theorem exists_isNext_of_searchFrom?
    {p : Pattern} {found : Match} (captures : List (Nat × Capture)) (rest : Text) :
    ∀ {offset : Nat} {previous : Option Char},
      searchFrom? p rest offset previous = some found →
        ∃ skipped piece, IsNext p ⟨offset, previous, rest, captures⟩ skipped piece found := by
  induction rest with
  | nil =>
      intro offset previous searched
      rw [searchFrom?] at searched
      exact ⟨[], exists_isNext_of_matchAt? captures searched⟩
  | cons c rest inductionHypothesis =>
      intro offset previous searched
      rw [searchFrom?] at searched
      split at searched
      · next first matched =>
        rw [← Option.some.inj searched]
        exact ⟨[], exists_isNext_of_matchAt? captures matched⟩
      · next unmatched =>
        obtain ⟨skipped, piece, next⟩ := inductionHypothesis searched
        have whole : rest = skipped ++ (piece ++ found.stop.rest) := next.whole
        have further :
            ∀ front : Text, offset + (c :: front).length = offset + 1 + front.length := by
          intro front
          rw [List.length_cons, Nat.add_comm front.length, Nat.add_assoc]
        refine ⟨c :: skipped, piece, ?_, ?_, ?_, next.offset, ?_, ?_, ?_⟩
        · rw [whole, List.cons_append]
        · rw [further, lastOf_cons]
          exact next.matched
        · rw [further]
          exact next.start
        · rw [List.cons_append, lastOf_cons]
          exact next.previous
        · rw [lastOf_cons]
          exact next.takes
        · intro shorter more split nonempty
          cases shorter with
          | nil =>
              rw [List.nil_append] at split
              rw [← split, List.cons_append, ← whole]
              exact takesNothing_of_matchAt? unmatched
          | cons d shorter =>
              obtain ⟨rfl, same⟩ := List.cons.inj split
              rw [lastOf_cons]
              exact next.first same nonempty

theorem takesNothing_of_searchFrom?
    {p : Pattern} (rest : Text) :
    ∀ {offset : Nat} {previous : Option Char},
      searchFrom? p rest offset previous = none →
        ∀ {skipped behind : Text},
          rest = skipped ++ behind → TakesNothing p (lastOf previous skipped) behind := by
  induction rest with
  | nil =>
      intro offset previous searched skipped behind whole
      rw [searchFrom?] at searched
      obtain ⟨rfl, rfl⟩ := List.append_eq_nil_iff.1 whole.symm
      exact takesNothing_of_matchAt? searched
  | cons c rest inductionHypothesis =>
      intro offset previous searched skipped behind whole
      rw [searchFrom?] at searched
      split at searched
      · exact absurd searched (by simp)
      · next unmatched =>
        cases skipped with
        | nil =>
            rw [List.nil_append] at whole
            rw [← whole]
            exact takesNothing_of_matchAt? unmatched
        | cons d skipped =>
            obtain ⟨rfl, same⟩ := List.cons.inj whole
            rw [lastOf_cons]
            exact inductionHypothesis searched same

/-! ## One match behind the other -/

/-- That the matches at or behind a place are those of a list, in its order. -/
inductive Finds (p : Pattern) : Place → List Match → Prop
  | done {place : Place}
      (nothing : ∀ {skipped behind : Text},
        place.rest = skipped ++ behind → TakesNothing p (lastOf place.previous skipped) behind) :
      Finds p place []
  | more {place : Place} {skipped piece : Text} {found : Match} {others : List Match}
      (next : IsNext p place skipped piece found) (onward : Finds p found.stop others) :
      Finds p place (found :: others)

section Finds

variable {p : Pattern} (progresses : takesSome p = true)
include progresses

theorem finds_matchesFrom
    (rounds : Nat) :
    ∀ {isBehindMatch : Bool} {place : Place},
      place.rest.length < rounds →
        Finds p place (matchesFrom p rounds isBehindMatch place) := by
  induction rounds with
  | zero => exact fun enough => absurd enough (Nat.not_lt_zero _)
  | succ rounds inductionHypothesis =>
      intro isBehindMatch place enough
      rw [matchesFrom]
      split
      · next unfound => exact Finds.done (takesNothing_of_searchFrom? place.rest unfound)
      · next found searched =>
        obtain ⟨skipped, piece, next⟩ : ∃ skipped piece, IsNext p place skipped piece found :=
          exists_isNext_of_searchFrom? place.captures place.rest searched
        have length := List.length_pos_iff.2 (ne_nil_of_takesSome progresses next.takes)
        have progress : ¬(isBehindMatch && found.stop.offset == place.offset) = true := by
          rw [Bool.and_eq_true, beq_iff_eq, next.offset, next.start]
          omega
        have shorter : found.stop.rest.length < rounds := by
          rw [next.whole, List.length_append, List.length_append] at enough
          omega
        rw [if_neg progress]
        exact Finds.more next (inductionHypothesis shorter)

/-- The matches of a text are found one behind the other. -/
theorem finds_matchesIn
    (text : Text) :
    Finds p (Place.start text) (p.matchesIn text) := by
  apply finds_matchesFrom progresses
  change text.length < 2 * text.length + 2
  omega

end Finds

/-- What is not matched is kept, and each match is written anew. -/
theorem IsNext.replaceAll_go
    {p : Pattern} {place : Place} {skipped piece : Text} {found : Match} (write : Match → Text)
    (next : IsNext p place skipped piece found) (others : List Match) :
    replaceAll.go write place.offset place.rest (found :: others) =
      skipped ++ (write found ++
        replaceAll.go write found.stop.offset found.stop.rest others) := by
  have kept : place.rest.take (found.start - place.offset) = skipped := by
    rw [next.start, Nat.add_sub_cancel_left, next.whole, List.take_left]
  rw [replaceAll.go, kept, List.append_assoc]

/-! ## Runs at the end -/

/-- That a pattern ends with a run of characters of a class, the longest run first. -/
inductive EndsWithRun (accepts : Char → Bool) : Pattern → Prop
  | many : EndsWithRun accepts (many accepts)
  | seq {first second : Pattern} (ends : EndsWithRun accepts second) :
      EndsWithRun accepts (seq first second)
  | group {number : Nat} {body : Pattern} (ends : EndsWithRun accepts body) :
      EndsWithRun accepts (group number body)

/-- A run that is accepted wherever it ends is as long as possible. -/
theorem stops_of_runMany
    {accepts : Char → Bool} {answer : Place → Option Place} {captures : List (Nat × Capture)}
    {stop : Place} (answers : ∀ reached, ∃ stop, answer reached = some stop ∧
      stop.rest = reached.rest) (rest : Text) :
    ∀ {offset : Nat} {previous : Option Char},
      runMany accepts answer captures rest offset previous = some stop →
        stop.rest.head?.any accepts = false := by
  induction rest with
  | nil =>
      intro offset previous ran
      obtain ⟨other, answered, same⟩ := answers ⟨offset, previous, [], captures⟩
      obtain rfl := Option.some.inj (answered.symm.trans ran)
      rw [same]
      rfl
  | cons c rest inductionHypothesis =>
      intro offset previous ran
      rw [runMany_cons, Option.or_eq_some_iff] at ran
      rcases ran with further | ⟨unfound, stays⟩
      · split at further
        · exact inductionHypothesis further
        · exact absurd further (by simp)
      · obtain ⟨other, answered, same⟩ := answers ⟨offset, previous, c :: rest, captures⟩
        obtain rfl := Option.some.inj (answered.symm.trans stays)
        rw [same, List.head?_cons, Option.any_some, ← Bool.not_eq_true]
        intro accepted
        -- The run could be longer by this character.
        have longer :
            (runMany accepts answer captures ([] ++ rest) (offset + 1) (some c)).isSome = true := by
          obtain ⟨_, answered, _⟩ := answers ⟨offset + 1, some c, rest, captures⟩
          exact isSome_runMany [] (List.forall_mem_nil _) (Option.isSome_iff_exists.2 ⟨_, answered⟩)
        rw [if_pos accepted] at unfound
        rw [List.nil_append, unfound] at longer
        exact Bool.false_ne_true longer

/-- Behind the match of a pattern that ends with a run stands no further character of the run. -/
theorem stops_of_endsWithRun
    {accepts : Char → Bool} {p : Pattern} (ends : EndsWithRun accepts p) :
    ∀ {place stop : Place} {answer : Place → Option Place},
      (∀ reached, ∃ stop, answer reached = some stop ∧ stop.rest = reached.rest) →
        run p place answer = some stop → stop.rest.head?.any accepts = false := by
  induction ends with
  | many =>
      intro place stop answer answers ran
      exact stops_of_runMany answers place.rest ran
  | seq _ inductionHypothesis =>
      intro place stop answer answers ran
      rw [run] at ran
      obtain ⟨_, _, _, _, _, onward⟩ := isSound _ ran
      exact inductionHypothesis answers onward
  | group _ inductionHypothesis =>
      intro place stop answer answers ran
      rw [run] at ran
      refine inductionHypothesis (fun reached => ?_) ran
      obtain ⟨other, answered, same⟩ :=
        answers
          { reached with
            captures :=
              (_, ⟨place.offset, place.rest.take (reached.offset - place.offset)⟩) ::
                reached.captures }
      exact ⟨other, answered, same⟩

theorem IsNext.stops
    {p : Pattern} {place : Place} {skipped piece : Text} {found : Match}
    {accepts : Char → Bool} (next : IsNext p place skipped piece found)
    (ends : EndsWithRun accepts p) :
    found.stop.rest.head?.any accepts = false := by
  have matched := next.matched
  rw [matchAt?, Option.map_eq_some_iff] at matched
  obtain ⟨stop, ran, same⟩ := matched
  have stops := stops_of_endsWithRun ends (fun reached => ⟨reached, rfl, rfl⟩) ran
  rw [← same]
  exact stops

end Kata.Pattern
