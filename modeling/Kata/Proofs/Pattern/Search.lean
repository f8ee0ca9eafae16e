import Kata.Pattern.Search
import Kata.Proofs.Pattern.Meaning

/-!
# What a search finds

A pattern occurs in a text exactly if it takes a piece of the text somewhere, and every match that
a search reports is such a piece, with what the pattern remembers of it.
-/

namespace Kata.Pattern

/-! ## Places of a text -/

/-- That a place lies in a text behind a front part. -/
structure LiesBehind (text front : Text) (place : Place) : Prop where
  whole : text = front ++ place.rest
  offset : place.offset = front.length
  previous : place.previous = lastOf none front

theorem LiesBehind.start
    (text : Text) :
    LiesBehind text [] (Place.start text) :=
  ⟨rfl, rfl, rfl⟩

theorem LiesBehind.reaches
    {text front piece : Text} {place reached : Place} {remembered : Remembered}
    (behind : LiesBehind text front place) (reaches : Reaches place piece remembered reached) :
    LiesBehind text (front ++ piece) reached where
  whole := by rw [behind.whole, reaches.rest, List.append_assoc]
  offset := by rw [reaches.offset, behind.offset, List.length_append]
  previous := by rw [reaches.previous, behind.previous, lastOf_append]

/-! ## Occurrences -/

/-- That a pattern takes a piece of a text, with the parts of the text around it and what is
remembered. -/
structure TakesAt (p : Pattern) (text front piece rest : Text) (remembered : Remembered) :
    Prop where
  whole : text = front ++ (piece ++ rest)
  takes : Takes p (lastOf none front) piece rest remembered

/-- That a match is a piece that a pattern takes. -/
def IsMatch (p : Pattern) (text : Text) (found : Match) : Prop :=
  ∃ front piece remembered,
    TakesAt p text front piece found.stop.rest remembered ∧
      LiesBehind text (front ++ piece) found.stop ∧ found.stop.remembered = remembered

theorem exists_of_matchAt?
    {p : Pattern} {text front : Text} {place : Place} {found : Match}
    (behind : LiesBehind text front place) (matched : matchAt? p place = some found) :
    ∃ piece, TakesAt p text front piece found.stop.rest found.stop.remembered ∧
      LiesBehind text (front ++ piece) found.stop := by
  rw [matchAt?, Option.map_eq_some_iff] at matched
  obtain ⟨stop, ran, equality⟩ := matched
  subst equality
  obtain ⟨piece, remembered, reached, reaches, takes, answered⟩ := isSound p ran
  injection answered with same
  subst same
  have here : LiesBehind text front { place with captures := [] } :=
    ⟨behind.whole, behind.offset, behind.previous⟩
  have kept : reached.remembered = remembered := by
    rw [reaches.remembered]
    exact List.append_nil remembered
  refine ⟨piece, ⟨?_, ?_⟩, here.reaches reaches⟩
  · rw [here.whole, reaches.rest]
  · rw [← behind.previous, kept]
    exact takes

theorem isMatch_of_matchAt?
    {p : Pattern} {text front : Text} {place : Place} {found : Match}
    (behind : LiesBehind text front place) (matched : matchAt? p place = some found) :
    IsMatch p text found := by
  obtain ⟨piece, takes, stopBehind⟩ := exists_of_matchAt? behind matched
  exact ⟨front, piece, _, takes, stopBehind, rfl⟩

/-- A search finds a match at some place of the text. -/
theorem exists_matchAt?_of_searchFrom?
    {p : Pattern} {text : Text} {found : Match} (rest : Text) :
    ∀ front : Text,
      text = front ++ rest →
        searchFrom? p rest front.length (lastOf none front) = some found →
          ∃ ahead place, LiesBehind text ahead place ∧ matchAt? p place = some found := by
  induction rest with
  | nil =>
      intro front whole searched
      rw [searchFrom?] at searched
      exact ⟨front, _, ⟨whole, rfl, rfl⟩, searched⟩
  | cons c rest inductionHypothesis =>
      intro front whole searched
      rw [searchFrom?] at searched
      split at searched
      · next first matched =>
        injection searched with same
        subst same
        exact ⟨front, _, ⟨whole, rfl, rfl⟩, matched⟩
      · have longer : (front ++ [c]).length = front.length + 1 := List.length_append
        have last : lastOf none (front ++ [c]) = some c := by
          rw [lastOf_append, lastOf_cons, lastOf_nil]
        apply inductionHypothesis (front ++ [c])
        · rw [whole, List.append_assoc, List.singleton_append]
        · rw [longer, last]
          exact searched

theorem isMatch_of_searchFrom?
    {p : Pattern} {text : Text} {found : Match} (rest front : Text)
    (whole : text = front ++ rest)
    (searched : searchFrom? p rest front.length (lastOf none front) = some found) :
    IsMatch p text found := by
  obtain ⟨_, _, behind, matched⟩ := exists_matchAt?_of_searchFrom? rest front whole searched
  exact isMatch_of_matchAt? behind matched

theorem isSome_matchAt?
    {p : Pattern} {front piece rest : Text} {remembered : Remembered}
    (takes : Takes p (lastOf none front) piece rest remembered) :
    (matchAt? p ⟨front.length, lastOf none front, piece ++ rest, []⟩).isSome = true := by
  rw [matchAt?, Option.isSome_map]
  exact isComplete p rfl takes fun _ _ _ => rfl

/-- A match at the very start of a text is the first one. -/
theorem search?_of_matchAt?
    {p : Pattern} {text : Text} {found : Match}
    (matched : matchAt? p (Place.start text) = some found) :
    p.search? text = some found := by
  rw [Place.start] at matched
  cases text with
  | nil => exact matched
  | cons c rest => rw [search?, searchFrom?, matched]

/-- Wherever a pattern takes a piece, a search from ahead of it finds something. -/
theorem isSome_searchFrom?
    {p : Pattern} {piece rest : Text} {remembered : Remembered} (between : Text) :
    ∀ front : Text,
      Takes p (lastOf none (front ++ between)) piece rest remembered →
        (searchFrom? p (between ++ (piece ++ rest)) front.length
          (lastOf none front)).isSome = true := by
  induction between with
  | nil =>
      intro front takes
      rw [List.append_nil] at takes
      have matched := isSome_matchAt? takes
      cases written : piece ++ rest with
      | nil =>
          rw [written] at matched
          exact matched
      | cons c others =>
          rw [written] at matched
          rw [List.nil_append, searchFrom?]
          obtain ⟨found, equality⟩ := Option.isSome_iff_exists.1 matched
          rw [equality]
          rfl
  | cons c between inductionHypothesis =>
      intro front takes
      have longer : (front ++ [c]).length = front.length + 1 := List.length_append
      have last : lastOf none (front ++ [c]) = some c := by
        rw [lastOf_append, lastOf_cons, lastOf_nil]
      rw [List.append_cons] at takes
      have later := inductionHypothesis (front ++ [c]) takes
      rw [longer, last] at later
      rw [List.cons_append, searchFrom?]
      split
      · rfl
      · exact later

/-- A pattern occurs in a text exactly if it takes a piece of it. -/
theorem occursIn_iff
    {p : Pattern} {text : Text} :
    p.occursIn text = true ↔
      ∃ front piece rest remembered, TakesAt p text front piece rest remembered := by
  rw [occursIn, search?]
  constructor
  · intro found
    obtain ⟨found, searched⟩ := Option.isSome_iff_exists.1 found
    obtain ⟨front, piece, remembered, takes, _, _⟩ :=
      isMatch_of_searchFrom? text [] rfl searched
    exact ⟨front, piece, found.stop.rest, remembered, takes⟩
  · rintro ⟨front, piece, rest, remembered, takes⟩
    rw [takes.whole]
    exact isSome_searchFrom? front [] takes.takes

/-! ## The first match -/

/-- That a match is a piece that a pattern takes, and that of the pieces which begin behind a front
part of the text none begins earlier. -/
def IsFirstBehind (p : Pattern) (text front : Text) (found : Match) : Prop :=
  ∃ ahead piece,
    TakesAt p text ahead piece found.stop.rest found.stop.remembered ∧
      ∀ {other taken behind : Text} {remembered : Remembered},
        TakesAt p text other taken behind remembered → front.length ≤ other.length →
          ahead.length ≤ other.length

theorem isFirstBehind_of_matchAt?
    {p : Pattern} {text front rest : Text} {found : Match} (whole : text = front ++ rest)
    (matched : matchAt? p ⟨front.length, lastOf none front, rest, []⟩ = some found) :
    IsFirstBehind p text front found := by
  obtain ⟨piece, takes, _⟩ := exists_of_matchAt? ⟨whole, rfl, rfl⟩ matched
  exact ⟨front, piece, takes, fun _ later => later⟩

theorem isFirstBehind_of_searchFrom?
    {p : Pattern} {text : Text} {found : Match} (rest : Text) :
    ∀ front : Text,
      text = front ++ rest →
        searchFrom? p rest front.length (lastOf none front) = some found →
          IsFirstBehind p text front found := by
  induction rest with
  | nil =>
      intro front whole searched
      rw [searchFrom?] at searched
      exact isFirstBehind_of_matchAt? whole searched
  | cons c rest inductionHypothesis =>
      intro front whole searched
      rw [searchFrom?] at searched
      split at searched
      · next first matched =>
        rw [← Option.some.inj searched]
        exact isFirstBehind_of_matchAt? whole matched
      · next nothing =>
        have longer : (front ++ [c]).length = front.length + 1 := List.length_append
        have last : lastOf none (front ++ [c]) = some c := by
          rw [lastOf_append, lastOf_cons, lastOf_nil]
        obtain ⟨ahead, piece, takes, first⟩ :=
          inductionHypothesis (front ++ [c]) (by rw [whole, List.append_cons])
            (by rw [longer, last]; exact searched)
        refine ⟨ahead, piece, takes, fun {other taken behind remembered} here later => ?_⟩
        refine first here (longer ▸ Nat.lt_of_le_of_ne later fun same => ?_)
        -- Nothing is taken at this very place.
        obtain ⟨rfl, onward⟩ := List.append_inj (whole.symm.trans here.whole) same
        have found := isSome_matchAt? here.takes
        rw [← onward, nothing] at found
        exact Bool.false_ne_true found

/-- The match that a search finds begins no later than any piece that the pattern takes. -/
theorem exists_first_of_search?
    {p : Pattern} {text : Text} {found : Match} (searched : p.search? text = some found) :
    ∃ ahead piece,
      TakesAt p text ahead piece found.stop.rest found.stop.remembered ∧
        ∀ {other taken behind : Text} {remembered : Remembered},
          TakesAt p text other taken behind remembered → ahead.length ≤ other.length := by
  obtain ⟨ahead, piece, takes, first⟩ := isFirstBehind_of_searchFrom? text [] rfl searched
  exact ⟨ahead, piece, takes, fun other => first other (Nat.zero_le _)⟩

/-! ## All matches -/

/-- Every match is found at some place of the text. -/
theorem exists_matchAt?_of_mem_matchesFrom
    {p : Pattern} {text : Text} (rounds : Nat) :
    ∀ {isBehindMatch : Bool} {place : Place} {front : Text} {found : Match},
      LiesBehind text front place → found ∈ matchesFrom p rounds isBehindMatch place →
        ∃ ahead start, LiesBehind text ahead start ∧ matchAt? p start = some found := by
  induction rounds with
  | zero => exact fun _ member => absurd member List.not_mem_nil
  | succ rounds inductionHypothesis =>
      intro isBehindMatch place front found behind member
      rw [matchesFrom] at member
      split at member
      · exact absurd member List.not_mem_nil
      · next first searched =>
        rw [behind.offset, behind.previous] at searched
        split at member
        · split at member
          · exact absurd member List.not_mem_nil
          · next c next step =>
            exact inductionHypothesis (behind.reaches (Reaches.step step)) member
        · rcases List.mem_cons.1 member with isFirst | isLater
          · rw [isFirst]
            exact exists_matchAt?_of_searchFrom? place.rest front behind.whole searched
          · obtain ⟨_, _, _, _, stopBehind, _⟩ :=
              isMatch_of_searchFrom? place.rest front behind.whole searched
            exact inductionHypothesis stopBehind isLater

theorem exists_matchAt?_of_mem_matchesIn
    {p : Pattern} {text : Text} {found : Match} (member : found ∈ p.matchesIn text) :
    ∃ ahead place, LiesBehind text ahead place ∧ matchAt? p place = some found :=
  exists_matchAt?_of_mem_matchesFrom _ (LiesBehind.start text) member

/-- The first of all matches is the one that a search finds. -/
theorem head?_matchesIn
    (p : Pattern) (text : Text) :
    (p.matchesIn text).head? = p.search? text := by
  rw [matchesIn, matchesFrom, search?, Place.start]
  split
  · next none => exact none.symm
  · next found searched =>
    rw [searched, Bool.false_and]
    rfl

/-- A pattern that occurs in a text has a match there. -/
theorem exists_mem_matchesIn
    {p : Pattern} {text : Text} (occurs : p.occursIn text = true) :
    ∃ found, found ∈ p.matchesIn text := by
  obtain ⟨found, searched⟩ := Option.isSome_iff_exists.1 occurs
  rw [← head?_matchesIn] at searched
  exact ⟨found, List.mem_of_head? searched⟩

/-- Every match in a text is a piece of it that the pattern takes. -/
theorem isMatch_of_mem_matchesIn
    {p : Pattern} {text : Text} {found : Match} (member : found ∈ p.matchesIn text) :
    IsMatch p text found := by
  obtain ⟨_, _, behind, matched⟩ := exists_matchAt?_of_mem_matchesIn member
  exact isMatch_of_matchAt? behind matched

theorem lookup_remembered
    (place : Place) (number : Nat) :
    place.remembered.lookup number = (place.captures.lookup number).map Capture.text := by
  rw [Place.remembered]
  induction place.captures with
  | nil => rfl
  | cons first others inductionHypothesis =>
      obtain ⟨n, capture⟩ := first
      rw [List.map_cons, List.lookup_cons, List.lookup_cons]
      split
      · rfl
      · exact inductionHypothesis

/-- The text of a group is what is remembered of it. -/
theorem text?_eq_lookup
    (found : Match) (number : Nat) :
    found.text? number = found.stop.remembered.lookup number := by
  rw [lookup_remembered]
  rfl

/-- What a match remembers is what the pattern remembers of its piece. -/
theorem exists_takesAt_of_capture?
    {p : Pattern} {text : Text} {found : Match} {number : Nat} {capture : Capture}
    (member : found ∈ p.matchesIn text) (remembers : found.capture? number = some capture) :
    ∃ front piece rest remembered,
      TakesAt p text front piece rest remembered ∧
        remembered.lookup number = some capture.text := by
  obtain ⟨front, piece, remembered, takes, _, same⟩ := isMatch_of_mem_matchesIn member
  refine ⟨front, piece, found.stop.rest, remembered, takes, ?_⟩
  rw [Match.capture?] at remembers
  rw [← same, lookup_remembered, remembers, Option.map_some]

end Kata.Pattern
