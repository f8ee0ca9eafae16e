import Kata.Pattern.Basic

/-!
# Searching a text for a pattern

A search tries each place of the text from the front; the first place from which the pattern
matches counts, and there the first way of matching. Further matches are looked for behind the
end of the one before.
-/

namespace Kata.Pattern

/-- Where a pattern matched, and what it remembered. -/
structure Match where
  start : Nat
  stop : Place
deriving DecidableEq, Repr

namespace Match

/-- The piece remembered under a number, if its group took part. -/
def capture? (found : Match) (number : Nat) : Option Capture :=
  found.stop.captures.lookup number

/-- The text remembered under a number. -/
def text? (found : Match) (number : Nat) : Option Text :=
  (found.capture? number).map Capture.text

/-- The text remembered under a number, empty if its group took no part. -/
def textOf (found : Match) (number : Nat) : Text :=
  (found.text? number).getD []

end Match

/-- The first way of matching from one place. -/
def matchAt? (p : Pattern) (place : Place) : Option Match :=
  (p.run { place with captures := [] } some).map fun stop => ⟨place.offset, stop⟩

/-- The first match at or behind a place. -/
def searchFrom? (p : Pattern) : (rest : Text) → Nat → Option Char → Option Match
  | [], offset, previous => matchAt? p ⟨offset, previous, [], []⟩
  | c :: rest, offset, previous =>
    match matchAt? p ⟨offset, previous, c :: rest, []⟩ with
    | some found => some found
    | none => searchFrom? p rest (offset + 1) (some c)

/-- The first match in a text. -/
def search? (p : Pattern) (t : Text) : Option Match :=
  searchFrom? p t 0 none

/-- Whether a text holds a match. -/
def occursIn (p : Pattern) (t : Text) : Bool :=
  (p.search? t).isSome

/-- The matches at or behind a place, none overlapping the one before. Directly behind a match
another one counts only if it takes some text; otherwise the search goes on behind the next
character. So there are at most two rounds for each place. -/
def matchesFrom (p : Pattern) : (rounds : Nat) → (isBehindMatch : Bool) → Place → List Match
  | 0, _, _ => []
  | rounds + 1, isBehindMatch, place =>
    match searchFrom? p place.rest place.offset place.previous with
    | none => []
    | some found =>
      if isBehindMatch && found.stop.offset == place.offset then
        match place.step? with
        | none => []
        | some (_, next) => matchesFrom p rounds false next
      else found :: matchesFrom p rounds true found.stop

/-- All matches in a text, from the front, none overlapping another. -/
def matchesIn (p : Pattern) (t : Text) : List Match :=
  matchesFrom p (2 * t.length + 2) false (Place.start t)

/-- Put another text in place of each match. -/
def replaceAll (p : Pattern) (replacement : Match → Text) (t : Text) : Text :=
  go 0 t (p.matchesIn t)
where
  /-- `offset` characters lie ahead of the text that is left. -/
  go (offset : Nat) (left : Text) : List Match → Text
    | [] => left
    | found :: rest =>
      left.take (found.start - offset) ++ replacement found ++
        go found.stop.offset found.stop.rest rest

end Kata.Pattern
