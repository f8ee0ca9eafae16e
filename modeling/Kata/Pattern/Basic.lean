import Kata.Text.Word

/-!
# Patterns

A pattern describes pieces of text: single characters of a class, edges, sequences,
alternatives and repetitions. Its choices are ordered. An alternative prefers its first branch,
`many` prefers the longest run and `few` the shortest, and the first way of matching in this
order is the one that counts. A group remembers the piece of text that its body matched.

`Pattern.run` tries the ways in order and hands each place it reaches to a continuation, until
one of them answers.
-/

namespace Kata

/-- A description of pieces of text, with ordered choices. -/
inductive Pattern where
  /-- The empty piece. -/
  | empty
  /-- One character of a class. -/
  | one (accepts : Char → Bool)
  /-- The start of the text. -/
  | textStart
  /-- The end of the text. -/
  | textEnd
  /-- The start of the text, or behind a line feed. -/
  | lineStart
  /-- Between a word character and one that is none, or at an end of the text beside a word
  character. -/
  | wordEdge
  /-- One piece after the other. -/
  | seq (first second : Pattern)
  /-- One piece or, if that leads to nothing, the other. -/
  | either (first second : Pattern)
  /-- A run of characters of a class, longest first. -/
  | many (accepts : Char → Bool)
  /-- A run of characters of a class, shortest first. -/
  | few (accepts : Char → Bool)
  /-- Any number of pieces in a row, each of which takes some text; most first. -/
  | repeated (body : Pattern)
  /-- A piece that is remembered under a number. -/
  | group (number : Nat) (body : Pattern)

namespace Pattern

/-! ## Building patterns -/

/-- All the pieces, in order. -/
def inOrder : List Pattern → Pattern
  | [] => empty
  | [p] => p
  | p :: next :: rest => seq p (inOrder (next :: rest))

/-- One of the pieces, the first that fits. -/
def anyOf : List Pattern → Pattern
  | [] => one fun _ => false
  | [p] => p
  | p :: next :: rest => either p (anyOf (next :: rest))

/-- A piece or, if that leads to nothing, none. -/
def optional (p : Pattern) : Pattern :=
  either p empty

/-- A non-empty run of characters of a class, longest first. -/
def oneOrMore (accepts : Char → Bool) : Pattern :=
  seq (one accepts) (many accepts)

/-- One given character. -/
def char (c : Char) : Pattern :=
  one (· == c)

/-- A given text. -/
def text (t : Text) : Pattern :=
  inOrder (t.map char)

/-- One of several given texts. -/
def oneOf (texts : List Text) : Pattern :=
  anyOf (texts.map text)

/-! ## Places and captures -/

/-- A remembered piece of text and where it begins. -/
structure Capture where
  start : Nat
  text : Text
deriving DecidableEq, Repr

/-- A place in a text: how many characters lie ahead of it, the last of them, the text behind
it, and the pieces remembered on the way, the latest first. -/
structure Place where
  offset : Nat
  previous : Option Char
  rest : Text
  captures : List (Nat × Capture)
deriving DecidableEq, Repr

/-- The place ahead of a whole text. -/
def Place.start (t : Text) : Place :=
  { offset := 0, previous := none, rest := t, captures := [] }

/-- One character further. -/
def Place.step? (place : Place) : Option (Char × Place) :=
  match place.rest with
  | [] => none
  | c :: rest =>
    some (c, { place with offset := place.offset + 1, previous := some c, rest })

/-- Whether exactly one of the two neighbours of a place is a word character. -/
def Place.atWordEdge (place : Place) : Bool :=
  place.previous.any Text.isWord != place.rest.head?.any Text.isWord

/-! ## Running a pattern -/

section Run

variable {α : Type}

/-- Run over characters of a class, the longest run first. -/
def runMany (accepts : Char → Bool) (answer : Place → Option α)
    (captures : List (Nat × Capture)) : (rest : Text) → Nat → Option Char → Option α
  | [], offset, previous => answer { offset, previous, rest := [], captures }
  | c :: rest, offset, previous =>
    if accepts c then
      match runMany accepts answer captures rest (offset + 1) (some c) with
      | some result => some result
      | none => answer { offset, previous, rest := c :: rest, captures }
    else answer { offset, previous, rest := c :: rest, captures }

/-- Run over characters of a class, the shortest run first. -/
def runFew (accepts : Char → Bool) (answer : Place → Option α)
    (captures : List (Nat × Capture)) : (rest : Text) → Nat → Option Char → Option α
  | [], offset, previous => answer { offset, previous, rest := [], captures }
  | c :: rest, offset, previous =>
    match answer { offset, previous, rest := c :: rest, captures } with
    | some result => some result
    | none =>
      if accepts c then runFew accepts answer captures rest (offset + 1) (some c)
      else none

/-- Run a body again and again as long as it takes some text, most rounds first. The number of
characters left bounds the rounds. -/
def runRepeated (body : Place → (Place → Option α) → Option α) (answer : Place → Option α) :
    (rounds : Nat) → Place → Option α
  | 0, place => answer place
  | rounds + 1, place =>
    let further := body place fun reached =>
      if place.offset < reached.offset then runRepeated body answer rounds reached else none
    match further with
    | some result => some result
    | none => answer place

/-- Try the ways of matching from a place in order; the first place for which the continuation
answers decides. -/
def run : Pattern → Place → (Place → Option α) → Option α
  | empty, place, answer => answer place
  | one accepts, place, answer =>
    match place.step? with
    | some (c, next) => if accepts c then answer next else none
    | none => none
  | textStart, place, answer => if place.previous.isNone then answer place else none
  | textEnd, place, answer => if place.rest.isEmpty then answer place else none
  | lineStart, place, answer =>
    if place.previous.all (· == '\n') then answer place else none
  | wordEdge, place, answer => if place.atWordEdge then answer place else none
  | seq first second, place, answer =>
    run first place fun reached => run second reached answer
  | either first second, place, answer =>
    match run first place answer with
    | some result => some result
    | none => run second place answer
  | many accepts, place, answer =>
    runMany accepts answer place.captures place.rest place.offset place.previous
  | few accepts, place, answer =>
    runFew accepts answer place.captures place.rest place.offset place.previous
  | repeated body, place, answer =>
    runRepeated (run body) answer place.rest.length place
  | group number body, place, answer =>
    run body place fun reached =>
      let capture : Capture :=
        ⟨place.offset, place.rest.take (reached.offset - place.offset)⟩
      answer { reached with captures := (number, capture) :: reached.captures }

end Run

end Pattern

end Kata
