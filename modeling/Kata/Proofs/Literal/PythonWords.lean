import Mathlib.Data.List.Forall2
import Kata.Literal.Bracketed
import Kata.Proofs.Json.Leaves
import Kata.Proofs.Value.Shape

/-!
# From the words of Python to the words of JSON

A literal of Python without floating-point numbers is JSON, but for the words `None`, `True` and
`False`. Outside of quoted texts these are replaced by the words of JSON, which may not stand
there themselves; everything else is left as it is. So the literal of a value in Python becomes
the literal of the same value in JavaScript.
-/

namespace Kata.Literal

/-! ## Replacing words -/

/-- Where in a text a character stands. Inside of a word, the rest of the word has to follow. -/
inductive Spot where
  | outside
  | word (ahead : Text)
  | quoted
  | escaped
deriving DecidableEq, Repr

/-- What a word of Python that begins with a character goes on with, and the word of JSON for
it. -/
def wordFrom? (c : Char) : Option (Text × Text) :=
  if c = 'N' then some ("one", "null")
  else if c = 'T' then some ("rue", "true")
  else if c = 'F' then some ("alse", "false")
  else none

def beginsJsonWord (c : Char) : Bool :=
  c == 'n' || c == 't' || c == 'f'

/-- The spot behind a character and what replaces the character; the first letter of a word is
replaced by the whole word for it, and the others by nothing. -/
def Spot.step : Spot → Char → Option (Spot × Text)
  | outside, c =>
    if beginsJsonWord c then none
    else if c = '"' then some (quoted, [c])
    else
      match wordFrom? c with
      | some (ahead, plain) => some (word ahead, plain)
      | none => some (outside, [c])
  | word [], _ => none
  | word (w :: ahead), c =>
    if c = w then some (if ahead.isEmpty then outside else word ahead, []) else none
  | quoted, c =>
    some (if c = '"' then outside else if c = '\\' then escaped else quoted, [c])
  | escaped, c => some (quoted, [c])

def translate? : Spot → Text → Option Text
  | spot, [] => if spot = .outside then some [] else none
  | spot, c :: rest =>
    (spot.step c).bind fun (next, plain) => (translate? next rest).map (plain ++ ·)

/-- Read a literal of Python as JSON with other words. -/
def readPython? (text : Text) : Option Value :=
  (translate? .outside text).bind fun plain => (Json.parse plain).toOption.map Value.ofJson

/-! ## Parts of a text -/

/-- A part of a text leads from one spot to another and is replaced by a given text, whatever
follows it. -/
def Translates (spot : Spot) (part plain : Text) (next : Spot) : Prop :=
  ∀ rest, translate? spot (part ++ rest) = (translate? next rest).map (plain ++ ·)

theorem translates_nil
    (spot : Spot) :
    Translates spot [] [] spot := by
  intro rest
  cases behind : translate? spot rest <;> simp [behind]

theorem Translates.append
    {first middle last : Spot} {part plain others othersPlain : Text}
    (here : Translates first part plain middle)
    (there : Translates middle others othersPlain last) :
    Translates first (part ++ others) (plain ++ othersPlain) last := by
  intro rest
  rw [List.append_assoc, here, there, Option.map_map]
  apply congrArg (Option.map · (translate? last rest))
  funext behind
  exact (List.append_assoc plain othersPlain behind).symm

theorem translates_of_step
    {spot next : Spot} {c : Char} {plain : Text} (step : spot.step c = some (next, plain)) :
    Translates spot [c] plain next := by
  intro rest
  rw [List.singleton_append, translate?, step]
  rfl

theorem Translates.translate?_eq
    {part plain : Text} (translates : Translates .outside part plain .outside) :
    translate? .outside part = some plain := by
  have whole := translates []
  rw [List.append_nil] at whole
  rw [whole]
  exact congrArg some (List.append_nil plain)

theorem translates_of_forall
    {spot : Spot} {part : Text} (each : ∀ c ∈ part, spot.step c = some (spot, [c])) :
    Translates spot part part spot := by
  induction part with
  | nil => exact translates_nil spot
  | cons c part inductionHypothesis =>
      rw [List.forall_mem_cons] at each
      exact (translates_of_step each.1).append (inductionHypothesis each.2)

/-! ## Leaves -/

def isOrdinary (c : Char) : Bool :=
  Spot.step .outside c == some (.outside, [c])

theorem translates_of_isOrdinary
    {part : Text} (ordinary : part.all isOrdinary = true) :
    Translates .outside part part .outside := by
  apply translates_of_forall
  intro c member
  exact eq_of_beq (List.all_eq_true.1 ordinary c member)

theorem isOrdinary_of_isDigit
    {c : Char} (digit : c.isDigit = true) :
    isOrdinary c = true :=
  Text.forall_isDigit (by decide) c digit

theorem translates_ofInt
    (n : Int) :
    Translates .outside (Text.ofInt n) (Text.ofInt n) .outside := by
  apply translates_of_isOrdinary
  rw [List.all_eq_true]
  intro c member
  cases n with
  | ofNat n => exact isOrdinary_of_isDigit (Text.isDigit_of_mem_ofNat member)
  | negSucc n =>
      rw [Text.ofInt, List.mem_cons] at member
      rcases member with isMinus | inDigits
      · rw [isMinus]
        decide
      · exact isOrdinary_of_isDigit (Text.isDigit_of_mem_ofNat inDigits)

theorem translates_ahead
    {ahead : Text} (goesOn : ahead ≠ []) :
    Translates (.word ahead) ahead [] .outside := by
  induction ahead with
  | nil => exact absurd rfl goesOn
  | cons w ahead inductionHypothesis =>
      by_cases last : ahead = []
      · subst last
        apply translates_of_step
        simp [Spot.step]
      · have here : Translates (.word (w :: ahead)) [w] [] (.word ahead) := by
          apply translates_of_step
          simp [Spot.step, last]
        exact here.append (inductionHypothesis last)

theorem translates_nullWord :
    Translates .outside "None" "null" .outside := by
  have here : Translates .outside ['N'] "null" (.word "one") := translates_of_step (by decide)
  exact here.append (translates_ahead (by decide))

theorem translates_boolWord
    (b : Bool) :
    Translates .outside (Vocabulary.python.boolWord b) (Vocabulary.javaScript.boolWord b)
      .outside := by
  cases b with
  | false =>
      have here : Translates .outside ['F'] "false" (.word "alse") :=
        translates_of_step (by decide)
      exact here.append (translates_ahead (by decide))
  | true =>
      have here : Translates .outside ['T'] "true" (.word "rue") :=
        translates_of_step (by decide)
      exact here.append (translates_ahead (by decide))

theorem step_quoted
    {c : Char} (notQuote : c ≠ '"') (notBackslash : c ≠ '\\') :
    Spot.step .quoted c = some (.quoted, [c]) := by
  rw [Spot.step, if_neg notQuote, if_neg notBackslash]

theorem step_hexDigits
    {n : Nat} (control : n < 32) :
    ∀ d ∈ Json.hexDigits n, Spot.step .quoted d = some (.quoted, [d]) := by
  have each : ∀ n < 32, (Json.hexDigits n).all (fun d => d != '"' && d != '\\') = true := by
    decide
  intro d member
  have here := List.all_eq_true.1 (each n control) d member
  rw [Bool.and_eq_true, bne_iff_ne, bne_iff_ne] at here
  exact step_quoted here.1 here.2

theorem translates_quoteChar
    (c : Char) :
    Translates .quoted (Json.quoteChar c) (Json.quoteChar c) .quoted := by
  have behindBackslash :
      ∀ letter : Char, Translates .quoted ['\\', letter] ['\\', letter] .quoted := by
    intro letter
    have backslash : Translates .quoted ['\\'] ['\\'] .escaped := translates_of_step (by decide)
    exact backslash.append (translates_of_step rfl)
  -- An escaped quote or backslash must not be taken for the end of the text or another escape.
  rcases Json.quoteChar_cases c with
    ⟨letter, written, _⟩ | ⟨written, control⟩ | ⟨written, notQuote, notBackslash, _⟩
  · rw [written]
    exact behindBackslash letter
  · rw [written]
    exact (behindBackslash 'u').append (translates_of_forall (step_hexDigits control))
  · rw [written]
    exact translates_of_step (step_quoted notQuote notBackslash)

/-- A quoted text is left as it is, with all words in it. -/
theorem translates_quote
    (content : Text) :
    Translates .outside (Json.quote content) (Json.quote content) .outside := by
  have inside :
      Translates .quoted (content.flatMap Json.quoteChar) (content.flatMap Json.quoteChar)
        .quoted := by
    induction content with
    | nil => exact translates_nil .quoted
    | cons c content inductionHypothesis =>
        rw [List.flatMap_cons]
        exact (translates_quoteChar c).append inductionHypothesis
  have opening : Translates .outside ['"'] ['"'] .quoted := translates_of_step (by decide)
  have closing : Translates .quoted ['"'] ['"'] .outside := translates_of_step (by decide)
  exact (opening.append inside).append closing

/-! ## Lists and records -/

theorem translates_joinWith
    {parts plainParts : List Text}
    (each : List.Forall₂ (Translates .outside · · .outside) parts plainParts) :
    Translates .outside (Text.joinWith ", " parts) (Text.joinWith ", " plainParts) .outside := by
  have comma : Translates .outside ", " ", " .outside := translates_of_isOrdinary (by decide)
  induction each with
  | nil => exact translates_nil .outside
  | cons first others inductionHypothesis =>
      cases others with
      | nil => exact first
      | cons second rest => exact (first.append comma).append inductionHypothesis

theorem translates_enclosed
    {opening closing : Char} {parts plainParts : List Text}
    (open' : isOrdinary opening = true) (close : isOrdinary closing = true)
    (each : List.Forall₂ (Translates .outside · · .outside) parts plainParts) :
    Translates .outside (enclosed opening closing parts) (enclosed opening closing plainParts)
      .outside := by
  have front : Translates .outside [opening] [opening] .outside :=
    translates_of_step (eq_of_beq open')
  have back : Translates .outside [closing] [closing] .outside :=
    translates_of_step (eq_of_beq close)
  exact (front.append (translates_joinWith each)).append back

open Value (isFloatFree itemsAreFloatFree fieldsAreFloatFree)

mutual

/-- The literal of a value in Python becomes its literal in JavaScript. -/
theorem translates_dynamic :
    ∀ value : Value,
      isFloatFree value = true →
        Translates .outside (Vocabulary.python.dynamic value)
          (Vocabulary.javaScript.dynamic value) .outside
  | .null, _ => translates_nullWord
  | .bool b, _ => translates_boolWord b
  | .int n, _ => translates_ofInt n.toInt
  | .float _, free => absurd free Bool.false_ne_true
  | .text t, _ => translates_quote t
  | .list items, free => by
      rw [isFloatFree] at free
      exact translates_enclosed (by decide) (by decide) (translates_dynamicItems items free)
  | .record fields, free => by
      rw [isFloatFree] at free
      exact translates_enclosed (by decide) (by decide) (translates_dynamicFields fields free)

theorem translates_dynamicItems :
    ∀ items : List Value,
      itemsAreFloatFree items = true →
        List.Forall₂ (Translates .outside · · .outside)
          (Vocabulary.python.dynamicItems items) (Vocabulary.javaScript.dynamicItems items)
  | [], _ => .nil
  | item :: rest, free => by
      rw [itemsAreFloatFree, Bool.and_eq_true] at free
      exact .cons (translates_dynamic item free.1) (translates_dynamicItems rest free.2)

theorem translates_dynamicFields :
    ∀ fields : List (Text × Value),
      fieldsAreFloatFree fields = true →
        List.Forall₂ (Translates .outside · · .outside)
          (Vocabulary.python.dynamicFields fields) (Vocabulary.javaScript.dynamicFields fields)
  | [], _ => .nil
  | (key, value) :: rest, free => by
      rw [fieldsAreFloatFree, Bool.and_eq_true] at free
      have colon : Translates .outside ": " ": " .outside := translates_of_isOrdinary (by decide)
      have field := ((translates_quote key).append colon).append (translates_dynamic value free.1)
      exact .cons field (translates_dynamicFields rest free.2)

end

end Kata.Literal
