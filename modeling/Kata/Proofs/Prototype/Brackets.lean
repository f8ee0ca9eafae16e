import Kata.Proofs.Pattern.Names
import Kata.Proofs.Pattern.Search

/-!
# Heads of functions and their brackets

In the piece that a pattern for heads of functions takes, the bracket of the parameters is the first
one, but for what may separate the piece from the text ahead of it. So the first head in a text is
the one whose bracket comes first, and only a bracket that can be that of a head counts.
-/

namespace Kata.Prototype

open Pattern

/-! ## Brackets that count -/

/-- Whether no bracket of a text is that of a head, judged by what stands ahead of it; `front` is
what stands ahead of the text, from its end. -/
def isHeadlessFrom (heads : Text → Bool) : (front : Text) → Text → Bool
  | _, [] => true
  | front, c :: rest =>
    (c != '(' || !heads front.reverse) && isHeadlessFrom heads (c :: front) rest

/-- Whether no bracket of a text is that of a head, judged by what stands ahead of it. -/
def isHeadless (heads : Text → Bool) (text : Text) : Bool :=
  isHeadlessFrom heads [] text

theorem isHeadlessFrom_append
    (heads : Text → Bool) (front left right : Text) :
    isHeadlessFrom heads front (left ++ right) =
      (isHeadlessFrom heads front left && isHeadlessFrom heads (left.reverse ++ front) right) := by
  induction left generalizing front with
  | nil => rfl
  | cons c left inductionHypothesis =>
      rw [List.cons_append, isHeadlessFrom, inductionHypothesis, isHeadlessFrom,
        List.reverse_cons, List.append_assoc, List.singleton_append, Bool.and_assoc]

/-- Without brackets there is no head. -/
theorem isHeadlessFrom_of_not_mem
    (heads : Text → Bool) {text : Text} (flat : '(' ∉ text) :
    ∀ front, isHeadlessFrom heads front text = true := by
  induction text with
  | nil => exact fun _ => rfl
  | cons c text inductionHypothesis =>
      intro front
      rw [List.mem_cons, not_or] at flat
      rw [isHeadlessFrom, bne_iff_ne.2 (Ne.symm flat.1), inductionHypothesis flat.2]
      rfl

theorem isHeadless_append_of_not_mem
    {heads : Text → Bool} {text flat : Text} (headless : isHeadless heads text = true)
    (absent : '(' ∉ flat) :
    isHeadless heads (text ++ flat) = true := by
  rw [isHeadless, isHeadlessFrom_append, isHeadlessFrom_of_not_mem heads absent, Bool.and_true]
  exact headless

theorem heads_of_isHeadless
    {heads : Text → Bool} {text ahead behind : Text} (headless : isHeadless heads text = true)
    (whole : text = ahead ++ '(' :: behind) :
    heads ahead = false := by
  rw [whole, isHeadless, isHeadlessFrom_append, isHeadlessFrom, Bool.and_eq_true, Bool.and_eq_true,
    List.append_nil, List.reverse_reverse] at headless
  simpa using headless.2.1

/-! ## The first head -/

/-- That the pieces of a pattern are heads: the bracket of the parameters is the first one, but for
the first character of the piece, what stands ahead of it is the beginning of a head, and what is
remembered is settled by the texts around the bracket. -/
def TakesHeads (p : Pattern) (heads : Text → Bool) (settled : Text → Text → Remembered → Prop) :
    Prop :=
  ∀ {front piece rest : Text} {remembered : Remembered},
    Takes p (lastOf none front) piece rest remembered →
      ∃ left right,
        piece = left ++ '(' :: right ∧ left ≠ [] ∧ '(' ∉ left.tail ∧
          heads (front ++ left) = true ∧ settled (front ++ left) (right ++ rest) remembered

theorem TakesHeads.either
    {p q : Pattern} {heads : Text → Bool} {settled : Text → Text → Remembered → Prop}
    (first : TakesHeads p heads settled) (second : TakesHeads q heads settled) :
    TakesHeads (Pattern.either p q) heads settled := by
  intro front piece rest remembered takes
  rcases takes with takesFirst | takesSecond
  · exact first takesFirst
  · exact second takesSecond

/-- Two brackets of a text are the same one, or one stands ahead of the other. -/
theorem bracket_cases
    {ahead behind other rest : Text}
    (same : ahead ++ '(' :: behind = other ++ '(' :: rest) :
    (ahead = other ∧ behind = rest) ∨ (∃ more, other = ahead ++ '(' :: more) ∨
      ∃ more, ahead = other ++ '(' :: more := by
  rcases List.append_eq_append_iff.1 same with ⟨between, whole, onward⟩ | ⟨between, whole, onward⟩
  · cases between with
    | nil =>
        rw [List.append_nil] at whole
        exact Or.inl ⟨whole.symm, (List.cons.inj onward).2⟩
    | cons c more =>
        rw [← (List.cons.inj onward).1] at whole
        exact Or.inr (Or.inl ⟨more, whole⟩)
  · cases between with
    | nil =>
        rw [List.append_nil] at whole
        exact Or.inl ⟨whole, (List.cons.inj onward).2.symm⟩
    | cons c more =>
        rw [← (List.cons.inj onward).1] at whole
        exact Or.inr (Or.inr ⟨more, whole⟩)

/-- Behind a text without heads, the bracket of a head is the next one or a later one. -/
theorem bracket_cases_of_isHeadless
    {heads : Text → Bool} {ahead behind before rest : Text}
    (headless : isHeadless heads before = true) (isHead : heads ahead = true)
    (same : ahead ++ '(' :: behind = before ++ '(' :: rest) :
    (ahead = before ∧ behind = rest) ∨ ∃ more, ahead = before ++ '(' :: more := by
  rcases bracket_cases same with next | ⟨more, earlier⟩ | later
  · exact Or.inl next
  · rw [heads_of_isHeadless headless earlier] at isHead
    exact absurd isHead Bool.false_ne_true
  · exact Or.inr later

/-- A text that begins ahead of a bracket and reaches beyond it has the bracket behind its first
character. -/
theorem bracket_mem_tail
    {ahead start before more : Text} (same : ahead ++ start = before ++ '(' :: more)
    (early : ahead.length < before.length) :
    '(' ∈ start.tail := by
  rcases List.append_eq_append_iff.1 same with ⟨between, whole, inStart⟩ | ⟨_, beyond, _⟩
  · rw [whole, List.length_append] at early
    obtain ⟨c, others, rfl⟩ := List.exists_cons_of_length_pos (l := between) (by omega)
    rw [inStart, List.cons_append, List.tail_cons]
    exact List.mem_append_right others List.mem_cons_self
  · rw [beyond, List.length_append] at early
    omega

section First

variable {p : Pattern} {heads : Text → Bool} {settled : Text → Text → Remembered → Prop}
variable {before inner : Text} (rest : Text) (takesHeads : TakesHeads p heads settled)
variable (headless : isHeadless heads before = true)
include takesHeads headless

/-- A head that does not reach beyond the next bracket is taken whatever stands behind it, and it
begins ahead of that bracket. -/
theorem exists_takesAt_of_occursIn
    (ignores : ignoresRest p = true) (flat : '(' ∉ inner)
    (occurs : p.occursIn (before ++ '(' :: inner) = true) :
    ∃ front piece behind remembered,
      TakesAt p (before ++ '(' :: (inner ++ rest)) front piece behind remembered ∧
        front.length < before.length := by
  obtain ⟨front, piece, onward, remembered, known⟩ := occursIn_iff.1 occurs
  obtain ⟨left, right, rfl, nonempty, _, isHead, _⟩ := takesHeads known.takes
  have whole : (front ++ left) ++ '(' :: (right ++ onward) = before ++ '(' :: inner := by
    rw [known.whole, List.append_assoc, List.append_assoc, List.cons_append]
  have bracket : front ++ left = before := by
    rcases bracket_cases_of_isHeadless headless isHead whole with ⟨same, _⟩ | ⟨more, later⟩
    · exact same
    · rw [later, List.append_assoc, List.cons_append] at whole
      have tail := (List.cons.inj (List.append_cancel_left whole)).2
      exact absurd (tail ▸ List.mem_append_right more List.mem_cons_self) flat
  refine ⟨front, left ++ '(' :: right, onward ++ rest, remembered,
    ⟨?_, takes_of_ignoresRest ignores _ known.takes⟩, ?_⟩
  · rw [← List.append_assoc (left ++ _), ← List.append_assoc, ← known.whole, List.append_assoc,
      List.cons_append]
  · have := List.length_pos_iff.2 nonempty
    rw [← bracket, List.length_append]
    omega

/-- A search finds the head with the first bracket that is that of a head, if that head does not
reach beyond a part of the text without further brackets. -/
theorem exists_search?_of_isHeadless
    (ignores : ignoresRest p = true) (flat : '(' ∉ inner)
    (occurs : p.occursIn (before ++ '(' :: inner) = true) :
    ∃ found, p.search? (before ++ '(' :: (inner ++ rest)) = some found ∧
      settled before (inner ++ rest) found.stop.remembered := by
  obtain ⟨front, piece, behind, remembered, known, shorter⟩ :=
    exists_takesAt_of_occursIn rest takesHeads headless ignores flat occurs
  obtain ⟨found, searched⟩ := Option.isSome_iff_exists.1 (occursIn_iff.2 ⟨front, _, _, _, known⟩)
  refine ⟨found, searched, ?_⟩
  -- The piece that is found begins no later, so its bracket is the same one.
  obtain ⟨ahead, taken, here, first⟩ := exists_first_of_search? searched
  have early : ahead.length < before.length := Nat.lt_of_le_of_lt (first known) shorter
  obtain ⟨start, stop, rfl, _, flatStart, isHead, isSettled⟩ := takesHeads here.takes
  have parts :
      (ahead ++ start) ++ '(' :: (stop ++ found.stop.rest) = before ++ '(' :: (inner ++ rest) := by
    rw [here.whole, List.append_assoc, List.append_assoc, List.cons_append]
  rcases bracket_cases_of_isHeadless headless isHead parts with ⟨same, onward⟩ | ⟨more, later⟩
  · rw [same, onward] at isSettled
    exact isSettled
  · exact absurd (bracket_mem_tail later early) flatStart

end First

end Kata.Prototype
