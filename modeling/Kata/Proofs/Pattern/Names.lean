import Kata.Pattern.Names
import Kata.Proofs.Pattern.Meaning

/-!
# What the small patterns mean

The pieces that the patterns take from which the patterns for declarations are put together.
-/

namespace Kata.Pattern

variable {previous : Option Char} {piece rest : Text} {remembered : Remembered}

/-! ## Sequences and choices -/

theorem takes_empty :
    Takes empty previous piece rest remembered ↔ piece = [] ∧ remembered = [] :=
  Iff.rfl

theorem takes_wordEdge :
    Takes wordEdge previous piece rest remembered ↔
      previous.any Text.isWord ≠ rest.head?.any Text.isWord ∧ piece = [] ∧ remembered = [] :=
  Iff.rfl

theorem takes_seq
    {first second : Pattern} :
    Takes (seq first second) previous piece rest remembered ↔
      ∃ left right early late,
        Takes first previous left (right ++ rest) early ∧
          Takes second (lastOf previous left) right rest late ∧
            piece = left ++ right ∧ remembered = late ++ early :=
  Iff.rfl

theorem takes_inOrder_cons
    {p next : Pattern} {others : List Pattern} :
    Takes (inOrder (p :: next :: others)) previous piece rest remembered ↔
      ∃ left right early late,
        Takes p previous left (right ++ rest) early ∧
          Takes (inOrder (next :: others)) (lastOf previous left) right rest late ∧
            piece = left ++ right ∧ remembered = late ++ early :=
  Iff.rfl

theorem takes_inOrder_singleton
    {p : Pattern} :
    Takes (inOrder [p]) previous piece rest remembered ↔
      Takes p previous piece rest remembered :=
  Iff.rfl

theorem takes_anyOf
    (patterns : List Pattern) :
    Takes (anyOf patterns) previous piece rest remembered ↔
      ∃ p ∈ patterns, Takes p previous piece rest remembered := by
  induction patterns with
  | nil => simp [anyOf, Takes]
  | cons p patterns inductionHypothesis =>
      cases patterns with
      | nil => simp [anyOf]
      | cons next patterns =>
          rw [anyOf, Takes, inductionHypothesis]
          simp only [List.mem_cons, exists_eq_or_imp]

theorem takes_optional
    {p : Pattern} :
    Takes (optional p) previous piece rest remembered ↔
      Takes p previous piece rest remembered ∨ (piece = [] ∧ remembered = []) :=
  Iff.rfl

theorem takes_group
    {number : Nat} {body : Pattern} :
    Takes (group number body) previous piece rest remembered ↔
      ∃ inner, Takes body previous piece rest inner ∧ remembered = (number, piece) :: inner :=
  Iff.rfl

/-- A sequence takes a piece of its first pattern and then a piece of the others. -/
theorem takes_inOrder_onward
    {p next : Pattern} {others : List Pattern} (left : Text) {right : Text}
    (first : Takes p previous left (right ++ rest) [])
    (onward : Takes (inOrder (next :: others)) (lastOf previous left) right rest []) :
    Takes (inOrder (p :: next :: others)) previous (left ++ right) rest [] :=
  takes_inOrder_cons.2 ⟨left, right, [], [], first, onward, rfl, rfl⟩

theorem exists_takes_onward
    {p next : Pattern} {others : List Pattern} (left : Text) {right : Text}
    (first : ∃ early, Takes p previous left (right ++ rest) early)
    (onward : ∃ late, Takes (inOrder (next :: others)) (lastOf previous left) right rest late) :
    ∃ remembered,
      Takes (inOrder (p :: next :: others)) previous (left ++ right) rest remembered := by
  obtain ⟨early, takesFirst⟩ := first
  obtain ⟨late, takesOthers⟩ := onward
  exact ⟨late ++ early,
    takes_inOrder_cons.2 ⟨left, right, early, late, takesFirst, takesOthers, rfl, rfl⟩⟩

theorem exists_takes_group
    (number : Nat) {body : Pattern} (takes : ∃ inner, Takes body previous piece rest inner) :
    ∃ remembered, Takes (group number body) previous piece rest remembered := by
  obtain ⟨inner, takesBody⟩ := takes
  exact ⟨(number, piece) :: inner, takes_group.2 ⟨inner, takesBody, rfl⟩⟩

/-- A sequence takes what its first part takes and what the other part takes behind it. -/
theorem takes_inOrder_append
    {second : List Pattern} (first : List Pattern) :
    ∀ {previous : Option Char} {piece : Text} {remembered : Remembered},
      Takes (inOrder (first ++ second)) previous piece rest remembered ↔
        ∃ left right early late,
          Takes (inOrder first) previous left (right ++ rest) early ∧
            Takes (inOrder second) (lastOf previous left) right rest late ∧
              piece = left ++ right ∧ remembered = late ++ early := by
  induction first with
  | nil =>
      intro previous piece remembered
      constructor
      · intro takes
        exact ⟨[], piece, [], remembered, ⟨rfl, rfl⟩, takes, rfl, (List.append_nil _).symm⟩
      · rintro ⟨_, right, _, late, ⟨rfl, rfl⟩, takes, rfl, rfl⟩
        rw [List.append_nil]
        exact takes
  | cons p first inductionHypothesis =>
      intro previous piece remembered
      cases first with
      | nil =>
          cases second with
          | nil =>
              rw [List.append_nil]
              constructor
              · intro takes
                exact ⟨piece, [], remembered, [], takes, ⟨rfl, rfl⟩, (List.append_nil _).symm, rfl⟩
              · rintro ⟨left, _, early, _, takes, ⟨rfl, rfl⟩, rfl, rfl⟩
                rw [List.append_nil]
                exact takes
          | cons q second => exact takes_inOrder_cons
      | cons q first =>
          constructor
          · intro takes
            obtain ⟨left, right, early, late, atFirst, others, rfl, rfl⟩ :=
              takes_inOrder_cons.1 takes
            obtain ⟨middle, behind, between, last, atMiddle, atLast, rfl, rfl⟩ :=
              inductionHypothesis.1 others
            rw [List.append_assoc] at atFirst
            refine ⟨left ++ middle, behind, between ++ early, last, ?_, ?_, ?_, ?_⟩
            · exact takes_inOrder_cons.2
                ⟨left, middle, early, between, atFirst, atMiddle, rfl, rfl⟩
            · rw [lastOf_append]
              exact atLast
            · rw [List.append_assoc]
            · rw [List.append_assoc]
          · rintro ⟨_, behind, _, last, atStart, atLast, rfl, rfl⟩
            obtain ⟨left, middle, early, between, atFirst, atMiddle, rfl, rfl⟩ :=
              takes_inOrder_cons.1 atStart
            rw [lastOf_append] at atLast
            rw [← List.append_assoc] at atFirst
            refine takes_inOrder_cons.2
              ⟨left, middle ++ behind, early, last ++ between, atFirst, ?_, ?_, ?_⟩
            · exact inductionHypothesis.2
                ⟨middle, behind, between, last, atMiddle, atLast, rfl, rfl⟩
            · rw [List.append_assoc]
            · rw [List.append_assoc]

/-! ## What is remembered -/

/-- Whether a pattern has no groups. -/
def isForgetful : Pattern → Bool
  | seq first second => isForgetful first && isForgetful second
  | either first second => isForgetful first && isForgetful second
  | repeated body => isForgetful body
  | group _ _ => false
  | _ => true

theorem remembered_of_inRow
    {takes : Option Char → Text → Text → Remembered → Prop}
    (forgets : ∀ {previous piece rest remembered}, takes previous piece rest remembered →
      remembered = [])
    (row : InRow takes previous piece rest remembered) :
    remembered = [] := by
  induction row with
  | done => rfl
  | more _ first _ inductionHypothesis =>
      rw [inductionHypothesis, forgets first]
      rfl

/-- A pattern without groups remembers nothing. -/
theorem remembered_of_isForgetful
    (p : Pattern) (forgetful : isForgetful p = true) :
    ∀ {previous : Option Char} {piece rest : Text} {remembered : Remembered},
      Takes p previous piece rest remembered → remembered = [] := by
  induction p with
  | empty => exact fun takes => takes.2
  | one accepts => exact fun takes => takes.2
  | textStart => exact fun takes => takes.2.2
  | textEnd => exact fun takes => takes.2.2
  | lineStart => exact fun takes => takes.2.2
  | wordEdge => exact fun takes => takes.2.2
  | seq first second firstHypothesis secondHypothesis =>
      rw [isForgetful, Bool.and_eq_true] at forgetful
      rintro _ _ _ _ ⟨left, right, early, late, atFirst, atSecond, rfl, rfl⟩
      rw [firstHypothesis forgetful.1 atFirst, secondHypothesis forgetful.2 atSecond]
      rfl
  | either first second firstHypothesis secondHypothesis =>
      rw [isForgetful, Bool.and_eq_true] at forgetful
      rintro _ _ _ _ (atFirst | atSecond)
      · exact firstHypothesis forgetful.1 atFirst
      · exact secondHypothesis forgetful.2 atSecond
  | many accepts => exact fun takes => takes.2
  | few accepts => exact fun takes => takes.2
  | repeated body inductionHypothesis =>
      exact fun row => remembered_of_inRow (inductionHypothesis forgetful) row
  | group number body => exact absurd forgetful Bool.false_ne_true

/-- A sequence with one group remembers what the group takes, with the rest of the sequence around
it. -/
theorem takes_inOrder_group
    (first second : List Pattern) {number : Nat} {body : Pattern}
    (firstForgets : isForgetful (inOrder first) = true) (bodyForgets : isForgetful body = true)
    (secondForgets : isForgetful (inOrder second) = true) :
    Takes (inOrder (first ++ ([group number body] ++ second))) previous piece rest remembered ↔
      ∃ left named right,
        Takes (inOrder first) previous left (named ++ (right ++ rest)) [] ∧
          Takes body (lastOf previous left) named (right ++ rest) [] ∧
            Takes (inOrder second) (lastOf previous (left ++ named)) right rest [] ∧
              piece = left ++ (named ++ right) ∧ remembered = [(number, named)] := by
  constructor
  · intro takes
    obtain ⟨left, behind, early, late, atFirst, others, rfl, rfl⟩ :=
      (takes_inOrder_append first).1 takes
    obtain ⟨named, right, middle, last, atGroup, atSecond, rfl, rfl⟩ :=
      (takes_inOrder_append [group number body]).1 others
    obtain ⟨inner, atBody, rfl⟩ := takes_group.1 (takes_inOrder_singleton.1 atGroup)
    obtain rfl := remembered_of_isForgetful _ firstForgets atFirst
    obtain rfl := remembered_of_isForgetful _ bodyForgets atBody
    obtain rfl := remembered_of_isForgetful _ secondForgets atSecond
    rw [List.append_assoc] at atFirst
    rw [← lastOf_append] at atSecond
    exact ⟨left, named, right, atFirst, atBody, atSecond, rfl, rfl⟩
  · rintro ⟨left, named, right, atFirst, atBody, atSecond, rfl, rfl⟩
    rw [← List.append_assoc] at atFirst
    rw [lastOf_append] at atSecond
    have atGroup :
        Takes (inOrder [group number body]) (lastOf previous left) named (right ++ rest)
          [(number, named)] :=
      takes_inOrder_singleton.2 (takes_group.2 ⟨[], atBody, rfl⟩)
    have others :
        Takes (inOrder ([group number body] ++ second)) (lastOf previous left) (named ++ right) rest
          [(number, named)] :=
      (takes_inOrder_append [group number body]).2
        ⟨named, right, [(number, named)], [], atGroup, atSecond, rfl, rfl⟩
    exact (takes_inOrder_append first).2
      ⟨left, named ++ right, [], [(number, named)], atFirst, others, rfl, rfl⟩

/-! ## What stands behind -/

/-- Whether a pattern does not look behind its pieces. -/
def ignoresRest : Pattern → Bool
  | textEnd => false
  | wordEdge => false
  | seq first second => ignoresRest first && ignoresRest second
  | either first second => ignoresRest first && ignoresRest second
  | repeated body => ignoresRest body
  | group _ body => ignoresRest body
  | _ => true

/-- A pattern that does not look behind its pieces takes them whatever stands there. -/
theorem takes_of_ignoresRest
    {p : Pattern} (ignores : ignoresRest p = true) :
    ∀ {previous : Option Char} {piece rest : Text} {remembered : Remembered} (other : Text),
      Takes p previous piece rest remembered → Takes p previous piece other remembered := by
  induction p with
  | empty => exact fun _ takes => takes
  | one accepts => exact fun _ takes => takes
  | textStart => exact fun _ takes => takes
  | textEnd => exact absurd ignores Bool.false_ne_true
  | lineStart => exact fun _ takes => takes
  | wordEdge => exact absurd ignores Bool.false_ne_true
  | seq first second firstHypothesis secondHypothesis =>
      rw [ignoresRest, Bool.and_eq_true] at ignores
      rintro _ _ _ _ other ⟨left, right, early, late, atFirst, atSecond, rfl, rfl⟩
      exact ⟨left, right, early, late, firstHypothesis ignores.1 _ atFirst,
        secondHypothesis ignores.2 other atSecond, rfl, rfl⟩
  | either first second firstHypothesis secondHypothesis =>
      rw [ignoresRest, Bool.and_eq_true] at ignores
      rintro _ _ _ _ other (atFirst | atSecond)
      · exact Or.inl (firstHypothesis ignores.1 other atFirst)
      · exact Or.inr (secondHypothesis ignores.2 other atSecond)
  | many accepts => exact fun _ takes => takes
  | few accepts => exact fun _ takes => takes
  | repeated body inductionHypothesis =>
      intro previous piece rest remembered other row
      change InRow (Takes body) previous piece rest remembered at row
      change InRow (Takes body) previous piece other remembered
      induction row with
      | done previous rest => exact InRow.done previous other
      | more nonempty first _ later =>
          exact InRow.more nonempty (inductionHypothesis ignores _ first) later
  | group number body inductionHypothesis =>
      rintro _ _ _ _ other ⟨inner, takes, rfl⟩
      exact ⟨inner, inductionHypothesis ignores other takes, rfl⟩

/-! ## Fixed texts -/

theorem takes_char
    {c : Char} :
    Takes (char c) previous piece rest remembered ↔ piece = [c] ∧ remembered = [] := by
  simp [char, Takes]

/-- A text takes itself and nothing else. -/
theorem takes_text
    (t : Text) :
    ∀ {previous : Option Char} {piece rest : Text} {remembered : Remembered},
      Takes (text t) previous piece rest remembered ↔ piece = t ∧ remembered = [] := by
  induction t with
  | nil => exact takes_empty
  | cons c t inductionHypothesis =>
      intro previous piece rest remembered
      cases t with
      | nil => exact takes_char
      | cons d t =>
          have later :
              ∀ {previous : Option Char} {piece rest : Text} {remembered : Remembered},
                Takes (inOrder (char d :: t.map char)) previous piece rest remembered ↔
                  piece = d :: t ∧ remembered = [] :=
            inductionHypothesis
          rw [text, List.map_cons, List.map_cons, takes_inOrder_cons]
          constructor
          · rintro ⟨left, right, early, late, first, second, rfl, rfl⟩
            obtain ⟨rfl, rfl⟩ := takes_char.1 first
            obtain ⟨rfl, rfl⟩ := later.1 second
            exact ⟨rfl, rfl⟩
          · rintro ⟨rfl, rfl⟩
            exact ⟨[c], d :: t, [], [], takes_char.2 ⟨rfl, rfl⟩, later.2 ⟨rfl, rfl⟩, rfl, rfl⟩

theorem takes_oneOf
    {texts : List Text} :
    Takes (oneOf texts) previous piece rest remembered ↔ piece ∈ texts ∧ remembered = [] := by
  rw [oneOf, takes_anyOf]
  constructor
  · rintro ⟨p, member, takes⟩
    obtain ⟨t, textMember, rfl⟩ := List.mem_map.1 member
    obtain ⟨rfl, rfl⟩ := (takes_text t).1 takes
    exact ⟨textMember, rfl⟩
  · rintro ⟨member, rfl⟩
    exact ⟨text piece, List.mem_map_of_mem member, (takes_text piece).2 ⟨rfl, rfl⟩⟩

/-! ## Runs -/

theorem takes_oneOrMore
    {accepts : Char → Bool} :
    Takes (oneOrMore accepts) previous piece rest remembered ↔
      piece ≠ [] ∧ (∀ c ∈ piece, accepts c = true) ∧ remembered = [] := by
  rw [oneOrMore, takes_seq]
  constructor
  · rintro ⟨_, right, _, _, ⟨⟨c, accepted, rfl⟩, rfl⟩, ⟨all, rfl⟩, rfl, rfl⟩
    exact ⟨List.cons_ne_nil c right, List.forall_mem_cons.2 ⟨accepted, all⟩, rfl⟩
  · rintro ⟨nonempty, all, rfl⟩
    obtain ⟨c, right, rfl⟩ := List.exists_cons_of_ne_nil nonempty
    rw [List.forall_mem_cons] at all
    exact ⟨[c], right, [], [], ⟨⟨c, all.1, rfl⟩, rfl⟩, ⟨all.2, rfl⟩, rfl, rfl⟩

theorem takes_gap :
    Takes gap previous piece rest remembered ↔
      piece ≠ [] ∧ (∀ c ∈ piece, Text.isBlank c = true) ∧ remembered = [] :=
  takes_oneOrMore

theorem takes_lineGap :
    Takes lineGap previous piece rest remembered ↔
      piece ≠ [] ∧ (∀ c ∈ piece, isLineBlank c = true) ∧ remembered = [] :=
  takes_oneOrMore

end Kata.Pattern
