import Mathlib.Data.List.Induction
import Kata.Proofs.Text.Digits

/-!
# Spelled integers

A grammar of integers that makes no mention of how they are read: decimal digits, each worth ten
times as much as the next, and at most one sign ahead of them. Zeros at the front are allowed.
Reading an integer accepts exactly the texts of this grammar.
-/

namespace Kata.Text

/-! ## Natural numbers -/

/-- A row of digits and the number that it denotes. -/
inductive Denotes : Text → Nat → Prop
  | digit {d : Nat} :
      d < 10 → Denotes [d.digitChar] d
  | more {digits : Text} {n d : Nat} :
      Denotes digits n → d < 10 → Denotes (digits ++ [d.digitChar]) (10 * n + d)

theorem digitValue_digitChar :
    ∀ {d : Nat}, d < 10 → digitValue d.digitChar = d ∧ d.digitChar.isDigit = true := by
  decide

theorem exists_digitChar
    {c : Char} (digit : c.isDigit = true) :
    digitValue c < 10 ∧ (digitValue c).digitChar = c :=
  forall_isDigit (by decide) c digit

theorem digitsValue_concat
    (digits : Text) (c : Char) :
    digitsValue (digits ++ [c]) = 10 * digitsValue digits + digitValue c := by
  simp [digitsValue]

theorem denotes_iff
    (digits : Text) (n : Nat) :
    Denotes digits n ↔
      digits ≠ [] ∧ (∀ c ∈ digits, c.isDigit = true) ∧ digitsValue digits = n := by
  constructor
  · intro denoted
    induction denoted with
    | digit small =>
        obtain ⟨value, digit⟩ := digitValue_digitChar small
        simp [digitsValue, value, digit]
    | more _ small inductionHypothesis =>
        obtain ⟨value, digit⟩ := digitValue_digitChar small
        obtain ⟨_, allDigits, ahead⟩ := inductionHypothesis
        refine ⟨by simp, ?_, by rw [digitsValue_concat, ahead, value]⟩
        intro c member
        rcases List.mem_append.1 member with before | last
        · exact allDigits c before
        · rw [List.mem_singleton.1 last]
          exact digit
  · rintro ⟨nonempty, allDigits, rfl⟩
    -- A digit is added at the end, where it counts for its value alone.
    induction digits using List.reverseRecOn with
    | nil =>
        exact absurd rfl nonempty
    | append_singleton digits c inductionHypothesis =>
        have last : c.isDigit = true := allDigits c (by simp)
        obtain ⟨small, same⟩ := exists_digitChar last
        by_cases empty : digits = []
        · subst empty
          have single := Denotes.digit small
          rw [same] at single
          simpa [digitsValue] using single
        · have ahead :=
            inductionHypothesis empty fun d member =>
              allDigits d (List.mem_append_left _ member)
          have grown := Denotes.more ahead small
          rwa [same, ← digitsValue_concat] at grown

theorem toNat?_eq_some_iff
    (digits : Text) (n : Nat) :
    toNat? digits = some n ↔ Denotes digits n := by
  rw [denotes_iff, toNat?]
  by_cases decimal : digits ≠ [] ∧ digits.all Char.isDigit = true
  · rw [if_pos decimal]
    simpa [decimal.1] using fun _ => List.all_eq_true.1 decimal.2
  · rw [if_neg decimal]
    simp only [reduceCtorEq, false_iff]
    rintro ⟨nonempty, allDigits, _⟩
    exact decimal ⟨nonempty, List.all_eq_true.2 allDigits⟩

/-- A denoted number begins with a digit. -/
theorem Denotes.exists_cons
    {digits : Text} {n : Nat} (denoted : Denotes digits n) :
    ∃ c rest, digits = c :: rest ∧ c.isDigit = true := by
  obtain ⟨nonempty, allDigits, _⟩ := (denotes_iff digits n).1 denoted
  obtain ⟨c, rest, rfl⟩ := List.exists_cons_of_ne_nil nonempty
  exact ⟨c, rest, rfl, allDigits c List.mem_cons_self⟩

/-- Digits without a needless zero at the front are the written form of what they denote. -/
theorem Denotes.eq_ofNat
    {digits : Text} {n : Nat} (denoted : Denotes digits n)
    (exact : digits.head? = some '0' → digits = ['0']) :
    digits = ofNat n := by
  induction denoted with
  | digit small =>
      rw [ofNat, Nat.toDigits_of_lt_base small]
  | @more digits n d ahead small inductionHypothesis =>
      obtain ⟨c, rest, written, _⟩ := ahead.exists_cons
      have notZero : c ≠ '0' := by
        rintro rfl
        have whole := exact (by simp [written])
        simp [written] at whole
      have before : digits = ofNat n := by
        apply inductionHypothesis
        intro zero
        rw [written, List.head?_cons] at zero
        exact absurd (Option.some.inj zero) notZero
      have positive : n ≠ 0 := by
        rintro rfl
        rw [written] at before
        exact notZero (List.cons.inj before).1
      have quotient : (10 * n + d) / 10 = n := by omega
      have remainder : (10 * n + d) % 10 = d := by omega
      rw [ofNat, Nat.toDigits_eq_if (by decide), if_neg (by omega), quotient, remainder, before,
        ofNat]

/-! ## Integers -/

/-- A text and the integer that it spells: digits, perhaps behind a sign. -/
inductive Spells : Text → Int → Prop
  | bare {digits : Text} {n : Nat} :
      Denotes digits n → Spells digits n
  | plus {digits : Text} {n : Nat} :
      Denotes digits n → Spells ('+' :: digits) n
  | minus {digits : Text} {n : Nat} :
      Denotes digits n → Spells ('-' :: digits) (-n)

/-- Digits that are read as an integer denote it up to its sign. -/
theorem exists_denotes
    {signed : Int → Int} {digits : Text} {n : Int}
    (read : (toNat? digits).map signed = some n) :
    ∃ m : Nat, Denotes digits m ∧ signed m = n := by
  cases natural : toNat? digits with
  | none =>
      simp [natural] at read
  | some m =>
      refine ⟨m, (toNat?_eq_some_iff digits m).1 natural, ?_⟩
      simpa [natural] using read

theorem toInt?_eq_some_iff
    (text : Text) (n : Int) :
    toInt? text = some n ↔ Spells text n := by
  constructor
  · intro read
    rw [toInt?.eq_def] at read
    split at read
    all_goals obtain ⟨m, denoted, rfl⟩ := exists_denotes read
    · exact Spells.minus denoted
    · exact Spells.plus denoted
    · exact Spells.bare denoted
  · intro spelled
    cases spelled with
    | bare denoted =>
        -- Digits begin with neither sign.
        obtain ⟨c, rest, rfl, digit⟩ := denoted.exists_cons
        rw [toInt?.eq_3, (toNat?_eq_some_iff _ _).2 denoted]
        · rfl
        all_goals
          intro _ equality
          cases equality
          exact absurd digit (by decide)
    | plus denoted =>
        rw [toInt?, (toNat?_eq_some_iff _ _).2 denoted]
        rfl
    | minus denoted =>
        rw [toInt?, (toNat?_eq_some_iff _ _).2 denoted]
        rfl

/-- No text spells two integers. -/
theorem Spells.unique
    {text : Text} {m n : Int} (first : Spells text m) (second : Spells text n) :
    m = n := by
  rw [← toInt?_eq_some_iff] at first second
  simpa [first] using second

end Kata.Text
