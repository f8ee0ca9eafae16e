import Kata.Value.Basic
import Kata.Text.Word

/-!
# Written integers

An integer is written in its decimal digits, without zeros ahead of them, and behind a minus sign
if it is negative. Reading the digits gives the integer back.
-/

namespace Kata.Text

/-! ## Characters -/

theorem isDigit_iff_toNat
    (c : Char) :
    c.isDigit = true ↔ 48 ≤ c.toNat ∧ c.toNat ≤ 57 := by
  simp only [Char.isDigit, Bool.and_eq_true, decide_eq_true_eq, ge_iff_le]
  exact Iff.rfl

/-- What holds of the digits `0` to `9` holds of each of them. -/
@[elab_as_elim]
theorem forall_isDigit
    {property : Char → Prop} (each : ∀ n < 10, property (Char.ofNat (48 + n))) (c : Char)
    (digit : c.isDigit = true) :
    property c := by
  have bounds := (isDigit_iff_toNat c).1 digit
  have code : 48 + (c.toNat - 48) = c.toNat := by omega
  have here := each (c.toNat - 48) (by omega)
  rwa [code, Char.ofNat_toNat] at here

/-- A digit `0` to `9` is a digit of some script. -/
theorem isAnyDigit_of_isDigit
    {c : Char} (digit : c.isDigit = true) :
    isAnyDigit c = true :=
  forall_isDigit (by decide) c digit

/-! ## Natural numbers -/

theorem digitsValue_eq_ofDigitChars
    (digits : Text) :
    digitsValue digits = Nat.ofDigitChars 10 digits 0 :=
  rfl

theorem ofNat_ne_nil
    (n : Nat) :
    ofNat n ≠ [] :=
  Nat.toDigits_ne_nil

theorem isDigit_of_mem_ofNat
    {n : Nat} {c : Char} (member : c ∈ ofNat n) :
    c.isDigit = true :=
  Nat.isDigit_of_mem_toDigits (by decide) (by decide) member

/-- The digits of a number denote it. -/
theorem digitsValue_ofNat
    (n : Nat) :
    digitsValue (ofNat n) = n := by
  rw [digitsValue_eq_ofDigitChars]
  exact Nat.ofDigitChars_ten_toDigits

/-- Only the number zero is written with a zero ahead. -/
theorem ofNat_eq_zero_cons
    (n : Nat) :
    ∀ {rest : Text}, ofNat n = '0' :: rest → n = 0 ∧ rest = [] := by
  induction n using Nat.strongRecOn with
  | ind n inductionHypothesis =>
      intro rest written
      rw [ofNat, Nat.toDigits_eq_if (by decide)] at written
      split at written
      · next small =>
        injection written with headEqual restEqual
        refine ⟨?_, restEqual.symm⟩
        have headValue := Nat.toNat_digitChar_of_lt_ten small
        rw [headEqual] at headValue
        have zeroValue : '0'.toNat = 48 := rfl
        omega
      · next large =>
        cases ahead : Nat.toDigits 10 (n / 10) with
        | nil => exact absurd ahead Nat.toDigits_ne_nil
        | cons first others =>
            rw [ahead, List.cons_append] at written
            injection written with firstEqual _
            subst firstEqual
            have smaller := inductionHypothesis (n / 10) (by omega) ahead
            omega

theorem toNat?_ofNat
    (n : Nat) :
    toNat? (ofNat n) = some n := by
  have allDigits : (ofNat n).all Char.isDigit = true :=
    List.all_eq_true.2 fun c member => isDigit_of_mem_ofNat member
  rw [toNat?, if_pos ⟨ofNat_ne_nil n, allDigits⟩, digitsValue_ofNat]

/-! ## Integers -/

/-- Digits begin neither with a minus nor with a plus sign. -/
theorem ofNat_ne_cons
    {n : Nat} {c : Char} {rest : Text} (different : c.isDigit = false) :
    ofNat n ≠ c :: rest := by
  intro written
  have member : c ∈ ofNat n := by
    rw [written]
    exact List.mem_cons_self
  rw [isDigit_of_mem_ofNat member] at different
  exact Bool.noConfusion different

theorem toInt?_ofInt
    (n : Int) :
    toInt? (ofInt n) = some n := by
  cases n with
  | ofNat n =>
      rw [ofInt, toInt?.eq_def]
      split
      · next written => exact absurd written (ofNat_ne_cons (by decide))
      · next written => exact absurd written (ofNat_ne_cons (by decide))
      · rw [toNat?_ofNat]
        rfl
  | negSucc n =>
      rw [ofInt, toInt?, toNat?_ofNat]
      rfl

theorem ofInt_ne_nil
    (n : Int) :
    ofInt n ≠ [] := by
  cases n with
  | ofNat n => exact ofNat_ne_nil n
  | negSucc n => exact List.cons_ne_nil _ _

end Kata.Text

namespace Kata.Value

/-! ## Integers of 64 bits -/

/-- An integer of 64 bits fits into 64 bits. -/
theorem word?_toInt
    (n : Int64) :
    word? n.toInt = some n := by
  have fits : Int64.minValue.toInt ≤ n.toInt ∧ n.toInt ≤ Int64.maxValue.toInt :=
    ⟨Int64.minValue_le_toInt n, Int64.toInt_le n⟩
  rw [word?, if_pos fits, Int64.ofInt_toInt]

/-- Reading a written integer of 64 bits gives it back. -/
theorem readWord?_ofInt
    (n : Int64) :
    readWord? (Text.ofInt n.toInt) = some n := by
  rw [readWord?, Text.toInt?_ofInt, Option.bind_some, word?_toInt]

end Kata.Value
