import Mathlib.Data.List.Basic
import Kata.Text.Basic

/-!
# The order of texts

Texts are ordered like their bytes in UTF-8: a character with a smaller code has bytes that come
earlier, whatever follows, and characters that agree take up the same bytes.
-/

namespace Kata.Text

/-! ## Bytes -/

/-- The bytes of a text in UTF-8. -/
def bytes (text : Text) : List UInt8 :=
  text.flatMap String.utf8EncodeChar

theorem byte_lt_iff
    {m n : Nat} (left : m < 256) (right : n < 256) :
    UInt8.ofNat m < UInt8.ofNat n ↔ m < n := by
  rw [UInt8.lt_iff_toNat_lt, UInt8.toNat_ofNat_of_lt' left, UInt8.toNat_ofNat_of_lt' right]

theorem byte_inj
    {m n : Nat} (left : m < 256) (right : n < 256) :
    UInt8.ofNat m = UInt8.ofNat n ↔ m = n := by
  rw [← UInt8.toNat_inj, UInt8.toNat_ofNat_of_lt' left, UInt8.toNat_ofNat_of_lt' right]

theorem exists_encoded
    (c : Char) :
    ∃ byte others, String.utf8EncodeChar c = byte :: others := by
  apply List.exists_cons_of_ne_nil
  rw [← List.length_pos_iff, String.length_utf8EncodeChar]
  exact c.utf8Size_pos

theorem code_lt
    (c : Char) :
    c.val.toNat < 0x110000 := by
  rcases c.valid with low | high
  · exact Nat.lt_trans low (by decide)
  · exact high.2

/-- The bytes of a character with a smaller code come earlier, whatever follows. -/
theorem encoded_lt_of_lt
    {a b : Char} (smaller : a.toNat < b.toNat) (left right : List UInt8) :
    String.utf8EncodeChar a ++ left < String.utf8EncodeChar b ++ right := by
  have ordered : a.val.toNat < b.val.toNat := smaller
  have bound := code_lt b
  simp only [String.utf8EncodeChar]
  generalize a.val.toNat = m at ordered
  generalize b.val.toNat = n at ordered bound
  -- Each byte but the first holds six bits, so the quotients are those by 64, again and again.
  have twice (k : Nat) : k / 4096 = k / 64 / 64 := by
    rw [Nat.div_div_eq_div_mul]
  have thrice (k : Nat) : k / 262144 = k / 64 / 64 / 64 := by
    rw [Nat.div_div_eq_div_mul, Nat.div_div_eq_div_mul]
  rw [twice m, twice n, thrice m, thrice n]
  clear twice thrice
  -- One case for each number of bytes on the left and each on the right.
  split <;> [skip; split <;> [skip; split]] <;> (split <;> [skip; split <;> [skip; split]])
  all_goals
    simp (disch := omega) only [List.cons_append, List.nil_append, List.cons_lt_cons_iff,
      byte_lt_iff, byte_inj]
    omega

/-! ## The order -/

/-- A text comes before another if and only if its bytes do. -/
theorem before_iff_bytes_le
    (left right : Text) :
    before left right = true ↔ bytes left ≤ bytes right := by
  suffices both :
      (before left right = true → bytes left ≤ bytes right) ∧
        (before left right = false → bytes right < bytes left) by
    constructor
    · exact both.1
    · intro le
      rw [← Bool.not_eq_false]
      exact fun behind => le (both.2 behind)
  fun_induction before left right with
  | case1 right =>
      exact ⟨fun _ => List.nil_le _, fun absurdity => absurd absurdity (by simp)⟩
  | case2 a left =>
      refine ⟨fun absurdity => absurd absurdity (by simp), fun _ => ?_⟩
      obtain ⟨byte, others, encoded⟩ := exists_encoded a
      rw [bytes, bytes, List.flatMap_cons, encoded, List.cons_append, List.flatMap_nil]
      exact List.nil_lt_cons _ _
  | case3 left a right inductionHypothesis =>
      simp only [bytes, List.flatMap_cons] at inductionHypothesis ⊢
      exact ⟨fun earlier => List.append_left_le (inductionHypothesis.1 earlier),
        fun later => List.append_left_lt (inductionHypothesis.2 later)⟩
  | case4 a left b right different =>
      simp only [bytes, List.flatMap_cons, decide_eq_true_eq, decide_eq_false_iff_not]
      constructor
      · intro smaller
        exact List.le_of_lt (encoded_lt_of_lt smaller _ _)
      · intro notSmaller
        have distinct : a.toNat ≠ b.toNat := fun same => different (Char.toNat_inj.1 same)
        exact encoded_lt_of_lt (by omega) _ _

theorem before_antisymm
    {left right : Text} (forth : before left right = true) (back : before right left = true) :
    left = right := by
  fun_induction before left right with
  | case1 right =>
      cases right with
      | nil => rfl
      | cons b right => exact absurd back (by simp [before])
  | case2 a left => exact absurd forth (by simp)
  | case3 left a right inductionHypothesis =>
      rw [before, if_pos rfl] at back
      rw [inductionHypothesis forth back]
  | case4 a left b right different =>
      rw [before, if_neg (Ne.symm different)] at back
      have forward := of_decide_eq_true forth
      have backward := of_decide_eq_true back
      omega

/-- Of two different texts, the one that comes first has the smaller bytes. -/
theorem bytes_lt_of_before
    {left right : Text} (forth : before left right = true) (different : left ≠ right) :
    bytes left < bytes right := by
  by_contra notLess
  have back := (before_iff_bytes_le right left).2 notLess
  exact different (before_antisymm forth back)

theorem before_trans
    (left middle right : Text) (first : before left middle = true)
    (second : before middle right = true) :
    before left right = true := by
  rw [before_iff_bytes_le] at first second ⊢
  exact List.le_trans first second

theorem before_total
    (left right : Text) :
    (before left right || before right left) = true := by
  rw [Bool.or_eq_true, before_iff_bytes_le, before_iff_bytes_le]
  exact List.le_total _ _

end Kata.Text
