import Mathlib.Algebra.Group.Nat.Defs
import Kata.Settings.Basic

/-!
# Delays between attempts

The delay ahead of an attempt doubles with each of the first 32 attempts until it reaches the
greatest delay. The doubled initial delay may not fit 64 bits, but then it exceeds the greatest
delay, which does: the delay is what unbounded numbers give for any two words of 64 bits, whether
the settings are valid or not.
-/

namespace Kata.Settings.Polling

variable (polling : Polling)

/-- The delay as a number. That the product is cut off at 64 bits makes no difference ahead of the
greatest delay. -/
theorem toNat_delay
    (attempt : UInt32) :
    (polling.delay attempt).toNat =
      min (polling.initialDelay.toNat * 2 ^ min attempt.toNat 32) polling.maxDelay.toNat := by
  have maxFits : polling.maxDelay.toNat < UInt64.size := UInt64.toNat_lt polling.maxDelay
  have cappedFits :
      min (min (polling.initialDelay.toNat <<< min attempt.toNat 32) (UInt64.size - 1))
          polling.maxDelay.toNat <
        UInt64.size := by
    omega
  rw [delay, UInt64.toNat_ofNat_of_lt' cappedFits, Nat.shiftLeft_eq]
  omega

theorem toNat_delay_zero :
    (polling.delay 0).toNat = min polling.initialDelay.toNat polling.maxDelay.toNat := by
  rw [toNat_delay, UInt32.toNat_zero, Nat.zero_min, Nat.pow_zero, Nat.mul_one]

/-- One further attempt: the delay is doubled and capped again, 32 times at most. -/
theorem toNat_delay_succ
    {attempt : UInt32} (fits : attempt.toNat + 1 < UInt32.size) :
    (polling.delay (attempt + 1)).toNat =
      if attempt.toNat < 32 then min (2 * (polling.delay attempt).toNat) polling.maxDelay.toNat
      else (polling.delay attempt).toNat := by
  have next : (attempt + 1).toNat = attempt.toNat + 1 := by
    rw [UInt32.toNat_add, UInt32.toNat_one]
    exact Nat.mod_eq_of_lt fits
  rw [toNat_delay, toNat_delay, next]
  by_cases early : attempt.toNat < 32
  · have doubled :
        polling.initialDelay.toNat * 2 ^ (attempt.toNat + 1) =
          2 * (polling.initialDelay.toNat * 2 ^ attempt.toNat) := by
      rw [Nat.pow_succ, ← Nat.mul_assoc, Nat.mul_comm]
    have here : min attempt.toNat 32 = attempt.toNat := by omega
    have there : min (attempt.toNat + 1) 32 = attempt.toNat + 1 := by omega
    rw [if_pos early, here, there, doubled]
    omega
  · have here : min attempt.toNat 32 = 32 := by omega
    have there : min (attempt.toNat + 1) 32 = 32 := by omega
    rw [if_neg early, here, there]

theorem delay_le_maxDelay
    (attempt : UInt32) :
    polling.delay attempt ≤ polling.maxDelay := by
  rw [UInt64.le_iff_toNat_le, toNat_delay]
  exact Nat.min_le_right _ _

theorem delay_le_delay
    {early late : UInt32} (ordered : early ≤ late) :
    polling.delay early ≤ polling.delay late := by
  rw [UInt32.le_iff_toNat_le] at ordered
  have exponents : min early.toNat 32 ≤ min late.toNat 32 := by omega
  have products :
      polling.initialDelay.toNat * 2 ^ min early.toNat 32 ≤
        polling.initialDelay.toNat * 2 ^ min late.toNat 32 := by
    apply Nat.mul_le_mul_left
    exact Nat.pow_le_pow_right Nat.two_pos exponents
  rw [UInt64.le_iff_toNat_le, toNat_delay, toNat_delay]
  omega

/-- From the initial delay on, capped doubling in unbounded numbers: the first 32 attempts double
the delay, later ones leave it as it is. So it never falls, never exceeds the greatest delay, and is
the true product wherever that is below. -/
theorem delays_are_capped_doublings :
    (polling.delay 0).toNat = min polling.initialDelay.toNat polling.maxDelay.toNat ∧
      (∀ attempt : UInt32,
        attempt.toNat + 1 < UInt32.size →
          (polling.delay (attempt + 1)).toNat =
            if attempt.toNat < 32 then
              min (2 * (polling.delay attempt).toNat) polling.maxDelay.toNat
            else (polling.delay attempt).toNat) ∧
        (∀ early late : UInt32, early ≤ late → polling.delay early ≤ polling.delay late) ∧
          (∀ attempt : UInt32, polling.delay attempt ≤ polling.maxDelay) ∧
            ∀ attempt : UInt32,
              (polling.delay attempt).toNat =
                min (polling.initialDelay.toNat * 2 ^ min attempt.toNat 32)
                  polling.maxDelay.toNat := by
  refine ⟨polling.toNat_delay_zero, ?_, ?_, polling.delay_le_maxDelay, polling.toNat_delay⟩
  · intro attempt fits
    exact polling.toNat_delay_succ fits
  · intro early late ordered
    exact polling.delay_le_delay ordered

/-- An initial delay that does not fit 64 bits when doubled, below the greatest delay there is. -/
def overflowing : Polling := ⟨1, 9223372036854775809, 18446744073709551615⟩

/-- Its first doubling gives the greatest delay and not the two milliseconds that are left of the
product in 64 bits; and the last attempt of all, far behind the doublings, has the delay of the one
ahead of it. -/
theorem delays_are_capped_doublings_overflowing :
    ((0 : UInt32).toNat + 1 < UInt32.size ∧
        overflowing.initialDelay * 2 = 2 ∧
          (overflowing.delay (0 + 1)).toNat = 18446744073709551615) ∧
      ((4294967294 : UInt32).toNat + 1 < UInt32.size ∧
        (overflowing.delay (4294967294 + 1)).toNat = (overflowing.delay 4294967294).toNat) ∧
        (31 : UInt32) ≤ 4294967295 ∧ overflowing.delay 31 ≤ overflowing.delay 4294967295 := by
  obtain ⟨first, further, ordered, _, _⟩ := overflowing.delays_are_capped_doublings
  have late : overflowing.delay 31 ≤ overflowing.delay 4294967295 :=
    ordered 31 4294967295 (by decide)
  refine ⟨⟨by decide, by decide, ?_⟩, ⟨by decide, ?_⟩, by decide, late⟩
  · rw [further 0 (by decide), if_pos (by decide), first]
    decide
  · rw [further 4294967294 (by decide), if_neg (by decide)]

end Kata.Settings.Polling
