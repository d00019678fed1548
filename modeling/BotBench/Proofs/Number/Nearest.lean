import BotBench.Number.Binary64
import Mathlib.Algebra.Order.Field.Basic
import Mathlib.Algebra.Order.Ring.Abs
import Mathlib.Data.Rat.Cast.Order
import Mathlib.Tactic.Linarith

/-! # Rounding to decimals

Rounding to decimals goes to the nearest one, and between two to the one with an even last digit
(`BotBench.Number.roundDecimals_of_nonneg`). A value therefore never passes a bound that is a
decimal itself, but it may reach one from below (`BotBench.Number.IsNearest.even_le_iff`). -/

namespace BotBench.Number

/-- A whole number that lies nearest to a value; of two it is the even one. -/
structure IsNearest (count : ℕ) (value : ℚ) : Prop where
  near : |(count : ℚ) - value| ≤ 1 / 2
  even : |(count : ℚ) - value| = 1 / 2 → Even count

variable {count bound numerator denominator : ℕ} {value : ℚ}

/-- Rounding does not pass a whole number downwards. -/
theorem IsNearest.le_of_le (nearest : IsNearest count value) (above : (bound : ℚ) ≤ value) :
    bound ≤ count := by
  have near := (abs_le.mp nearest.near).1
  have above' : (bound : ℚ) < count + 1 := by linarith
  exact Nat.lt_succ_iff.mp (by exact_mod_cast above')

/-- Rounding does not pass a whole number upwards. -/
theorem IsNearest.ge_of_ge (nearest : IsNearest count value) (below : value ≤ bound) :
    count ≤ bound := by
  have near := (abs_le.mp nearest.near).2
  have below' : (count : ℚ) < bound + 1 := by linarith
  exact Nat.lt_succ_iff.mp (by exact_mod_cast below')

/-- An even number is reached from one half below it on. -/
theorem IsNearest.even_le_iff (nearest : IsNearest count value) (even : Even bound) :
    bound ≤ count ↔ (bound : ℚ) - 1 / 2 ≤ value := by
  have near := abs_le.mp nearest.near
  constructor
  · intro reached
    have reached : (bound : ℚ) ≤ count := by exact_mod_cast reached
    linarith [near.2]
  · intro close
    by_contra missed
    -- the value would lie half way between the number and the odd one before it
    have below : count + 1 ≤ bound := by omega
    have below' : (count : ℚ) + 1 ≤ bound := by exact_mod_cast below
    have half : (count : ℚ) - value = -(1 / 2) := by linarith [near.1]
    have next : (count : ℚ) + 1 = bound := by linarith
    have isNext : count + 1 = bound := by exact_mod_cast next
    have countEven := nearest.even (by rw [half, abs_neg, abs_of_pos (by norm_num)])
    rw [← isNext] at even
    exact (Nat.even_add_one.mp even) countEven

theorem isNearest_of_lt (near : |(count : ℚ) - value| < 1 / 2) : IsNearest count value where
  near := near.le
  even half := absurd half near.ne

/-- **A quotient is rounded to the nearest whole number**, a half to the even one. -/
theorem isNearest_roundQuotient (numerator : ℕ) (positive : 0 < denominator) :
    IsNearest (roundQuotient numerator denominator) (numerator / denominator) := by
  have positive' : (0 : ℚ) < denominator := by exact_mod_cast positive
  have small := Nat.mod_lt numerator positive
  have split : (numerator : ℚ) / denominator = ↑(numerator / denominator) +
      ↑(numerator % denominator) / denominator := by
    rw [div_eq_iff positive'.ne', add_mul, div_mul_cancel₀ _ positive'.ne', mul_comm]
    exact_mod_cast (Nat.div_add_mod numerator denominator).symm
  rw [split]
  unfold roundQuotient
  dsimp only
  generalize numerator / denominator = quotient
  generalize numerator % denominator = remainder at small
  have nonneg : (0 : ℚ) ≤ remainder / denominator := by positivity
  have proper : (remainder : ℚ) / denominator < 1 := by
    rw [div_lt_one positive']
    exact_mod_cast small
  split_ifs with low high even
  · -- the fraction is less than a half
    have fraction : (remainder : ℚ) / denominator < 1 / 2 := by
      rw [div_lt_iff₀ positive']
      have low' : (2 : ℚ) * remainder < denominator := by exact_mod_cast low
      linarith
    refine isNearest_of_lt (abs_lt.mpr ⟨?_, ?_⟩) <;> linarith
  · have fraction : 1 / 2 < (remainder : ℚ) / denominator := by
      rw [lt_div_iff₀ positive']
      have high' : (denominator : ℚ) < 2 * remainder := by exact_mod_cast high
      linarith
    refine isNearest_of_lt (abs_lt.mpr ⟨?_, ?_⟩) <;> push_cast <;> linarith
  all_goals
    have fraction : (remainder : ℚ) / denominator = 1 / 2 := by
      rw [div_eq_iff positive'.ne']
      have half : (2 : ℚ) * remainder = denominator := by exact_mod_cast (by omega)
      linarith
    rw [fraction]
  · refine ⟨by rw [abs_le]; constructor <;> linarith, fun _ => ?_⟩
    exact Nat.even_iff.mpr (beq_iff_eq.mp even)
  · refine ⟨by rw [abs_le]; push_cast; constructor <;> linarith, fun _ => ?_⟩
    exact Nat.even_add_one.mpr fun isEven => even (beq_iff_eq.mpr (Nat.even_iff.mp isEven))

/-- **A value is rounded to the nearest decimal**, a half to the one with an even last digit. -/
theorem roundDecimals_of_nonneg (places : ℕ) (nonneg : 0 ≤ value) :
    ∃ count : ℕ, roundDecimals places value = count / 10 ^ places ∧
      IsNearest count (10 ^ places * value) := by
  have numerator : (value.num.natAbs : ℚ) = value.num := by
    rw [← Int.cast_natCast, Int.natAbs_of_nonneg (Rat.num_nonneg.mpr nonneg)]
  have power : ((tenTo places : ℕ) : ℚ) = 10 ^ places := by simp [tenTo]
  have nearest := isNearest_roundQuotient (value.num.natAbs * tenTo places) value.den_pos
  have scaled : (↑(value.num.natAbs * tenTo places) : ℚ) / value.den = 10 ^ places * value := by
    push_cast
    rw [numerator, power, mul_comm, mul_div_assoc, Rat.num_div_den]
  rw [scaled] at nearest
  refine ⟨_, ?_, nearest⟩
  unfold roundDecimals
  dsimp only
  rw [if_neg (not_lt.mpr (Rat.num_nonneg.mpr nonneg)), Rat.mkRat_eq_div, ← power]
  rfl

end BotBench.Number
