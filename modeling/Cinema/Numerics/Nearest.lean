import Mathlib.Data.Int.Log
import Cinema.Numerics.Rounding

/-!
# Binary rounding to the nearest

A number is rounded to a fixed count of binary digits: it is scaled so that
this many digits stand before the point, rounded to an integer, with ties to
the even one, and scaled back.  The exponent is not bounded.
-/

namespace Cinema.Numerics

variable {K : Type} [Field K] [LinearOrder K] [IsStrictOrderedRing K]
  [FloorRing K]

/-- The nearest integer, of two equally near ones the even one. -/
def roundEven (value : K) : ℤ :=
  if Int.fract value < 1 / 2 then ⌊value⌋
  else if 1 / 2 < Int.fract value then ⌊value⌋ + 1
  else if ⌊value⌋ % 2 = 0 then ⌊value⌋
  else ⌊value⌋ + 1

theorem abs_roundEven_sub_le (value : K) :
    |(roundEven value : K) - value| ≤ 1 / 2 := by
  have parts := Int.floor_add_fract value
  have nonneg := Int.fract_nonneg value
  have below := Int.fract_lt_one value
  unfold roundEven
  split_ifs with low high even <;> rw [abs_le] <;> push_cast
  · constructor <;> linarith
  · constructor <;> linarith
  · constructor <;> linarith
  · constructor <;> linarith

/-- The place value of the last of the digits of a number. -/
def lastPlace (digits : ℕ) (value : K) : K :=
  2 ^ (Int.log 2 |value| + 1 - digits)

def toNearest (digits : ℕ) (value : K) : K :=
  roundEven (value / lastPlace digits value) * lastPlace digits value

theorem lastPlace_pos (digits : ℕ) (value : K) : 0 < lastPlace digits value :=
  zpow_pos two_pos _

/-- Half of the last place is small against the number. -/
theorem half_lastPlace_le (digits : ℕ) {value : K} (nonzero : value ≠ 0) :
    1 / 2 * lastPlace digits value ≤ 1 / 2 ^ digits * |value| := by
  have leading : (2 : K) ^ Int.log 2 |value| ≤ |value| := by
    exact_mod_cast Int.zpow_log_le_self one_lt_two (abs_pos.mpr nonzero)
  have split : (1 : K) / 2 * lastPlace digits value =
      1 / 2 ^ digits * 2 ^ Int.log 2 |value| := by
    rw [lastPlace, zpow_sub₀ two_ne_zero, zpow_add₀ two_ne_zero, zpow_one,
      zpow_natCast]
    field_simp
  rw [split]
  exact mul_le_mul_of_nonneg_left leading (by positivity)

/-- Rounding errs by at most one part in `2 ^ digits`. -/
theorem toNearest_within (digits : ℕ) (value : K) :
    Within (1 / 2 ^ digits) value (toNearest digits value) := by
  by_cases nonzero : value ≠ 0
  · have positive := lastPlace_pos digits value
    have scaled : toNearest digits value - value =
        (roundEven (value / lastPlace digits value) -
          value / lastPlace digits value) * lastPlace digits value := by
      rw [toNearest, sub_mul, div_mul_cancel₀ _ positive.ne']
    calc |toNearest digits value - value|
        = |(roundEven (value / lastPlace digits value) : K) -
            value / lastPlace digits value| * lastPlace digits value := by
          rw [scaled, abs_mul, abs_of_pos positive]
      _ ≤ 1 / 2 * lastPlace digits value :=
          mul_le_mul_of_nonneg_right (abs_roundEven_sub_le _) positive.le
      _ ≤ 1 / 2 ^ digits * |value| := half_lastPlace_le digits nonzero
  · rw [not_not.mp nonzero]
    simp [Within, toNearest, roundEven]

end Cinema.Numerics
