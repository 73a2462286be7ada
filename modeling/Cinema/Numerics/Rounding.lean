import Mathlib.Algebra.Order.Floor.Ring
import Mathlib.Algebra.Order.Field.Basic
import Mathlib.Tactic.Linarith
import Mathlib.Tactic.Ring

/-!
# Relative rounding errors

A rounded result is within a relative distance of the exact one.  Errors of
consecutive operations add up, scaling does not change them, and a result that
is closer than one half to an integer rounds to it.
-/

namespace Cinema.Numerics

variable {K : Type} [Field K] [LinearOrder K] [IsStrictOrderedRing K]
  {δ ε x y z : K}

/-- `y` is `x` with a relative error of at most `ε`. -/
def Within (ε x y : K) : Prop := |y - x| ≤ ε * |x|

/-- A rounded result is not much larger than the exact one. -/
theorem Within.abs_le (within : Within ε x y) : |y| ≤ (1 + ε) * |x| := by
  have triangle : |y| ≤ |y - x| + |x| := by
    simpa using abs_add_le (y - x) x
  calc |y| ≤ |y - x| + |x| := triangle
    _ ≤ ε * |x| + |x| := add_le_add_left within _
    _ = (1 + ε) * |x| := by ring

theorem Within.trans (first : Within δ x y) (second : Within ε y z)
    (nonneg : 0 ≤ ε) : Within (δ + ε * (1 + δ)) x z := by
  have triangle : |z - x| ≤ |z - y| + |y - x| := abs_sub_le z y x
  have bounded : ε * |y| ≤ ε * ((1 + δ) * |x|) :=
    mul_le_mul_of_nonneg_left first.abs_le nonneg
  calc |z - x| ≤ |z - y| + |y - x| := triangle
    _ ≤ ε * |y| + δ * |x| := add_le_add second first
    _ ≤ ε * ((1 + δ) * |x|) + δ * |x| := add_le_add_left bounded _
    _ = (δ + ε * (1 + δ)) * |x| := by ring

/-- An exact factor leaves the relative error as it is. -/
theorem Within.mul_const (within : Within ε x y) (factor : K) :
    Within ε (x * factor) (y * factor) := by
  have scaled := mul_le_mul_of_nonneg_right within (abs_nonneg factor)
  unfold Within
  rw [← sub_mul, abs_mul, abs_mul, ← mul_assoc]
  exact scaled

theorem Within.div_const (within : Within ε x y) (divisor : K) :
    Within ε (x / divisor) (y / divisor) := by
  rw [div_eq_mul_inv, div_eq_mul_inv]
  exact within.mul_const divisor⁻¹

/-- The absolute error of a result whose exact value is bounded. -/
theorem Within.abs_sub_lt (within : Within ε x y) {bound distance : K}
    (nonneg : 0 ≤ ε) (bounded : |x| ≤ bound) (small : ε * bound < distance) :
    |y - x| < distance :=
  calc |y - x| ≤ ε * |x| := within
    _ ≤ ε * bound := mul_le_mul_of_nonneg_left bounded nonneg
    _ < distance := small

variable [FloorRing K]

/-- Rounding to the nearest integer, seen from that integer. -/
theorem floor_add_half_eq {value : K} {nearest : ℤ}
    (near : |value - nearest| < 1 / 2) : ⌊value + 1 / 2⌋ = nearest := by
  obtain ⟨above, below⟩ := abs_lt.mp near
  rw [Int.floor_eq_iff]
  constructor
  · linarith
  · linarith

end Cinema.Numerics
