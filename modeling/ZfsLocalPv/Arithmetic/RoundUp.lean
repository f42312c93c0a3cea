import Mathlib.Data.Int.Init
import Mathlib.Algebra.Order.Ring.Int

/-!
# Rounding up to a multiple

The least multiple of a positive unit that is not below a value, computed by adding one less than
the unit and dividing.
-/

namespace ZfsLocalPv.Arithmetic

/-- The least multiple of `unit` not below `value`. -/
def roundUp (unit value : Int) : Int :=
  (value + unit - 1) / unit * unit

variable {unit value : Int}

theorem dvd_roundUp (unit value : Int) : unit ∣ roundUp unit value :=
  Int.dvd_mul_left _ _

theorem le_roundUp (positive : 0 < unit) : value ≤ roundUp unit value := by
  have split := Int.mul_ediv_add_emod (value + unit - 1) unit
  have rest := Int.emod_lt_of_pos (value + unit - 1) positive
  rw [roundUp, Int.mul_comm]
  omega

theorem roundUp_le (positive : 0 < unit) {bound : Int} (multiple : unit ∣ bound)
    (above : value ≤ bound) : roundUp unit value ≤ bound := by
  obtain ⟨count, rfl⟩ := multiple
  have close : (value + unit - 1) / unit < count + 1 := by
    apply Int.ediv_lt_of_lt_mul positive
    rw [Int.add_mul, Int.one_mul, Int.mul_comm count]
    omega
  rw [roundUp, Int.mul_comm unit]
  exact Int.mul_le_mul_of_nonneg_right (Int.lt_add_one_iff.mp close) positive.le

/-- Truncated division does the same above zero. -/
theorem tdiv_mul_eq_roundUp (positive : 0 < unit) (nonneg : 0 < value) :
    (value + unit - 1).tdiv unit * unit = roundUp unit value := by
  rw [Int.tdiv_eq_ediv_of_nonneg (by omega), roundUp]

end ZfsLocalPv.Arithmetic
