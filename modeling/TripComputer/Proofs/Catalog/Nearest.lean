import Mathlib.Algebra.Order.Ring.Abs
import Mathlib.Tactic.Linarith
import Mathlib.Tactic.Ring
import TripComputer.Proofs.Catalog.Rounding

/-!
# Quotients to the nearest whole number

`nearest` is the quotient that the subroutines are after, in whole numbers of any size.  They
answer with it where the divisor is positive and the product fits in a word, and it is off the
true quotient by at most a half.
-/

namespace TripComputer.Catalog

/-- A quotient to the nearest whole number, upwards from halfway. -/
def nearest (dividend divisor : Nat) : Nat :=
  (2 * dividend + divisor) / (2 * divisor)

variable {dividend divisor : Nat}

theorem rounded_eq_nearest (positive : 0 < divisor) :
    rounded dividend divisor = nearest dividend divisor :=
  if_neg (Nat.ne_of_gt positive)

theorem scaled_eq_nearest {value factor : Nat} (positive : 0 < divisor)
    (fits : value * factor < 2 ^ 64) :
    scaled value factor divisor = nearest (value * factor) divisor := by
  rw [scaled, Nat.mod_eq_of_lt fits, rounded_eq_nearest positive]

theorem nearest_le (dividend divisor : Nat) : nearest dividend divisor ≤ dividend := by
  rcases Nat.eq_zero_or_pos divisor with rfl | positive
  · simp [nearest]
  · rw [nearest, ← Nat.lt_succ_iff, Nat.div_lt_iff_lt_mul (by omega)]
    have grown : dividend * 1 ≤ dividend * divisor := Nat.mul_le_mul_left _ positive
    calc 2 * dividend + divisor < 2 * (dividend * divisor) + 2 * divisor := by omega
      _ = (dividend + 1) * (2 * divisor) := by ring

/-- The nearest whole number is off by at most a half, in units of the divisor. -/
theorem nearest_error (dividend : Nat) (positive : 0 < divisor) :
    2 * |(nearest dividend divisor * divisor - dividend : Int)| ≤ divisor := by
  have whole := Nat.div_add_mod (2 * dividend + divisor) (2 * divisor)
  have rest := Nat.mod_lt (2 * dividend + divisor) (show 0 < 2 * divisor by omega)
  have quotient : 2 * divisor * nearest dividend divisor =
      2 * (nearest dividend divisor * divisor) := by ring
  rw [← nearest, quotient] at whole
  have upper : 2 * (nearest dividend divisor * divisor : Int) ≤ 2 * dividend + divisor := by
    exact_mod_cast Nat.le.intro whole
  have lower : 2 * (dividend : Int) + divisor <
      2 * (nearest dividend divisor * divisor) + 2 * divisor := by
    exact_mod_cast (show 2 * dividend + divisor <
      2 * (nearest dividend divisor * divisor) + 2 * divisor by omega)
  rw [← abs_two, ← abs_mul, abs_le]
  constructor <;> linarith

end TripComputer.Catalog
