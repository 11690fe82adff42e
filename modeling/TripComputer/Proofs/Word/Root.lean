import Mathlib.Algebra.Group.Nat.Defs
import Mathlib.Data.Nat.Sqrt
import TripComputer.Word

/-!
# The square root of a word

The root is found digit by digit in base two.  At every place the root so far is at most the one
that is sought, and less than a unit of that place below it, so that the last place leaves the
largest number whose square is at most the value.
-/

namespace TripComputer.Word

theorem extendRoot_spec {value places root : Nat} (below : root * root ≤ value)
    (above : value < (root + 2 ^ places) * (root + 2 ^ places)) :
    extendRoot value places root * extendRoot value places root ≤ value ∧
      value < (extendRoot value places root + 1) * (extendRoot value places root + 1) := by
  induction places generalizing root with
  | zero => exact ⟨below, above⟩
  | succ places induction =>
      have halves : root + 2 ^ (places + 1) = root + 2 ^ places + 2 ^ places := by
        rw [Nat.pow_succ]
        omega
      rw [halves] at above
      simp only [extendRoot, Nat.shiftLeft_eq, Nat.one_mul]
      split
      case isTrue fits => exact induction fits above
      case isFalse exceeds => exact induction below (Nat.lt_of_not_le exceeds)

theorem floorRoot_eq_sqrt (value : Nat) : floorRoot value = Nat.sqrt value := by
  -- there are enough places for half of the binary digits of the value
  have digits : value.log2 + 1 ≤ (value.log2 / 2 + 1) + (value.log2 / 2 + 1) := by omega
  have above : value < (0 + 2 ^ (value.log2 / 2 + 1)) * (0 + 2 ^ (value.log2 / 2 + 1)) :=
    calc
      value < 2 ^ (value.log2 + 1) := Nat.lt_log2_self
      _ ≤ 2 ^ ((value.log2 / 2 + 1) + (value.log2 / 2 + 1)) :=
        Nat.pow_le_pow_right Nat.two_pos digits
      _ = (0 + 2 ^ (value.log2 / 2 + 1)) * (0 + 2 ^ (value.log2 / 2 + 1)) := by
        rw [Nat.zero_add, Nat.pow_add]
  exact Nat.eq_sqrt.mpr (extendRoot_spec (Nat.zero_le value) above)

/-- The root of the widest value takes twenty-two binary digits. -/
theorem sqrt_scaled_lt (value : Nat) : Nat.sqrt (min value 0xFFFFFFFF * 4096) < 2 ^ 22 := by
  apply Nat.sqrt_lt.mpr
  have narrow : min value 0xFFFFFFFF ≤ 0xFFFFFFFF := Nat.min_le_right _ _
  omega

theorem toNat_rootQ12 (word : UInt64) :
    (rootQ12 word).toNat = Nat.sqrt (min word.toNat 0xFFFFFFFF * 4096) := by
  rw [rootQ12, floorRoot_eq_sqrt]
  exact Nat.mod_eq_of_lt (Nat.lt_trans (sqrt_scaled_lt word.toNat) (by decide))

end TripComputer.Word
