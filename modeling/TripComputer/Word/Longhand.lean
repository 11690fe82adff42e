import TripComputer.Word

/-!
# Longhand multiplication and division

The two algorithms that the primitive arithmetic of the catalog spells out as programs,
stated once on words: shift-and-add multiplication and restoring long division.  They use
only the additions, comparisons and one-place shifts of `Word`.
-/

namespace TripComputer.Word

theorem toNat_pos {x : UInt64} (nonzero : x ≠ 0) : 0 < x.toNat := by
  rcases Nat.eq_zero_or_pos x.toNat with zero | positive
  · exact absurd (UInt64.toNat_inj.mp (by simpa using zero)) nonzero
  · exact positive

theorem toNat_shiftRight_lt {x : UInt64} (nonzero : x ≠ 0) : (shiftRight x).toNat < x.toNat := by
  have positive := toNat_pos nonzero
  have halved : (shiftRight x).toNat = x.toNat / 2 := by
    simp [shiftRight, UInt64.toNat_shiftRight, Nat.shiftRight_eq_div_pow]
  omega

theorem toNat_shiftLeft_of_not_hasTopBit {x : UInt64} (clear : hasTopBit x = false) :
    (shiftLeft x).toNat = 2 * x.toNat := by
  have small : x.toNat / 2 ^ 63 = 0 := by
    have shifted : x >>> 63 = 0 := by simpa [hasTopBit] using clear
    have quotient := congrArg UInt64.toNat shifted
    simpa [UInt64.toNat_shiftRight, Nat.shiftRight_eq_div_pow] using quotient
  have doubled : (shiftLeft x).toNat = x.toNat * 2 % 2 ^ 64 := by
    simp [shiftLeft, UInt64.toNat_shiftLeft, Nat.shiftLeft_eq]
  omega

/-- Adds the shifted multiplicand to `sum` for every set bit of the multiplier. -/
def accumulate (sum multiplicand multiplier : UInt64) : UInt64 :=
  if multiplier = 0 then sum
  else
    accumulate (if isOdd multiplier then add sum multiplicand else sum)
      (shiftLeft multiplicand) (shiftRight multiplier)
termination_by multiplier.toNat
decreasing_by exact toNat_shiftRight_lt (by assumption)

/-- Product by shifting and adding. -/
def multiplyLonghand (multiplicand multiplier : UInt64) : UInt64 :=
  accumulate 0 multiplicand multiplier

/-- Shifts a divisor and the marker of the quotient bit under work to the left until the
divisor's top bit is set.  A zero divisor has no such bit and is left alone. -/
def normalize (divisor marker : UInt64) : UInt64 × UInt64 :=
  if divisor = 0 ∨ hasTopBit divisor = true then (divisor, marker)
  else normalize (shiftLeft divisor) (shiftLeft marker)
termination_by 0x10000000000000000 - divisor.toNat
decreasing_by
  rename_i pending
  simp only [not_or, Bool.not_eq_true] at pending
  have doubled := toNat_shiftLeft_of_not_hasTopBit pending.2
  have bound := (shiftLeft divisor).toNat_lt
  have positive := toNat_pos pending.1
  omega

/-- Subtracts the divisor wherever it fits, from the marked quotient bit down to the
lowest, and collects the markers of the places where it did. -/
def reduce (divisor marker quotient remainder : UInt64) : UInt64 × UInt64 :=
  if marker = 0 then (quotient, remainder)
  else if atMost divisor remainder then
    reduce (shiftRight divisor) (shiftRight marker) (add quotient marker)
      (subtract remainder divisor)
  else reduce (shiftRight divisor) (shiftRight marker) quotient remainder
termination_by marker.toNat
decreasing_by
  all_goals exact toNat_shiftRight_lt (by assumption)

/-- Quotient and remainder by restoring long division, with the answers of `divide` for a
zero dividend and for a zero divisor. -/
def divideLonghand (dividend divisor : UInt64) : UInt64 × UInt64 :=
  if dividend = 0 then (0, 0)
  else if divisor = 0 then (subtract 0 1, dividend)
  else
    let (normalized, marker) := normalize divisor 1
    reduce normalized marker 0 dividend

end TripComputer.Word
