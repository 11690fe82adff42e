import TripComputer.Proofs.Word.Arithmetic

/-!
# Longhand arithmetic is arithmetic

Shift-and-add multiplication keeps `sum + multiplicand * multiplier` the same from step to
step.  Restoring division keeps the divisor a power of two times the one it started from,
with the marker at that power, and the rest below twice the divisor under work.
-/

namespace TripComputer.Word

theorem halves (x : UInt64) :
    x = shiftRight x + shiftRight x + (if isOdd x then 1 else 0) := by
  have half := toNat_shiftRight x
  have bound := x.toNat_lt
  apply UInt64.toNat_inj.mp
  by_cases odd : isOdd x = true
  · have remainder := (isOdd_iff x).mp odd
    simp [odd, half]
    omega
  · have remainder : x.toNat % 2 ≠ 1 := fun equal => odd ((isOdd_iff x).mpr equal)
    simp [odd, half]
    omega

theorem accumulate_eq (sum multiplicand multiplier : UInt64) :
    accumulate sum multiplicand multiplier = sum + multiplicand * multiplier := by
  induction sum, multiplicand, multiplier using accumulate.induct with
  | case1 sum multiplicand => simp [accumulate]
  | case2 sum multiplicand multiplier nonzero induction =>
      simp only [dite_eq_ite] at induction
      rw [accumulate, if_neg nonzero, induction, add_eq, shiftLeft_eq]
      have split := halves multiplier
      generalize shiftRight multiplier = half at split ⊢
      by_cases odd : isOdd multiplier = true
      · rw [if_pos odd] at split ⊢
        rw [split]
        grind only
      · rw [if_neg odd] at split ⊢
        rw [split]
        grind only

theorem multiplyLonghand_eq (x y : UInt64) : multiplyLonghand x y = multiply x y := by
  simp [multiplyLonghand, accumulate_eq, multiply]

theorem shiftLeft_ne_zero {divisor : UInt64} (nonzero : divisor ≠ 0)
    (noTopBit : hasTopBit divisor = false) : shiftLeft divisor ≠ 0 := by
  have doubled := toNat_shiftLeft_of_not_hasTopBit noTopBit
  have positive := toNat_pos nonzero
  intro zero
  rw [zero, UInt64.toNat_zero] at doubled
  omega

/-- Normalizing shifts divisor and marker by the same number of places. -/
theorem normalize_spec (divisor marker : UInt64) (nonzero : divisor ≠ 0)
    (small : marker.toNat ≤ divisor.toNat) :
    ∃ places,
      (normalize divisor marker).1.toNat = divisor.toNat * 2 ^ places ∧
        (normalize divisor marker).2.toNat = marker.toNat * 2 ^ places ∧
          2 ^ 63 ≤ (normalize divisor marker).1.toNat := by
  induction divisor, marker using normalize.induct with
  | case1 divisor marker stop =>
      have topBit : hasTopBit divisor = true := stop.resolve_left nonzero
      rw [normalize, if_pos stop]
      exact ⟨0, by simp, by simp, (hasTopBit_iff divisor).mp topBit⟩
  | case2 divisor marker pending induction =>
      have noTopBit : hasTopBit divisor = false := by
        simpa using (not_or.mp pending).2
      have doubled := toNat_shiftLeft_of_not_hasTopBit noTopBit
      have bound := (shiftLeft divisor).toNat_lt
      have markerDoubled : (shiftLeft marker).toNat = 2 * marker.toNat := by
        rw [shiftLeft_eq, UInt64.toNat_add]
        omega
      have stillNonzero := shiftLeft_ne_zero nonzero noTopBit
      obtain ⟨places, divisorShifted, markerShifted, top⟩ :=
        induction stillNonzero (by omega)
      rw [normalize, if_neg pending]
      refine ⟨places + 1, ?_, ?_, top⟩
      · rw [divisorShifted, doubled, Nat.pow_succ]
        grind
      · rw [markerShifted, markerDoubled, Nat.pow_succ]
        grind

private theorem div_of_subtract {rest divisor : Nat} (positive : 0 < divisor) (times : Nat)
    (fits : divisor * times ≤ rest) :
    (rest - divisor * times) / divisor + times = rest / divisor ∧
      (rest - divisor * times) % divisor = rest % divisor := by
  obtain ⟨excess, rfl⟩ := Nat.exists_eq_add_of_le' fits
  constructor
  · rw [Nat.add_sub_cancel, Nat.add_mul_div_left _ _ positive]
  · rw [Nat.add_sub_cancel, Nat.add_mul_mod_self_left]

/-- The quotient after the place of `marker`. -/
def placeQuotient (divisor marker quotient remainder : UInt64) : UInt64 :=
  if atMost divisor remainder then add quotient marker else quotient

/-- The rest after the place under work. -/
def placeRemainder (divisor remainder : UInt64) : UInt64 :=
  if atMost divisor remainder then subtract remainder divisor else remainder

theorem reduce_of_marker_ne_zero {divisor marker quotient remainder : UInt64}
    (nonzero : marker ≠ 0) :
    reduce divisor marker quotient remainder =
      reduce (shiftRight divisor) (shiftRight marker)
        (placeQuotient divisor marker quotient remainder)
        (placeRemainder divisor remainder) := by
  rw [reduce, if_neg nonzero, placeQuotient, placeRemainder]
  by_cases fitsHere : atMost divisor remainder = true
  · simp only [fitsHere, if_true]
  · simp only [fitsHere, if_false, Bool.false_eq_true]

/-- One place of restoring division keeps quotient and rest of the numbers under work. -/
theorem place_spec {original places : Nat} (positive : 0 < original)
    {divisor marker quotient remainder : UInt64}
    (divisorAt : divisor.toNat = original * 2 ^ places)
    (markerAt : marker.toNat = 2 ^ places)
    (below : remainder.toNat < 2 * divisor.toNat)
    (fits : quotient.toNat + remainder.toNat / original < 2 ^ 64) :
    (placeRemainder divisor remainder).toNat < divisor.toNat ∧
      (placeQuotient divisor marker quotient remainder).toNat +
          (placeRemainder divisor remainder).toNat / original =
        quotient.toNat + remainder.toNat / original ∧
      (placeRemainder divisor remainder).toNat % original = remainder.toNat % original := by
  by_cases fitsHere : atMost divisor remainder = true
  · have atMostHere := (atMost_iff divisor remainder).mp fitsHere
    have least : divisor.toNat ≤ remainder.toNat := UInt64.le_iff_toNat_le.mp atMostHere
    have difference : (remainder - divisor).toNat = remainder.toNat - divisor.toNat :=
      UInt64.toNat_sub_of_le _ _ atMostHere
    obtain ⟨quotientStep, remainderStep⟩ :=
      div_of_subtract positive (2 ^ places) (divisorAt ▸ least)
    rw [← divisorAt, ← markerAt] at quotientStep
    rw [← divisorAt] at remainderStep
    have markerSmall : marker.toNat ≤ remainder.toNat / original :=
      quotientStep ▸ Nat.le_add_left _ _
    have sum : (quotient + marker).toNat = quotient.toNat + marker.toNat := by
      rw [UInt64.toNat_add, Nat.mod_eq_of_lt (by omega)]
    simp only [placeRemainder, placeQuotient, fitsHere, if_true, subtract_eq, add_eq, sum,
      difference]
    exact ⟨by omega, by omega, remainderStep⟩
  · have notAtMost : ¬divisor ≤ remainder := fun least =>
      fitsHere ((atMost_iff divisor remainder).mpr least)
    rw [UInt64.le_iff_toNat_le] at notAtMost
    rw [placeRemainder, placeQuotient, if_neg fitsHere, if_neg fitsHere]
    exact ⟨by omega, rfl, rfl⟩

private theorem marker_ne_zero {marker : UInt64} {places : Nat}
    (markerAt : marker.toNat = 2 ^ places) : marker ≠ 0 := by
  intro zero
  have positivePower := Nat.two_pow_pos places
  rw [← markerAt, zero] at positivePower
  exact absurd positivePower (by decide)

/-- Restoring division from a place down to the lowest. -/
theorem reduce_spec {original : Nat} (positive : 0 < original) (places : Nat)
    {divisor marker : UInt64} (quotient remainder : UInt64)
    (divisorAt : divisor.toNat = original * 2 ^ places)
    (markerAt : marker.toNat = 2 ^ places)
    (below : remainder.toNat < 2 * divisor.toNat)
    (fits : quotient.toNat + remainder.toNat / original < 2 ^ 64) :
    (reduce divisor marker quotient remainder).1.toNat =
        quotient.toNat + remainder.toNat / original ∧
      (reduce divisor marker quotient remainder).2.toNat = remainder.toNat % original := by
  induction places generalizing divisor marker quotient remainder with
  | zero =>
      obtain ⟨belowNext, quotientNext, remainderNext⟩ :=
        place_spec positive divisorAt markerAt below fits
      have lastMarker : shiftRight marker = 0 := by
        apply UInt64.toNat_inj.mp
        rw [toNat_shiftRight, markerAt]
        rfl
      have small : (placeRemainder divisor remainder).toNat < original := by omega
      rw [Nat.div_eq_of_lt small] at quotientNext
      rw [Nat.mod_eq_of_lt small] at remainderNext
      rw [reduce_of_marker_ne_zero (marker_ne_zero markerAt), reduce, if_pos lastMarker]
      exact ⟨quotientNext, remainderNext⟩
  | succ places induction =>
      obtain ⟨belowNext, quotientNext, remainderNext⟩ :=
        place_spec positive divisorAt markerAt below fits
      have divisorNext : (shiftRight divisor).toNat = original * 2 ^ places := by
        rw [toNat_shiftRight, divisorAt, Nat.pow_succ, ← Nat.mul_assoc,
          Nat.mul_div_cancel _ (by decide)]
      have markerNext : (shiftRight marker).toNat = 2 ^ places := by
        rw [toNat_shiftRight, markerAt, Nat.pow_succ, Nat.mul_div_cancel _ (by decide)]
      have doubled : 2 * (shiftRight divisor).toNat = divisor.toNat := by
        rw [divisorNext, divisorAt, Nat.pow_succ]
        grind only
      obtain ⟨quotientRest, remainderRest⟩ :=
        induction _ _ divisorNext markerNext (doubled ▸ belowNext) (quotientNext ▸ fits)
      rw [reduce_of_marker_ne_zero (marker_ne_zero markerAt)]
      exact ⟨quotientRest.trans quotientNext, remainderRest.trans remainderNext⟩

theorem divideLonghand_eq (dividend divisor : UInt64) :
    divideLonghand dividend divisor = divide dividend divisor := by
  rw [divideLonghand, divide]
  by_cases noDividend : dividend = 0
  · rw [if_pos noDividend, if_pos noDividend]
  · by_cases noDivisor : divisor = 0
    · simp only [noDividend, noDivisor, if_false, if_true]
      rfl
    · have positive := toNat_pos noDivisor
      have dividendBound := dividend.toNat_lt
      have quotientBound := Nat.div_le_self dividend.toNat divisor.toNat
      obtain ⟨places, divisorShifted, markerShifted, top⟩ :=
        normalize_spec divisor 1 noDivisor positive
      obtain ⟨quotient, remainder⟩ :=
        reduce_spec positive places 0 dividend divisorShifted (by simpa using markerShifted)
          (by omega) (by simp; omega)
      simp only [noDividend, noDivisor, if_false]
      apply Prod.ext
      · apply UInt64.toNat_inj.mp
        simpa [UInt64.toNat_div] using quotient
      · apply UInt64.toNat_inj.mp
        simpa [UInt64.toNat_mod] using remainder

end TripComputer.Word
