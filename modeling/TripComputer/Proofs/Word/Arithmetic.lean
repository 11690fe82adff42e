import Mathlib.Algebra.Group.Int.Defs
import Mathlib.Algebra.Group.Nat.Defs
import TripComputer.Word.Longhand

/-!
# Word operations as arithmetic

What the bit tests, the bytewise comparison and the sums with carry mean for the numbers
that words stand for.  Everything else about words is proved from these equations, so that
no later proof looks at bits or bytes.
-/

namespace TripComputer.Word

theorem isZero_of_ne_zero {x : UInt64} (nonzero : x ≠ 0) : isZero x = false := by
  simpa [isZero] using nonzero

theorem isOdd_iff (x : UInt64) : isOdd x = true ↔ x.toNat % 2 = 1 := by
  have low : (x &&& 1).toNat = x.toNat % 2 := by
    simp [UInt64.toNat_and, Nat.and_one_is_mod]
  simp only [isOdd, bne_iff_ne, ne_eq, ← UInt64.toNat_inj, low]
  simp

theorem hasTopBit_iff (x : UInt64) : hasTopBit x = true ↔ 2 ^ 63 ≤ x.toNat := by
  have high : (x >>> 63).toNat = x.toNat / 2 ^ 63 := by
    simp [UInt64.toNat_shiftRight, Nat.shiftRight_eq_div_pow]
  simp only [hasTopBit, bne_iff_ne, ne_eq, ← UInt64.toNat_inj, high]
  simp

theorem add_eq (x y : UInt64) : add x y = x + y := by
  have noCarry : Bool.toUInt64 false = 0 := rfl
  simp [add, addCarry, noCarry]

theorem subtract_eq (x y : UInt64) : subtract x y = x - y := by
  have carry : Bool.toUInt64 true = 1 := rfl
  apply UInt64.toBitVec_inj.mp
  simp only [subtract, addCarry, carry, UInt64.toBitVec_add, UInt64.toBitVec_not,
    UInt64.toBitVec_sub, UInt64.toBitVec_one]
  bv_omega

/-- A sum that is less than what it was added to has lost 2^64. -/
theorem add_overflow (x y : UInt64) :
    (x + y).toNat + 2 ^ 64 * (decide (x + y < x)).toNat = x.toNat + y.toNat := by
  have xBound := x.toNat_lt
  have yBound := y.toNat_lt
  by_cases lost : x + y < x
  · rw [decide_eq_true lost, Bool.toNat_true]
    rw [UInt64.lt_iff_toNat_lt, UInt64.toNat_add] at lost
    rw [UInt64.toNat_add]
    omega
  · rw [decide_eq_false lost, Bool.toNat_false]
    rw [UInt64.lt_iff_toNat_lt, UInt64.toNat_add] at lost
    rw [UInt64.toNat_add]
    omega

/-- Nothing is lost between the sum and the carry out of it. -/
theorem addCarry_spec (x y : UInt64) (carry : Bool) :
    (addCarry x y carry).1.toNat + 2 ^ 64 * (addCarry x y carry).2.toNat =
      x.toNat + y.toNat + carry.toNat := by
  have carryValue : carry.toUInt64.toNat = carry.toNat := by cases carry <;> rfl
  have first := add_overflow x y
  have second := add_overflow (x + y) carry.toUInt64
  have xBound := x.toNat_lt
  have yBound := y.toNat_lt
  have carryBound := carry.toNat_le
  -- both additions together cannot lose 2^64 twice
  have once : (decide (x + y < x) || decide (x + y + carry.toUInt64 < x + y)).toNat =
      (decide (x + y < x)).toNat + (decide (x + y + carry.toUInt64 < x + y)).toNat := by
    cases firstLost : decide (x + y < x) <;>
      cases secondLost : decide (x + y + carry.toUInt64 < x + y)
    case true.true =>
      rw [firstLost, Bool.toNat_true] at first
      rw [secondLost, Bool.toNat_true] at second
      omega
    all_goals rfl
  simp only [addCarry, once]
  omega

theorem toNat_carry (x y : UInt64) (carry : Bool) :
    (addCarry x y carry).2.toNat = (x.toNat + y.toNat + carry.toNat) / 2 ^ 64 := by
  have sumBound := (addCarry x y carry).1.toNat_lt
  have total := addCarry_spec x y carry
  omega

theorem subtract_emod (x y : UInt64) :
    ((subtract x y).toNat : Int) = ((x.toNat : Int) - y.toNat) % 2 ^ 64 := by
  have xBound := x.toNat_lt
  have yBound := y.toNat_lt
  rw [subtract_eq, UInt64.toNat_sub]
  omega

theorem toNat_shiftRight (x : UInt64) : (shiftRight x).toNat = x.toNat / 2 := by
  simp [shiftRight, UInt64.toNat_shiftRight, Nat.shiftRight_eq_div_pow]

theorem shiftLeft_eq (x : UInt64) : shiftLeft x = x + x := by
  apply UInt64.toNat_inj.mp
  have onePlace : 2 ^ (UInt64.toNat 1 % 64) = 2 := by decide
  rw [shiftLeft, UInt64.toNat_shiftLeft, Nat.shiftLeft_eq, UInt64.toNat_add, onePlace,
    Nat.mul_two]

/-- Value of a list of bytes, the most significant first. -/
def bigEndian : List UInt8 → Nat
  | [] => 0
  | high :: rest => high.toNat * 256 ^ rest.length + bigEndian rest

theorem bigEndian_lt (digits : List UInt8) : bigEndian digits < 256 ^ digits.length := by
  induction digits with
  | nil => simp [bigEndian]
  | cons high rest induction =>
      have bound := high.toNat_lt
      have scaled : high.toNat * 256 ^ rest.length ≤ 255 * 256 ^ rest.length :=
        Nat.mul_le_mul_right _ (by omega)
      simp only [bigEndian, List.length_cons, Nat.pow_succ]
      omega

theorem bigEndian_bytes (x : UInt64) : bigEndian (bytes x).reverse = x.toNat := by
  have positions : List.range 8 = [0, 1, 2, 3, 4, 5, 6, 7] := by decide
  have bound := x.toNat_lt
  simp [bytes, positions, bigEndian, UInt64.toNat_shiftRight, Nat.shiftRight_eq_div_pow]
  omega

private theorem scaled_lt {high low scale : Nat} (smaller : high < low) {rest : Nat}
    (restBound : rest < scale) : high * scale + rest < low * scale := by
  have scaled : (high + 1) * scale ≤ low * scale := Nat.mul_le_mul_right _ smaller
  rw [Nat.succ_mul] at scaled
  omega

/-- The comparison of byte strings is the comparison of the numbers they write. -/
theorem atMostBytes_iff {left right : List UInt8} (sameLength : left.length = right.length) :
    atMostBytes left right = true ↔ bigEndian left ≤ bigEndian right := by
  induction left generalizing right with
  | nil =>
      cases right with
      | nil => simp [atMostBytes]
      | cons high rest => simp at sameLength
  | cons leftHigh leftRest induction =>
      cases right with
      | nil => simp at sameLength
      | cons rightHigh rightRest =>
          have restLength : leftRest.length = rightRest.length := by simpa using sameLength
          have leftBound := bigEndian_lt leftRest
          have rightBound := bigEndian_lt rightRest
          rw [restLength] at leftBound
          simp only [atMostBytes, bigEndian, restLength]
          by_cases same : leftHigh = rightHigh
          · subst same
            simp [induction restLength]
          · have different : leftHigh.toNat ≠ rightHigh.toNat :=
              fun equal => same (UInt8.toNat_inj.mp equal)
            simp only [same, if_false, decide_eq_true_eq, UInt8.lt_iff_toNat_lt]
            rcases Nat.lt_or_gt_of_ne different with smaller | larger
            · have below := scaled_lt smaller leftBound
              omega
            · have above := scaled_lt larger rightBound
              omega

theorem atMost_iff (x y : UInt64) : atMost x y = true ↔ x ≤ y := by
  have sameLength : (bytes x).reverse.length = (bytes y).reverse.length := by simp [bytes]
  rw [atMost, atMostBytes_iff sameLength, bigEndian_bytes, bigEndian_bytes,
    UInt64.le_iff_toNat_le]

/-- Eight bytes are read back from the word that they make up. -/
theorem bytes_ofBytes {values : List UInt8} (eight : values.length = 8) :
    bytes (ofBytes values) = values := by
  have positions : List.range 8 = [0, 1, 2, 3, 4, 5, 6, 7] := by decide
  match values, eight with
  | [b0, b1, b2, b3, b4, b5, b6, b7], _ =>
      simp only [bytes, positions, List.map_cons, List.map_nil, ofBytes, List.cons.injEq, and_true,
        ← UInt8.toBitVec_inj, UInt64.toBitVec_toUInt8, UInt64.toBitVec_shiftRight,
        UInt64.toBitVec_or, UInt64.toBitVec_shiftLeft, UInt8.toBitVec_toUInt64]
      refine ⟨?_, ?_, ?_, ?_, ?_, ?_, ?_, ?_⟩
      all_goals
        apply BitVec.eq_of_getLsbD_eq
        intro position bound
        have behind : ∀ high, 8 ≤ high → ¬high + position < 8 := by omega
        have apart : ∀ high low, low + 8 ≤ high → ¬high + position - low < 8 := by omega
        simp (disch := omega) [bound, Nat.sub_sub, behind, apart]

theorem setByte?_ofBytes {values : List UInt8} (eight : values.length = 8) {position : UInt8}
    (inside : position.toNat < 8) (value : UInt8) :
    setByte? (ofBytes values) position value =
      some (ofBytes (values.set position.toNat value)) := by
  rw [setByte?, if_pos inside, bytes_ofBytes eight]

theorem divide_of_ne_zero (x : UInt64) {y : UInt64} (nonzero : y ≠ 0) :
    divide x y = (x / y, x % y) := by
  by_cases none : x = 0
  · simp [divide, none]
  · rw [divide, if_neg none, if_neg nonzero]

end TripComputer.Word
