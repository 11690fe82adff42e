import Mathlib.Data.Nat.Basic
import TripComputer.Proofs.Display.Rendering

/-!
# Numerals

The digits that a formatting program leaves in a register are those of a number with a fixed count
of digits.  Here they are put beside numerals as they are written: without leading zeros, with a
point in front of the decimals, and aligned to the right by what stands for the zeros.
-/

namespace TripComputer.Display

/-- The last decimal digits of a number, as many as are asked for. -/
def padded : (count : Nat) → (value : Nat) → List Char
  | 0, _ => []
  | count + 1, value => padded count (value / 10) ++ [(value % 10).digitChar]

/-- A number of units of the last of some decimals, as it is written: the whole units, and behind
a point the decimals, if there are to be any. -/
def numeral (places units : Nat) : List Char :=
  Nat.toDigits 10 (units / 10 ^ places) ++
    if places = 0 then [] else '.' :: (Nat.toDigits 10 (units % 10 ^ places)).leftpad places '0'

variable {count value : Nat}

@[simp]
theorem length_padded (count value : Nat) : (padded count value).length = count := by
  induction count generalizing value with
  | zero => rfl
  | succ count induction => simp [padded, induction]

theorem padded_zero (count : Nat) : padded count 0 = List.replicate count '0' := by
  induction count with
  | zero => rfl
  | succ count induction =>
      rw [padded, Nat.zero_div, induction, Nat.zero_mod, List.replicate_succ']
      rfl

/-- Digits can be cut at any place. -/
theorem padded_add (high low value : Nat) :
    padded (high + low) value = padded high (value / 10 ^ low) ++ padded low value := by
  induction low generalizing value with
  | zero => simp [padded]
  | succ low induction =>
      rw [← Nat.add_assoc, padded, padded, induction, Nat.div_div_eq_div_mul,
        ← Nat.pow_succ', List.append_assoc]

/-- Digits in front of a place are those of the number that is cut there. -/
theorem take_padded (high low value : Nat) :
    (padded (high + low) value).take high = padded high (value / 10 ^ low) := by
  rw [padded_add, List.take_left' (length_padded high _)]

theorem padded_mod (count value : Nat) :
    padded count (value % 10 ^ count) = padded count value := by
  induction count generalizing value with
  | zero => rfl
  | succ count induction =>
      rw [padded, padded, Nat.pow_succ, Nat.mod_mul_left_div_self, induction,
        Nat.mod_mod_of_dvd value (Nat.dvd_mul_left 10 _)]

theorem digitPair_eq (value : Nat) :
    digitPair (value % 100).toUInt8 = padded 2 value := by
  have small : (value % 100).toUInt8.toNat = value % 100 :=
    Nat.mod_eq_of_lt (Nat.lt_trans (Nat.mod_lt _ (by decide)) (by decide))
  have spelled : ∀ digit < 10, Char.ofNat (48 + digit) = digit.digitChar := by decide
  have tens : value % 100 / 10 = value / 10 % 10 := by omega
  have ones : value % 100 % 10 = value % 10 := by omega
  rw [digitPair, small, tens, ones, spelled _ (Nat.mod_lt _ (by decide)),
    spelled _ (Nat.mod_lt _ (by decide))]
  rfl

/-- Pairs of digits are digits. -/
theorem flatMap_digitPairs (count value : Nat) :
    (digitPairs count value).flatMap digitPair = padded (2 * count) value := by
  induction count generalizing value with
  | zero => rfl
  | succ count induction =>
      have cut := padded_add (2 * count) 2 value
      rw [digitPairs, List.flatMap_append, induction, List.flatMap_singleton, digitPair_eq,
        Nat.mul_succ]
      exact cut.symm

theorem digitsAt_eq (index : UInt8) (value : Nat) :
    digitsAt index value =
      if roundedAt index value ≤ ceiling then some (padded 10 (roundedAt index value)) else none := by
  rw [digitsAt, flatMap_digitPairs]

/-- The digits of a number are its numeral with zeros in front. -/
theorem padded_eq_leftpad (positive : 0 < count) (fits : value < 10 ^ count) :
    padded count value = (Nat.toDigits 10 value).leftpad count '0' := by
  induction count generalizing value with
  | zero => cases positive
  | succ count induction =>
      have shorter : value / 10 < 10 ^ count := by
        rw [Nat.pow_succ] at fits
        omega
      rw [padded]
      by_cases single : value < 10
      · rw [Nat.div_eq_of_lt single, padded_zero, Nat.mod_eq_of_lt single,
          Nat.toDigits_of_lt_base single]
        rfl
      · have more : 0 < count := by
          apply Nat.pos_of_ne_zero
          rintro rfl
          exact single fits
        rw [induction more shorter, Nat.toDigits_of_base_le (by decide) (Nat.not_lt.mp single)]
        simp [List.leftpad]

theorem head?_toDigits_ne (positive : 0 < value) :
    (Nat.toDigits 10 value).head? ≠ some '0' := by
  induction value using Nat.strongRecOn with
  | ind value induction =>
      by_cases single : value < 10
      · simp [Nat.toDigits_of_lt_base single, Nat.ne_of_gt positive]
      · have shorter := induction (value / 10) (by omega) (by omega)
        have nonempty : Nat.toDigits 10 (value / 10) ≠ [] :=
          List.ne_nil_of_length_pos Nat.length_toDigits_pos
        rw [Nat.toDigits_of_base_le (by decide) (Nat.not_lt.mp single)]
        cases digits : Nat.toDigits 10 (value / 10) with
        | nil => exact absurd digits nonempty
        | cons first rest => rwa [digits] at shorter

/-- Of the digits of a number, those before its numeral are zero, and so is none behind them but
the last one. -/
theorem zeros_padded (fits : value < 10 ^ (count + 1)) :
    (((padded (count + 1) value).take count).takeWhile (· == '0')).length =
      count + 1 - (Nat.toDigits 10 value).length := by
  have shorter : value / 10 < 10 ^ count := by
    rw [Nat.pow_succ] at fits
    omega
  rw [padded, List.take_left' (length_padded count _)]
  by_cases single : value < 10
  · rw [Nat.div_eq_of_lt single, padded_zero, Nat.toDigits_of_lt_base single]
    simp
  · have more : 0 < count := by
      apply Nat.pos_of_ne_zero
      rintro rfl
      exact single fits
    have starts := head?_toDigits_ne (show 0 < value / 10 by omega)
    have significant : (Nat.toDigits 10 (value / 10)).takeWhile (· == '0') = [] := by
      cases digits : Nat.toDigits 10 (value / 10) with
      | nil => rfl
      | cons first rest =>
          rw [digits] at starts
          exact List.takeWhile_cons_of_neg (by simpa using starts)
    rw [padded_eq_leftpad more shorter, List.leftpad, List.takeWhile_append_of_pos (by simp),
      significant, Nat.toDigits_of_base_le (by decide) (Nat.not_lt.mp single)]
    simp

/-- Dropping the zeros in front leaves the numeral. -/
theorem drop_zeros_padded (fits : value < 10 ^ (count + 1)) :
    (padded (count + 1) value).drop (count + 1 - (Nat.toDigits 10 value).length) =
      Nat.toDigits 10 value := by
  rw [padded_eq_leftpad (Nat.succ_pos count) fits, List.leftpad,
    List.drop_left' List.length_replicate]

/-- Ten digits with a point are the whole units in seven places, and all three decimals. -/
theorem pointed_padded (fits : value < 10 ^ 10) :
    pointed (padded 10 value) =
      (Nat.toDigits 10 (value / 1000)).leftpad 7 ' ' ++ '.' :: padded 3 value := by
  have whole : value / 1000 < 10 ^ (6 + 1) := by omega
  have cut : padded 10 value = padded (6 + 1) (value / 1000) ++ padded 3 value :=
    padded_add 7 3 value
  rw [pointed, cut, List.take_left' (length_padded _ _), List.drop_left' (length_padded _ _)]
  simp only [zeros_padded whole, drop_zeros_padded whole, List.leftpad, List.append_assoc]

end TripComputer.Display
