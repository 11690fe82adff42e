import TripComputer.Proofs.Display.Numeral

/-!
# Renderings that lose nothing

Times, counts and unrounded values are written with all their digits.  What has no place in its
field is shown as no value at all, and never as a part of its digits.
-/

namespace TripComputer.Display

variable {value : Nat}

/-- The unrounded digits of a value. -/
theorem digitsAt_unrounded (value : Nat) :
    digitsAt unroundedIndex value = if value ≤ ceiling then some (padded 10 value) else none := by
  have unrounded : ¬unroundedIndex < 4 := by decide
  rw [digitsAt_eq, roundedAt, if_neg unrounded]
  by_cases fits : value ≤ ceiling
  · rw [if_pos fits, if_pos fits]
  · have large : ¬2 ^ 64 - 1 ≤ ceiling := by decide
    rw [if_neg fits, if_neg large, if_neg fits]

/-- Hours, minutes and seconds of a time below a hundred hours, as they are written. -/
theorem clock_text (small : value < 360000) :
    ":".intercalate ((clock value).map (Text.Column.zeros 2)) =
      String.ofList (padded 2 (value / 3600) ++ ':' :: padded 2 (value / 60 % 60) ++
        ':' :: padded 2 (value % 60)) := by
  have two {number : Nat} (fits : number < 10 ^ 2) :
      Text.Column.zeros 2 number = String.ofList (padded 2 number) := by
    rw [Text.Column.zeros_eq, padded_eq_leftpad (by decide) fits]
  have hours : value / 3600 % 100 = value / 3600 := Nat.mod_eq_of_lt (by omega)
  have joined (first second third : String) :
      ":".intercalate [first, second, third] = first ++ ":" ++ second ++ ":" ++ third := rfl
  have colon : ":" = String.ofList [':'] := rfl
  rw [clock, hours, List.map_cons, List.map_cons, List.map_cons, List.map_nil, joined,
    two (by omega), two (by omega), two (by omega), colon]
  simp only [← String.ofList_append, List.append_assoc, List.cons_append, List.nil_append]

theorem count_gives_numeral (value : UInt64) :
    Gives (count value)
      (if value.toNat ≤ ceiling then
        String.ofList ((Nat.toDigits 10 value.toNat).leftpad countWidth ' ')
      else overflowText) := by
  have gives := count_gives value
  rw [digitsAt_unrounded] at gives
  by_cases fits : value.toNat ≤ ceiling
  · have short : value.toNat < 10 ^ (9 + 1) := Nat.lt_of_le_of_lt fits (by decide)
    rw [if_pos fits, Option.elim_some, zeros_padded short, drop_zeros_padded short,
      Text.Column.right_ofList] at gives
    rwa [if_pos fits]
  · rw [if_neg fits] at gives ⊢
    exact gives

theorem unrounded_gives_numeral (value : UInt64) :
    Gives (unrounded value)
      (if value.toNat ≤ ceiling then
        String.ofList ((Nat.toDigits 10 (value.toNat / 1000)).leftpad 7 ' ' ++
          '.' :: padded 3 (value.toNat % 1000))
      else overflowText) := by
  have gives := unrounded_gives value
  rw [digitsAt_unrounded] at gives
  by_cases fits : value.toNat ≤ ceiling
  · have short : value.toNat < 10 ^ 10 := Nat.lt_of_le_of_lt fits (by decide)
    rw [if_pos fits, Option.elim_some, pointed_padded short, ← padded_mod 3] at gives
    rwa [if_pos fits]
  · rw [if_neg fits] at gives ⊢
    exact gives

/-- Times below a hundred hours, and counts and unrounded values up to the ceiling, are written
with all their digits; whatever is larger, and every evaluation that overflows, is shown as no
value. -/
theorem renderings_lose_nothing (value : UInt64) :
    (value.toNat < 360000 →
      ∃ hours minutes seconds, hours < 100 ∧ minutes < 60 ∧ seconds < 60 ∧
        3600 * hours + 60 * minutes + seconds = value.toNat ∧
        Gives (time value) (String.ofList
          (padded 2 hours ++ ':' :: padded 2 minutes ++ ':' :: padded 2 seconds))) ∧
      (360000 ≤ value.toNat → Gives (time value) overflowText) ∧
      (value.toNat ≤ 0xFFFFFFFE →
        Gives (count value)
          (String.ofList ((Nat.toDigits 10 value.toNat).leftpad 10 ' ')) ∧
        Gives (unrounded value)
          (String.ofList ((Nat.toDigits 10 (value.toNat / 1000)).leftpad 7 ' ' ++
            '.' :: padded 3 (value.toNat % 1000)))) ∧
      (0xFFFFFFFE < value.toNat →
        Gives (count value) overflowText ∧ Gives (unrounded value) overflowText) ∧
      ∀ shown : Evaluation, shown.reading = .overflow → Gives (evaluation shown) overflowText := by
  have timed := time_gives value
  have counted := count_gives_numeral value
  have written := unrounded_gives_numeral value
  refine ⟨fun small => ?_, fun large => ?_, fun fits => ?_, fun exceeds => ?_,
    fun shown overflows => ?_⟩
  · rw [if_pos (Nat.div_eq_of_lt small), clock_text small] at timed
    refine ⟨_, _, _, ?_, ?_, ?_, ?_, timed⟩ <;> omega
  · rwa [if_neg (by omega)] at timed
  · have small : value.toNat ≤ ceiling := fits
    rw [if_pos small] at counted written
    exact ⟨counted, written⟩
  · have large : ¬value.toNat ≤ ceiling := Nat.not_le.mpr exceeds
    rw [if_neg large] at counted written
    exact ⟨counted, written⟩
  · apply evaluation_gives_overflowText
    rw [Evaluation.reading, Reading.ofRaw] at overflows
    split at overflows
    next large => exact UInt64.le_iff_toNat_le.mp large
    next => cases overflows

/-- The last second of the hundred hours, the last value with digits, and what follows them. -/
theorem last_values_with_digits :
    Gives (time 359999) "99:59:59" ∧ Gives (time 360000) overflowText ∧
      Gives (count 4294967294) "4294967294" ∧ Gives (unrounded 4294967294) "4294967.294" ∧
      Gives (count 4294967295) overflowText ∧ Gives (unrounded 4294967295) overflowText ∧
      Evaluation.reading ⟨.speed, 0x8000000000000000⟩ = .overflow ∧
      Gives (evaluation ⟨.speed, 0x8000000000000000⟩) overflowText := by
  obtain ⟨timed, _, _, _, _⟩ := renderings_lose_nothing 359999
  obtain ⟨_, untimed, _, _, _⟩ := renderings_lose_nothing 360000
  obtain ⟨_, _, written, _, _⟩ := renderings_lose_nothing 4294967294
  obtain ⟨_, _, _, unwritten, overflows⟩ := renderings_lose_nothing 4294967295
  obtain ⟨counted, shown⟩ := written (by decide)
  obtain ⟨uncounted, unshown⟩ := unwritten (by decide)
  obtain ⟨hours, minutes, seconds, few, fewMinutes, fewSeconds, sum, gives⟩ := timed (by decide)
  have whole : 3600 * hours + 60 * minutes + seconds = 359999 := sum
  obtain rfl : hours = 99 := by omega
  obtain rfl : minutes = 59 := by omega
  obtain rfl : seconds = 59 := by omega
  have large : Evaluation.reading ⟨.speed, 0x8000000000000000⟩ = .overflow := by decide
  exact ⟨gives, untimed (by decide), counted, shown, uncounted, unshown, large, overflows _ large⟩

end TripComputer.Display
