import TripComputer.Proofs.Catalog.Rounding
import TripComputer.Proofs.Computer.Overlay

/-!
# The table in other units

Switching the unit system multiplies six settings with the factors between the units, rounds, and
limits the results to the widths of the settings.  Both of these lose something, but only once: a
value that is enlarged without being limited comes back as it was, and a limited one comes back
to a value that is limited again.
-/

namespace TripComputer

namespace Catalog

variable {largest factor divisor value : Nat}

theorem rounded_eq_iff {dividend quotient : Nat} (positive : 0 < divisor) :
    rounded dividend divisor = quotient ↔
      2 * (quotient * divisor) ≤ 2 * dividend + divisor ∧
        2 * dividend < 2 * (quotient * divisor) + divisor := by
  rw [rounded, if_neg (Nat.ne_of_gt positive), Nat.div_eq_iff (by omega)]
  have doubled : quotient * (2 * divisor) = 2 * (quotient * divisor) := Nat.mul_left_comm ..
  omega

theorem rounded_le_rounded {dividend other : Nat} (positive : 0 < divisor)
    (less : dividend ≤ other) : rounded dividend divisor ≤ rounded other divisor := by
  rw [rounded, rounded, if_neg (Nat.ne_of_gt positive), if_neg (Nat.ne_of_gt positive)]
  exact Nat.div_le_div_right (by omega)

/-- What is rounded off a larger value is less than half a unit of the smaller one. -/
theorem rounded_rounded (positive : 0 < divisor) (enlarges : divisor < factor) :
    rounded (rounded (value * factor) divisor * divisor) factor = value := by
  obtain ⟨above, below⟩ := (rounded_eq_iff positive).mp (rfl : rounded (value * factor) divisor = _)
  apply (rounded_eq_iff (by omega)).mpr
  omega

/-- A value times a factor over a divisor, rounded half up and limited. -/
def rescaled (largest factor divisor value : Nat) : Nat :=
  min largest (rounded (value * factor) divisor)

/-- A value that is enlarged without being limited comes back. -/
theorem rescaled_rescaled (positive : 0 < divisor) (enlarges : divisor < factor)
    (small : value ≤ largest) (fits : rounded (value * factor) divisor ≤ largest) :
    rescaled largest divisor factor (rescaled largest factor divisor value) = value := by
  rw [rescaled, rescaled, Nat.min_eq_right fits, rounded_rounded positive enlarges,
    Nat.min_eq_right small]

theorem rescaled_le (largest factor divisor value : Nat) :
    rescaled largest factor divisor value ≤ largest :=
  Nat.min_le_left _ _

theorem rescaled_le_rescaled {other : Nat} (positive : 0 < divisor) (less : value ≤ other) :
    rescaled largest factor divisor value ≤ rescaled largest factor divisor other :=
  Nat.le_min.mpr ⟨rescaled_le .., Nat.le_trans (Nat.min_le_right _ _)
    (rounded_le_rounded positive (Nat.mul_le_mul_right factor less))⟩

/-- An enlarged value comes back, or has reached the limit. -/
theorem restored_or_limited (positive : 0 < divisor) (enlarges : divisor < factor)
    (small : value ≤ largest) :
    rescaled largest divisor factor (rescaled largest factor divisor value) = value ∨
      rescaled largest factor divisor value = largest := by
  rcases Nat.le_total (rounded (value * factor) divisor) largest with fits | limited
  · exact .inl (rescaled_rescaled positive enlarges small fits)
  · exact .inr (Nat.min_eq_left limited)

/-- Once a value has been enlarged and has come back, it comes back from then on. -/
theorem enlarged_settles (positive : 0 < divisor) (enlarges : divisor < factor)
    (small : value ≤ largest) :
    let again value := rescaled largest divisor factor (rescaled largest factor divisor value)
    again (again value) = again value := by
  intro again
  rcases restored_or_limited positive enlarges small with restored | limited
  · exact congrArg again restored
  · -- the limit comes back to a value that is either restored itself, or limited again
    have back : again value = rescaled largest divisor factor largest :=
      congrArg (rescaled largest divisor factor) limited
    rcases restored_or_limited positive enlarges (rescaled_le largest divisor factor largest)
      with restored | limited
    · rw [back]
      exact restored
    · rw [back]
      exact congrArg (rescaled largest divisor factor) limited

/-- Once a value has been reduced and has come back, it comes back from then on. -/
theorem reduced_settles (positive : 0 < divisor) (enlarges : divisor < factor)
    (small : value ≤ largest) :
    let again value := rescaled largest factor divisor (rescaled largest divisor factor value)
    again (again value) = again value := by
  intro again
  rcases restored_or_limited positive enlarges (rescaled_le largest divisor factor value)
    with restored | limited
  · exact congrArg (rescaled largest factor divisor) restored
  · -- the limit is reduced to no less than the value was
    have back : again (again value) =
        rescaled largest factor divisor (rescaled largest divisor factor largest) :=
      congrArg again limited
    apply Nat.le_antisymm
    · rw [show again value = largest from limited]
      exact rescaled_le ..
    · rw [back]
      apply rescaled_le_rescaled positive
      exact rescaled_le_rescaled (Nat.lt_trans positive enlarges) small

theorem rescaled_settles (positive : 0 < divisor) (someFactor : 0 < factor)
    (different : factor ≠ divisor) (small : value ≤ largest) :
    let again value := rescaled largest divisor factor (rescaled largest factor divisor value)
    again (again value) = again value := by
  rcases Nat.lt_or_gt_of_ne different with reduces | enlarges
  · exact reduced_settles someFactor reduces small
  · exact enlarged_settles positive enlarges small

end Catalog

namespace Conversion

/-- The factor that a value is multiplied with when its unit system is left, and the divisor. -/
def ratio (conversion : Conversion) (metric : Bool) : Nat × Nat :=
  if metric then (conversion.denominator.toNat, conversion.numerator.toNat)
  else (conversion.numerator.toNat, conversion.denominator.toNat)

/-- Whether values get larger when a unit system is left. -/
def Enlarges (conversion : Conversion) (metric : Bool) : Prop :=
  (conversion.ratio metric).2 < (conversion.ratio metric).1

/-- A value in the other units, rounded half up. -/
def exact (conversion : Conversion) (metric : Bool) (value : Nat) : Nat :=
  Catalog.rounded (value * (conversion.ratio metric).1) (conversion.ratio metric).2

/-- What becomes of a value when its unit system is left. -/
def switched (conversion : Conversion) (metric : Bool) (value : UInt32) : UInt32 :=
  (min conversion.setting.maxValue.toNat (conversion.exact metric value.toNat)).toUInt32

instance (conversion : Conversion) (metric : Bool) : Decidable (conversion.Enlarges metric) :=
  inferInstanceAs (Decidable (_ < _))

/-- Which values get larger. -/
example :
    (all.filter (·.Enlarges false)).map (·.setting) = [.tankSize, .barLowSpeed, .barSpeedQuantum] ∧
      (all.filter (·.Enlarges true)).map (·.setting) =
        [.pulsesPerDistance, .microsPerQuantity, .fuelCost] := by
  decide

variable {conversion : Conversion} {metric : Bool} {value : UInt32}

theorem toNat_switched (conversion : Conversion) (metric : Bool) (value : UInt32) :
    (conversion.switched metric value).toNat =
      Catalog.rescaled conversion.setting.maxValue.toNat (conversion.ratio metric).1
        (conversion.ratio metric).2 value.toNat := by
  apply Nat.mod_eq_of_lt
  exact Nat.lt_of_le_of_lt (Nat.min_le_left _ _) conversion.setting.maxValue.toNat_lt

theorem ratio_not (conversion : Conversion) (metric : Bool) :
    conversion.ratio (!metric) = (conversion.ratio metric).swap := by
  cases metric <;> rfl

/-- The unit systems differ by factors other than one. -/
theorem ratio_of_mem (member : conversion ∈ all) (metric : Bool) :
    0 < (conversion.ratio metric).1 ∧ 0 < (conversion.ratio metric).2 ∧
      (conversion.ratio metric).1 ≠ (conversion.ratio metric).2 := by
  have every : ∀ conversion ∈ all, ∀ metric : Bool,
      0 < (conversion.ratio metric).1 ∧ 0 < (conversion.ratio metric).2 ∧
        (conversion.ratio metric).1 ≠ (conversion.ratio metric).2 := by
    decide
  exact every conversion member metric

/-- The factors are settings wide. -/
theorem ratio_lt (member : conversion ∈ all) (metric : Bool) :
    (conversion.ratio metric).1 < 2 ^ 32 ∧ (conversion.ratio metric).2 < 2 ^ 32 := by
  have every : ∀ conversion ∈ all, ∀ metric : Bool,
      (conversion.ratio metric).1 < 2 ^ 32 ∧ (conversion.ratio metric).2 < 2 ^ 32 := by
    decide
  exact every conversion member metric

theorem switched_switched (member : conversion ∈ all) (fits : value ≤ conversion.setting.maxValue)
    (enlarges : conversion.Enlarges metric)
    (small : conversion.exact metric value.toNat ≤ conversion.setting.maxValue.toNat) :
    conversion.switched (!metric) (conversion.switched metric value) = value := by
  obtain ⟨_, positive, _⟩ := ratio_of_mem member metric
  apply UInt32.toNat_inj.mp
  rw [toNat_switched, toNat_switched, ratio_not]
  exact Catalog.rescaled_rescaled positive enlarges (UInt32.le_iff_toNat_le.mp fits) small

theorem switched_settles (member : conversion ∈ all) (metric : Bool)
    (fits : value ≤ conversion.setting.maxValue) :
    let again value := conversion.switched (!metric) (conversion.switched metric value)
    again (again value) = again value := by
  obtain ⟨someFactor, positive, different⟩ := ratio_of_mem member metric
  intro again
  apply UInt32.toNat_inj.mp
  simp only [again, toNat_switched, ratio_not]
  exact Catalog.rescaled_settles positive someFactor different (UInt32.le_iff_toNat_le.mp fits)

end Conversion

namespace Settings

/-- The unit system that is not in force. -/
def otherMode (settings : Settings) : UInt32 :=
  if settings.metric then 0 else 1

/-- The values with a unit, in the other units. -/
def switchedValues (settings : Settings) : List (Setting × UInt32) :=
  Conversion.all.map fun conversion =>
    (conversion.setting, conversion.switched settings.metric (settings.get conversion.setting))

/-- The table in the other unit system. -/
def switched (settings : Settings) : Settings :=
  (settings.overlay settings.switchedValues).put .metricMode settings.otherMode

variable {settings : Settings} {setting : Setting} {conversion : Conversion}

theorem switchedValues_keys (settings : Settings) :
    settings.switchedValues.map (·.1) = Conversion.all.map (·.setting) := by
  rw [switchedValues, List.map_map]
  rfl

theorem get_switched_metricMode (settings : Settings) :
    settings.switched.get .metricMode = settings.otherMode :=
  get_put_self ..

theorem get_switched_of_mem (member : conversion ∈ Conversion.all) :
    settings.switched.get conversion.setting =
      conversion.switched settings.metric (settings.get conversion.setting) := by
  have unitless : ∀ conversion ∈ Conversion.all, conversion.setting ≠ .metricMode := by decide
  have distinct : (settings.switchedValues.map (·.1)).Nodup := by
    rw [switchedValues_keys]
    decide
  have placed : (conversion.setting, conversion.switched settings.metric
      (settings.get conversion.setting)) ∈ settings.switchedValues :=
    List.mem_map_of_mem member
  rw [switched, get_put_of_ne _ _ (unitless conversion member)]
  exact get_overlay_of_mem distinct _ placed

/-- While the values are put into the table one after another, the unit system and the values
that are still to come are as they were. -/
theorem overlay_take_succ (settings : Settings) (count : Fin Conversion.all.length) :
    let conversion := Conversion.all[count]
    let before := settings.overlay (settings.switchedValues.take count)
    settings.overlay (settings.switchedValues.take (count + 1)) =
      before.put conversion.setting
        (conversion.switched before.metric (before.get conversion.setting)) := by
  intro conversion before
  have keys : (settings.switchedValues.take count).map (·.1) =
      (Conversion.all.map (·.setting)).take count := by
    rw [List.map_take, switchedValues_keys]
  have fresh : ∀ count : Fin Conversion.all.length,
      Conversion.all[count].setting ∉ (Conversion.all.map (·.setting)).take count ∧
        .metricMode ∉ (Conversion.all.map (·.setting)).take count := by
    decide
  obtain ⟨freshValue, freshMode⟩ := fresh count
  rw [← keys] at freshValue freshMode
  have sameValue : before.get conversion.setting = settings.get conversion.setting :=
    get_overlay_of_not_mem freshValue
  have sameMode : before.metric = settings.metric := by
    rw [metric, flag, get_overlay_of_not_mem freshMode]
    rfl
  have placed : settings.switchedValues[count.val]? = some (conversion.setting,
      conversion.switched settings.metric (settings.get conversion.setting)) := by
    rw [switchedValues, List.getElem?_map, List.getElem?_eq_getElem count.isLt]
    rfl
  rw [List.take_add_one, placed, overlay, List.foldl_append, sameValue, sameMode]
  rfl

/-- Only the unit system and what has a unit change. -/
theorem get_switched_of_unitless (notMode : setting ≠ .metricMode)
    (unitless : ∀ conversion ∈ Conversion.all, conversion.setting ≠ setting) :
    settings.switched.get setting = settings.get setting := by
  rw [switched, get_put_of_ne _ _ notMode]
  apply get_overlay_of_not_mem
  rw [switchedValues_keys, List.mem_map]
  rintro ⟨conversion, member, same⟩
  exact unitless conversion member same

theorem metric_switched (settings : Settings) : settings.switched.metric = !settings.metric := by
  rw [metric, flag, get_switched_metricMode, otherMode]
  cases settings.metric <;> rfl

/-- A setting is the unit system, or has a unit, or stays. -/
theorem cases_of_setting (setting : Setting) :
    setting = .metricMode ∨ (∃ conversion ∈ Conversion.all, conversion.setting = setting) ∨
      (setting ≠ .metricMode ∧ ∀ conversion ∈ Conversion.all, conversion.setting ≠ setting) := by
  by_cases notMode : setting = .metricMode
  · exact .inl notMode
  · by_cases unit : ∃ conversion ∈ Conversion.all, conversion.setting = setting
    · exact .inr (.inl unit)
    · exact .inr (.inr ⟨notMode, fun conversion member same => unit ⟨conversion, member, same⟩⟩)

theorem InRange.switched (inRange : settings.InRange) : settings.switched.InRange := by
  intro setting
  rcases cases_of_setting setting with rfl | ⟨conversion, member, rfl⟩ | ⟨notMode, unitless⟩
  · rw [get_switched_metricMode, otherMode]
    cases settings.metric <;> decide
  · rw [get_switched_of_mem member, UInt32.le_iff_toNat_le, Conversion.toNat_switched]
    exact Catalog.rescaled_le ..
  · rw [get_switched_of_unitless notMode unitless]
    exact inRange setting

/-- There and back again is the same as there and back. -/
theorem switched_settles (inRange : settings.InRange) :
    settings.switched.switched.switched.switched = settings.switched.switched := by
  apply ext_get
  intro setting
  rcases cases_of_setting setting with rfl | ⟨conversion, member, rfl⟩ | ⟨notMode, unitless⟩
  · simp only [get_switched_metricMode, otherMode, metric_switched, Bool.not_not]
  · simp only [get_switched_of_mem member, metric_switched, Bool.not_not]
    exact Conversion.switched_settles member settings.metric (inRange conversion.setting)
  · simp only [get_switched_of_unitless notMode unitless]

theorem switched_switched_restores (inRange : settings.InRange) (member : conversion ∈ Conversion.all)
    (enlarges : conversion.Enlarges settings.metric)
    (fits : conversion.exact settings.metric (settings.get conversion.setting).toNat ≤
      conversion.setting.maxValue.toNat) :
    settings.switched.switched.get conversion.setting = settings.get conversion.setting := by
  rw [get_switched_of_mem member, get_switched_of_mem member, metric_switched]
  exact Conversion.switched_switched member (inRange conversion.setting) enlarges fits

end Settings

end TripComputer
