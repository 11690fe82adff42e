import TripComputer.Config
import TripComputer.Proofs.Computer.Overlay

/-!
# Booting from a configuration

The rules of a configuration are stated in the units of its file, and what it pins is stored in
those of the table.  The rules are strict enough that every pinned value fits its setting, and
so a configuration that keeps them boots on any image.  A second boot finds nothing to change.
-/

namespace TripComputer

namespace Config

open Computer

/-- A value that is pinned fits its setting. -/
def Fits (setting : Setting) (value? : Option UInt32) : Prop :=
  ∀ value ∈ value?, value ≤ setting.maxValue

variable {setting : Setting}

theorem fits_of_within {value? : Option UInt32}
    (holds : value?.all (within setting.bits) = true) : Fits setting value? := by
  rintro value ⟨⟩
  apply Setting.le_maxValue_iff.mpr
  simpa [within] using holds

theorem fits_of_positive {value? : Option UInt32}
    (holds : value?.all (positive setting.bits) = true) : Fits setting value? := by
  rintro value ⟨⟩
  apply Setting.le_maxValue_iff.mpr
  simp only [Option.all_some, positive, Bool.and_eq_true, decide_eq_true_eq] at holds
  exact holds.2

/-- Saturating keeps a bound that is a 32-bit number. -/
theorem saturate32_le {word : UInt64} {bound : UInt32} (fits : word.toNat ≤ bound.toNat) :
    Word.saturate32 word ≤ bound := by
  have small : word.toNat ≤ 0xFFFFFFFF := Nat.le_trans fits (Nat.le_of_lt_succ bound.toNat_lt)
  rw [Word.saturate32, if_pos (UInt64.le_iff_toNat_le.mpr small), UInt32.le_iff_toNat_le,
    UInt64.toNat_toUInt32]
  exact Nat.le_trans (Nat.mod_le _ _) fits

theorem fits_of_decimalWithin {value? : Option Thousandths}
    (holds : value?.all (decimalWithin setting.bits) = true) :
    Fits setting (value?.map settingOf) := by
  rintro _ found
  obtain ⟨value, rfl, rfl⟩ := Option.map_eq_some_iff.mp found
  have largest : (Thousandths.maxForBits setting.bits).count.toNat = setting.maxValue.toNat := by
    cases setting <;> decide
  apply saturate32_le
  simp only [Option.all_some, decimalWithin, decide_eq_true_eq, UInt64.le_iff_toNat_le] at holds
  exact largest ▸ holds

theorem fits_of_positiveDecimal {value? : Option Thousandths}
    (holds : value?.all (positiveDecimal setting.bits) = true) :
    Fits setting (value?.map settingOf) := by
  apply fits_of_decimalWithin
  cases value? with
  | none => rfl
  | some value => exact (Bool.and_eq_true_iff.mp holds).2

/-- A share below one is less than 1024 1024ths, rounded as it may be. -/
theorem fits_per1024 {share? : Option Thousandths}
    (holds : share?.all (fun share => share.count > 0 && share.count < 1000) = true) :
    Fits .injectorDutyCeiling (share?.map per1024) := by
  rintro _ found
  obtain ⟨share, rfl, rfl⟩ := Option.map_eq_some_iff.mp found
  have below : share.count.toNat < 1000 := by
    simp only [Option.all_some, Bool.and_eq_true, decide_eq_true_eq] at holds
    exact UInt64.lt_iff_toNat_lt.mp holds.2
  apply saturate32_le
  rw [UInt64.toNat_div, UInt64.toNat_add, UInt64.toNat_mul]
  show (share.count.toNat * 1024 % 2 ^ 64 + 500) % 2 ^ 64 / 1000 ≤ 1023
  omega

theorem fits_switch (fits : 1 ≤ setting.maxValue) (on? : Option Bool) :
    Fits setting (on?.map switch) := by
  rintro _ found
  obtain ⟨on, _, rfl⟩ := Option.map_eq_some_iff.mp found
  cases on with
  | true => exact fits
  | false => exact UInt32.zero_le

theorem fits_units (units? : Option Units) : Fits .metricMode (units?.map Units.code) := by
  rintro _ found
  obtain ⟨units, _, rfl⟩ := Option.map_eq_some_iff.mp found
  cases units <;> decide

theorem le_maxValue_of_mem {entries : List (Setting × Option UInt32)}
    (fits : ∀ entry ∈ entries, Fits entry.1 entry.2) :
    ∀ pair ∈ entries.filterMap (fun (setting, value?) => value?.map fun value => (setting, value)),
      pair.2 ≤ pair.1.maxValue := by
  intro pair member
  obtain ⟨entry, listed, found⟩ := List.mem_filterMap.mp member
  obtain ⟨value, present, rfl⟩ := Option.map_eq_some_iff.mp found
  exact fits entry listed value present

theorem keys_sublist (entries : List (Setting × Option UInt32)) :
    ((entries.filterMap fun (setting, value?) => value?.map fun value => (setting, value)).map
      (·.1)).Sublist (entries.map (·.1)) := by
  induction entries with
  | nil => exact .slnil
  | cons first rest induction =>
      obtain ⟨setting, value?⟩ := first
      cases value? with
      | none => exact induction.cons setting
      | some value => exact induction.cons_cons setting

/-- The settings that a configuration can pin, in the order in which they are laid. -/
def pinnable : List Setting :=
  [.metricMode, .pulsesPerDistance, .tankSize, .vssPause, .crankRevs, .minGoodRpm, .injectorCount,
    .injectorSize, .injectorSettle, .systemFuelPressure, .referenceFuelPressure,
    .injectorDutyCeiling, .activityTimeout, .wakeupResetCurrent, .windowFilter, .economyPeriod,
    .autosaveActive, .autosaveIdle, .barLowSpeed, .barSpeedQuantum, .fuelCost, .microsPerQuantity]

theorem overrides_sublist (config : Config) :
    (config.overrides.map (·.1)).Sublist pinnable :=
  keys_sublist _

theorem fits_overrides {config : Config} (valid : config.isValid = true) :
    ∀ pair ∈ config.overrides, pair.2 ≤ pair.1.maxValue := by
  simp only [isValid, rules, vehicleRules, injectorRules, behaviorRules, engineRules,
    loggingRules, Rule.ofPresent, List.cons_append, List.nil_append, List.all_cons,
    Bool.and_eq_true] at valid
  obtain ⟨pulses, tank, pause, revs, rpm, factor, count, size, settle, system, reference, duty,
    timeout, period, low, quantum, cost, _⟩ := valid
  apply le_maxValue_of_mem
  simp only [List.forall_mem_cons]
  exact ⟨fits_units _, fits_of_positive pulses, fits_of_decimalWithin tank, fits_of_within pause,
    fits_of_positive revs, fits_of_positive rpm, fits_of_positive count, fits_of_positive size,
    fits_of_within settle, fits_of_positiveDecimal system, fits_of_positiveDecimal reference,
    fits_per1024 duty, fits_of_positive timeout, fits_switch (by decide) _,
    fits_switch (by decide) _, fits_of_within period, fits_switch (by decide) _,
    fits_switch (by decide) _, fits_of_decimalWithin low, fits_of_positiveDecimal quantum,
    fits_of_decimalWithin cost, fits_of_positive factor, nofun⟩

theorem pinned_overrides {config : Config} (valid : config.isValid = true) :
    Pinned config.overrides := by
  constructor
  · exact fits_overrides valid
  · exact (overrides_sublist config).nodup (by decide)
  · intro pair behind same
    have listed : pair.1 ∈ pinnable.tail := by
      apply (overrides_sublist config).tail.subset
      rw [← List.map_tail]
      exact List.mem_map_of_mem behind
    rw [same] at listed
    revert listed
    decide

theorem clock_of_valid {config : Config} (valid : config.isValid = true) :
    config.engine.cyclesPerSecond ≠ 0 ∧ Setup.isTickLength config.engine.tickCycles = true := by
  simp only [isValid, rules, List.all_append, Bool.and_eq_true] at valid
  obtain ⟨⟨_, clock⟩, _⟩ := valid
  simpa [engineRules] using clock

/-- A configuration that keeps its rules boots on any image.  Every value that it pins is in force
then; unless it changes the unit system, what it does not pin is as it was loaded, but for the
fuel factor.  Booting again from what this left changes neither the table nor the image.  Twice the
tick is to fit a word, as for `Board.loopTicks`. -/
theorem valid_config_boots {config : Config} (valid : config.isValid = true)
    (_doubles : config.engine.tickCycles < 2 ^ 31) {store : Store}
    (size : Image.length ≤ store.capacity) :
    let setup (store : Store) : Setup :=
      { Setup.reference with store := some store }.withConfig config
    ∃ loaded computer,
      Image.loadSettings store = .ok loaded ∧ (setup store).build = .ok computer ∧
        (∀ setting value, (setting, value) ∈ config.overrides →
          computer.settings.get setting = value) ∧
        ((∀ value, (.metricMode, value) ∈ config.overrides →
            loaded.settings.get .metricMode = value) →
          ∀ setting, setting ∉ config.overrides.map (·.1) → setting ≠ .microsPerQuantity →
            computer.settings.get setting = loaded.settings.get setting) ∧
        ∃ again, (setup computer.store).build = .ok again ∧
          again.settings = computer.settings ∧ again.store = computer.store := by
  intro setup
  have pinned := pinned_overrides valid
  obtain ⟨rate, tick⟩ := clock_of_valid valid
  have room : Image.recordLength ≤ store.capacity :=
    Nat.le_trans (show Image.recordLength ≤ Image.length by decide) size
  obtain ⟨loaded, loads⟩ :=
    Image.exists_loadSettings (Nat.le_trans (Nat.le_add_right _ _) room)
  have ungiven : ∀ store, ∀ settings ∈ (setup store).settings, settings.InRange := by
    rintro _ _ ⟨⟩
  obtain ⟨firstBoot, initial⟩ := (setup store).exists_initialSettings rfl loads
  have inRange := (Setup.inRange_initialSettings (ungiven store) initial).1
  obtain ⟨computer, built, ready⟩ := Setup.exists_build rfl rate tick initial
    (Setup.laid_apply pinned firstBoot inRange room)
  have saved := (Setup.settled_of_build (ungiven store) built).saved
  have stored := (setup computer.store).initialSettings_of_saved rfl saved
  obtain ⟨again, rebuilt, untouched⟩ := Setup.exists_build rfl rate tick stored
    (Setup.untouched_apply rfl ready.laid.inForce ready.room)
  refine ⟨loaded, computer, loads, built, ?_, ?_, again, rebuilt, ?_, ?_⟩
  · intro setting value member
    exact ready.laid.inForce (setting, value) member
  · exact ready.laid.kept
  · exact untouched.settings
  · exact untouched.store

/-- Pinning the unit system in force, four injectors and the largest share, on an erased image. -/
theorem us_config_boots_on_erased_image :
    let config : Config := { Config.empty with
      vehicle := { Config.empty.vehicle with units := some .us }
      injectors := { Config.empty.injectors with count := some 4, dutyCeiling := some ⟨999⟩ } }
    let store := Store.erased Image.length
    config.isValid = true ∧ config.engine.tickCycles < 2 ^ 31 ∧ Image.length ≤ store.capacity ∧
      ∃ computer,
        ({ Setup.reference with store := some store }.withConfig config).build = .ok computer ∧
          computer.settings.get .injectorDutyCeiling = 1023 ∧
          computer.settings.get .pulsesPerDistance = 10000 := by
  intro config store
  have valid : config.isValid = true := by decide
  have doubles : config.engine.tickCycles < 2 ^ 31 := by decide
  have size : Image.length ≤ store.capacity := by simp [store, Store.erased, Store.capacity]
  have defaulted : Image.loadSettings store = .ok (.defaulted .defaults) := by
    decide +kernel
  obtain ⟨loaded, computer, loads, built, inForce, kept, _⟩ :=
    valid_config_boots valid doubles size
  cases defaulted.symm.trans loads
  have steady : ∀ value, (Setting.metricMode, value) ∈ config.overrides →
      Settings.defaults.get .metricMode = value := by
    intro value member
    have listed : (Setting.metricMode, value) ∈
        [(Setting.metricMode, 0), (.injectorCount, 4), (.injectorDutyCeiling, 1023)] := member
    have same : value = 0 := by simpa using listed
    exact same.symm
  refine ⟨valid, doubles, size, computer, built, ?_, ?_⟩
  · exact inForce _ _ (by decide)
  · exact (kept steady .pulsesPerDistance (by decide) (by decide)).trans (by decide)

end Config

end TripComputer
