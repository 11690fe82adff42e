import TripComputer.Proofs.Catalog.Nearest
import TripComputer.Proofs.Settings.Rescaling

/-!
# What programs store

Two programs store settings.  The one for the fuel factor stores only that, and the one for
conversions only the setting of its slot, in the other units; without a slot it stops before it
has stored anything.  All of it holds of any surroundings, where settings are in a table that the
stores go to.
-/

namespace TripComputer

/-- The surroundings have their settings in a table, where stores limit a value to the width of
its setting. -/
structure KeepsTable {σ : Type} [Environment σ] (tableOf : σ → Settings) : Prop where
  setting : ∀ environment name,
    Environment.setting environment name = (tableOf environment).get name
  store : ∀ environment name value,
    tableOf (Environment.store environment name value) = (tableOf environment).store name value

namespace Catalog

open Machine

variable {σ : Type} [Environment σ] {arithmetic : Arithmetic} {index : UInt8} {environment : σ}
  {conversion : Conversion} {entry : Program}

/-- The table that a run leaves. -/
def tableAfter (tableOf : σ → Settings) (arithmetic : Arithmetic) (machine : Machine)
    (environment : σ) (entry : Program) (index : UInt8) : Settings :=
  tableOf (machine.run (table arithmetic) environment entry index).environment

/-- What a program cannot store is as it was, however its run ends. -/
theorem get_tableAfter_of_not_stores {tableOf : σ → Settings} (keeps : KeepsTable tableOf)
    {name : Setting} (spared : ¬(table arithmetic).Stores index entry name) (machine : Machine) :
    (tableAfter tableOf arithmetic machine environment entry index).get name =
      (tableOf environment).get name := by
  apply run_environment_of_stable fun after =>
    (tableOf after).get name = (tableOf environment).get name
  · intro after setting value stores same
    have different : name ≠ setting := fun stored => spared (stored ▸ stores)
    rw [keeps.store, Settings.store, Settings.get_put_of_ne _ _ different]
    exact same
  · rfl

/-- A setting times a factor does not overflow, and so the quotient is exact. -/
theorem mulDivRound_exact {registers : Registers} {metric : Bool} {value : UInt32}
    (member : conversion ∈ Conversion.all) (holdsValue : registers.r2 = value.toUInt64)
    (holdsFactor : registers.r1.toNat = (conversion.ratio metric).1)
    (holdsDivisor : registers.r3.toNat = (conversion.ratio metric).2) :
    Answers (table .native) index environment .mulDivRound 0 registers
      (conversion.exact metric value.toNat) := by
  obtain ⟨factorFits, divisorFits⟩ := Conversion.ratio_lt member metric
  have fits : value.toNat * (conversion.ratio metric).1 < 2 ^ 64 :=
    Nat.mul_lt_mul'' (c := 2 ^ 32) (d := 2 ^ 32) value.toNat_lt factorFits
  have exact : scaled value.toNat (conversion.ratio metric).1 (conversion.ratio metric).2 =
      conversion.exact metric value.toNat := by
    rw [scaled, Nat.mod_eq_of_lt fits, Conversion.exact]
  rw [← exact]
  refine mulDivRound_answers ?_ holdsFactor holdsDivisor ?_
  · rw [holdsValue, UInt32.toNat_toUInt64]
  · exact Nat.le_of_lt (Nat.lt_trans divisorFits (by decide))

section

variable (found : Conversion.ofSlot? index = some conversion)

include found

theorem conversion_of_slot : Machine.conversion index = .ok conversion := by
  rw [Machine.conversion, found]
  rfl

theorem perform_loadConvertible (environment : σ) (x : Register) (registers : Registers) :
    perform index registers environment (.loadConvertible x) =
      .ok (registers.set x (Environment.setting environment conversion.setting).toUInt64,
        environment) := by
  rw [perform, conversion_of_slot found]
  rfl

theorem perform_loadNumerator (environment : σ) (x : Register) (registers : Registers) :
    perform index registers environment (.loadNumerator x) =
      .ok (registers.set x conversion.numerator, environment) := by
  rw [perform, conversion_of_slot found]
  rfl

theorem perform_loadDenominator (environment : σ) (x : Register) (registers : Registers) :
    perform index registers environment (.loadDenominator x) =
      .ok (registers.set x conversion.denominator, environment) := by
  rw [perform, conversion_of_slot found]
  rfl

theorem convertSetting_stores (registers : Registers) (environment : σ) :
    Returns (table .native) index .convertSetting 9 registers environment registers
      (Environment.store environment conversion.setting registers.r2) := by
  have stores : perform index registers environment (.storeConvertible .r2) =
      .ok (registers, Environment.store environment conversion.setting registers.r2) := by
    rw [perform, conversion_of_slot found]
    rfl
  exact .data rfl rfl stores (.done rfl)

/-- The program stores what the setting is in the other units. -/
theorem convertSetting_returns (registers : Registers) (environment : σ) :
    ∃ later, Returns (table .native) index .convertSetting 0 registers environment later
        (Environment.store environment conversion.setting later.r2) ∧
      later.r2.toNat = conversion.exact (Environment.metric environment)
        (Environment.setting environment conversion.setting).toNat := by
  have member : conversion ∈ Conversion.all := List.mem_of_getElem? found
  let value := Environment.setting environment conversion.setting
  cases mode : Environment.metric environment with
  | false =>
      obtain ⟨later, called, result⟩ : Answers (table .native) index environment .mulDivRound 0
          ⟨conversion.numerator, value.toUInt64, conversion.denominator, registers.r4,
            registers.r5⟩ (conversion.exact false value.toNat) :=
        mulDivRound_exact member rfl rfl rfl
      refine ⟨later, ?_, result⟩
      refine .data rfl rfl (perform_loadConvertible found environment .r2 registers) ?_
      refine .passed rfl rfl mode ?_
      refine .data rfl rfl (perform_loadNumerator found environment .r1 _) ?_
      refine .data rfl rfl (perform_loadDenominator found environment .r3 _) ?_
      refine .call rfl trivial called ?_
      exact .taken rfl rfl rfl rfl (convertSetting_stores found later environment)
  | true =>
      obtain ⟨later, called, result⟩ : Answers (table .native) index environment .mulDivRound 0
          ⟨conversion.denominator, value.toUInt64, conversion.numerator, registers.r4,
            registers.r5⟩ (conversion.exact true value.toNat) :=
        mulDivRound_exact member rfl rfl rfl
      refine ⟨later, ?_, result⟩
      refine .data rfl rfl (perform_loadConvertible found environment .r2 registers) ?_
      refine .taken rfl rfl rfl mode ?_
      refine .data rfl rfl (perform_loadDenominator found environment .r1 _) ?_
      refine .data rfl rfl (perform_loadNumerator found environment .r3 _) ?_
      exact .call rfl trivial called (convertSetting_stores found later environment)

/-- In either arithmetic, the setting of the slot is the one that is stored. -/
theorem run_convertSetting (arithmetic : Arithmetic) (machine : Machine) (environment : σ) :
    ∃ raw : UInt64,
      (machine.run (table arithmetic) environment .convertSetting index).result = .ok raw ∧
      (machine.run (table arithmetic) environment .convertSetting index).environment =
        Environment.store environment conversion.setting raw ∧
      raw.toNat = conversion.exact (Environment.metric environment)
        (Environment.setting environment conversion.setting).toNat := by
  obtain ⟨later, returns, result⟩ := convertSetting_returns found machine.registers environment
  obtain ⟨ended, _, changed⟩ := run_of_native arithmetic machine returns
  exact ⟨later.r2, ended, changed, result⟩

end

/-- Without a slot the first instruction fails. -/
theorem run_convertSetting_of_no_slot (missing : Conversion.ofSlot? index = none)
    (arithmetic : Arithmetic) (machine : Machine) (environment : σ) :
    (machine.run (table arithmetic) environment .convertSetting index).result =
        .error ⟨.unknownConversion index, machine.registers.r2⟩ ∧
      (machine.run (table arithmetic) environment .convertSetting index).environment =
        environment := by
  have slot : Machine.conversion index = .error (.unknownConversion index) := by
    rw [Machine.conversion, missing]
    rfl
  have fails : perform index machine.registers environment (.loadConvertible .r2) =
      .error (.unknownConversion index) := by
    rw [perform, slot]
    rfl
  let start := machine.start environment .convertSetting
  have fetched : (table arithmetic start.program)[start.pc]? = some (.loadConvertible .r2) := rfl
  have faulted : step (table arithmetic) index start =
      .faulted (.unknownConversion index) start := by
    rw [step_of_fetched fetched, State.traced_eq_self rfl, apply_data rfl]
    simp only [start, Machine.start, fails]
  have stops : machine.run (table arithmetic) environment .convertSetting index =
      start.stop (some (.unknownConversion index)) := by
    rw [run, stepLimit, execute, faulted]
  rw [stops]
  exact ⟨rfl, rfl⟩

theorem exists_slot (small : index < 6) :
    ∃ conversion, Conversion.ofSlot? index = some conversion := by
  have inside : index.toNat < Conversion.all.length := UInt8.lt_iff_toNat_lt.mp small
  exact ⟨_, List.getElem?_eq_getElem inside⟩

theorem no_slot (large : 6 ≤ index) : Conversion.ofSlot? index = none :=
  List.getElem?_eq_none (UInt8.le_iff_toNat_le.mp large)

/-- A run of the conversion leaves the table with the setting of its slot in the other units. -/
theorem tableAfter_convertSetting {tableOf : σ → Settings} (keeps : KeepsTable tableOf)
    (found : Conversion.ofSlot? index = some conversion) (arithmetic : Arithmetic)
    (machine : Machine) (environment : σ) :
    tableAfter tableOf arithmetic machine environment .convertSetting index =
      (tableOf environment).put conversion.setting
        (conversion.switched (Environment.metric environment)
          ((tableOf environment).get conversion.setting)) := by
  obtain ⟨raw, _, changed, exact⟩ := run_convertSetting found arithmetic machine environment
  rw [tableAfter, changed, keeps.store, Settings.store_eq, exact, keeps.setting, Conversion.switched]

theorem toNat_switched_eq_nearest (member : conversion ∈ Conversion.all) (metric : Bool)
    (value : UInt32) :
    (conversion.switched metric value).toNat =
      min conversion.setting.maxValue.toNat
        (nearest (value.toNat * (conversion.ratio metric).1) (conversion.ratio metric).2) := by
  obtain ⟨_, positive, _⟩ := Conversion.ratio_of_mem member metric
  rw [Conversion.toNat_switched, rescaled, rounded_eq_nearest positive]

/-- Programs store no settings but those that they are for, whether their runs end well or in a
fault.  Only two programs store at all.  The conversion of a slot stores the setting of the slot
in the other units, as the nearest whole number that its width allows, and without a slot it is
refused; the program of the fuel factor stores nothing else. -/
theorem programs_store_only_theirs {tableOf : σ → Settings} (keeps : KeepsTable tableOf)
    (arithmetic : Arithmetic) (machine : Machine) (environment : σ) (index : UInt8) :
    let metric := Environment.metric environment
    let before := tableOf environment
    let after program := tableAfter tableOf arithmetic machine environment program index
    let result := (machine.run (table arithmetic) environment .convertSetting index).result
    (∀ program, program ≠ .convertSetting → program ≠ .fuelFactor → after program = before) ∧
    (index < 6 → ∃ conversion, Conversion.all[index.toNat]? = some conversion ∧
      (∃ raw, result = .ok raw) ∧
      (∀ name, name ≠ conversion.setting →
        (after .convertSetting).get name = before.get name) ∧
      ((after .convertSetting).get conversion.setting).toNat =
        min conversion.setting.maxValue.toNat
          (nearest ((before.get conversion.setting).toNat * (conversion.ratio metric).1)
            (conversion.ratio metric).2)) ∧
    (6 ≤ index →
      result = .error ⟨.unknownConversion index, machine.registers.r2⟩ ∧
      after .convertSetting = before) ∧
    (∀ name, name ≠ .microsPerQuantity →
      (after .fuelFactor).get name = before.get name) := by
  intro metric before after result
  refine ⟨?_, ?_, ?_, ?_⟩
  · intro program notConversion notFactor
    have storeless : program.isStoring = false := by
      cases program <;> first | rfl | contradiction
    exact congrArg tableOf
      (run_environment_of_storeless machine environment (storeless_of_not_isStoring storeless))
  · intro small
    obtain ⟨conversion, found⟩ := exists_slot small
    obtain ⟨raw, ended, _⟩ := run_convertSetting found arithmetic machine environment
    have changed := tableAfter_convertSetting keeps found arithmetic machine environment
    refine ⟨conversion, found, ⟨raw, ended⟩, ?_, ?_⟩
    · intro name different
      rw [show after .convertSetting = _ from changed, Settings.get_put_of_ne _ _ different]
    · have member : conversion ∈ Conversion.all := List.mem_of_getElem? found
      rw [show after .convertSetting = _ from changed, Settings.get_put_self]
      exact toNat_switched_eq_nearest member _ _
  · intro large
    obtain ⟨refused, kept⟩ :=
      run_convertSetting_of_no_slot (no_slot large) arithmetic machine environment
    exact ⟨refused, congrArg tableOf kept⟩
  · intro name different
    apply get_tableAfter_of_not_stores keeps
    intro stores
    exact different (eq_microsPerQuantity_of_stores stores)

/-- A speed of sixteen thousand miles an hour does not fit in metric units. -/
theorem conversion_limits_low_speed :
    let surroundings : Surroundings :=
      { settings := Settings.defaults.put .barLowSpeed 16000000,
        cyclesPerSecond := Board.cyclesPerSecond, tickCycles := Board.tickCycles,
        metricOverride := none, trip? := fun _ => none, tankFuel := 0, reading? := fun _ => none }
    let after program index :=
      tableAfter Surroundings.settings .primitive Machine.initial surroundings program index
    KeepsTable Surroundings.settings ∧
      (after .convertSetting 3).get .barLowSpeed = 16777215 ∧
      (after .convertSetting 3).get .tankSize = surroundings.settings.get .tankSize ∧
      after .convertSetting 6 = surroundings.settings ∧
      after .fuelUsed 3 = surroundings.settings ∧
      (after .fuelFactor 0).get .barLowSpeed = 16000000 := by
  intro surroundings after
  have keeps : KeepsTable Surroundings.settings := ⟨fun _ _ => rfl, fun _ _ _ => rfl⟩
  have held : surroundings.settings.get .barLowSpeed = 16000000 := Settings.get_put_self ..
  obtain ⟨storeless, slotted, _, _⟩ :=
    programs_store_only_theirs keeps .primitive Machine.initial surroundings 3
  obtain ⟨_, _, refused, _⟩ :=
    programs_store_only_theirs keeps .primitive Machine.initial surroundings 6
  obtain ⟨_, _, _, factor⟩ :=
    programs_store_only_theirs keeps .primitive Machine.initial surroundings 0
  obtain ⟨conversion, found, _, others, limited⟩ := slotted (by decide)
  cases found
  refine ⟨keeps, ?_, ?_, ?_, ?_, ?_⟩
  · rw [held] at limited
    exact UInt32.toNat_inj.mp (limited.trans (by decide))
  · exact others .tankSize (by decide)
  · exact (refused (by decide)).2
  · exact storeless .fuelUsed (by decide) (by decide)
  · exact (factor .barLowSpeed (by decide)).trans held

end Catalog

end TripComputer
