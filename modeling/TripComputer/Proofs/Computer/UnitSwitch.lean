import TripComputer.Proofs.Catalog.Storing

/-!
# Switching the unit system

The editor rescales the table by running a program of the catalog for each setting with a unit,
and only then changes the unit system.  What that makes of the table is `Settings.switched`, so
that what is known of switched tables is known of edited computers.
-/

namespace TripComputer

namespace Computer

open Catalog

theorem runProgram_convertSetting {index : UInt8} {conversion : Conversion} (computer : Computer)
    (found : Conversion.ofSlot? index = some conversion) :
    ∃ raw calculator, runProgram .convertSetting index computer =
      .ok raw { computer with
        calculator := calculator
        settings := computer.settings.put conversion.setting
          (conversion.switched computer.settings.metric
            (computer.settings.get conversion.setting)) } := by
  obtain ⟨raw, ended, changed, exact⟩ := run_convertSetting found computer.calculator.arithmetic
    (computer.calculator.machine.setRegister .r2 0) computer.surroundings
  have stored : computer.settings.store conversion.setting raw =
      computer.settings.put conversion.setting (conversion.switched computer.settings.metric
        (computer.settings.get conversion.setting)) := by
    rw [Settings.store_eq, exact]
    rfl
  refine ⟨raw, computer.calculator.after (computer.calculator.call computer.surroundings
    .convertSetting index 0), ?_⟩
  simp only [runProgram, Calculator.call, ended, Computer.after, changed, ← stored]
  rfl

theorem ofSlot?_toUInt8 (slot : Fin Conversion.all.length) :
    Conversion.ofSlot? slot.val.toUInt8 = some (Conversion.all.get slot) := by
  revert slot
  decide

/-- The programs for the first settings with a unit, one after another. -/
theorem forM_convertSetting {count : Nat} (inside : count ≤ Conversion.all.length)
    (computer : Computer) :
    ∃ calculator, ((List.range count).forM fun slot => do
        let _ ← runProgram .convertSetting slot.toUInt8) computer =
      .ok ⟨⟩ { computer with
        calculator := calculator
        settings := computer.settings.overlay (computer.settings.switchedValues.take count) } := by
  induction count with
  | zero => exact ⟨computer.calculator, rfl⟩
  | succ count induction =>
      obtain ⟨calculator, before⟩ := induction (Nat.le_of_succ_le inside)
      have next := Settings.overlay_take_succ computer.settings ⟨count, inside⟩
      obtain ⟨raw, last, stored⟩ := runProgram_convertSetting
        { computer with
          calculator := calculator
          settings := computer.settings.overlay (computer.settings.switchedValues.take count) }
        (ofSlot?_toUInt8 ⟨count, inside⟩)
      have here : (runProgram .convertSetting count.toUInt8 >>= fun _ => (pure ⟨⟩ : Task PUnit)) _ =
          .ok ⟨⟩ _ :=
        bind_of_ok stored
      refine ⟨last, ?_⟩
      rw [List.forM_eq_forM] at before ⊢
      rw [List.range_succ, List.forM_append, bind_of_ok before, List.forM_cons, bind_of_ok here,
        next]
      rfl

/-- Changing the unit system in the table rescales it, and does not fail. -/
theorem changeSetting_otherMode (computer : Computer) :
    ∃ calculator, changeSetting .metricMode computer.settings.otherMode computer =
      .ok () { computer with
        calculator := calculator
        settings := computer.settings.switched } := by
  obtain ⟨calculator, rescaled⟩ := forM_convertSetting (Nat.le_refl _) computer
  have here (computer : Computer) : (get : Task Computer) computer = .ok computer computer := rfl
  have switches : computer.settings.otherMode ≤ 1 ∧
      (computer.settings.otherMode != 0) ≠ computer.settings.metric := by
    rw [Settings.otherMode]
    cases computer.settings.metric <;> decide
  have whole : computer.settings.switchedValues.take Conversion.all.length =
      computer.settings.switchedValues :=
    List.take_of_length_le (by rw [Settings.switchedValues, List.length_map])
  have accepted (settings : Settings) : settings.set .metricMode computer.settings.otherMode =
      .ok (settings.put .metricMode computer.settings.otherMode) :=
    Settings.set_eq_ok_iff.mpr ⟨switches.1, rfl⟩
  rw [whole] at rescaled
  refine ⟨calculator, ?_⟩
  unfold changeSetting
  dsimp only
  rw [bind_of_ok (here computer), if_pos ⟨rfl, switches⟩, bind_of_ok rescaled, bind_of_ok (here _),
    accepted]
  rfl

/-- Switching the unit system has only the saving left to fail. -/
theorem setSetting_otherMode (computer : Computer) :
    ∃ calculator capture, setSetting .metricMode computer.settings.otherMode computer =
      saveSettings { computer with
        calculator := calculator
        capture := capture
        settings := computer.settings.switched } := by
  obtain ⟨first, changed⟩ := changeSetting_otherMode computer
  obtain ⟨second, derived⟩ := applyDerived_eq { computer with
    calculator := first
    settings := computer.settings.switched }
  unfold setSetting
  dsimp only
  rw [bind_of_ok changed]
  exact ⟨second, _, bind_of_ok derived⟩

theorem saveSettings_eq_ok_iff {computer changed : Computer} :
    saveSettings computer = .ok () changed ↔
      ∃ store, Image.saveSettings computer.store computer.settings = .ok store ∧
        { computer with store := store } = changed := by
  have here : (get : Task Computer) computer = .ok computer computer := rfl
  unfold saveSettings
  rw [bind_of_ok here]
  exact writeStore_eq_ok_iff

/-- The editor switches the unit system from one computer to the next. -/
def Switches (before after : Computer) : Prop :=
  setSetting .metricMode before.settings.otherMode before = .ok () after

namespace Switches

variable {before after : Computer}

theorem of_room (room : Image.settingsLength ≤ before.store.capacity) :
    ∃ after, Switches before after := by
  obtain ⟨calculator, capture, outcome⟩ := setSetting_otherMode before
  obtain ⟨store, wrote⟩ := Image.exists_saveSettings before.settings.switched room
  exact ⟨_, outcome.trans (saveSettings_eq_ok_iff.mpr ⟨store, wrote, rfl⟩)⟩

/-- The table is rescaled, and there was room to save it and there still is. -/
theorem spec (switches : Switches before after) :
    after.settings = before.settings.switched ∧
      Image.settingsLength ≤ after.store.capacity := by
  obtain ⟨calculator, capture, outcome⟩ := setSetting_otherMode before
  obtain ⟨store, wrote, rfl⟩ := saveSettings_eq_ok_iff.mp (outcome.symm.trans switches)
  have access := Image.saveSettings_eq_ok_iff.mp wrote
  refine ⟨rfl, ?_⟩
  rw [Store.capacity_write access]
  have inside := (Store.write_eq_ok_iff.mp access).1
  rwa [Nat.zero_add] at inside

end Switches

/-- Switching the unit system sets the other mode, rescales six settings and touches no others.
Switching it twice restores what was enlarged without being limited, and switching it twice again
changes nothing, whatever was rounded or limited on the way. -/
theorem unit_switches_settle {computer : Computer} (inRange : computer.settings.InRange) :
    (Image.settingsLength ≤ computer.store.capacity → ∃ first, Switches computer first) ∧
      ∀ first, Switches computer first →
        first.settings = computer.settings.switched ∧
        first.settings.metric = !computer.settings.metric ∧
        (∀ setting, setting ≠ .metricMode →
          (∀ conversion ∈ Conversion.all, conversion.setting ≠ setting) →
            first.settings.get setting = computer.settings.get setting) ∧
        ∃ second third fourth, Switches first second ∧ Switches second third ∧
          Switches third fourth ∧ fourth.settings = second.settings ∧
          ∀ conversion ∈ Conversion.all, conversion.Enlarges computer.settings.metric →
            conversion.exact computer.settings.metric
              (computer.settings.get conversion.setting).toNat ≤
                conversion.setting.maxValue.toNat →
              second.settings.get conversion.setting =
                computer.settings.get conversion.setting := by
  refine ⟨Switches.of_room, fun first toFirst => ?_⟩
  obtain ⟨firstTable, room⟩ := toFirst.spec
  obtain ⟨second, toSecond⟩ := Switches.of_room room
  obtain ⟨secondTable, room⟩ := toSecond.spec
  obtain ⟨third, toThird⟩ := Switches.of_room room
  obtain ⟨thirdTable, room⟩ := toThird.spec
  obtain ⟨fourth, toFourth⟩ := Switches.of_room room
  have fourthTable := toFourth.spec.1
  rw [firstTable] at secondTable
  refine ⟨firstTable, ?_, ?_, second, third, fourth, toSecond, toThird, toFourth, ?_, ?_⟩
  · rw [firstTable]
    exact Settings.metric_switched computer.settings
  · intro setting notMode unitless
    rw [firstTable]
    exact Settings.get_switched_of_unitless notMode unitless
  · rw [fourthTable, thirdTable, secondTable]
    exact Settings.switched_settles inRange
  · intro conversion member enlarges fits
    rw [secondTable]
    exact Settings.switched_switched_restores inRange member enlarges fits

/-- A tank of eighteen gallons in thousandths, and back from litres. -/
theorem tank_size_survives_two_switches :
    let computer := Setup.reference.initialComputer (.erased Image.length) .defaults false
    ∃ first second, Switches computer first ∧ Switches first second ∧
      second.settings.get .tankSize = 18000 := by
  intro computer
  have inRange : computer.settings.InRange := Settings.inRange_defaults
  have room : Image.settingsLength ≤ computer.store.capacity := by
    show Image.settingsLength ≤ (Store.erased Image.length).capacity
    rw [Store.capacity_erased]
    decide
  obtain ⟨succeeds, settles⟩ := unit_switches_settle inRange
  obtain ⟨first, toFirst⟩ := succeeds room
  obtain ⟨_, _, _, second, _, _, toSecond, _, _, _, restores⟩ := settles first toFirst
  have tank : ⟨.tankSize, Conversion.gallon, Conversion.litre⟩ ∈ Conversion.all := by decide
  exact ⟨first, second, toFirst, toSecond, restores _ tank (by decide) (by decide)⟩

end Computer

end TripComputer
