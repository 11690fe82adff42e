import TripComputer.Computer.Setup
import TripComputer.Proofs.Computer.Derived
import TripComputer.Proofs.Settings.Block

/-!
# What editing the settings leaves alone

Edits of the table, and the building of a computer, run programs, change settings, write the
settings block and install capture parameters.  Whatever survives these four is kept by each of
their tasks, whether it fails or not.
-/

namespace TripComputer

namespace Computer

/-- Something that is not about settings, registers, capture parameters or what a store holds. -/
structure Unedited (invariant : Computer → Prop) : Prop where
  table : ∀ {computer : Computer}, invariant computer →
    ∀ (calculator : Calculator) (settings : Settings),
      invariant { computer with calculator := calculator, settings := settings }
  parameters : ∀ {computer : Computer}, invariant computer → ∀ parameters : CaptureParameters,
    invariant { computer with capture := computer.capture.setParameters parameters }
  store : ∀ {computer : Computer}, invariant computer →
    ∀ store : Store, store.capacity = computer.store.capacity →
      invariant { computer with store := store }

namespace Unedited

variable {invariant : Computer → Prop}

/-- Programs change settings and registers. -/
theorem keeps_runProgram (unedited : Unedited invariant) (program : Program) (index : UInt8) :
    Keeps invariant (runProgram program index) := by
  apply keeps_iff.mpr
  intro computer holds
  rw [afterTask_runProgram]
  exact unedited.table holds _ _

theorem keeps_changeSetting (unedited : Unedited invariant) (setting : Setting)
    (value : UInt32) : Keeps invariant (changeSetting setting value) := by
  unfold changeSetting
  dsimp only
  apply Meets.read
  intro computer holds
  refine Meets.guard (fun _ => invariant) (fun _ => ?_) (fun _ _ same => same ▸ holds)
    fun _ => Meets.read fun rescaled holds => ?_
  · refine Meets.weaken (Meets.forM fun slot _ => ?_) fun _ same => same ▸ holds
    exact (unedited.keeps_runProgram _ _).bind fun _ => Meets.pure fun _ holds => holds
  · split
    next => exact fun _ same => same ▸ holds
    next => exact Meets.write fun _ _ => unedited.table holds _ _

theorem keeps_rederiveFuelFactor (unedited : Unedited invariant) :
    Keeps invariant rederiveFuelFactor :=
  (unedited.keeps_runProgram _ _).bind fun _ =>
    Meets.read fun _ holds => Meets.pure fun _ same => same ▸ holds

theorem keeps_applyDerived (unedited : Unedited invariant) : Keeps invariant applyDerived := by
  intro computer holds
  obtain ⟨calculator, derived⟩ := applyDerived_eq computer
  rw [derived]
  exact unedited.parameters (unedited.table holds calculator computer.settings) computer.derived

theorem keeps_saveSettings (unedited : Unedited invariant) : Keeps invariant saveSettings := by
  refine Meets.saveSettings (fun computer saved holds wrote => ?_) fun _ _ holds _ => holds
  exact unedited.store holds saved (Store.capacity_write (Image.saveSettings_eq_ok_iff.mp wrote))

theorem keeps_setSetting (unedited : Unedited invariant) (setting : Setting) (value : UInt32) :
    Keeps invariant (setSetting setting value) := by
  unfold setSetting
  dsimp only
  refine (unedited.keeps_changeSetting setting value).bind fun _ => ?_
  have installs : Keeps invariant (applyDerived >>= fun _ => saveSettings) :=
    unedited.keeps_applyDerived.bind fun _ => unedited.keeps_saveSettings
  split
  next => exact unedited.keeps_rederiveFuelFactor.bind fun _ => installs
  next => exact installs

theorem keeps_deriveFuelFactor (unedited : Unedited invariant) :
    Keeps invariant deriveFuelFactor :=
  unedited.keeps_rederiveFuelFactor.bind fun _ => unedited.keeps_applyDerived.bind fun _ =>
    unedited.keeps_saveSettings.bind fun _ => Meets.pure fun _ holds => holds

theorem keeps_layOver (unedited : Unedited invariant) (overrides : List (Setting × UInt32)) :
    Keeps invariant (layOver overrides) := by
  induction overrides with
  | nil => exact Meets.pure fun _ holds => holds
  | cons first rest induction =>
      obtain ⟨setting, value⟩ := first
      unfold layOver
      apply Meets.read
      intro computer holds
      refine Meets.weaken ?_ fun _ same => same ▸ holds
      split
      next => exact induction
      next =>
        exact (unedited.keeps_changeSetting setting value).bind fun _ =>
          induction.bind fun _ => Meets.pure fun _ holds => holds

theorem keeps_applyOverrides (unedited : Unedited invariant)
    (overrides : List (Setting × UInt32)) : Keeps invariant (applyOverrides overrides) := by
  unfold applyOverrides
  dsimp only
  refine (unedited.keeps_layOver overrides).bind fun answer => ?_
  split
  next => exact unedited.keeps_rederiveFuelFactor.bind fun _ => Meets.pure fun _ holds => holds
  next => exact Meets.pure fun _ holds => holds

end Unedited

end Computer

namespace Setup

open Computer

/-- What building a computer changes besides, it changes in loading trips. -/
theorem keeps_apply (setup : Setup) (firstBoot : Bool) {invariant : Computer → Prop}
    (unedited : Unedited invariant) (restores : Keeps invariant Computer.restore) :
    Keeps invariant (setup.apply firstBoot) := by
  unfold apply
  dsimp only
  refine (unedited.keeps_applyOverrides setup.overrides).bind fun changed => ?_
  refine Meets.guard (fun _ => invariant) (fun _ => unedited.keeps_saveSettings)
    (fun _ _ holds => holds) fun _ => unedited.keeps_applyDerived.bind fun _ => ?_
  split
  next => exact restores
  next => exact Meets.pure fun _ holds => holds

end Setup

end TripComputer
