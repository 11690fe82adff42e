import TripComputer.Computer.Setup
import TripComputer.Proofs.Computer.Settled

/-!
# Settings, store and capture parameters stay coherent

Only the editor of settings and the setup unsettle a computer, while they work on the table.
`Edited` is what holds meanwhile: the table fits and nothing has been saved yet.  No step of an
edit can fail, once the value fits its setting, so that every edit ends with a settled computer.
-/

namespace TripComputer

namespace Computer

open Catalog

/-- The table fits the widths of its settings, and the store is as it was. -/
structure Edited (store : Store) (computer : Computer) : Prop where
  inRange : computer.settings.InRange
  unsaved : computer.store = store

variable {store : Store}

theorem Saved.edited {computer : Computer} (saved : Saved computer) :
    Edited computer.store computer :=
  ⟨saved.inRange, rfl⟩

/-- A program that can be run stores what fits, and does not fail. -/
theorem edited_runProgram {program : Program} {index : UInt8}
    (accepted : isAccepted program index = true) :
    Meets (Edited store) (runProgram program index) (fun _ => Edited store) fun _ => False := by
  intro computer edited
  have inRange : Settings.InRange
      (computer.calculator.call computer.surroundings program index 0).environment.settings :=
    Machine.run_environment_of_stable (fun after : Surroundings => after.settings.InRange)
      (fun _ setting value _ fits => fits.store setting value)
      (computer.calculator.machine.setRegister .r2 0) edited.inRange
  obtain ⟨value, succeeded⟩ : ∃ value,
      (computer.calculator.call computer.surroundings program index 0).result = .ok value :=
    run_ok computer.calculator.arithmetic (computer.calculator.machine.setRegister .r2 0)
      computer.surroundings program index ((furnished_surroundings computer).serves _ accepted)
  simp only [runProgram, succeeded]
  exact ⟨inRange, edited.unsaved⟩

theorem edited_rederiveFuelFactor :
    Meets (Edited store) rederiveFuelFactor (fun _ => Edited store) fun _ => False := by
  unfold rederiveFuelFactor
  refine (edited_runProgram rfl).bind fun _ => Meets.read fun computer edited => ?_
  exact Meets.pure fun _ same => same ▸ edited

/-- Rescaling the table does not fail, and so only the value can be refused. -/
theorem edited_changeSetting (setting : Setting) (value : UInt32) :
    Meets (Edited store) (changeSetting setting value) (fun _ => Edited store)
      fun _ => setting.maxValue < value := by
  have slots : ∀ slot ∈ List.range Conversion.all.length,
      isAccepted .convertSetting slot.toUInt8 = true := by decide
  unfold changeSetting
  dsimp only
  apply Meets.read
  intro computer edited
  -- the table is rescaled before the value is looked at, and so a fault here would leave
  -- it half rescaled
  refine Meets.guard (fun _ => Edited store) (fun _ => ?_) (fun _ _ same => same ▸ edited)
    fun _ => Meets.read fun rescaled edited => ?_
  · refine Meets.weaken (Meets.forM fun slot member => ?_) fun _ same => same ▸ edited
    refine ((edited_runProgram (slots slot member)).bind fun _ => ?_).relax fun _ => False.elim
    exact Meets.pure fun _ edited => edited
  · split
    next refused =>
      intro _ _
      exact (Settings.set_eq_error_iff.mp refused).1
    next changed accepted =>
      exact Meets.write fun _ _ => ⟨edited.inRange.set accepted, edited.unsaved⟩

theorem changeSetting_of_lt {setting : Setting} {value : UInt32} (wide : setting.maxValue < value)
    (computer : Computer) :
    changeSetting setting value computer =
      .error (.setting (.outOfRange setting value)) computer := by
  -- a value that is too wide for the unit system is neither of the two, so that nothing has
  -- been rescaled when it is refused
  have unscaled : ¬(setting = .metricMode ∧ value ≤ 1 ∧
      (value != 0) ≠ computer.settings.metric) := by
    rintro ⟨rfl, switch, _⟩
    exact UInt32.not_lt.mpr switch wide
  have refused : computer.settings.set setting value = .error (.outOfRange setting value) :=
    Settings.set_eq_error_iff.mpr ⟨wide, rfl⟩
  have here : (get : Task Computer) computer = .ok computer computer := rfl
  unfold changeSetting
  dsimp only
  rw [bind_of_ok here, if_neg unscaled, bind_of_ok here, refused]
  rfl

theorem setSetting_of_lt {setting : Setting} {value : UInt32} (wide : setting.maxValue < value)
    (computer : Computer) :
    setSetting setting value computer = .error (.setting (.outOfRange setting value)) computer :=
  bind_of_error (changeSetting_of_lt wide computer)

/-- The capture parameters belong to an edited table. -/
structure Rederived (store : Store) (computer : Computer) : Prop extends
    Edited store computer where
  parameters : computer.capture.parameters = computer.derived

theorem edited_applyDerived :
    Meets (Edited store) applyDerived (fun _ => Rederived store) fun _ => False := by
  intro computer edited
  obtain ⟨calculator, derived⟩ := applyDerived_eq computer
  rw [derived]
  exact ⟨⟨edited.inRange, edited.unsaved⟩, rfl⟩

theorem rederived_saveSettings (room : Image.settingsLength ≤ store.capacity) :
    Meets (Rederived store) saveSettings (fun _ => Settled) fun _ => False := by
  apply Meets.saveSettings
  · intro computer saved rederived wrote
    exact ⟨Image.stored_of_saveSettings rederived.inRange wrote, rederived.parameters⟩
  · intro computer error rederived refused
    obtain ⟨saved, wrote⟩ := Image.exists_saveSettings _ (rederived.unsaved ▸ room)
    cases wrote.symm.trans refused

/-- A settled computer can be edited, and its store has room for the table. -/
theorem settled_of_edits {α : Type} {task : Task α}
    (edits : ∀ store : Store, Image.settingsLength ≤ store.capacity →
      Meets (Edited store) task (fun _ => Settled) fun _ => False) :
    Meets Settled task (fun _ => Settled) fun _ => False :=
  fun computer settled => edits computer.store settled.saved.room computer settled.saved.edited

/-- An edit within the width of its setting succeeds, and settles the computer again. -/
theorem settled_setSetting {setting : Setting} {value : UInt32} (fits : value ≤ setting.maxValue) :
    Meets Settled (setSetting setting value) (fun _ => Settled) fun _ => False := by
  apply settled_of_edits
  intro store room
  unfold setSetting
  dsimp only
  refine ((edited_changeSetting setting value).relax fun _ => UInt32.not_lt.mpr fits).bind
    fun _ => ?_
  have settles : Meets (Edited store) (applyDerived >>= fun _ => saveSettings) (fun _ => Settled)
      fun _ => False :=
    edited_applyDerived.bind fun _ => rederived_saveSettings room
  split
  next => exact edited_rederiveFuelFactor.bind fun _ => settles
  next => exact settles

theorem settled_deriveFuelFactor :
    Meets Settled deriveFuelFactor (fun _ => Settled) fun _ => False := by
  apply settled_of_edits
  intro store room
  unfold deriveFuelFactor
  refine edited_rederiveFuelFactor.bind fun _ => edited_applyDerived.bind fun _ => ?_
  exact (rederived_saveSettings room).bind fun _ => Meets.pure fun _ settled => settled

theorem keeps_setSetting (setting : Setting) (value : UInt32) :
    Keeps Settled (setSetting setting value) := by
  by_cases fits : value ≤ setting.maxValue
  · exact (settled_setSetting fits).relax fun _ => False.elim
  · intro computer settled
    rw [setSetting_of_lt (UInt32.not_le.mp fits) computer]
    exact settled

theorem edited_layOver (overrides : List (Setting × UInt32)) :
    Meets (Edited store) (layOver overrides) (fun _ => Edited store) fun _ => True := by
  induction overrides with
  | nil => exact Meets.pure fun _ edited => edited
  | cons first rest induction =>
      obtain ⟨setting, value⟩ := first
      unfold layOver
      apply Meets.read
      intro computer edited
      refine Meets.weaken ?_ fun _ same => same ▸ edited
      split
      next => exact induction
      next =>
        refine ((edited_changeSetting setting value).relax fun _ _ => True.intro).bind fun _ => ?_
        exact induction.bind fun _ => Meets.pure fun _ edited => edited

/-- Where no value differed, nothing was changed. -/
theorem unchanged_layOver (overrides : List (Setting × UInt32)) (computer : Computer) :
    Meets (· = computer) (layOver overrides)
      (fun answer changed => answer.1 = false → answer.2 = false ∧ changed = computer)
      fun _ => True := by
  induction overrides with
  | nil => exact Meets.pure fun _ same _ => ⟨rfl, same⟩
  | cons first rest induction =>
      obtain ⟨setting, value⟩ := first
      unfold layOver
      apply Meets.read
      rintro _ rfl
      split
      next => exact induction
      next =>
        -- a value that differs makes the answer true, whatever comes after it
        refine (Meets.trivial _).bind fun _ => ?_
        exact (Meets.trivial _).bind fun _ => Meets.pure fun _ _ => nofun

theorem edited_applyOverrides (overrides : List (Setting × UInt32)) :
    Meets (Edited store) (applyOverrides overrides) (fun _ => Edited store) fun _ => True := by
  unfold applyOverrides
  dsimp only
  refine (edited_layOver overrides).bind fun answer => ?_
  split
  next =>
    refine (edited_rederiveFuelFactor.relax fun _ => False.elim).bind fun _ => ?_
    exact Meets.pure fun _ edited => edited
  next => exact Meets.pure fun _ edited => edited

theorem unchanged_applyOverrides (overrides : List (Setting × UInt32)) (computer : Computer) :
    Meets (· = computer) (applyOverrides overrides)
      (fun anyChanged changed => anyChanged = false → changed = computer) fun _ => True := by
  unfold applyOverrides
  dsimp only
  refine (unchanged_layOver overrides computer).bind fun (anyChanged, refuel) => ?_
  cases anyChanged with
  | true =>
      split
      next => exact (Meets.trivial _).bind fun _ => Meets.pure fun _ _ => nofun
      next => exact Meets.pure fun _ _ => nofun
  | false =>
      split
      next rederives =>
        intro changed start
        obtain ⟨refueled, _⟩ := Bool.and_eq_true_iff.mp rederives
        exact Bool.noConfusion (refueled.symm.trans (start rfl).1)
      next => exact Meets.pure fun _ start _ => (start rfl).2

theorem saved_saveSettings :
    Meets (Edited store) saveSettings (fun _ => Saved) fun _ => True :=
  Meets.saveSettings
    (fun _ _ edited wrote => Image.stored_of_saveSettings edited.inRange wrote)
    fun _ _ _ _ => True.intro

theorem settled_applyDerived :
    Meets Saved applyDerived (fun _ => Settled) fun _ => False := by
  intro computer saved
  obtain ⟨calculator, derived⟩ := applyDerived_eq computer
  rw [derived]
  exact ⟨saved, rfl⟩

end Computer

namespace Setup

open Computer

variable {setup : Setup} {computer : Computer}

/-- A setup settles the computer, if its table fits, and is either stored or due to be. -/
theorem settled_apply {firstBoot : Bool} (inRange : computer.settings.InRange)
    (saved : setup.settings.isSome = false → firstBoot = false → Saved computer) :
    Meets (· = computer) (setup.apply firstBoot) (fun _ => Settled) fun _ => True := by
  unfold apply
  dsimp only
  have edits : Meets (· = computer) (applyOverrides setup.overrides)
      (fun _ => Edited computer.store) fun _ => True :=
    (edited_applyOverrides setup.overrides).weaken (by rintro _ rfl; exact ⟨inRange, rfl⟩)
  -- the table is not saved only where it is the loaded one, for which the second half of the
  -- contract is needed
  refine (edits.and (unchanged_applyOverrides setup.overrides computer)).bind fun changed => ?_
  refine Meets.guard (fun _ => Saved) (fun _ => ?_) (fun unsaved current kept => ?_) fun _ => ?_
  · exact saved_saveSettings.weaken fun _ kept => kept.1
  · simp only [Bool.or_eq_true, not_or, Bool.not_eq_true] at unsaved
    obtain ⟨⟨notGiven, notFirst⟩, unchanged⟩ := unsaved
    exact kept.2 unchanged ▸ saved notGiven notFirst
  refine (settled_applyDerived.relax fun _ => False.elim).bind fun _ => ?_
  split
  next => exact robust_settled.keeps_restore.relax fun _ _ => True.intro
  next => exact Meets.pure fun _ settled => settled

/-- The settings to start from fit, and have been loaded unless they were given or are the
defaults of a first boot. -/
theorem inRange_initialSettings {store : Store} {settings : Settings} {firstBoot : Bool}
    (given : ∀ settings ∈ setup.settings, settings.InRange)
    (initial : setup.initialSettings store = .ok (settings, firstBoot)) :
    settings.InRange ∧ (setup.settings.isSome = false → firstBoot = false →
      Image.loadSettings store = .ok (.stored settings)) := by
  unfold initialSettings at initial
  split at initial
  next settings found =>
    cases initial
    exact ⟨given _ found, fun missing => by rw [found] at missing; cases missing⟩
  next =>
    split at initial
    next => cases initial
    next loaded =>
      cases initial
      exact ⟨(Image.loadSettings_eq_stored_iff.mp loaded).1, fun _ _ => loaded⟩
    next loaded =>
      cases initial
      rw [Image.eq_defaults_of_defaulted loaded]
      exact ⟨Settings.inRange_defaults, nofun⟩

theorem exists_of_build (built : setup.build = .ok computer) :
    ∃ store settings firstBoot, setup.store = some store ∧ setup.cyclesPerSecond ≠ 0 ∧
      isTickLength setup.tickCycles = true ∧
      setup.initialSettings store = .ok (settings, firstBoot) ∧
      setup.apply firstBoot (setup.initialComputer store settings firstBoot) =
        .ok () computer := by
  unfold build at built
  dsimp only at built
  split at built
  next store found =>
    split at built
    next =>
      obtain ⟨_, refused, _⟩ := bind_eq_ok_iff.mp built
      cases refused
    next rate =>
      split at built
      next =>
        obtain ⟨_, refused, _⟩ := bind_eq_ok_iff.mp built
        cases refused
      next tick =>
        obtain ⟨⟨settings, firstBoot⟩, initial, built⟩ := bind_eq_ok_iff.mp built
        dsimp only at built
        split at built
        next applied =>
          cases built
          exact ⟨store, settings, firstBoot, found, rate, by simpa using tick, initial, applied⟩
        next => cases built
  next => cases built

theorem settled_of_build (given : ∀ settings ∈ setup.settings, settings.InRange)
    (built : setup.build = .ok computer) : Settled computer := by
  obtain ⟨store, settings, firstBoot, _, _, _, initial, applied⟩ := exists_of_build built
  obtain ⟨inRange, loaded⟩ := inRange_initialSettings given initial
  have settles : Meets (· = setup.initialComputer store settings firstBoot)
      (setup.apply firstBoot) (fun _ => Settled) fun _ => True := settled_apply inRange loaded
  have settled := settles _ rfl
  rwa [applied] at settled

end Setup

namespace Computer

/-- What happens to a computer: an event on the interrupt side, or a task of the main loop. -/
inductive Operation where
  | captured (event : Capture.Event)
  | setSetting (setting : Setting) (value : UInt32)
  | deriveFuelFactor
  | evaluate (quantity : Quantity) (trip : TripName)
  | display (quantity : Quantity) (trip : TripName)
  | poll
  | saveTrip (trip : TripName) (slot : Nat)
  | loadTrip (slot : Nat) (trip : TripName)
  | resetTrip (trip : TripName)
  | autosave
  | restore
  | checkCatalog
deriving DecidableEq, Repr

/-- The computer after an operation.  A task that fails keeps what it changed before. -/
def operate (computer : Computer) : Operation → Computer
  | .captured event => { computer with capture := computer.capture.handle event }
  | .setSetting setting value => afterTask (setSetting setting value) computer
  | .deriveFuelFactor => afterTask deriveFuelFactor computer
  | .evaluate quantity trip => afterTask (evaluate quantity trip) computer
  | .display quantity trip => afterTask (display quantity trip) computer
  | .poll => afterTask poll computer
  | .saveTrip trip slot => afterTask (saveTrip trip slot) computer
  | .loadTrip slot trip => afterTask (loadTrip slot trip) computer
  | .resetTrip trip => afterTask (modifyTrips (·.reset trip)) computer
  | .autosave => afterTask autosave computer
  | .restore => afterTask restore computer
  | .checkCatalog => afterTask checkCatalog computer

/-- What the main loop and the edits keep, every operation keeps. -/
theorem Robust.operate {invariant : Computer → Prop} (robust : Robust invariant)
    (edits : ∀ setting value, Keeps invariant (setSetting setting value))
    (derives : Keeps invariant deriveFuelFactor) {computer : Computer} (holds : invariant computer)
    (operation : Operation) : invariant (computer.operate operation) := by
  have kept {α : Type} {task : Task α} (keeps : Keeps invariant task) :
      invariant (afterTask task computer) :=
    keeps_iff.mp keeps computer holds
  cases operation with
  | captured event => exact robust.handle holds event
  | setSetting setting value => exact kept (edits setting value)
  | deriveFuelFactor => exact kept derives
  | evaluate quantity trip => exact kept (robust.keeps_evaluate quantity trip)
  | display quantity trip => exact kept (robust.keeps_display quantity trip)
  | poll => exact kept robust.keeps_poll
  | saveTrip trip slot => exact kept (robust.keeps_saveTrip trip slot)
  | loadTrip slot trip => exact kept (robust.keeps_loadTrip slot trip)
  | resetTrip trip => exact kept (robust.keeps_modifyTrips (·.reset trip))
  | autosave => exact kept robust.keeps_autosave
  | restore => exact kept robust.keeps_restore
  | checkCatalog => exact (robust.after_checkCatalog holds :)

/-- An operation leaves a settled computer settled. -/
theorem Settled.operate {computer : Computer} (settled : Settled computer)
    (operation : Operation) : Settled (computer.operate operation) :=
  robust_settled.operate keeps_setSetting (settled_deriveFuelFactor.relax fun _ => False.elim)
    settled operation

theorem Settled.run {computer : Computer} (settled : Settled computer)
    (operations : List Operation) : Settled (operations.foldl Computer.operate computer) := by
  -- on the operations, for every settled computer that they may start from
  induction operations generalizing computer with
  | nil => exact settled
  | cons first rest induction => exact induction (settled.operate first)

end Computer

end TripComputer
