import TripComputer.Proofs.Computer.Coherence
import TripComputer.Proofs.Image.Record

/-!
# Values laid over the settings

Values are laid over the table one after another, and a change of the unit system rescales
others on its way.  Where the unit system comes first, every value is in force at the end, and
without a change of it nothing else is touched.  The fuel factor is derived from some of the
values, unless it is laid over the table itself.
-/

namespace TripComputer

namespace Settings

variable {settings : Settings} {values : List (Setting × UInt32)}

/-- The table with values put into it, in order. -/
def overlay (settings : Settings) (values : List (Setting × UInt32)) : Settings :=
  values.foldl (fun table pair => table.put pair.1 pair.2) settings

theorem put_get_self (settings : Settings) (setting : Setting) :
    settings.put setting (settings.get setting) = settings := by
  apply ext_get
  intro other
  by_cases same : other = setting
  · rw [same, get_put_self]
  · rw [get_put_of_ne settings _ same]

theorem get_overlay_of_not_mem {setting : Setting} (absent : setting ∉ values.map (·.1)) :
    (settings.overlay values).get setting = settings.get setting := by
  induction values generalizing settings with
  | nil => rfl
  | cons first rest induction =>
      obtain ⟨different, later⟩ := not_or.mp (mt List.mem_cons.mpr absent)
      exact (induction later).trans (get_put_of_ne settings first.2 different)

theorem get_overlay_of_mem (distinct : (values.map (·.1)).Nodup) :
    ∀ pair ∈ values, (settings.overlay values).get pair.1 = pair.2 := by
  induction values generalizing settings with
  | nil => nofun
  | cons first rest induction =>
      obtain ⟨fresh, distinct⟩ := List.nodup_cons.mp distinct
      intro pair member
      rcases List.mem_cons.mp member with rfl | later
      · exact (get_overlay_of_not_mem fresh).trans (get_put_self settings pair.1 pair.2)
      · exact induction distinct pair later

end Settings

namespace Computer

open Catalog

/-- Values that can be laid over a table together. -/
structure Pinned (values : List (Setting × UInt32)) : Prop where
  fits : ∀ pair ∈ values, pair.2 ≤ pair.1.maxValue
  distinct : (values.map (·.1)).Nodup
  unitsFirst : ∀ pair ∈ values.tail, pair.1 ≠ .metricMode

/-- The unit system is not among the values, or is in force already. -/
def Steady (settings : Settings) (values : List (Setting × UInt32)) : Prop :=
  ∀ value, (Setting.metricMode, value) ∈ values → settings.get .metricMode = value

/-- What the values have made of a table. -/
structure Laid (values : List (Setting × UInt32)) (before after : Settings) : Prop where
  inForce : ∀ pair ∈ values, after.get pair.1 = pair.2
  kept : Steady before values → ∀ setting, setting ∉ values.map (·.1) →
    setting ≠ .microsPerQuantity → after.get setting = before.get setting

variable {values : List (Setting × UInt32)} {before : Settings}

theorem laid_overlay (distinct : (values.map (·.1)).Nodup) :
    Laid values before (before.overlay values) := by
  constructor
  · exact Settings.get_overlay_of_mem distinct
  · intro _ setting absent _
    exact Settings.get_overlay_of_not_mem absent

theorem laid_switched {mode : UInt32} {switched : Settings}
    (distinct : (((Setting.metricMode, mode) :: values).map (·.1)).Nodup)
    (inForce : switched.get .metricMode = mode) (differs : before.get .metricMode ≠ mode) :
    Laid ((.metricMode, mode) :: values) before (switched.overlay values) := by
  obtain ⟨fresh, distinct⟩ := List.nodup_cons.mp distinct
  constructor
  · intro pair member
    rcases List.mem_cons.mp member with rfl | later
    · exact (Settings.get_overlay_of_not_mem fresh).trans inForce
    · exact Settings.get_overlay_of_mem distinct pair later
  · intro steady
    exact absurd (steady mode List.mem_cons_self) differs

/-- A fuel factor that is not pinned may change. -/
theorem Laid.store {after : Settings} (laid : Laid values before after)
    (unpinned : Setting.microsPerQuantity ∉ values.map (·.1)) (value : UInt64) :
    Laid values before (after.store .microsPerQuantity value) := by
  constructor
  · intro pair member
    have different : pair.1 ≠ .microsPerQuantity := by
      intro same
      exact unpinned (same ▸ List.mem_map_of_mem member)
    exact (Settings.get_put_of_ne after _ different).trans (laid.inForce pair member)
  · intro steady setting absent different
    exact (Settings.get_put_of_ne after _ different).trans
      (laid.kept steady setting absent different)

theorem changeSetting_of_ne {setting : Setting} {value : UInt32} (unitless : setting ≠ .metricMode)
    (fits : value ≤ setting.maxValue) (computer : Computer) :
    changeSetting setting value computer =
      .ok () { computer with settings := computer.settings.put setting value } := by
  have accepted : computer.settings.set setting value = .ok (computer.settings.put setting value) :=
    Settings.set_eq_ok_iff.mpr ⟨fits, rfl⟩
  have here : (get : Task Computer) computer = .ok computer computer := rfl
  unfold changeSetting
  dsimp only
  rw [bind_of_ok here, if_neg fun switches => unitless switches.1, bind_of_ok here, accepted]
  rfl

/-- A value that has been accepted is in force. -/
theorem inForce_changeSetting (setting : Setting) (value : UInt32) (anywhere : Computer → Prop) :
    Meets anywhere (changeSetting setting value)
      (fun _ changed => changed.settings.get setting = value) fun _ => True := by
  unfold changeSetting
  dsimp only
  apply Meets.read
  intro computer _
  apply Meets.guard (fun _ _ => True)
  · exact fun _ => Meets.trivial _
  · exact fun _ _ _ => True.intro
  intro _
  apply Meets.read
  intro rescaled _
  split
  next => exact fun _ _ => True.intro
  next settings accepted =>
    obtain ⟨_, rfl⟩ := Settings.set_eq_ok_iff.mp accepted
    exact Meets.write fun _ _ => Settings.get_put_self ..

/-- In a unit system that stays, every value is put into the table as it is. -/
theorem layOver_of_steady (fits : ∀ pair ∈ values, pair.2 ≤ pair.1.maxValue)
    (computer : Computer) (steady : Steady computer.settings values) :
    ∃ answer, layOver values computer =
      .ok answer { computer with settings := computer.settings.overlay values } := by
  induction values generalizing computer with
  | nil => exact ⟨_, rfl⟩
  | cons first rest induction =>
      obtain ⟨setting, value⟩ := first
      obtain ⟨here, fits⟩ := List.forall_mem_cons.mp fits
      have reads : (get : Task Computer) computer = .ok computer computer := rfl
      unfold layOver
      rw [bind_of_ok reads]
      split
      next same =>
        have later : Steady computer.settings rest := fun value member =>
          steady value (List.mem_cons_of_mem _ member)
        obtain ⟨answer, laid⟩ := induction fits computer later
        have unmoved : computer.settings.put setting value = computer.settings := by
          rw [← same, Settings.put_get_self]
        refine ⟨answer, laid.trans ?_⟩
        rw [Settings.overlay, Settings.overlay, List.foldl_cons, unmoved]
      next differs =>
        have unitless : setting ≠ .metricMode := by
          rintro rfl
          exact differs (steady value List.mem_cons_self)
        have later : Steady (computer.settings.put setting value) rest := by
          intro mode member
          rw [Settings.get_put_of_ne _ _ unitless.symm]
          exact steady mode (List.mem_cons_of_mem _ member)
        obtain ⟨answer, laid⟩ :=
          induction fits { computer with settings := computer.settings.put setting value } later
        rw [bind_of_ok (changeSetting_of_ne unitless here computer), bind_of_ok laid]
        exact ⟨_, rfl⟩

theorem laid_layOver (pinned : Pinned values) {computer : Computer}
    (inRange : computer.settings.InRange) :
    Meets (· = computer) (layOver values)
      (fun _ changed => Laid values computer.settings changed.settings) fun _ => False := by
  by_cases steady : Steady computer.settings values
  · rintro computer rfl
    obtain ⟨answer, laid⟩ := layOver_of_steady pinned.fits computer steady
    rw [laid]
    exact laid_overlay pinned.distinct
  · -- the unit system changes, and being the first of the values, it rescales none of them
    obtain ⟨mode, changes⟩ := not_forall.mp steady
    obtain ⟨member, differs⟩ := Classical.not_imp.mp changes
    cases values with
    | nil => cases member
    | cons first rest =>
        have unitless : ∀ value, (Setting.metricMode, value) ∉ rest := fun value later =>
          pinned.unitsFirst _ later rfl
        rcases List.mem_cons.mp member with rfl | later
        · obtain ⟨here, fits⟩ := List.forall_mem_cons.mp pinned.fits
          unfold layOver
          apply Meets.read
          rintro computer rfl
          rw [if_neg differs]
          have edited : Meets (· = computer) (changeSetting .metricMode mode)
              (fun _ => Edited computer.store) fun _ => False := by
            apply ((edited_changeSetting .metricMode mode).relax _).weaken
            · rintro computer rfl
              exact ⟨inRange, rfl⟩
            · exact fun _ => UInt32.not_lt.mpr here
          have lays : Meets (fun switched => switched.settings.get .metricMode = mode)
              (layOver rest)
              (fun _ changed =>
                Laid ((.metricMode, mode) :: rest) computer.settings changed.settings)
              fun _ => False := by
            intro switched inForce
            obtain ⟨answer, laid⟩ := layOver_of_steady fits switched
              fun value later => absurd later (unitless value)
            rw [laid]
            exact laid_switched pinned.distinct inForce differs
          refine (edited.and (inForce_changeSetting .metricMode mode _)).bind fun _ => ?_
          exact (lays.weaken fun _ => And.right).bind fun _ => Meets.pure fun _ laid => laid
        · exact absurd later (unitless mode)

theorem laid_rederiveFuelFactor (unpinned : Setting.microsPerQuantity ∉ values.map (·.1)) :
    Keeps (fun computer => Laid values before computer.settings) rederiveFuelFactor := by
  have runs : Keeps (fun computer => Laid values before computer.settings)
      (runProgram .fuelFactor 0) := by
    apply keeps_iff.mpr
    intro computer laid
    rw [afterTask_runProgram]
    apply Machine.run_environment_of_stable
      fun after : Surroundings => Laid values before after.settings
    · intro surroundings setting value stores laid
      rw [eq_microsPerQuantity_of_stores stores]
      exact laid.store unpinned value
    · exact laid
  exact runs.bind fun _ => Meets.read fun _ laid => Meets.pure fun _ same => same ▸ laid

/-- Pinned values end up in force, and no step on the way fails. -/
theorem laid_applyOverrides (pinned : Pinned values) {computer : Computer}
    (inRange : computer.settings.InRange) :
    Meets (· = computer) (applyOverrides values)
      (fun _ changed => Laid values computer.settings changed.settings ∧
        changed.store = computer.store) fun _ => False := by
  unfold applyOverrides
  dsimp only
  have edits : Meets (· = computer) (layOver values) (fun _ => Edited computer.store)
      fun _ => True := by
    apply (edited_layOver values).weaken
    rintro computer rfl
    exact ⟨inRange, rfl⟩
  refine ((laid_layOver pinned inRange).and edits).bind fun (changed, refuel) => ?_
  split
  next rederives =>
    have unpinned : Setting.microsPerQuantity ∉ values.map (·.1) := by
      intro member
      obtain ⟨pair, member, same⟩ := List.mem_map.mp member
      have absent := (Bool.and_eq_true_iff.mp rederives).2
      simp only [Bool.not_eq_true', List.any_eq_false, beq_iff_eq] at absent
      exact absent pair member same
    refine Meets.bind ((edited_rederiveFuelFactor.weaken fun _ => And.right).and
      ((laid_rederiveFuelFactor unpinned).weaken fun _ => And.left)) fun _ => Meets.pure ?_
    rintro computer ⟨edited, laid⟩
    exact ⟨laid, edited.unsaved⟩
  next =>
    apply Meets.pure
    rintro computer ⟨laid, edited⟩
    exact ⟨laid, edited.unsaved⟩

/-- Values in force are not laid over the table again. -/
theorem layOver_of_inForce {computer : Computer}
    (inForce : ∀ pair ∈ values, computer.settings.get pair.1 = pair.2) :
    layOver values computer = .ok (false, false) computer := by
  induction values with
  | nil => rfl
  | cons first rest induction =>
      obtain ⟨setting, value⟩ := first
      obtain ⟨here, later⟩ := List.forall_mem_cons.mp inForce
      have reads : (get : Task Computer) computer = .ok computer computer := rfl
      unfold layOver
      rw [bind_of_ok reads, if_pos here]
      exact induction later

theorem applyOverrides_of_inForce {computer : Computer}
    (inForce : ∀ pair ∈ values, computer.settings.get pair.1 = pair.2) :
    applyOverrides values computer = .ok false computer :=
  bind_of_ok (layOver_of_inForce inForce)

/-- What a computer is built from is as it was. -/
structure Untouched (settings : Settings) (store : Store) (computer : Computer) : Prop where
  settings : computer.settings = settings
  store : computer.store = store

variable {settings : Settings} {store : Store}

theorem untouched_loadTrip {slot : Nat} (inside : slot < Image.slotCount)
    (room : Image.recordLength ≤ store.capacity) (trip : TripName) :
    Meets (Untouched settings store) (loadTrip slot trip) (fun _ => Untouched settings store)
      fun _ => False := by
  have changes (change : Trips → Trips) : Meets (Untouched settings store) (modifyTrips change)
      (fun _ => Untouched settings store) fun _ => False :=
    Meets.update fun _ untouched => ⟨untouched.settings, untouched.store⟩
  unfold loadTrip
  refine (changes _).bind fun _ => Meets.read fun computer untouched => ?_
  obtain ⟨saved, loaded⟩ :=
    Image.exists_loadTrip inside (Nat.le_trans (Image.slot_end_le inside) room)
  rw [untouched.store, loaded]
  refine Meets.weaken ?_ fun _ same => same ▸ untouched
  cases saved with
  | none => exact Meets.pure fun _ untouched => untouched
  | some saved => exact (changes _).bind fun _ => Meets.pure fun _ untouched => untouched

theorem lt_of_mem_autosaveSlots {computer : Computer} :
    ∀ pair ∈ computer.autosaveSlots, pair.2 < Image.slotCount := by
  have every : ∀ active idle : Bool, ∀ pair ∈
      (if active then [(TripName.tank, 0), (.current, 1)] else []) ++
        (if idle then [(TripName.idleTank, 2), (.idleCurrent, 3)] else []),
      pair.2 < Image.slotCount := by
    decide
  exact every _ _

theorem untouched_restore (room : Image.recordLength ≤ store.capacity) :
    Meets (Untouched settings store) restore (fun _ => Untouched settings store)
      fun _ => False := by
  unfold restore
  refine Meets.read fun computer untouched => Meets.weaken ?_ fun _ same => same ▸ untouched
  apply Meets.forM
  rintro ⟨trip, slot⟩ member
  refine (untouched_loadTrip (lt_of_mem_autosaveSlots _ member) room trip).bind fun _ => ?_
  exact Meets.pure fun _ untouched => untouched

theorem untouched_applyDerived :
    Meets (Untouched settings store) applyDerived (fun _ => Untouched settings store)
      fun _ => False := by
  intro computer untouched
  obtain ⟨calculator, derived⟩ := applyDerived_eq computer
  rw [derived]
  exact ⟨untouched.settings, untouched.store⟩

/-- The values are laid, and the store has room for everything that is loaded from it. -/
structure Ready (values : List (Setting × UInt32)) (before : Settings) (computer : Computer) :
    Prop where
  laid : Laid values before computer.settings
  room : Image.recordLength ≤ computer.store.capacity

theorem ready_saveSettings :
    Meets (Ready values before) saveSettings (fun _ => Ready values before) fun _ => False := by
  apply Meets.saveSettings
  · intro computer store ready wrote
    exact ⟨ready.laid,
      Store.capacity_write (Image.saveSettings_eq_ok_iff.mp wrote) ▸ ready.room⟩
  · intro computer error ready refused
    obtain ⟨saved, wrote⟩ := Image.exists_saveSettings computer.settings
      (Nat.le_trans (Nat.le_add_right _ _) ready.room)
    cases wrote.symm.trans refused

end Computer

namespace Setup

open Computer

variable {setup : Setup} {computer : Computer}

/-- Once the table is ready, a setup changes neither the table nor the store. -/
theorem untouched_finish (room : Image.recordLength ≤ computer.store.capacity) :
    Meets (· = computer)
      (applyDerived >>= fun _ => if setup.restore then Computer.restore else pure ())
      (fun _ => Untouched computer.settings computer.store) fun _ => False := by
  have restores : Meets (Untouched computer.settings computer.store)
      (if setup.restore then Computer.restore else pure ())
      (fun _ => Untouched computer.settings computer.store) fun _ => False := by
    split
    next => exact untouched_restore room
    next => exact Meets.pure fun _ untouched => untouched
  apply (untouched_applyDerived.bind fun _ => restores).weaken
  rintro computer rfl
  exact ⟨rfl, rfl⟩

/-- A setup with values that can be pinned succeeds, and they are in force at the end. -/
theorem laid_apply (pinned : Pinned setup.overrides) (firstBoot : Bool)
    (inRange : computer.settings.InRange) (room : Image.recordLength ≤ computer.store.capacity) :
    Meets (· = computer) (setup.apply firstBoot)
      (fun _ => Ready setup.overrides computer.settings) fun _ => False := by
  unfold apply
  dsimp only
  refine (laid_applyOverrides pinned inRange).bind fun changed => ?_
  apply Meets.guard (fun _ => Ready setup.overrides computer.settings)
  · intro _
    apply ready_saveSettings.weaken
    rintro changed ⟨laid, same⟩
    exact ⟨laid, same ▸ room⟩
  · rintro _ changed ⟨laid, same⟩
    exact ⟨laid, same ▸ room⟩
  · intro _
    apply Meets.each
    intro table ready
    apply (untouched_finish ready.room).mono
    rintro _ final ⟨sameSettings, sameStore⟩
    exact ⟨sameSettings ▸ ready.laid, sameStore ▸ ready.room⟩

/-- Where the values are in force already, a setup changes neither the table nor the store. -/
theorem untouched_apply (stored : setup.settings = none)
    (inForce : ∀ pair ∈ setup.overrides, computer.settings.get pair.1 = pair.2)
    (room : Image.recordLength ≤ computer.store.capacity) :
    Meets (· = computer) (setup.apply false)
      (fun _ => Untouched computer.settings computer.store) fun _ => False := by
  rintro computer rfl
  unfold apply
  dsimp only
  rw [bind_of_ok (applyOverrides_of_inForce inForce), stored]
  exact untouched_finish room computer rfl

theorem exists_initialSettings (setup : Setup) {store : Store} {loaded : Image.LoadedSettings}
    (unset : setup.settings = none) (loads : Image.loadSettings store = .ok loaded) :
    ∃ firstBoot, setup.initialSettings store = .ok (loaded.settings, firstBoot) := by
  unfold initialSettings
  rw [unset, loads]
  cases loaded with
  | stored settings => exact ⟨false, rfl⟩
  | defaulted settings => exact ⟨true, rfl⟩

theorem initialSettings_of_saved (setup : Setup) (unset : setup.settings = none) (saved : Saved computer) :
    setup.initialSettings computer.store = .ok (computer.settings, false) := by
  unfold initialSettings
  rw [unset, saved]

/-- What a setup starts from, once it is applied without a failure, makes a computer. -/
theorem exists_build {store : Store} {settings : Settings} {firstBoot : Bool}
    {after : Unit → Computer → Prop} (found : setup.store = some store)
    (rate : setup.cyclesPerSecond ≠ 0) (tick : isTickLength setup.tickCycles = true)
    (initial : setup.initialSettings store = .ok (settings, firstBoot))
    (applies : Meets (· = setup.initialComputer store settings firstBoot) (setup.apply firstBoot)
      after fun _ => False) :
    ∃ computer, setup.build = .ok computer ∧ after () computer := by
  obtain ⟨answer, computer, applied, holds⟩ := applies.exists_answer rfl
  refine ⟨computer, ?_, holds⟩
  simp only [build, found, rate, tick, initial, applied, bind, Except.bind, if_false,
    Bool.not_true, Bool.false_eq_true]

end Setup

end TripComputer
