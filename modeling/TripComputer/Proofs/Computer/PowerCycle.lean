import TripComputer.Proofs.Computer.Hardware
import TripComputer.Proofs.Computer.Overlay
import TripComputer.Proofs.Trip.Kept

/-!
# What survives without power

Falling asleep saves some of the trips behind the settings block, and a computer that is built on
the same bytes loads them again.  Which ones they are is read from the settings, by the one computer
from its table and by the other from the block, so that nothing is mixed up as long as the two are
the same.
-/

namespace TripComputer

namespace Image

variable {store saved : Store} {slot : Nat} {trip : Trip} {timestamp : UInt32}

theorem saveTrip_eq_ok_iff_of_lt (inside : slot < slotCount) :
    saveTrip store slot trip timestamp = .ok saved ↔
      store.write (settingsLength + slot * Trip.imageLength) (trip.encode timestamp) =
        .ok saved := by
  rw [saveTrip_eq_ok_iff, slotAddress_of_lt inside]
  simp

theorem exists_saveTrip (inside : slot < slotCount)
    (room : settingsLength + slot * Trip.imageLength + Trip.imageLength ≤ store.capacity)
    (trip : Trip) (timestamp : UInt32) :
    ∃ saved, saveTrip store slot trip timestamp = .ok saved :=
  ⟨_, (saveTrip_eq_ok_iff_of_lt inside).mpr (Store.write_eq_ok_iff.mpr ⟨room, rfl⟩)⟩

/-- A slot holds the trip that was saved to it last. -/
theorem loadTrip_of_saveTrip (inside : slot < slotCount)
    (wrote : saveTrip store slot trip timestamp = .ok saved) :
    loadTrip saved slot = .ok (some (timestamp, trip)) :=
  (loadTrip_eq_ok_iff inside).mpr
    ⟨_, Store.read_write ((saveTrip_eq_ok_iff_of_lt inside).mp wrote), Trip.decode?_encode trip timestamp⟩

theorem loadTrip_of_saveTrip_of_ne {other : Nat} (inside : slot < slotCount)
    (insideToo : other < slotCount) (different : other ≠ slot)
    (wrote : saveTrip store slot trip timestamp = .ok saved) :
    loadTrip saved other = loadTrip store other := by
  have apart : saved.read (settingsLength + other * Trip.imageLength) Trip.imageLength =
      store.read (settingsLength + other * Trip.imageLength) Trip.imageLength := by
    apply Store.read_write_of_disjoint ((saveTrip_eq_ok_iff_of_lt inside).mp wrote)
    simp only [Trip.length_encode, Trip.imageLength]
    omega
  rw [loadTrip, loadTrip, slotAddress_of_lt insideToo]
  show (saved.read _ _).mapError _ >>= _ = (store.read _ _).mapError _ >>= _
  rw [apart]

end Image

namespace Computer

variable {pairs : List (TripName × Nat)}

/-- Slots that lie in a store, in which trips do not overwrite one another. -/
structure Slots (pairs : List (TripName × Nat)) (capacity : Nat) : Prop where
  inside : ∀ pair ∈ pairs, pair.2 < Image.slotCount ∧
    Image.settingsLength + pair.2 * Trip.imageLength + Trip.imageLength ≤ capacity
  distinct : (pairs.map (·.2)).Nodup

/-- A store holds the trips of a computer in slots. -/
def Holds (store : Store) (pairs : List (TripName × Nat)) (trips : TripName → Trip) : Prop :=
  ∀ pair ∈ pairs, ∃ timestamp,
    Image.loadTrip store pair.2 = .ok (some (timestamp, trips pair.1))

theorem saveTrip_eq (computer : Computer) {saved : Store} {trip : TripName} {slot : Nat}
    (wrote : Image.saveTrip computer.store slot (computer.trips.get trip) computer.uptimeSeconds =
      .ok saved) :
    saveTrip trip slot computer = .ok () { computer with store := saved } := by
  have here : (get : Task Computer) computer = .ok computer computer := rfl
  unfold saveTrip
  rw [bind_of_ok here]
  exact writeStore_eq_ok_iff.mpr ⟨saved, wrote, rfl⟩

/-- Saving trips to slots changes the store alone, and all of them are in it afterwards. -/
theorem forM_saveTrip (computer : Computer) (slots : Slots pairs computer.store.capacity) :
    ∃ saved, (pairs.forM fun (trip, slot) => saveTrip trip slot) computer =
        .ok ⟨⟩ { computer with store := saved } ∧
      Holds saved pairs computer.trips.get ∧
      ∀ other < Image.slotCount, other ∉ pairs.map (·.2) →
        Image.loadTrip saved other = Image.loadTrip computer.store other := by
  induction pairs generalizing computer with
  | nil => exact ⟨computer.store, rfl, nofun, fun _ _ _ => rfl⟩
  | cons first rest induction =>
      obtain ⟨trip, slot⟩ := first
      obtain ⟨⟨inside, room⟩, insideToo⟩ := List.forall_mem_cons.mp slots.inside
      obtain ⟨fresh, distinct⟩ := List.nodup_cons.mp slots.distinct
      obtain ⟨between, wrote⟩ := Image.exists_saveTrip inside room (computer.trips.get trip)
        computer.uptimeSeconds
      have later : Slots rest between.capacity :=
        ⟨Image.capacity_of_saveTrip wrote ▸ insideToo, distinct⟩
      obtain ⟨saved, saves, holds, kept⟩ := induction { computer with store := between } later
      refine ⟨saved, ?_, ?_, ?_⟩
      · rw [List.forM_eq_forM, List.forM_cons, bind_of_ok (saveTrip_eq computer wrote)]
        exact saves
      · refine List.forall_mem_cons.mpr ⟨⟨computer.uptimeSeconds, ?_⟩, holds⟩
        exact (kept slot inside fresh).trans (Image.loadTrip_of_saveTrip inside wrote)
      · intro other lies absent
        obtain ⟨different, absentLater⟩ := not_or.mp (mt List.mem_cons.mpr absent)
        exact (kept other lies absentLater).trans
          (Image.loadTrip_of_saveTrip_of_ne inside lies different wrote)

theorem loadTrip_eq {computer : Computer} {trip : TripName} {slot : Nat} {timestamp : UInt32}
    {saved : Trip} (loaded : Image.loadTrip computer.store slot = .ok (some (timestamp, saved))) :
    loadTrip slot trip computer =
      .ok true { computer with trips := (computer.trips.reset trip).put trip saved } := by
  have resets : modifyTrips (·.reset trip) computer =
      .ok ⟨⟩ { computer with trips := computer.trips.reset trip } := rfl
  have here : (get : Task Computer) { computer with trips := computer.trips.reset trip } =
      .ok { computer with trips := computer.trips.reset trip }
        { computer with trips := computer.trips.reset trip } := rfl
  unfold loadTrip
  rw [bind_of_ok resets, bind_of_ok here, loaded]
  rfl

/-- Loading trips that a store holds puts all of them in place, and touches no others. -/
theorem forM_loadTrip {wanted : TripName → Trip} (computer : Computer)
    (holds : Holds computer.store pairs wanted) :
    ∃ trips, (pairs.forM fun (trip, slot) => do
        let _ ← loadTrip slot trip) computer = .ok ⟨⟩ { computer with trips := trips } ∧
      ∀ name, trips.get name =
        if name ∈ pairs.map (·.1) then wanted name else computer.trips.get name := by
  induction pairs generalizing computer with
  | nil => exact ⟨computer.trips, rfl, fun _ => rfl⟩
  | cons first rest induction =>
      obtain ⟨trip, slot⟩ := first
      obtain ⟨⟨timestamp, loaded⟩, holds⟩ := List.forall_mem_cons.mp holds
      obtain ⟨trips, loads, found⟩ := induction
        { computer with trips := (computer.trips.reset trip).put trip (wanted trip) } holds
      have here : (loadTrip slot trip >>= fun _ => (pure ⟨⟩ : Task PUnit)) computer =
          .ok ⟨⟩ { computer with trips := (computer.trips.reset trip).put trip (wanted trip) } :=
        bind_of_ok (loadTrip_eq loaded)
      refine ⟨trips, ?_, ?_⟩
      · rw [List.forM_eq_forM, List.forM_cons, bind_of_ok here]
        exact loads
      · intro name
        rw [found name]
        dsimp only
        rw [Trips.get_put, Trips.get_reset, List.map_cons]
        by_cases later : name ∈ rest.map (·.1)
        · rw [if_pos later, if_pos (List.mem_cons_of_mem _ later)]
        · by_cases same : name = trip
          · rw [if_neg later, if_pos same, if_pos (same ▸ List.mem_cons_self), same]
          · rw [if_neg later, if_neg same, if_neg same, if_neg]
            exact fun member => (List.mem_cons.mp member).elim same later

end Computer

/-- Whether a trip is saved when a computer with these settings falls asleep. -/
def Settings.autosaves (settings : Settings) (trackIdle : Bool) : TripName → Bool
  | .tank | .current => settings.get .autosaveActive == 1
  | .idleTank | .idleCurrent => trackIdle && settings.get .autosaveIdle == 1
  | _ => false

/-- A switch that is on is one. -/
theorem Settings.InRange.flag_eq {settings : Settings} (inRange : settings.InRange)
    {setting : Setting} (switch : setting.maxValue = 1) :
    settings.flag setting = (settings.get setting == 1) := by
  have fits := switch ▸ inRange setting
  rw [Settings.flag, Bool.eq_iff_iff, bne_iff_ne, beq_iff_eq]
  constructor
  · intro on
    have small : (settings.get setting).toNat ≤ 1 := UInt32.le_iff_toNat_le.mp fits
    have some : (settings.get setting).toNat ≠ 0 := fun zero => on (UInt32.toNat_inj.mp zero)
    exact UInt32.toNat_inj.mp (show _ = 1 by omega)
  · intro one
    rw [one]
    decide

namespace Computer

theorem mem_autosaveSlots_iff {computer : Computer} (inRange : computer.settings.InRange)
    (name : TripName) :
    name ∈ computer.autosaveSlots.map (·.1) ↔
      computer.settings.autosaves computer.trackIdle name = true := by
  rw [autosaveSlots, inRange.flag_eq (show Setting.autosaveActive.maxValue = 1 by rfl),
    inRange.flag_eq (show Setting.autosaveIdle.maxValue = 1 by rfl)]
  generalize active : (computer.settings.get .autosaveActive == 1) = on
  generalize idle : (computer.settings.get .autosaveIdle == 1) = idleOn
  cases on <;> cases idleOn <;> cases computer.trackIdle <;> cases name <;>
    simp [Settings.autosaves, active, idle]

theorem slots_autosave {computer : Computer}
    (room : Image.settingsLength + 4 * Trip.imageLength ≤ computer.store.capacity) :
    Slots computer.autosaveSlots computer.store.capacity := by
  have every : ∀ active idle : Bool,
      let pairs := (if active then [(TripName.tank, 0), (.current, 1)] else []) ++
        (if idle then [(TripName.idleTank, 2), (.idleCurrent, 3)] else [])
      (∀ pair ∈ pairs, pair.2 < 4) ∧ (pairs.map (·.2)).Nodup := by
    decide
  obtain ⟨few, distinct⟩ := every (computer.settings.flag .autosaveActive)
    (computer.trackIdle && computer.settings.flag .autosaveIdle)
  refine ⟨fun pair member => ?_, distinct⟩
  have small := few pair member
  simp only [Trip.imageLength, Image.slotCount] at room ⊢
  omega

/-- Falling asleep saves the trips, if the store has room for the first four slots. -/
theorem autosave_eq (computer : Computer)
    (room : Image.settingsLength + 4 * Trip.imageLength ≤ computer.store.capacity) :
    ∃ saved, autosave computer = .ok () { computer with store := saved } ∧
      Holds saved computer.autosaveSlots computer.trips.get := by
  obtain ⟨saved, saves, holds, _⟩ := forM_saveTrip computer (slots_autosave room)
  have here : (get : Task Computer) computer = .ok computer computer := rfl
  refine ⟨saved, ?_, holds⟩
  unfold autosave
  rw [bind_of_ok here]
  exact saves

theorem restore_eq {wanted : TripName → Trip} (computer : Computer)
    (holds : Holds computer.store computer.autosaveSlots wanted) :
    ∃ trips, restore computer = .ok () { computer with trips := trips } ∧
      ∀ name, trips.get name =
        if name ∈ computer.autosaveSlots.map (·.1) then wanted name
        else computer.trips.get name := by
  obtain ⟨trips, loads, found⟩ := forM_loadTrip computer holds
  have here : (get : Task Computer) computer = .ok computer computer := rfl
  refine ⟨trips, ?_, found⟩
  unfold restore
  rw [bind_of_ok here]
  exact loads

end Computer

namespace Setup

open Computer

/-- A setup over a copy of the bytes that a computer left, in the same hardware. -/
def resuming (computer : Computer) (arithmetic : Arithmetic) : Setup where
  store := some (.ofCells computer.store.cells)
  settings := none
  overrides := []
  cyclesPerSecond := computer.cyclesPerSecond
  tickCycles := computer.tickCycles
  arithmetic := arithmetic
  trackIdle := computer.trackIdle
  restore := true

/-- Without values to lay over the stored table, the computer is made ready and loads its trips. -/
theorem apply_of_stored {setup : Setup} (stored : setup.settings = none)
    (bare : setup.overrides = []) (restores : setup.restore = true) (computer : Computer) :
    setup.apply false computer = (applyDerived >>= fun _ => Computer.restore) computer := by
  have inForce : ∀ pair ∈ setup.overrides, computer.settings.get pair.1 = pair.2 := by
    rw [bare]
    exact fun _ => nofun
  unfold apply
  dsimp only
  rw [bind_of_ok (applyOverrides_of_inForce inForce), stored, restores]
  rfl

/-- A computer that is built on what another one left has its table, and the trips that the store
holds. -/
theorem exists_build_resuming {computer : Computer} {wanted : TripName → Trip}
    (saved : Saved computer) (rate : computer.cyclesPerSecond ≠ 0)
    (tick : isTickLength computer.tickCycles = true)
    (holds : Holds computer.store computer.autosaveSlots wanted) (arithmetic : Arithmetic) :
    ∃ again, (resuming computer arithmetic).build = .ok again ∧
      again.settings = computer.settings ∧
      ∀ name, again.trips.get name =
        if name ∈ computer.autosaveSlots.map (·.1) then wanted name else .zero := by
  let setup := resuming computer arithmetic
  let store := Store.ofCells computer.store.cells
  let start := setup.initialComputer store computer.settings false
  have copied : Saved { computer with store := store } := saved
  have initial : setup.initialSettings store = .ok (computer.settings, false) :=
    setup.initialSettings_of_saved rfl copied
  obtain ⟨calculator, derived⟩ := applyDerived_eq start
  obtain ⟨trips, loads, found⟩ := restore_eq
    { start with
      calculator := calculator
      capture := start.capture.setParameters start.derived } holds
  have applies : Meets (· = start) (setup.apply false)
      (fun _ again => again.settings = computer.settings ∧
        ∀ name, again.trips.get name =
          if name ∈ computer.autosaveSlots.map (·.1) then wanted name else .zero)
      fun _ => False := by
    rintro _ rfl
    rw [apply_of_stored rfl rfl rfl, bind_of_ok derived, loads]
    refine ⟨rfl, fun name => (found name).trans ?_⟩
    have empty : Trips.empty.get name = .zero := Vector.getElem_replicate _
    exact congrArg (ite _ _) empty
  exact exists_build rfl rate tick initial applies

end Setup

namespace Computer

/-- What is done to a computer from outside. -/
inductive Use where
  | operation (operation : Operation)
  | trips (change : Trips → Trips)

/-- The computer after it has been used. -/
def afterUse (computer : Computer) : Use → Computer
  | .operation operation => computer.operate operation
  | .trips change => { computer with trips := change computer.trips }

theorem Robust.afterUse {invariant : Computer → Prop} (robust : Robust invariant)
    (operates : ∀ {computer}, invariant computer → ∀ operation,
      invariant (computer.operate operation)) {computer : Computer} (holds : invariant computer)
    (use : Use) : invariant (computer.afterUse use) := by
  cases use with
  | operation operation => exact operates holds operation
  | trips change => exact robust.basis holds ⟨rfl, rfl, rfl, rfl, rfl, rfl⟩

theorem Robust.afterUses {invariant : Computer → Prop} (robust : Robust invariant)
    (operates : ∀ {computer}, invariant computer → ∀ operation,
      invariant (computer.operate operation)) {computer : Computer} (holds : invariant computer)
    (uses : List Use) : invariant (uses.foldl Computer.afterUse computer) := by
  -- on the uses, for every computer that they may start from
  induction uses generalizing computer with
  | nil => exact holds
  | cons first rest induction => exact induction (robust.afterUse operates holds first)

/-- However a computer was used, falling asleep succeeds, and a computer that is built on a copy of
its bytes in the same hardware has the same settings and the trips that they say are saved.  Its
other trips are empty.  Twice the tick is to fit a word, as for `Board.loopTicks`. -/
theorem power_cycle_restores {setup : Setup} {store : Store} {computer : Computer}
    (given : ∀ settings ∈ setup.settings, settings.InRange) (found : setup.store = some store)
    (room : 244 ≤ store.capacity) (_doubles : setup.tickCycles < 2 ^ 31)
    (built : setup.build = .ok computer) (uses : List Use) (arithmetic : Arithmetic) :
    let final := uses.foldl afterUse computer
    ∃ saved again, autosave final = .ok () { final with store := saved } ∧
      (Setup.resuming { final with store := saved } arithmetic).build = .ok again ∧
      again.settings = final.settings ∧
      ∀ name, again.trips.get name =
        if final.settings.autosaves final.trackIdle name = true then final.trips.get name
        else .zero := by
  intro final
  have settled : Settled final :=
    robust_settled.afterUses Settled.operate (Setup.settled_of_build given built) uses
  have same : BuiltInto (setup.hardware store) final :=
    robust_builtInto.afterUses BuiltInto.operate (Setup.builtInto_of_build found built) uses
  obtain ⟨_, _, _, _, rate, tick, _, _⟩ := Setup.exists_of_build built
  have capacity : final.store.capacity = store.capacity := congrArg Hardware.capacity same
  have sameRate : final.cyclesPerSecond = setup.cyclesPerSecond :=
    congrArg Hardware.cyclesPerSecond same
  have sameTick : final.tickCycles = setup.tickCycles := congrArg Hardware.tickCycles same
  obtain ⟨saved, saves, holds⟩ := autosave_eq final (capacity ▸ room)
  have stays : Settled { final with store := saved } := by
    have kept := keeps_iff.mp robust_settled.keeps_autosave final settled
    rwa [afterTask, saves] at kept
  obtain ⟨again, resumed, settings, trips⟩ := Setup.exists_build_resuming stays.saved
    (sameRate ▸ rate) (sameTick ▸ tick) holds arithmetic
  refine ⟨saved, again, saves, resumed, settings, fun name => (trips name).trans ?_⟩
  exact if_congr (mem_autosaveSlots_iff settled.saved.inRange name) rfl rfl

/-- A tank trip in the smallest store, and the instant trip beside it. -/
theorem tank_survives_power_cycle :
    let setup : Setup := { Setup.reference with
      store := some (.erased 244)
      settings := some .defaults }
    let trip : Trip := ⟨1, 2, 3, 4, 0xFFFFFFFFFFFFFFFF⟩
    ∃ computer saved again, setup.build = .ok computer ∧
      let final := computer.afterUse (.trips fun trips => (trips.put .tank trip).put .instant trip)
      autosave final = .ok () { final with store := saved } ∧
        (Setup.resuming { final with store := saved } .primitive).build = .ok again ∧
        again.trips.get .tank = trip ∧ again.trips.get .instant = .zero := by
  intro setup trip
  have active : setup.build.toOption.any
      (fun computer => computer.settings.get .autosaveActive == 1) = true := by
    decide +kernel
  cases built : setup.build with
  | error error =>
      rw [built] at active
      cases active
  | ok computer =>
      rw [built] at active
      have room : 244 ≤ (Store.erased 244).capacity :=
        Nat.le_of_eq (Store.capacity_erased 244).symm
      obtain ⟨saved, again, saves, resumed, _, trips⟩ := power_cycle_restores
        (by rintro _ ⟨⟩; exact Settings.inRange_defaults) rfl room (by decide) built
        [.trips fun trips => (trips.put .tank trip).put .instant trip] .primitive
      refine ⟨computer, saved, again, rfl, saves, resumed, ?_, trips .instant⟩
      have put : ((computer.trips.put .tank trip).put .instant trip).get .tank = trip := by
        rw [Trips.get_put_of_ne _ _ (by decide), Trips.get_put_self]
      exact (trips .tank).trans ((if_pos active).trans put)

end Computer

end TripComputer
