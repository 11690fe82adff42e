import TripComputer.Proofs.Capture.Parameters
import TripComputer.Proofs.Computer.Pass
import TripComputer.Proofs.Computer.SelfCheck

/-!
# What the main loop keeps

Between edits, a computer rests on its table of settings, on the capture parameters, on its store
and on its clock.  The tasks of the main loop change trips, registers, counts of passes and capture
states around these, and of the store only the slots of trips.  Whatever survives that is kept by
every one of them, whether it fails or not.
-/

namespace TripComputer.Computer

/-- A change that leaves alone what a computer rests on. -/
structure SameBasis (computer changed : Computer) : Prop where
  settings : changed.settings = computer.settings
  parameters : changed.capture.parameters = computer.capture.parameters
  store : changed.store = computer.store
  cyclesPerSecond : changed.cyclesPerSecond = computer.cyclesPerSecond
  tickCycles : changed.tickCycles = computer.tickCycles
  trackIdle : changed.trackIdle = computer.trackIdle

/-- Something that holds on account of what a computer rests on, wherever trips are saved. -/
structure Robust (invariant : Computer → Prop) : Prop where
  basis : ∀ {computer changed : Computer}, invariant computer → SameBasis computer changed →
    invariant changed
  savesTrip : ∀ {computer : Computer} {saved : Store} {slot : Nat} {trip : Trip}
    {timestamp : UInt32}, invariant computer →
    Image.saveTrip computer.store slot trip timestamp = .ok saved →
    invariant { computer with store := saved }

namespace Robust

variable {invariant : Computer → Prop}

/-- Events change nothing that a computer rests on. -/
theorem handle (robust : Robust invariant) {computer : Computer} (holds : invariant computer)
    (event : Capture.Event) :
    invariant { computer with capture := computer.capture.handle event } :=
  robust.basis holds ⟨rfl, Capture.parameters_handle computer.capture event, rfl, rfl, rfl, rfl⟩

/-- A program that does not store changes nothing but the calculator. -/
theorem after (robust : Robust invariant) {computer : Computer} (holds : invariant computer)
    {program : Program} (storeless : program.isStoring = false) (index : UInt8) :
    invariant
      (computer.after (computer.calculator.call computer.surroundings program index 0)) := by
  have untouched : (computer.calculator.call computer.surroundings program index 0).environment =
      computer.surroundings :=
    Machine.run_environment_of_storeless _ _ (Catalog.storeless_of_not_isStoring storeless)
  rw [Computer.after, untouched]
  exact robust.basis holds ⟨rfl, rfl, rfl, rfl, rfl, rfl⟩

theorem keeps_evaluate (robust : Robust invariant) (quantity : Quantity) (trip : TripName) :
    Keeps invariant (evaluate quantity trip) := by
  have storeless : quantity.program.isStoring = false := by cases quantity <;> rfl
  intro computer holds
  have kept := robust.after holds storeless trip.index
  unfold evaluate
  dsimp only
  split
  next outcome =>
    split at outcome <;> cases outcome
    exact kept
  next outcome =>
    split at outcome <;> cases outcome
    exact kept

theorem keeps_calculate (robust : Robust invariant) {α : Type}
    (calculation : Display.Calculation α) : Keeps invariant (calculate calculation) := by
  intro computer holds
  unfold calculate
  cases calculation computer.calculator <;>
    exact robust.basis holds ⟨rfl, rfl, rfl, rfl, rfl, rfl⟩

theorem keeps_display (robust : Robust invariant) (quantity : Quantity) (trip : TripName) :
    Keeps invariant (display quantity trip) :=
  (robust.keeps_evaluate quantity trip).bind fun _ => robust.keeps_calculate _

theorem keeps_modifyTrips (robust : Robust invariant) (change : Trips → Trips) :
    Keeps invariant (modifyTrips change) :=
  Meets.update fun _ holds => robust.basis holds ⟨rfl, rfl, rfl, rfl, rfl, rfl⟩

theorem keeps_saveTrip (robust : Robust invariant) (trip : TripName) (slot : Nat) :
    Keeps invariant (saveTrip trip slot) :=
  Meets.saveTrip (fun _ _ holds wrote => robust.savesTrip holds wrote) fun _ holds => holds

theorem keeps_loadTrip (robust : Robust invariant) (slot : Nat) (trip : TripName) :
    Keeps invariant (loadTrip slot trip) := by
  unfold loadTrip
  refine (robust.keeps_modifyTrips _).bind fun _ => Meets.read fun computer holds => ?_
  split
  next => exact fun _ same => same ▸ holds
  next => exact Meets.pure fun _ same => same ▸ holds
  next =>
    exact ((robust.keeps_modifyTrips _).bind fun _ => Meets.pure fun _ kept => kept).weaken
      fun _ same => same ▸ holds

theorem keeps_autosave (robust : Robust invariant) : Keeps invariant autosave :=
  Meets.autosave robust.keeps_saveTrip

theorem keeps_restore (robust : Robust invariant) : Keeps invariant restore :=
  Meets.read fun _ holds =>
    (Meets.forM fun _ _ =>
      (robust.keeps_loadTrip _ _).bind fun _ => Meets.pure fun _ kept => kept).weaken
        fun _ same => same ▸ holds

/-- The check of the catalog stores to a scratch table. -/
theorem after_checkCatalog (robust : Robust invariant) {computer : Computer}
    (holds : invariant computer) : invariant (afterTask checkCatalog computer) := by
  cases outcome : tryRuns computer.calculator computer.surroundings checkRuns with
  | mk failures calculator =>
      rw [afterTask, checkCatalog_eq outcome]
      exact robust.basis holds ⟨rfl, rfl, rfl, rfl, rfl, rfl⟩

/-- What a pass does with the counts is nothing to it. -/
theorem balance (robust : Robust invariant) : Balance fun _ _ => invariant where
  beside {_ _ computer changed} holds beside := by
    obtain ⟨loopDue, events, capture⟩ := beside.capture
    have parameters : changed.capture.parameters = computer.capture.parameters := by rw [capture]
    exact robust.basis holds ⟨beside.settings, parameters, beside.store, beside.cyclesPerSecond,
      beside.tickCycles, beside.trackIdle⟩
  drain holds := robust.basis holds ⟨rfl, rfl, rfl, rfl, rfl, rfl⟩
  merge holds := robust.basis holds ⟨rfl, rfl, rfl, rfl, rfl, rfl⟩

theorem keeps_runCycle (robust : Robust invariant) : Keeps invariant runCycle :=
  robust.balance.meets_runCycle (fun _ holds => holds) fun _ _ _ _ holds =>
    robust.basis holds ⟨rfl, rfl, rfl, rfl, rfl, rfl⟩

theorem keeps_poll (robust : Robust invariant) : Keeps invariant poll :=
  meets_poll (fun _ holds => robust.basis holds ⟨rfl, rfl, rfl, rfl, rfl, rfl⟩)
    (fun _ _ _ => robust.keeps_autosave)
    (fun _ holds => robust.basis holds ⟨rfl, rfl, rfl, rfl, rfl, rfl⟩)
    robust.keeps_runCycle fun _ holds => holds

end Robust

end TripComputer.Computer
