import TripComputer.Proofs.Catalog.Safety
import TripComputer.Proofs.Computer.Task
import TripComputer.Proofs.Trip.Kept

/-!
# Where a pass of the main loop moves counts

A pass drains the raw trips and merges what it has drained into the kept ones.  All else that it
does leaves counts where they are, but for the current trip, which it empties first after a wake.
So an account of the counts, and of what a pass has in hand between draining and merging, need only
be shown to survive these steps.
-/

namespace TripComputer.Computer

/-- A change that moves no counts: scheduler flags may have been taken, and trips other than
the kept ones may have changed. -/
structure Aside (computer changed : Computer) : Prop where
  settings : changed.settings = computer.settings
  trackIdle : changed.trackIdle = computer.trackIdle
  capture : ∃ loopDue events,
    changed.capture = { computer.capture with loopDue := loopDue, events := events }
  trips : ∀ name : TripName, name.isKept = true →
    changed.trips.get name = computer.trips.get name

/-- A change that moves no counts, stores nothing and leaves the clock alone. -/
structure Beside (computer changed : Computer) : Prop extends Aside computer changed where
  store : changed.store = computer.store
  cyclesPerSecond : changed.cyclesPerSecond = computer.cyclesPerSecond
  tickCycles : changed.tickCycles = computer.tickCycles

/-- An account of the counts, with those in hand, that a pass of the main loop keeps. -/
structure Balance (holds : Trip → Trip → Computer → Prop) : Prop where
  beside : ∀ {raw rawIdle computer changed}, holds raw rawIdle computer →
    Beside computer changed → holds raw rawIdle changed
  drain : ∀ {computer}, holds 0 0 computer →
    holds computer.capture.raw computer.capture.rawIdle
      { computer with capture := computer.capture.drain.2 }
  merge : ∀ {raw rawIdle computer}, holds raw rawIdle computer →
    holds 0 0 { computer with trips := merge computer.trackIdle raw rawIdle computer.trips }

namespace Balance

variable {holds : Trip → Trip → Computer → Prop} {raw rawIdle : Trip}

theorem keeps_of_beside (balance : Balance holds) {α : Type} {task : Task α}
    (beside : ∀ computer, Beside computer (afterTask task computer)) :
    Keeps (holds raw rawIdle) task :=
  keeps_iff.mpr fun computer account => balance.beside account (beside computer)

theorem keeps_runProgram (balance : Balance holds) {program : Program}
    (storeless : program.isStoring = false) (index : UInt8) :
    Keeps (holds raw rawIdle) (runProgram program index) := by
  apply balance.keeps_of_beside
  intro computer
  have untouched : (computer.calculator.call computer.surroundings program index 0).environment =
      computer.surroundings :=
    Machine.run_environment_of_storeless _ _ (Catalog.storeless_of_not_isStoring storeless)
  rw [afterTask_runProgram]
  exact ⟨⟨congrArg Surroundings.settings untouched, rfl, ⟨_, _, rfl⟩, fun _ _ => rfl⟩, rfl, rfl, rfl⟩

theorem keeps_modifyTrips (balance : Balance holds) {change : Trips → Trips}
    (kept : ∀ trips (name : TripName), name.isKept = true →
      (change trips).get name = trips.get name) :
    Keeps (holds raw rawIdle) (modifyTrips change) :=
  balance.keeps_of_beside fun computer => ⟨⟨rfl, rfl, ⟨_, _, rfl⟩, kept computer.trips⟩, rfl, rfl, rfl⟩

theorem meets_set (balance : Balance holds) {computer changed : Computer}
    (account : holds raw rawIdle computer) (beside : Beside computer changed) :
    Meets (· = computer) (set changed : Task PUnit) (fun _ => holds raw rawIdle)
      (holds raw rawIdle) :=
  Meets.write fun _ _ => balance.beside account beside

theorem keeps_modify (balance : Balance holds) {change : Computer → Computer}
    (beside : ∀ computer, Beside computer (change computer)) :
    Keeps (holds raw rawIdle) (modify change) :=
  balance.keeps_of_beside beside

theorem keeps_sampleEconomy (balance : Balance holds) :
    Keeps (holds raw rawIdle) sampleEconomy := by
  unfold sampleEconomy
  dsimp only
  apply Meets.read
  intro computer account
  split
  next => exact Meets.pure fun _ same => same ▸ account
  next =>
    split
    next =>
      refine (balance.meets_set account ?_).bind fun _ => Meets.pure fun _ kept => kept
      exact ⟨⟨rfl, rfl, ⟨_, _, rfl⟩, fun _ _ => rfl⟩, rfl, rfl, rfl⟩
    next =>
      refine (balance.meets_set account ?_).bind fun _ => ?_
      · exact ⟨⟨rfl, rfl, ⟨_, _, rfl⟩, fun _ _ => rfl⟩, rfl, rfl, rfl⟩
      apply (balance.keeps_runProgram rfl _).bind
      intro sample
      refine (balance.keeps_modify fun computer => ?_).bind fun _ => Meets.pure fun _ kept => kept
      refine ⟨⟨rfl, rfl, ⟨_, _, rfl⟩, fun name kept => ?_⟩, rfl, rfl, rfl⟩
      rw [Trips.get_reset, if_neg (TripName.ne_of_isKept kept rfl)]

theorem keeps_sampleSpeed (balance : Balance holds) :
    Keeps (holds raw rawIdle) sampleSpeed := by
  unfold sampleSpeed
  dsimp only
  apply (balance.keeps_runProgram rfl _).bind
  intro band
  split
  next inGraph =>
    refine (balance.keeps_modifyTrips fun trips name kept => ?_).bind fun _ =>
      Meets.pure fun _ account => account
    rw [Trips.get_update, if_neg (TripName.ne_of_isKept kept rfl)]
  next => exact Meets.pure fun _ account => account

theorem meets_drain (balance : Balance holds) :
    Meets (holds 0 0) (takeFromCapture Capture.drain)
      (fun drained => holds drained.1 drained.2) (holds 0 0) :=
  Meets.updateGet fun _ account => balance.drain account

/-- The first half of a pass keeps the account, if that allows for a reset of the current trip
after a wake. -/
theorem meets_beginPass (balance : Balance holds) {before : Computer → Prop}
    (start : ∀ computer, before computer → holds 0 0 computer)
    (resets : ∀ computer, before computer →
      (computer.pendingWake && computer.settings.flag .wakeupResetCurrent) = true →
      ∀ changed, holds 0 0 changed →
        holds 0 0 { changed with trips := changed.trips.reset .current }) :
    Meets before beginPass (fun _ => holds 0 0) (holds 0 0) := by
  unfold beginPass
  dsimp only
  apply Meets.read
  intro computer begun
  refine (balance.meets_set (start computer begun) ?_).bind fun _ => ?_
  · exact ⟨⟨rfl, rfl, ⟨_, _, rfl⟩, fun _ _ => rfl⟩, rfl, rfl, rfl⟩
  refine Meets.guard (fun _ => holds 0 0) (fun woken => ?_) (fun _ _ kept => kept) fun _ => ?_
  · exact Meets.update fun changed account => resets computer begun woken changed account
  exact Meets.choose (fun _ => holds 0 0) (fun _ => balance.keeps_sampleEconomy)
    (fun _ => Meets.pure fun _ kept => kept) fun _ => Meets.pure fun _ kept => kept

/-- What the second half of a pass drains, it merges. -/
theorem keeps_endPass (balance : Balance holds) (awake : Bool) (economy : Option Reading) :
    Keeps (holds 0 0) (endPass awake economy) := by
  unfold endPass
  dsimp only
  refine balance.meets_drain.bind fun drained => Meets.read fun computer account => ?_
  have merges : Meets (· = computer)
      (modifyTrips (Computer.merge computer.trackIdle drained.1 drained.2))
      (fun _ => holds 0 0) (holds 0 0) := by
    apply Meets.update
    rintro _ rfl
    exact balance.merge account
  refine merges.bind fun _ => ?_
  refine Meets.choose (fun _ => holds 0 0) (fun _ => balance.keeps_sampleSpeed)
    (fun _ => Meets.pure fun _ kept => kept) fun band => ?_
  apply Meets.read
  intro filtered account
  refine Meets.guard (fun _ => holds 0 0) (fun _ => ?_) (fun _ computer same => same ▸ account)
    fun _ => ?_
  · exact (balance.keeps_modifyTrips fun _ _ => Trips.get_applyWindowFilter _).weaken
      fun _ same => same ▸ account
  refine (balance.keeps_modify fun computer => ?_).bind fun _ => ?_
  · exact ⟨⟨rfl, rfl, ⟨_, _, rfl⟩, fun _ _ => rfl⟩, rfl, rfl, rfl⟩
  exact Meets.read fun last account => Meets.pure fun _ same => same ▸ account

/-- A pass keeps the account, if that allows for a reset of the current trip after a wake. -/
theorem meets_runCycle (balance : Balance holds) {before : Computer → Prop}
    (start : ∀ computer, before computer → holds 0 0 computer)
    (resets : ∀ computer, before computer →
      (computer.pendingWake && computer.settings.flag .wakeupResetCurrent) = true →
      ∀ changed, holds 0 0 changed →
        holds 0 0 { changed with trips := changed.trips.reset .current }) :
    Meets before runCycle (fun _ => holds 0 0) (holds 0 0) :=
  (balance.meets_beginPass start resets).bind fun _ => balance.keeps_endPass _ _

end Balance

/-- Saving a trip changes nothing but the store. -/
theorem keeps_saveTrip_of_store {invariant : Computer → Prop}
    (stores : ∀ (computer : Computer) (store : Store), invariant computer →
      invariant { computer with store := store }) (trip : TripName) (slot : Nat) :
    Keeps invariant (saveTrip trip slot) :=
  Meets.saveTrip (fun computer store holds _ => stores computer store holds) fun _ holds => holds

/-- The transitions of the scheduler have been taken, and a wake waits. -/
theorem answerScheduler_eq (computer : Computer) :
    answerScheduler computer = .ok computer.capture.events.fellAsleep { computer with
      capture := computer.capture.takeEvents.2
      pendingWake := computer.pendingWake || computer.capture.events.woke } := by
  have takes : takeFromCapture Capture.takeEvents computer = .ok computer.capture.events
      { computer with capture := computer.capture.takeEvents.2 } := rfl
  unfold answerScheduler
  dsimp only
  rw [bind_of_ok takes]
  cases computer.capture.events.woke with
  | true =>
      rw [Bool.or_true]
      rfl
  | false =>
      rw [Bool.or_false]
      rfl

/-- A poll answers the scheduler, and then makes a pass or does not. -/
theorem meets_poll_report {before ready failed : Computer → Prop}
    {after : Option CycleReport → Computer → Prop}
    (answers : ∀ computer, before computer →
      ready { computer with
        capture := computer.capture.takeEvents.2
        pendingWake := computer.pendingWake || computer.capture.events.woke })
    (saves : ∀ computer, before computer → computer.capture.events.fellAsleep = true →
      Meets ready autosave (fun _ => ready) failed)
    (asks : ∀ computer, ready computer →
      ready { computer with capture := computer.capture.takeLoopDue.2 })
    (passes : Meets ready runCycle (fun report => after (some report)) failed)
    (rests : ∀ computer, ready computer → after none computer) :
    Meets before poll after failed := by
  apply Meets.each
  intro computer begun
  have answered : Meets (· = computer) answerScheduler
      (fun slept changed => slept = computer.capture.events.fellAsleep ∧ ready changed) failed := by
    rintro _ rfl
    rw [answerScheduler_eq]
    exact ⟨rfl, answers _ begun⟩
  have asked : Meets ready (takeFromCapture Capture.takeLoopDue) (fun _ => ready) failed :=
    Meets.updateGet fun computer account => asks computer account
  unfold poll
  dsimp only
  refine answered.bind fun slept => ?_
  refine Meets.guard (fun _ => ready) (fun asleep => ?_) (fun _ _ found => found.2)
    fun _ => asked.bind fun due => ?_
  · rintro changed ⟨rfl, account⟩
    exact saves computer begun asleep changed account
  split
  next => exact passes.bind fun _ => Meets.pure fun _ kept => kept
  next => exact Meets.pure rests

theorem meets_poll {before ready after : Computer → Prop}
    (answers : ∀ computer, before computer →
      ready { computer with
        capture := computer.capture.takeEvents.2
        pendingWake := computer.pendingWake || computer.capture.events.woke })
    (saves : ∀ computer, before computer → computer.capture.events.fellAsleep = true →
      Keeps ready autosave)
    (asks : ∀ computer, ready computer →
      ready { computer with capture := computer.capture.takeLoopDue.2 })
    (passes : Meets ready runCycle (fun _ => after) after)
    (rests : ∀ computer, ready computer → after computer) :
    Meets before poll (fun _ => after) after :=
  meets_poll_report answers (fun computer begun asleep => (saves computer begun asleep).relax rests)
    asks passes rests

end TripComputer.Computer
