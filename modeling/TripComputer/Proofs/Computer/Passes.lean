import TripComputer.Proofs.Catalog.Demand
import TripComputer.Proofs.Computer.Conservation
import TripComputer.Proofs.Computer.SelfCheck

/-!
# What a pass of the main loop does

No program of a pass can fail, and so neither can a pass.  `Passed` says what it makes of a
computer: which sample it takes, what it drains and merges, and which bar of the speed graph it
counts that in.  A poll makes a pass or leaves the counts alone.
-/

namespace TripComputer.Computer

open Catalog

/-- Every calculator answers alike. -/
def Gives (surroundings : Surroundings) (program : Program) (index : UInt8) (raw : UInt64) : Prop :=
  ∀ calculator : Calculator, (calculator.call surroundings program index 0).result = .ok raw

/-- A program without operands that stores nothing changes only the calculator, and what it
answers does not depend on that. -/
theorem runProgram_eq (computer : Computer) {program : Program} {index : UInt8}
    (accepted : isAccepted program index = true) (storeless : program.isStoring = false)
    (bare : program.takes = []) :
    ∃ raw calculator,
      runProgram program index computer = .ok raw { computer with calculator := calculator } ∧
      Gives computer.surroundings program index raw := by
  obtain ⟨raw, succeeded⟩ := run_ok computer.calculator.arithmetic
    (computer.calculator.machine.setRegister .r2 0) computer.surroundings program index
    ((furnished_surroundings computer).serves _ accepted)
  have untouched : (computer.calculator.call computer.surroundings program index 0).environment =
      computer.surroundings :=
    Machine.run_environment_of_storeless _ _ (storeless_of_not_isStoring storeless)
  refine ⟨raw, computer.calculator.after (computer.calculator.call computer.surroundings program
    index 0), ?_, fun other => ?_⟩
  · have ended : (computer.calculator.call computer.surroundings program index 0).result = .ok raw :=
      succeeded
    simp only [runProgram, ended, Computer.after, untouched]
    rfl
  · exact (other.call_result_eq computer.calculator computer.surroundings bare index).trans succeeded

/-- Waking passes from one sample of fuel economy to the next. -/
def samplePeriod (settings : Settings) : Nat :=
  (settings.get .economyPeriod).toNat * Board.loopsPerSecond.toNat

/-- What a waking pass makes of the history of fuel economy. -/
inductive Sampled (computer : Computer) : Option Reading → Computer → Prop where
  | off (unsampled : samplePeriod computer.settings = 0) : Sampled computer none computer
  | waiting (sampled : samplePeriod computer.settings ≠ 0)
      (early : computer.periodCycles + 1 < samplePeriod computer.settings) :
      Sampled computer none { computer with periodCycles := computer.periodCycles + 1 }
  | due {raw : UInt64} {calculator : Calculator} (sampled : samplePeriod computer.settings ≠ 0)
      (due : ¬computer.periodCycles + 1 < samplePeriod computer.settings)
      (gives : Gives computer.surroundings .fuelEconomy TripName.period.index raw) :
      Sampled computer (some (.ofRaw raw)) { computer with
        calculator := calculator
        periodCycles := 0
        history := remember computer.history (.ofRaw raw)
        trips := computer.trips.reset .period }

theorem sampleEconomy_eq (computer : Computer) :
    ∃ sample changed, sampleEconomy computer = .ok sample changed ∧
      Sampled computer sample changed := by
  have here : (get : Task Computer) computer = .ok computer computer := rfl
  unfold sampleEconomy
  dsimp only
  rw [bind_of_ok here]
  split
  next unsampled => exact ⟨none, computer, rfl, .off unsampled⟩
  next sampled =>
    split
    next early => exact ⟨none, _, rfl, .waiting sampled early⟩
    next due =>
      have restarts : (set { computer with periodCycles := 0 } : Task PUnit) computer =
          .ok ⟨⟩ { computer with periodCycles := 0 } := rfl
      obtain ⟨raw, calculator, ran, gives⟩ := runProgram_eq { computer with periodCycles := 0 }
        (show isAccepted .fuelEconomy TripName.period.index = true by decide) rfl rfl
      rw [bind_of_ok restarts, bind_of_ok ran]
      exact ⟨_, _, rfl, .due sampled due gives⟩

/-- The bar at a place of the speed graph, if there is one. -/
def barAt (place : Nat) : Option (Fin speedBandCount) :=
  if inGraph : place < speedBandCount then some ⟨place, inGraph⟩ else none

/-- The trips once the instant trip has been counted in a bar of the speed graph. -/
def countInBar (trips : Trips) : Option (Fin speedBandCount) → Trips
  | none => trips
  | some band => trips.update (.speedBand band) .instant

/-- The settings and the clock are those of another computer. -/
structure Tuned (computer changed : Computer) : Prop where
  settings : changed.settings = computer.settings
  cyclesPerSecond : changed.cyclesPerSecond = computer.cyclesPerSecond

theorem Tuned.trans {computer middle changed : Computer} (first : Tuned computer middle)
    (second : Tuned middle changed) : Tuned computer changed :=
  ⟨second.settings.trans first.settings, second.cyclesPerSecond.trans first.cyclesPerSecond⟩

/-- Sampling changes registers, the period, the history and the trip of the period. -/
structure SampledOnly (computer changed : Computer) : Prop extends Tuned computer changed where
  capture : changed.capture = computer.capture
  trips : ∀ name : TripName, name ≠ .period → changed.trips.get name = computer.trips.get name

theorem Sampled.only {computer changed : Computer} {sample : Option Reading}
    (sampled : Sampled computer sample changed) : SampledOnly computer changed := by
  cases sampled with
  | off | waiting => exact ⟨⟨rfl, rfl⟩, rfl, fun _ _ => rfl⟩
  | due =>
      refine ⟨⟨rfl, rfl⟩, rfl, fun name other => ?_⟩
      rw [Trips.get_reset, if_neg other]

/-- What a waking pass makes of the graph, once the instant trip is that of the pass. -/
inductive Classified (computer : Computer) : Option (Fin speedBandCount) → Computer → Prop where
  | counted {place : UInt64} (calculator : Calculator)
      (gives : Gives computer.surroundings .speedBand TripName.instant.index place) :
      Classified computer (barAt place.toNat) { computer with
        calculator := calculator
        trips := countInBar computer.trips (barAt place.toNat) }

theorem sampleSpeed_eq (computer : Computer) :
    ∃ band changed, sampleSpeed computer = .ok band changed ∧
      Classified computer band changed := by
  obtain ⟨place, calculator, ran, gives⟩ := runProgram_eq computer
    (show isAccepted .speedBand TripName.instant.index = true by decide) rfl rfl
  refine ⟨_, _, ?_, .counted calculator gives⟩
  unfold sampleSpeed
  dsimp only
  rw [bind_of_ok ran, barAt]
  split
  next => rfl
  next => rfl

/-- The computer once a wake has been answered. -/
def answered (computer : Computer) : Computer :=
  { computer with
    pendingWake := false
    trips := if computer.pendingWake && computer.settings.flag .wakeupResetCurrent then
        computer.trips.reset .current
      else computer.trips }

/-- The computer once the raw trips have been drained and merged. -/
def drained (computer : Computer) : Computer :=
  { computer with
    capture := computer.capture.drain.2
    trips := merge computer.trackIdle computer.capture.raw computer.capture.rawIdle
      computer.trips }

/-- The computer at the end of a pass. -/
def finished (computer : Computer) (awake : Bool) : Computer :=
  { computer with
    trips := if awake && computer.settings.flag .windowFilter then
        computer.trips.applyWindowFilter
      else computer.trips
    cycles := computer.cycles + 1 }

theorem get_answered {computer : Computer} (name : TripName) (other : name ≠ .current) :
    (answered computer).trips.get name = computer.trips.get name := by
  unfold answered
  split
  next => exact Trips.get_put_of_ne _ _ other
  next => rfl

theorem get_finished {computer : Computer} (name : TripName) (other : name ≠ .instant)
    (outside : name.isWindow = false) (awake : Bool) :
    (finished computer awake).trips.get name = computer.trips.get name := by
  unfold finished
  split
  next => exact Trips.get_applyWindowFilter_of_other _ other outside
  next => rfl

/-- What a pass makes of a computer. -/
inductive Passed (computer : Computer) : CycleReport → Computer → Prop where
  | awake {economy : Option Reading} {band : Option (Fin speedBandCount)}
      {sampled graphed : Computer} (awake : computer.capture.awake = true)
      (samples : Sampled (answered computer) economy sampled)
      (classifies : Classified (drained sampled) band graphed) :
      Passed computer ⟨graphed.cycles + 1, true, band, economy⟩ (finished graphed true)
  | asleep (asleep : computer.capture.awake = false) :
      Passed computer ⟨computer.cycles + 1, false, none, none⟩
        (finished (drained (answered computer)) false)

theorem Passed.tuned {computer changed : Computer} {report : CycleReport}
    (passed : Passed computer report changed) : Tuned computer changed := by
  cases passed with
  | asleep => exact ⟨rfl, rfl⟩
  | awake _ samples classifies =>
      cases classifies with
      | counted => exact ⟨samples.only.settings, samples.only.cyclesPerSecond⟩

/-- A wake is answered first. -/
theorem answers_wake (computer : Computer) {α : Type} (rest : PUnit → Task α) :
    (if computer.pendingWake && computer.settings.flag .wakeupResetCurrent then
        modifyTrips (·.reset .current) >>= rest
      else rest ⟨⟩) { computer with pendingWake := false } = rest ⟨⟩ (answered computer) := by
  unfold answered
  cases computer.pendingWake && computer.settings.flag .wakeupResetCurrent <;> rfl

/-- A pass does not fail. -/
theorem runCycle_passed (computer : Computer) :
    ∃ report changed, runCycle computer = .ok report changed ∧ Passed computer report changed := by
  have here (computer : Computer) : (get : Task Computer) computer = .ok computer computer := rfl
  have starts : (set { computer with pendingWake := false } : Task PUnit) computer =
      .ok ⟨⟩ { computer with pendingWake := false } := rfl
  cases awake : computer.capture.awake with
  | false =>
      have begins : beginPass computer = .ok (false, none) (answered computer) := by
        unfold beginPass
        dsimp only
        rw [bind_of_ok (here computer), awake, bind_of_ok starts, answers_wake]
        rfl
      refine ⟨_, _, ?_, .asleep awake⟩
      unfold runCycle
      rw [bind_of_ok begins]
      rfl
  | true =>
      obtain ⟨economy, sampled, samples, history⟩ := sampleEconomy_eq (answered computer)
      obtain ⟨band, graphed, classifies, graph⟩ := sampleSpeed_eq (drained sampled)
      have begins : beginPass computer = .ok (true, economy) sampled := by
        unfold beginPass
        dsimp only
        rw [bind_of_ok (here computer), awake, bind_of_ok starts, answers_wake, if_pos rfl,
          bind_of_ok samples]
        rfl
      have drains : takeFromCapture Capture.drain sampled =
          .ok (sampled.capture.raw, sampled.capture.rawIdle)
            { sampled with capture := sampled.capture.drain.2 } := rfl
      have merges : modifyTrips (merge sampled.trackIdle sampled.capture.raw sampled.capture.rawIdle)
          { sampled with capture := sampled.capture.drain.2 } = .ok ⟨⟩ (drained sampled) := rfl
      refine ⟨_, _, ?_, .awake awake history graph⟩
      unfold runCycle
      rw [bind_of_ok begins]
      dsimp only
      unfold endPass
      dsimp only
      rw [bind_of_ok drains, bind_of_ok (here _), bind_of_ok merges, if_pos rfl,
        bind_of_ok classifies, bind_of_ok (here graphed)]
      unfold finished
      cases graphed.settings.flag .windowFilter <;> rfl

/-- Only the store and what the scheduler has raised may differ. -/
def Scheduled (computer changed : Computer) : Prop :=
  ∃ store pendingWake loopDue events, changed = { computer with
    store := store
    pendingWake := pendingWake
    capture := { computer.capture with loopDue := loopDue, events := events } }

theorem Scheduled.tuned {computer changed : Computer} (scheduled : Scheduled computer changed) :
    Tuned computer changed := by
  obtain ⟨_, _, _, _, rfl⟩ := scheduled
  exact ⟨rfl, rfl⟩

theorem Scheduled.trips {computer changed : Computer} (scheduled : Scheduled computer changed) :
    changed.trips = computer.trips := by
  obtain ⟨_, _, _, _, rfl⟩ := scheduled
  rfl

theorem Scheduled.raw {computer changed : Computer} (scheduled : Scheduled computer changed) :
    changed.capture.raw = computer.capture.raw := by
  obtain ⟨_, _, _, _, rfl⟩ := scheduled
  rfl

/-- What a poll makes of a computer, and what it reports. -/
inductive Polled (computer : Computer) : Option CycleReport → Computer → Prop where
  | idle {changed : Computer} (scheduled : Scheduled computer changed) :
      Polled computer none changed
  | pass {ready changed : Computer} {report : CycleReport} (scheduled : Scheduled computer ready)
      (passed : Passed ready report changed) : Polled computer (some report) changed

/-- A poll that fails has failed to save trips, and makes no pass. -/
theorem poll_polled (initial : Computer) :
    Meets (· = initial) poll (Polled initial) (Scheduled initial) := by
  have stores : ∀ (computer : Computer) (store : Store), Scheduled initial computer →
      Scheduled initial { computer with store := store } := by
    rintro _ store ⟨_, pendingWake, loopDue, events, rfl⟩
    exact ⟨store, pendingWake, loopDue, events, rfl⟩
  have answers : ∀ computer, computer = initial → Scheduled initial { computer with
      capture := computer.capture.takeEvents.2
      pendingWake := computer.pendingWake || computer.capture.events.woke } := by
    rintro _ rfl
    exact ⟨_, _, _, _, rfl⟩
  refine meets_poll_report answers ?_ ?_ ?_ ?_
  · exact fun _ _ _ => Meets.autosave (keeps_saveTrip_of_store stores)
  · rintro _ ⟨_, _, _, _, rfl⟩
    exact ⟨_, _, _, _, rfl⟩
  · intro ready scheduled
    obtain ⟨report, changed, ran, passed⟩ := runCycle_passed ready
    rw [ran]
    exact .pass scheduled passed
  · exact fun _ scheduled => .idle scheduled

/-- The pass that an activity makes, if it makes one: its report, and the raw trip that it
drains. -/
def pass? (computer : Computer) : Activity → Option (CycleReport × Trip)
  | .captured _ => none
  | .poll =>
      match poll computer with
      | .ok (some report) _ => some (report, computer.capture.raw)
      | _ => none

/-- The passes that activities make, one after another. -/
def passes (computer : Computer) : List Activity → List (CycleReport × Trip)
  | [] => []
  | first :: rest => (pass? computer first).toList ++ passes (computer.undergo first) rest

/-- What an activity makes of a computer, with the pass that it makes.  Without one, only the store,
the capture and the wake that waits may differ. -/
inductive Undergone (computer : Computer) : Option (CycleReport × Trip) → Computer → Prop where
  | still (capture : Capture) (store : Store) (pendingWake : Bool) :
      Undergone computer none { computer with
        capture := capture
        store := store
        pendingWake := pendingWake }
  | passed {ready changed : Computer} {report : CycleReport} (scheduled : Scheduled computer ready)
      (passed : Passed ready report changed) :
      Undergone computer (some (report, computer.capture.raw)) changed

theorem Scheduled.undergone {computer changed : Computer}
    (scheduled : Scheduled computer changed) : Undergone computer none changed := by
  obtain ⟨_, _, _, _, rfl⟩ := scheduled
  exact .still _ _ _

theorem undergone (computer : Computer) (activity : Activity) :
    Undergone computer (pass? computer activity) (undergo computer activity) := by
  cases activity with
  | captured event => exact .still _ _ _
  | poll =>
      have polled := poll_polled computer computer rfl
      unfold undergo afterTask pass?
      cases outcome : poll computer with
      | error failure changed =>
          rw [outcome] at polled
          exact polled.undergone
      | ok report? changed =>
          rw [outcome] at polled
          cases polled with
          | idle scheduled => exact scheduled.undergone
          | pass scheduled passed => exact .passed scheduled passed

theorem Undergone.tuned {computer changed : Computer} {pass? : Option (CycleReport × Trip)}
    (undergone : Undergone computer pass? changed) : Tuned computer changed := by
  cases undergone with
  | still => exact ⟨rfl, rfl⟩
  | passed scheduled passed => exact scheduled.tuned.trans passed.tuned

end TripComputer.Computer
