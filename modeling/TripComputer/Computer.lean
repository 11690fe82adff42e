import TripComputer.Capture
import TripComputer.Display
import TripComputer.Image
import TripComputer.Trips

/-!
# The fuel computer

The main-loop side of the system.  The computer owns the settings, the trips, the calculator
and the non-volatile store, and it shares the capture state with the interrupt handlers.
Each pass of the main loop drains the raw trips into the kept ones; a change of settings
derives the capture parameters anew through programs of the catalog.

Operations that can fail are `Task`s: a failure keeps whatever the task had changed before.
-/

namespace TripComputer

/-- Most samples in the history of fuel economy over time. -/
def historyLength : Nat := 15

/-- Why a computer could not be built. -/
inductive BuildError where
  | missingStorage
  | zeroCycleRate
  | badTickLength (cycles : UInt32)
deriving DecidableEq, Repr

namespace BuildError

def message : BuildError → String
  | missingStorage => "missing non-volatile storage"
  | zeroCycleRate => "cycles_per_second must be > 0"
  | badTickLength cycles => s!"tick length must be a power of two >= 2, got {cycles}"

end BuildError

/-- Why a task of the computer failed. -/
inductive Failure where
  | build (error : BuildError)
  | setting (error : SettingError)
  | storage (error : StorageError)
  | execution (error : ExecutionError)
  /-- The settings block could not be written. -/
  | savingSettings (error : StorageError)
  /-- The program of a quantity faulted. -/
  | evaluating (quantity : Quantity) (trip : TripName) (error : ExecutionError)
deriving DecidableEq, Repr

namespace Failure

/-- What failed, the widest activity first and the cause last. -/
def chain : Failure → List String
  | build error => [error.message]
  | setting error => [error.message]
  | storage error => [error.message]
  | execution error => [error.message]
  | savingSettings error => ["saving settings", error.message]
  | evaluating quantity trip error =>
      [s!"evaluating {quantity.name} on {trip.name}", error.message]

end Failure

/-- What one pass of the main loop did. -/
structure CycleReport where
  /-- Passes since the computer was built, this one included. -/
  cycle : Nat
  awake : Bool
  /-- The bar of the speed graph that the pass was counted in. -/
  band : Option (Fin speedBandCount)
  /-- The sample that the pass added to the history of fuel economy. -/
  economy : Option Reading
deriving DecidableEq, Repr

/-- A program that faulted in `Computer.checkCatalog`. -/
structure CheckFailure where
  program : Program
  index : UInt8
  /-- Register 2 on entry. -/
  input : UInt64
  error : ExecutionError
deriving DecidableEq, Repr

/-- The fuel computer. -/
structure Computer where
  settings : Settings
  trips : Trips
  calculator : Calculator
  capture : Capture
  store : Store
  cyclesPerSecond : UInt32
  tickCycles : UInt32
  trackIdle : Bool
  /-- Samples of fuel economy over time, the oldest first. -/
  history : List Reading
  /-- Waking passes since the last sample. -/
  periodCycles : Nat
  /-- Passes of the main loop. -/
  cycles : Nat
  pendingWake : Bool
  /-- The store held no valid settings when the computer was built. -/
  firstBoot : Bool

namespace Computer

/-- A computation on a computer that can fail. -/
abbrev Task (α : Type) := EStateM Failure Computer α

/-- What the programs of the computer observe. -/
def surroundings (computer : Computer) : Surroundings where
  settings := computer.settings
  cyclesPerSecond := computer.cyclesPerSecond
  tickCycles := computer.tickCycles
  metricOverride := none
  trip? := computer.trips.byIndex?
  tankFuel := (computer.trips.get .tank).injectorOpenCycles
  reading? := computer.capture.analog?

/-- The computer after one of its programs has run. -/
def after (computer : Computer) (run : Machine.Run Surroundings) : Computer :=
  { computer with
    calculator := computer.calculator.after run
    settings := run.environment.settings }

/-- Runs a program with a context index; the answer is register 2. -/
def runProgram (program : Program) (index : UInt8) : Task UInt64 := fun computer =>
  let run := computer.calculator.call computer.surroundings program index 0
  match run.result with
  | .ok result => .ok result (computer.after run)
  | .error error => .error (.execution error) (computer.after run)

/-- Runs the program of a quantity on a trip. -/
def evaluate (quantity : Quantity) (trip : TripName) : Task Evaluation := fun computer =>
  let run := computer.calculator.call computer.surroundings quantity.program trip.index 0
  match run.result with
  | .ok raw => .ok ⟨quantity, raw⟩ (computer.after run)
  | .error error => .error (.evaluating quantity trip error) (computer.after run)

/-- Uses the calculator for the text of a result. -/
def calculate {α : Type} (calculation : Display.Calculation α) : Task α := fun computer =>
  match calculation computer.calculator with
  | .ok result calculator => .ok result { computer with calculator := calculator }
  | .error error calculator =>
      .error (.execution error) { computer with calculator := calculator }

/-- The text of an evaluation. -/
def format (evaluation : Evaluation) : Task String :=
  calculate (Display.evaluation evaluation)

/-- Evaluates a quantity and writes it. -/
def display (quantity : Quantity) (trip : TripName) : Task String := do
  format (← evaluate quantity trip)

/-- Changes the trips. -/
def modifyTrips (change : Trips → Trips) : Task Unit :=
  modify fun computer => { computer with trips := change computer.trips }

/-- Changes the capture state and takes something from it. -/
def takeFromCapture {α : Type} (take : Capture → α × Capture) : Task α :=
  modifyGet fun computer =>
    let (taken, capture) := take computer.capture
    (taken, { computer with capture := capture })

/-- Makes an access to the store.  A refused one keeps the store that it leaves as well. -/
def writeStore (wrap : StorageError → Failure) (access : Store.Access StorageError Unit) :
    Task Unit := fun computer =>
  match access computer.store with
  | .ok () store => .ok () { computer with store := store }
  | .error error store => .error (wrap error) { computer with store := store }

/-- Derives the capture parameters from the settings and installs them. -/
def applyDerived : Task CaptureParameters := do
  let settle ← runProgram .settleCycles 0
  let minGood ← runProgram .minGoodRpmCycles 0
  let ceiling ← runProgram .injectorCeilingCycles 0
  let sleep ← runProgram .sleepTicks 0
  let pause ← runProgram .vssPauseTicks 0
  let computer ← get
  let minGood := Word.saturate32 minGood
  let loopTicks := Board.loopTicks computer.cyclesPerSecond computer.tickCycles
  let parameters : CaptureParameters :=
    { settleCycles := Word.saturate32 settle
      minGoodCycles := minGood
      maxGoodInjectorCycles := Word.saturate32 ceiling
      dutyCeiling := computer.settings.get .injectorDutyCeiling
      injectorResetTicks := Word.saturate32 ((minGood / computer.tickCycles).toUInt64 + 2)
      vssPauseTicks := Word.saturate32 pause
      vssResetTicks := loopTicks
      loopTicks := loopTicks
      sleepTicks := Word.saturate32 sleep
      trackIdle := computer.trackIdle }
  takeFromCapture fun capture => (parameters, capture.setParameters parameters)

/-- Writes the settings block. -/
def saveSettings : Task Unit := do
  let computer ← get
  writeStore .savingSettings (Image.putSettings computer.settings)

/-- Changes one setting in the table only.  A change of the unit system first rescales every
setting with a unit, out of the mode being left. -/
def changeSetting (setting : Setting) (value : UInt32) : Task Unit := do
  let computer ← get
  if setting = .metricMode ∧ value ≤ 1 ∧ (value != 0) ≠ computer.settings.metric then
    (List.range Conversion.all.length).forM fun slot => do
      let _ ← runProgram .convertSetting slot.toUInt8
  let computer ← get
  match computer.settings.set setting value with
  | .error error => throw (.setting error)
  | .ok settings => set { computer with settings := settings }

/-- Derives microseconds per quantity from the injector settings. -/
def rederiveFuelFactor : Task UInt32 := do
  let _ ← runProgram .fuelFactor 0
  return (← get).settings.get .microsPerQuantity

/-- Changes one setting the way the settings editor does: what depends on it is derived anew,
and the table is saved. -/
def setSetting (setting : Setting) (value : UInt32) : Task Unit := do
  changeSetting setting value
  if setting.affectsFuelFactor then
    let _ ← rederiveFuelFactor
  let _ ← applyDerived
  saveSettings

/-- Derives microseconds per quantity, and then what depends on it, and saves. -/
def deriveFuelFactor : Task UInt32 := do
  let factor ← rederiveFuelFactor
  let _ ← applyDerived
  saveSettings
  return factor

/-- Lays values over the table, in order; only those that differ are changed.  The answer is
whether any was, and whether the fuel factor depends on one that was. -/
def layOver : List (Setting × UInt32) → Task (Bool × Bool)
  | [] => return (false, false)
  | (setting, value) :: rest => do
      if (← get).settings.get setting = value then layOver rest
      else
        changeSetting setting value
        let (_, refuel) ← layOver rest
        return (true, setting.affectsFuelFactor || refuel)

/-- Lays pinned values over the table.  The fuel factor is derived anew when it depends on a
changed value and is not pinned itself.  The answer is whether anything changed. -/
def applyOverrides (overrides : List (Setting × UInt32)) : Task Bool := do
  let (changed, refuel) ← layOver overrides
  let pinned := overrides.any (·.1 == .microsPerQuantity)
  if refuel && !pinned then
    let _ ← rederiveFuelFactor
  return changed

/-- Seconds of system time, as stamped on saved trips. -/
def uptimeSeconds (computer : Computer) : UInt32 :=
  Word.saturate32 (computer.capture.systemCycles / computer.cyclesPerSecond.toUInt64)

/-- Saves a trip to a slot. -/
def saveTrip (trip : TripName) (slot : Nat) : Task Unit := do
  let computer ← get
  writeStore .storage (Image.putTrip slot (computer.trips.get trip) computer.uptimeSeconds)

/-- Loads a slot into a trip.  The trip is reset first, and stays empty when the slot holds no
valid image.  The answer is whether anything was loaded. -/
def loadTrip (slot : Nat) (trip : TripName) : Task Bool := do
  modifyTrips (·.reset trip)
  match Image.loadTrip (← get).store slot with
  | .error error => throw (.storage error)
  | .ok none => return false
  | .ok (some (_, saved)) =>
      modifyTrips (·.put trip saved)
      return true

/-- Every slot of the store. -/
def savedTrips (computer : Computer) :
    Except StorageError (List (Nat × Option (UInt32 × Trip))) :=
  (List.range Image.slotCount).mapM fun slot => do
    return (slot, ← Image.loadTrip computer.store slot)

/-- The trips saved when the computer falls asleep, with their slots. -/
def autosaveSlots (computer : Computer) : List (TripName × Nat) :=
  (if computer.settings.flag .autosaveActive then [(.tank, 0), (.current, 1)] else []) ++
    (if computer.trackIdle && computer.settings.flag .autosaveIdle then
      [(.idleTank, 2), (.idleCurrent, 3)]
    else [])

/-- Saves the trips that are saved without being asked for. -/
def autosave : Task Unit := do
  (← get).autosaveSlots.forM fun (trip, slot) => saveTrip trip slot

/-- Loads those trips again. -/
def restore : Task Unit := do
  (← get).autosaveSlots.forM fun (trip, slot) => do
    let _ ← loadTrip slot trip

/-- Adds a sample to the history; a full one loses its oldest. -/
def remember (history : List Reading) (sample : Reading) : List Reading :=
  (if history.length < historyLength then history else history.drop 1) ++ [sample]

/-- Samples fuel economy over time when a period has passed. -/
def sampleEconomy : Task (Option Reading) := do
  let computer ← get
  let period := (computer.settings.get .economyPeriod).toNat * Board.loopsPerSecond.toNat
  if period = 0 then return none
  if computer.periodCycles + 1 < period then
    set { computer with periodCycles := computer.periodCycles + 1 }
    return none
  set { computer with periodCycles := 0 }
  let sample := Reading.ofRaw (← runProgram .fuelEconomy TripName.period.index)
  modify fun computer =>
    { computer with
      history := remember computer.history sample
      trips := computer.trips.reset .period }
  return some sample

/-- Counts the instant trip in the bar of the speed graph that its speed falls into. -/
def sampleSpeed : Task (Option (Fin speedBandCount)) := do
  let band ← runProgram .speedBand TripName.instant.index
  if inGraph : band.toNat < speedBandCount then
    let band : Fin speedBandCount := ⟨band.toNat, inGraph⟩
    modifyTrips (·.update (.speedBand band) .instant)
    return some band
  else return none

/-- Merges the drained trips into the kept ones. -/
def merge (trackIdle : Bool) (raw rawIdle : Trip) (trips : Trips) : Trips :=
  let active :=
    (((trips.put .instant raw).update .tank .instant).update .current .instant).update
      .period .instant
  if trackIdle then
    ((active.put .idleInstant rawIdle).update .idleTank .idleInstant).update
      .idleCurrent .idleInstant
  else active

/-- Begins a pass of the main loop.  The answer is whether the computer is awake, and the sample
that is added to the history of fuel economy. -/
def beginPass : Task (Bool × Option Reading) := do
  let computer ← get
  let awake := computer.capture.awake
  set { computer with pendingWake := false }
  if computer.pendingWake && computer.settings.flag .wakeupResetCurrent then
    modifyTrips (·.reset .current)
  let economy ← if awake then sampleEconomy else pure none
  return (awake, economy)

/-- Ends a pass of the main loop with what has been captured until now. -/
def endPass (awake : Bool) (economy : Option Reading) : Task CycleReport := do
  let (raw, rawIdle) ← takeFromCapture Capture.drain
  modifyTrips (merge (← get).trackIdle raw rawIdle)
  let band ← if awake then sampleSpeed else pure none
  if awake && (← get).settings.flag .windowFilter then
    modifyTrips Trips.applyWindowFilter
  modify fun computer => { computer with cycles := computer.cycles + 1 }
  return ⟨(← get).cycles, awake, band, economy⟩

/-- One pass of the main loop. -/
def runCycle : Task CycleReport := do
  let (awake, economy) ← beginPass
  endPass awake economy

/-- Takes the transitions of the scheduler.  A wake waits for the next pass, and the answer is
whether the computer has fallen asleep. -/
def answerScheduler : Task Bool := do
  let events ← takeFromCapture Capture.takeEvents
  if events.woke then
    modify fun computer => { computer with pendingWake := true }
  return events.fellAsleep

/-- Answers the scheduler, and makes a pass of the main loop if one is due. -/
def poll : Task (Option CycleReport) := do
  if ← answerScheduler then
    autosave
  if ← takeFromCapture Capture.takeLoopDue then
    return some (← runCycle)
  else return none

/-- Register-2 inputs that the helper programs are tried with. -/
def helperInputs : List UInt64 := [0, 1, 123456789, 0xFFFFFFFFFFFFFFFF]

/-- Number of context indices, and the inputs, that a program is tried with. -/
def checkPlan : Program → Nat × List UInt64
  | .overflow | .multiply | .divide | .adjust | .divideRound | .mulDivRound | .toMicros
  | .remainingFuel | .formatTime => (1, helperInputs)
  -- decimal places, and the value as it is
  | .roundOff | .formatNumber => (5, helperInputs)
  | .convertSetting => (Conversion.all.length, [0])
  | .readSetting => (Setting.count, [0])
  | .fuelFactor | .settleCycles | .minGoodRpmCycles | .injectorCeilingCycles | .sleepTicks
  | .vssPauseTicks => (1, [0])
  | _ => (tripCount, [0])

/-- Every run that the check of the catalog makes. -/
def checkRuns : List (Program × UInt8 × UInt64) :=
  Program.all.flatMap fun program =>
    let (contexts, inputs) := checkPlan program
    (List.range contexts).flatMap fun index =>
      inputs.map fun input => (program, index.toUInt8, input)

/-- Makes runs one after another, on shared surroundings, and collects the faults. -/
def tryRuns (calculator : Calculator) (surroundings : Surroundings) :
    List (Program × UInt8 × UInt64) → List CheckFailure × Calculator
  | [] => ([], calculator)
  | (program, index, input) :: rest =>
      let run := calculator.call surroundings program index input
      let (failures, calculator) := tryRuns (calculator.after run) run.environment rest
      match run.result with
      | .ok _ => (failures, calculator)
      | .error error => (⟨program, index, input, error⟩ :: failures, calculator)

/-- Runs every program of the catalog in the contexts it accepts and collects the faults.
Programs that store settings store them to a scratch table. -/
def checkCatalog : Task (List CheckFailure) := modifyGet fun computer =>
  let (failures, calculator) := tryRuns computer.calculator computer.surroundings checkRuns
  (failures, { computer with calculator := calculator })

end Computer

end TripComputer
