import TripComputer.Board
import TripComputer.Clock
import TripComputer.Trip

/-!
# Pulse capture

The interrupt side of the computer.  Edges credit the raw trips; the periodic tick drives
every countdown: freshness of the last edges, debounce, the main loop and sleep.  The main
loop sees this state only through `drain` and the `take` operations.

Handlers are given the time of their event, and are total functions on `Capture`.
-/

namespace TripComputer

/-- Parameters of pulse capture, derived from the settings. -/
structure CaptureParameters where
  /-- Response time of an injector, taken off every open duration. -/
  settleCycles : UInt32
  /-- Longest time between openings that still counts as a running engine. -/
  minGoodCycles : UInt32
  /-- Ceiling of an open duration while no recent engine cycle is known. -/
  maxGoodInjectorCycles : UInt32
  /-- Ceiling of an open duration as a share of the engine cycle, in 1024ths. -/
  dutyCeiling : UInt32
  injectorResetTicks : UInt32
  /-- Ticks of the road-speed debounce; zero credits edges at once. -/
  vssPauseTicks : UInt32
  vssResetTicks : UInt32
  loopTicks : UInt32
  sleepTicks : UInt32
  /-- Count events without road speed, or without fuel, in the idle trip as well. -/
  trackIdle : Bool
deriving DecidableEq, Repr

namespace CaptureParameters

/-- Parameters under which every injector event is rejected. -/
def inert : CaptureParameters := ⟨0, 0, 0, 0, 0, 0, 0, 0, 0, false⟩

instance : Inhabited CaptureParameters := ⟨inert⟩

end CaptureParameters

/-- Transitions of the scheduler since they were last taken. -/
structure TickEvents where
  woke : Bool
  fellAsleep : Bool
deriving DecidableEq, Repr

/-- Which of the last edges are recent enough to measure from. -/
structure Freshness where
  goodVss : Bool
  goodInjector : Bool
  /-- An injector opening has been seen and its closing has not. -/
  openingSeen : Bool
deriving DecidableEq, Repr

/-- The state that interrupt handlers and the main loop share. -/
structure Capture where
  parameters : CaptureParameters
  raw : Trip
  rawIdle : Trip
  fresh : Freshness
  lastVss : UInt32
  lastOpening : UInt32
  thisOpening : UInt32
  /-- Length of the engine cycle under way, zero when not known. -/
  engineCycle : UInt32
  /-- Open durations from here on are rejected. -/
  openCeiling : UInt32
  injectorCountdown : UInt32
  vssCountdown : UInt32
  debounceCountdown : UInt32
  lastTick : Option UInt32
  systemCycles : UInt64
  loopCountdown : UInt32
  loopDue : Bool
  awake : Bool
  sleepCountdown : UInt32
  wakeRequested : Bool
  events : TickEvents
  analog : Vector UInt16 Board.analogChannels
deriving DecidableEq

namespace Capture

/-- Installs parameters.  Injector freshness is cleared, so that the next engine cycle is
measured against the new ones. -/
def setParameters (capture : Capture) (parameters : CaptureParameters) : Capture :=
  { capture with
    parameters := parameters
    fresh := { capture.fresh with goodInjector := false, openingSeen := false }
    openCeiling := parameters.maxGoodInjectorCycles
    loopCountdown := max parameters.loopTicks 1
    sleepCountdown := parameters.sleepTicks }

/-- An awake state in which nothing has happened, before parameters are installed. -/
def blank : Capture where
  parameters := .inert
  raw := .zero
  rawIdle := .zero
  fresh := ⟨false, false, false⟩
  lastVss := 0
  lastOpening := 0
  thisOpening := 0
  engineCycle := 0
  openCeiling := 0
  injectorCountdown := 0
  vssCountdown := 0
  debounceCountdown := 0
  lastTick := none
  systemCycles := 0
  loopCountdown := 0
  loopDue := false
  awake := true
  sleepCountdown := 0
  wakeRequested := false
  events := ⟨false, false⟩
  analog := Vector.replicate Board.analogChannels 0

/-- The state at power-up. -/
def new (parameters : CaptureParameters) : Capture :=
  blank.setParameters parameters

instance : Inhabited Capture := ⟨new .inert⟩

/-- Credits a road-speed pulse.  The first one after a pause only marks the time. -/
def creditVss (capture : Capture) (now : UInt32) : Capture :=
  let cycles := if capture.fresh.goodVss then Clock.interval capture.lastVss now else 0
  { capture with
    raw := capture.raw.creditVss cycles
    rawIdle :=
      if capture.parameters.trackIdle && !capture.fresh.goodInjector then
        capture.rawIdle.creditVss cycles
      else capture.rawIdle
    wakeRequested := true
    vssCountdown := capture.parameters.vssResetTicks
    fresh := { capture.fresh with goodVss := true }
    lastVss := now }

/-- A road-speed edge. -/
def onVssEdge (capture : Capture) (now : UInt32) : Capture :=
  if capture.parameters.vssPauseTicks = 0 then capture.creditVss now
  else if capture.debounceCountdown = 0 then
    { capture with debounceCountdown := capture.parameters.vssPauseTicks }
  else capture

/-- The ceiling of open durations in an engine cycle of a known length. -/
def dutyCeilingOf (engineCycle dutyCeiling : UInt32) : UInt32 :=
  let ceiling := (engineCycle.toUInt64 * dutyCeiling.toUInt64) >>> 10
  if ceiling ≤ 0xFFFFFFFF then ceiling.toUInt32 else 0xFFFFFFFF

/-- Measures the engine cycle that ends with an opening, if the last opening is recent. -/
def measureEngineCycle (capture : Capture) (now : UInt32) : Capture :=
  if capture.fresh.goodInjector then
    let total := Clock.interval capture.lastOpening now
    if total < capture.parameters.minGoodCycles then
      { capture with
        engineCycle := total
        openCeiling := dutyCeilingOf total capture.parameters.dutyCeiling
        wakeRequested := true }
    else
      -- too long for a running engine: it has stopped
      { capture with engineCycle := 0, fresh := { capture.fresh with goodInjector := false } }
  else capture

/-- An injector opening edge. -/
def onInjectorOpen (capture : Capture) (now : UInt32) : Capture :=
  let stamped := { capture with lastOpening := capture.thisOpening, thisOpening := now }
  let measured := stamped.measureEngineCycle now
  { measured with
    openCeiling :=
      if measured.fresh.goodInjector then measured.openCeiling
      else measured.parameters.maxGoodInjectorCycles
    fresh := { measured.fresh with openingSeen := true }
    injectorCountdown := measured.parameters.injectorResetTicks }

/-- The open duration that a closing edge ends, with the settling time taken off, if it is
neither shorter than that time nor at the ceiling. -/
def acceptedDuration? (capture : Capture) (now : UInt32) : Option UInt32 :=
  let measured := Clock.interval capture.thisOpening now
  let settle := capture.parameters.settleCycles
  if settle ≤ measured ∧ measured - settle < capture.openCeiling then some (measured - settle)
  else none

/-- Judges the duration that a closing edge ends, when its opening has been seen.  The
answer is the open time to credit. -/
def judgeDuration (capture : Capture) (now : UInt32) : UInt32 × Capture :=
  if capture.fresh.openingSeen then
    match capture.acceptedDuration? now with
    | some opened =>
        (opened, { capture with
          fresh := { capture.fresh with goodInjector := true, openingSeen := false }
          wakeRequested := true })
    | none =>
        (0, { capture with
          fresh := { capture.fresh with goodInjector := false, openingSeen := false }
          injectorCountdown := 0 })
  else (0, capture)

/-- An injector closing edge. -/
def onInjectorClose (capture : Capture) (now : UInt32) : Capture :=
  let idle := capture.parameters.trackIdle && !capture.fresh.goodVss
  let (opened, judged) := capture.judgeDuration now
  let total := judged.engineCycle
  { judged with
    raw := judged.raw.creditInjector opened total
    rawIdle := if idle then judged.rawIdle.creditInjector opened total else judged.rawIdle
    engineCycle := 0 }

/-- Adds the time since the last tick to the system time. -/
def countSystemCycles (capture : Capture) (now : UInt32) : Capture :=
  let elapsed := (capture.lastTick.map fun last => (Clock.interval last now).toUInt64).getD 0
  { capture with systemCycles := capture.systemCycles + elapsed, lastTick := some now }

/-- Counts down the freshness of the injector edges. -/
def ageInjector (capture : Capture) : Capture :=
  if capture.injectorCountdown > 0 then
    let left := capture.injectorCountdown - 1
    { capture with
      injectorCountdown := left
      fresh :=
        if left = 0 then { capture.fresh with goodInjector := false, openingSeen := false }
        else capture.fresh }
  else capture

/-- Counts down the freshness of the road-speed edges. -/
def ageVss (capture : Capture) : Capture :=
  if capture.vssCountdown > 0 then
    let left := capture.vssCountdown - 1
    { capture with
      vssCountdown := left
      fresh := if left = 0 then { capture.fresh with goodVss := false } else capture.fresh }
  else capture

/-- Counts down the road-speed debounce; a pulse is credited at its end. -/
def ageDebounce (capture : Capture) (now : UInt32) : Capture :=
  if capture.debounceCountdown > 0 then
    let left := capture.debounceCountdown - 1
    let counted := { capture with debounceCountdown := left }
    if left = 0 then counted.creditVss now else counted
  else capture

/-- Counts down to the next pass of the main loop. -/
def ageLoop (capture : Capture) : Capture :=
  let left := if capture.loopCountdown > 0 then capture.loopCountdown - 1 else 0
  if left = 0 then
    { capture with loopDue := true, loopCountdown := max capture.parameters.loopTicks 1 }
  else { capture with loopCountdown := left }

/-- Counts down to sleep. -/
def ageSleep (capture : Capture) : Capture :=
  if capture.sleepCountdown > 0 then
    { capture with sleepCountdown := capture.sleepCountdown - 1 }
  else if capture.awake then
    { capture with awake := false, events := { capture.events with fellAsleep := true } }
  else capture

/-- Answers a wake request. -/
def answerWake (capture : Capture) : Capture :=
  if capture.wakeRequested then
    { capture with
      wakeRequested := false
      events := { capture.events with woke := capture.events.woke || !capture.awake }
      awake := true
      sleepCountdown := capture.parameters.sleepTicks }
  else capture

/-- The periodic tick. -/
def onTick (capture : Capture) (now : UInt32) : Capture :=
  let timed := capture.countSystemCycles now
  let aged := (timed.ageInjector.ageVss).ageDebounce now
  aged.ageLoop.ageSleep.answerWake

/-- Keeps the latest conversion of an analog channel; other channels are ignored. -/
def setAnalog (capture : Capture) (channel : UInt8) (value : UInt16) : Capture :=
  { capture with analog := capture.analog.setIfInBounds channel.toNat value }

/-- The latest conversion of an analog channel. -/
def analog? (capture : Capture) (channel : UInt8) : Option UInt16 :=
  capture.analog[channel.toNat]?

/-- Asks the scheduler to wake; the next tick answers. -/
def requestWake (capture : Capture) : Capture :=
  { capture with wakeRequested := true }

/-- Takes the raw trips and leaves them zero. -/
def drain (capture : Capture) : (Trip × Trip) × Capture :=
  ((capture.raw, capture.rawIdle), { capture with raw := .zero, rawIdle := .zero })

/-- Whether a pass of the main loop has come due since the last time this was taken. -/
def takeLoopDue (capture : Capture) : Bool × Capture :=
  (capture.loopDue, { capture with loopDue := false })

/-- Takes the transitions of the scheduler. -/
def takeEvents (capture : Capture) : TickEvents × Capture :=
  (capture.events, { capture with events := ⟨false, false⟩ })

end Capture

end TripComputer
