import TripComputer.Interrupt

/-!
# Simulated drives

A drive profile is a steady state of the vehicle as event rates.  The simulator replays it:
it hands out the interrupts of a span of cycles in order of time, each with the timer count
at which it arrives.  Event times are floating-point numbers, rounded up to whole cycles.

Nothing bounds the number of events in a span (a rate may be so high that time stands
still), so `Simulator.advance?` takes a budget of events.
-/

namespace TripComputer

/-- A steady state of the vehicle, as event rates. -/
structure DriveProfile where
  /-- Road-speed pulses per second. -/
  vssRate : Float
  /-- Injector openings per second. -/
  injectorRate : Float
  /-- Microseconds for which an injector is driven. -/
  pulseMicros : Float
  /-- Analog samples delivered on every tick, by channel. -/
  analog : Vector (Option UInt16) Board.analogChannels

namespace DriveProfile

/-- The vehicle at rest with the engine off. -/
def parked : DriveProfile :=
  ⟨0, 0, 0, Vector.replicate Board.analogChannels none⟩

instance : Inhabited DriveProfile := ⟨parked⟩

/-- The profile of a speed in distances per hour and an engine speed in revolutions per
minute. -/
def steady (speed : Float) (pulsesPerDistance : UInt32) (rpm : Float) (crankRevs : UInt32)
    (pulseMicros : Float) : DriveProfile :=
  { parked with
    vssRate := speed * pulsesPerDistance.toFloat / 3600
    injectorRate := rpm / 60 / (max crankRevs 1).toFloat
    pulseMicros := pulseMicros }

/-- The profile with a sample on one channel; other channels are ignored. -/
def withAnalog (profile : DriveProfile) (channel : Nat) (value : UInt16) : DriveProfile :=
  { profile with analog := profile.analog.setIfInBounds channel (some value) }

/-- The samples of a tick. -/
def samples (profile : DriveProfile) : List Interrupt :=
  profile.analog.toList.zipIdx.filterMap fun (value, channel) =>
    value.map (Interrupt.analogSample channel.toUInt8)

end DriveProfile

/-- Numbers of interrupts delivered. -/
structure DriveCounts where
  ticks : Nat
  vssEdges : Nat
  injectorPulses : Nat
deriving DecidableEq, Repr

namespace DriveCounts

def zero : DriveCounts := ⟨0, 0, 0⟩

protected def add (counts other : DriveCounts) : DriveCounts :=
  ⟨counts.ticks + other.ticks, counts.vssEdges + other.vssEdges,
    counts.injectorPulses + other.injectorPulses⟩

instance : Add DriveCounts := ⟨DriveCounts.add⟩

end DriveCounts

/-- The events of a drive.  At one cycle they come in this order: a tick lands before the
edges, and a closing before the next opening. -/
inductive DriveEvent where
  | tick
  | injectorClose
  | injectorOpen
  | vss
deriving DecidableEq, Repr

namespace DriveEvent

/-- Place in the order of events at one cycle. -/
def rank (event : DriveEvent) : Nat :=
  event.ctorIdx

end DriveEvent

/-- The state of a simulated drive. -/
structure Simulator where
  /-- Range of the timer, one tick per wrap. -/
  range : UInt32
  cyclesPerSecond : UInt32
  profile : DriveProfile
  /-- Cycles simulated since the start. -/
  now : UInt64
  nextTick : UInt64
  nextVss : Option Float
  nextOpening : Option Float
  closesAt : Option UInt64

namespace Simulator

/-- Cycles between events of a rate; none for a rate that is not positive and finite. -/
def period? (cyclesPerSecond : UInt32) (rate : Float) : Option Float :=
  if rate > 0 && rate.isFinite then some (cyclesPerSecond.toFloat / rate) else none

/-- The first whole cycle at or after a time. -/
def cycleOf (time : Float) : UInt64 :=
  time.ceil.toUInt64

/-- Changes the drive from the current cycle on. -/
def setProfile (simulator : Simulator) (profile : DriveProfile) : Simulator :=
  let start := simulator.now.toFloat
  { simulator with
    nextVss := (period? simulator.cyclesPerSecond profile.vssRate).map (start + ·)
    nextOpening := (period? simulator.cyclesPerSecond profile.injectorRate).map (start + ·)
    profile := profile }

/-- A drive that starts at cycle zero. -/
def new (range cyclesPerSecond : UInt32) (profile : DriveProfile) : Simulator :=
  setProfile
    { range := range
      cyclesPerSecond := cyclesPerSecond
      profile := .parked
      now := 0
      nextTick := range.toUInt64
      nextVss := none
      nextOpening := none
      closesAt := none }
    profile

/-- Cycles for which an injector stays open; it cannot stay open through its next opening. -/
def pulseCycles (simulator : Simulator) : UInt64 :=
  let opened :=
    cycleOf (simulator.profile.pulseMicros * simulator.cyclesPerSecond.toFloat / 1e6)
  match period? simulator.cyclesPerSecond simulator.profile.injectorRate with
  | none => opened
  | some period =>
      let limit := cycleOf period
      min opened (if limit = 0 then 0 else limit - 1)

/-- Whether a dated event comes before another. -/
def precedes (first second : UInt64 × DriveEvent) : Bool :=
  first.1 < second.1 || (first.1 == second.1 && first.2.rank < second.2.rank)

/-- The next event and its cycle. -/
def nextEvent (simulator : Simulator) : UInt64 × DriveEvent :=
  let candidates :=
    [simulator.closesAt.map fun cycle => (cycle, DriveEvent.injectorClose),
      simulator.nextOpening.map fun time => (cycleOf time, DriveEvent.injectorOpen),
      simulator.nextVss.map fun time => (cycleOf time, DriveEvent.vss)]
  candidates.foldl (fun best candidate =>
    match candidate with
    | none => best
    | some candidate => if precedes candidate best then candidate else best)
    (simulator.nextTick, .tick)

/-- The time one period of a rate after another. -/
def later (simulator : Simulator) (time : Option Float) (rate : Float) : Option Float := do
  let time ← time
  let period ← period? simulator.cyclesPerSecond rate
  return time + period

/-- The interrupts of an event, the state after it and what it adds to the counts. -/
def occur (simulator : Simulator) (cycle : UInt64) :
    DriveEvent → List Interrupt × Simulator × DriveCounts
  | .tick =>
      (.timerOverflow :: simulator.profile.samples,
        { simulator with nextTick := simulator.nextTick + simulator.range.toUInt64 },
        ⟨1, 0, 0⟩)
  | .vss =>
      ([.vssEdge],
        { simulator with
          nextVss := simulator.later simulator.nextVss simulator.profile.vssRate },
        ⟨0, 1, 0⟩)
  | .injectorOpen =>
      ([.injectorOpen],
        { simulator with
          closesAt := some (cycle + simulator.pulseCycles)
          nextOpening := simulator.later simulator.nextOpening simulator.profile.injectorRate },
        .zero)
  | .injectorClose => ([.injectorClose], { simulator with closesAt := none }, ⟨0, 0, 1⟩)

/-- The timer count at a cycle. -/
def countAt (simulator : Simulator) (cycle : UInt64) : UInt32 :=
  (cycle % simulator.range.toUInt64).toUInt32

variable {α : Type}

/-- Delivers every event before the cycle `horizon` to a listener, within a budget of
events.  The listener is given the timer count and the interrupt. -/
def deliver? (listen : α → UInt32 → Interrupt → α) (horizon : UInt64) :
    (budget : Nat) → Simulator → α → DriveCounts → Option (Simulator × α × DriveCounts)
  | 0, _, _, _ => none
  | budget + 1, simulator, listener, counts =>
      let (cycle, event) := simulator.nextEvent
      if horizon ≤ cycle then some (simulator, listener, counts)
      else
        let (interrupts, simulator', added) := simulator.occur cycle event
        let count := simulator.countAt cycle
        let listener := interrupts.foldl (fun listener => listen listener count) listener
        deliver? listen horizon budget simulator' listener (counts + added)

/-- Delivers every interrupt due in the next `cycles` cycles, within a budget of events. -/
def advance? (listen : α → UInt32 → Interrupt → α) (budget : Nat) (simulator : Simulator)
    (listener : α) (cycles : UInt64) : Option (Simulator × α × DriveCounts) := do
  let sum := simulator.now + cycles
  let horizon := if sum < simulator.now then 0xFFFFFFFFFFFFFFFF else sum
  let (simulator, listener, counts) ← deliver? listen horizon budget simulator listener .zero
  return ({ simulator with now := horizon }, listener, counts)

end Simulator

end TripComputer
