/-!
# Trips

A trip accumulates the raw pulse and cycle counters of one measurement scope.  The counters
wrap at their width instead of trapping, so trips under addition form a group: what has been
added can be taken away again.
-/

namespace TripComputer

/-- One of the five counters of a trip. -/
inductive Counter where
  | vssPulses
  | injectorPulses
  | vssCycles
  | injectorCycles
  | injectorOpenCycles
deriving DecidableEq, Repr

namespace Counter

def all : List Counter :=
  [vssPulses, injectorPulses, vssCycles, injectorCycles, injectorOpenCycles]

def name : Counter → String
  | vssPulses => "vss_pulses"
  | injectorPulses => "injector_pulses"
  | vssCycles => "vss_cycles"
  | injectorCycles => "injector_cycles"
  | injectorOpenCycles => "injector_open_cycles"

/-- Cycle totals are double-width; pulse counts are single-width. -/
def isWide : Counter → Bool
  | vssPulses | injectorPulses => false
  | vssCycles | injectorCycles | injectorOpenCycles => true

/-- Position of the counter in `all`, as packed programs write it. -/
def index (counter : Counter) : UInt8 :=
  counter.ctorIdx.toUInt8

def ofIndex? (index : UInt8) : Option Counter :=
  all[index.toNat]?

end Counter

/-- Pulses and cycles counted on the road-speed and injector lines. -/
structure Trip where
  vssPulses : UInt32
  injectorPulses : UInt32
  vssCycles : UInt64
  injectorCycles : UInt64
  injectorOpenCycles : UInt64
deriving DecidableEq, Repr

namespace Trip

/-- The trip on which nothing has been counted. -/
def zero : Trip := ⟨0, 0, 0, 0, 0⟩

instance : Zero Trip := ⟨zero⟩

instance : Inhabited Trip := ⟨zero⟩

/-- Counters of both trips together. -/
protected def add (trip other : Trip) : Trip where
  vssPulses := trip.vssPulses + other.vssPulses
  injectorPulses := trip.injectorPulses + other.injectorPulses
  vssCycles := trip.vssCycles + other.vssCycles
  injectorCycles := trip.injectorCycles + other.injectorCycles
  injectorOpenCycles := trip.injectorOpenCycles + other.injectorOpenCycles

instance : Add Trip := ⟨Trip.add⟩

/-- Counters of a trip without those of another. -/
protected def sub (trip other : Trip) : Trip where
  vssPulses := trip.vssPulses - other.vssPulses
  injectorPulses := trip.injectorPulses - other.injectorPulses
  vssCycles := trip.vssCycles - other.vssCycles
  injectorCycles := trip.injectorCycles - other.injectorCycles
  injectorOpenCycles := trip.injectorOpenCycles - other.injectorOpenCycles

instance : Sub Trip := ⟨Trip.sub⟩

/-- One more road-speed pulse, `cycles` after the previous one. -/
def creditVss (trip : Trip) (cycles : UInt32) : Trip :=
  { trip with
    vssPulses := trip.vssPulses + 1
    vssCycles := trip.vssCycles + cycles.toUInt64 }

/-- One more injector event.  A rejected duration is credited as `opened = 0`: it adds the
length of the engine cycle but neither a pulse nor open time. -/
def creditInjector (trip : Trip) (opened total : UInt32) : Trip :=
  let timed :=
    if opened > 0 then
      { trip with
        injectorPulses := trip.injectorPulses + 1
        injectorOpenCycles := trip.injectorOpenCycles + opened.toUInt64 }
    else trip
  { timed with injectorCycles := timed.injectorCycles + total.toUInt64 }

/-- A counter as a register value. -/
def get (trip : Trip) : Counter → UInt64
  | .vssPulses => trip.vssPulses.toUInt64
  | .injectorPulses => trip.injectorPulses.toUInt64
  | .vssCycles => trip.vssCycles
  | .injectorCycles => trip.injectorCycles
  | .injectorOpenCycles => trip.injectorOpenCycles

/-- Whether nothing has been counted. -/
def isEmpty (trip : Trip) : Bool :=
  trip == zero

end Trip

end TripComputer
