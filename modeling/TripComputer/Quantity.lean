import TripComputer.Instruction

/-!
# Quantities and readings

A quantity is what the display can show of a trip: the program that computes it, the number
of decimals and the way it is written.  A reading is the checked view of a raw result.
-/

namespace TripComputer

/-- How the raw result of a quantity is written. -/
inductive DisplayKind where
  /-- A number with three implied decimals, in six characters. -/
  | number
  /-- A plain integer. -/
  | count
  /-- Seconds, as hours, minutes and seconds. -/
  | time
deriving DecidableEq, Repr

namespace DisplayKind

def name : DisplayKind → String
  | number => "number"
  | count => "count"
  | time => "time"

end DisplayKind

/-- A derived quantity that the display can show for any trip. -/
inductive Quantity where
  | fuelUsed
  | fuelRate
  | engineRunTime
  | timeToEmpty
  | distance
  | speed
  | motionTime
  | fuelEconomy
  | remainingFuel
  | distanceToEmpty
  | engineSpeed
  | injectorOpenTime
  | injectorTotalTime
  | vssTotalTime
  | injectorPulses
  | vssPulses
  | fuelCost
  | fuelRateCost
  | fuelCostPerDistance
  | distancePerFuelCost
  | remainingFuelCost
  | voltage0
  | voltage1
deriving DecidableEq, Repr

namespace Quantity

/-- Name, program, decimal places and display of a quantity. -/
structure Entry where
  name : String
  program : Program
  decimals : UInt8
  display : DisplayKind

/-- The table of quantities. -/
def entry : Quantity → Entry
  | fuelUsed => ⟨"fuel-used", .fuelUsed, 2, .number⟩
  | fuelRate => ⟨"fuel-rate", .fuelRate, 2, .number⟩
  | engineRunTime => ⟨"engine-run-time", .engineRunTime, 0, .time⟩
  | timeToEmpty => ⟨"time-to-empty", .timeToEmpty, 0, .time⟩
  | distance => ⟨"distance", .distance, 1, .number⟩
  | speed => ⟨"speed", .speed, 1, .number⟩
  | motionTime => ⟨"motion-time", .motionTime, 0, .time⟩
  | fuelEconomy => ⟨"fuel-econ", .fuelEconomy, 2, .number⟩
  | remainingFuel => ⟨"remaining-fuel", .remainingFuel, 2, .number⟩
  | distanceToEmpty => ⟨"distance-to-empty", .distanceToEmpty, 1, .number⟩
  | engineSpeed => ⟨"engine-speed", .engineSpeed, 0, .number⟩
  | injectorOpenTime => ⟨"injector-open-us", .injectorOpenTime, 0, .count⟩
  | injectorTotalTime => ⟨"injector-total-us", .injectorTotalTime, 0, .count⟩
  | vssTotalTime => ⟨"vss-total-us", .vssTotalTime, 0, .count⟩
  | injectorPulses => ⟨"injector-pulses", .injectorPulses, 0, .count⟩
  | vssPulses => ⟨"vss-pulses", .vssPulses, 0, .count⟩
  | fuelCost => ⟨"fuel-cost", .fuelCost, 2, .number⟩
  | fuelRateCost => ⟨"fuel-rate-cost", .fuelRateCost, 2, .number⟩
  | fuelCostPerDistance => ⟨"fuel-cost-per-distance", .fuelCostPerDistance, 2, .number⟩
  | distancePerFuelCost => ⟨"distance-per-fuel-cost", .distancePerFuelCost, 1, .number⟩
  | remainingFuelCost => ⟨"remaining-fuel-cost", .remainingFuelCost, 2, .number⟩
  | voltage0 => ⟨"voltage-0", .voltage0, 3, .number⟩
  | voltage1 => ⟨"voltage-1", .voltage1, 3, .number⟩

/-- Every quantity, in table order. -/
def all : List Quantity :=
  [fuelUsed, fuelRate, engineRunTime, timeToEmpty, distance, speed, motionTime, fuelEconomy,
    remainingFuel, distanceToEmpty, engineSpeed, injectorOpenTime, injectorTotalTime,
    vssTotalTime, injectorPulses, vssPulses, fuelCost, fuelRateCost, fuelCostPerDistance,
    distancePerFuelCost, remainingFuelCost, voltage0, voltage1]

def name (quantity : Quantity) : String := quantity.entry.name

def program (quantity : Quantity) : Program := quantity.entry.program

/-- Decimal places shown; a property of the quantity and not of its value. -/
def decimals (quantity : Quantity) : UInt8 := quantity.entry.decimals

def display (quantity : Quantity) : DisplayKind := quantity.entry.display

def ofName? (text : String) : Option Quantity :=
  all.find? (·.name == text)

end Quantity

/-- The checked view of a raw result: the upper half of the words is no value. -/
inductive Reading where
  | value (raw : UInt64)
  | overflow
deriving DecidableEq, Repr

namespace Reading

/-- The reading of a raw result. -/
def ofRaw (raw : UInt64) : Reading :=
  if raw ≥ 0x8000000000000000 then overflow else value raw

def value? : Reading → Option UInt64
  | value raw => some raw
  | overflow => none

def isOverflow (reading : Reading) : Bool :=
  reading == overflow

end Reading

end TripComputer
