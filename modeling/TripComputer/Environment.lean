import TripComputer.Settings
import TripComputer.Trip

/-!
# What programs observe

A program sees its surroundings only through `Environment`, and changes them only by storing
settings.  `Surroundings` is the environment of a settings table, numbered trips and analog
readings.
-/

namespace TripComputer

/-- Everything that a program can observe or change outside its registers. -/
class Environment (σ : Type) where
  metric : σ → Bool
  cyclesPerSecond : σ → UInt32
  tickCycles : σ → UInt32
  /-- Counter of the trip at a context index. -/
  counter? : σ → UInt8 → Counter → Option UInt64
  /-- Injector open cycles of the tank trip. -/
  tankFuel : σ → UInt64
  setting : σ → Setting → UInt32
  store : σ → Setting → UInt64 → σ
  /-- Reading of an analog channel. -/
  reading? : σ → UInt8 → Option UInt16

/-- A settings table with the trips and readings that programs see beside it. -/
structure Surroundings where
  settings : Settings
  cyclesPerSecond : UInt32
  tickCycles : UInt32
  /-- The unit system, where it is not the one of the settings table. -/
  metricOverride : Option Bool
  trip? : UInt8 → Option Trip
  tankFuel : UInt64
  reading? : UInt8 → Option UInt16

instance : Environment Surroundings where
  metric surroundings := surroundings.metricOverride.getD surroundings.settings.metric
  cyclesPerSecond := Surroundings.cyclesPerSecond
  tickCycles := Surroundings.tickCycles
  counter? surroundings index counter := (surroundings.trip? index).map (·.get counter)
  tankFuel := Surroundings.tankFuel
  setting surroundings := surroundings.settings.get
  store surroundings setting value :=
    { surroundings with settings := surroundings.settings.store setting value }
  reading? := Surroundings.reading?

end TripComputer
