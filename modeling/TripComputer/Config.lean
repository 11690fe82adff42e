import TripComputer.Computer.Setup
import TripComputer.Thousandths

/-!
# Configurations

What a configuration file can say about the vehicle and the computer.  A calibration value
that is present overrides the one in the settings table; an absent one leaves it alone.

`Config.rules` are the rules that a configuration has to keep, in the order in which they are
checked, and `Config.overrides` are the settings that it pins.
-/

namespace TripComputer

/-- The unit system of the calibration values. -/
inductive Units where
  /-- Miles, gallons and pounds per square inch. -/
  | us
  /-- Kilometres, litres and kilopascals. -/
  | metric
deriving DecidableEq, Repr

namespace Units

def all : List Units := [us, metric]

def name : Units → String
  | us => "us"
  | metric => "metric"

/-- The value of the setting `metricMode`. -/
def code : Units → UInt32
  | us => 0
  | metric => 1

end Units

namespace Config

structure Vehicle where
  units : Option Units
  pulsesPerDistance : Option UInt32
  tankSize : Option Thousandths
  vssPauseMillis : Option UInt32
  crankRevs : Option UInt32
  minGoodRpm : Option UInt32
  /-- Open time of an injector per quantity of fuel.  Where absent, the other injector values
  decide it. -/
  microsPerQuantity : Option UInt32
deriving DecidableEq, Repr

structure Injectors where
  count : Option UInt32
  /-- Millilitres per minute at the reference pressure. -/
  size : Option UInt32
  settleMicros : Option UInt32
  systemPressure : Option Thousandths
  referencePressure : Option Thousandths
  /-- Largest share of an engine cycle for which an injector stays open. -/
  dutyCeiling : Option Thousandths
deriving DecidableEq, Repr

structure Behavior where
  activityTimeout : Option UInt32
  wakeupResetCurrent : Option Bool
  windowFilter : Option Bool
  economyPeriod : Option UInt32
  autosaveActive : Option Bool
  autosaveIdle : Option Bool
  barLowSpeed : Option Thousandths
  barSpeedQuantum : Option Thousandths
  fuelCost : Option Thousandths
deriving DecidableEq, Repr

structure Engine where
  cyclesPerSecond : UInt32
  tickCycles : UInt32
  arithmetic : Arithmetic
  trackIdle : Bool
  restoreTrips : Bool
deriving DecidableEq, Repr

structure Storage where
  /-- Path of the image; without one the store is in memory. -/
  image : Option String
deriving DecidableEq, Repr

structure Logging where
  file : Option String
  level : Option String
  rotation : Option String
deriving DecidableEq, Repr

end Config

/-- The contents of a configuration file. -/
structure Config where
  vehicle : Config.Vehicle
  injectors : Config.Injectors
  behavior : Config.Behavior
  engine : Config.Engine
  storage : Config.Storage
  logging : Config.Logging
deriving DecidableEq, Repr

namespace Config

/-- The configuration that says nothing: the reference board, and no overrides. -/
def empty : Config where
  vehicle := ⟨none, none, none, none, none, none, none⟩
  injectors := ⟨none, none, none, none, none, none⟩
  behavior := ⟨none, none, none, none, none, none, none, none, none⟩
  engine := ⟨Board.cyclesPerSecond, Board.tickCycles, .native, true, true⟩
  storage := ⟨none⟩
  logging := ⟨none, none, none⟩

instance : Inhabited Config := ⟨empty⟩

/-- A rule for configurations, with what is reported when one breaks it. -/
structure Rule where
  holds : Config → Bool
  complaint : String

/-- The rule that a value, where present, satisfies a condition. -/
def Rule.ofPresent {α : Type} (value? : Config → Option α) (condition : α → Bool)
    (complaint : String) : Rule where
  holds config := (value? config).all condition
  complaint := complaint

/-- A positive number of the given width. -/
def positive (bits : Nat) (value : UInt32) : Bool :=
  value != 0 && value.toNat < 1 <<< bits

/-- A number of the given width. -/
def within (bits : Nat) (value : UInt32) : Bool :=
  value.toNat < 1 <<< bits

/-- A decimal whose thousandths are a number of the given width. -/
def decimalWithin (bits : Nat) (value : Thousandths) : Bool :=
  value.count ≤ (Thousandths.maxForBits bits).count

/-- A positive decimal of the given width. -/
def positiveDecimal (bits : Nat) (value : Thousandths) : Bool :=
  value.count > 0 && decimalWithin bits value

def vehicleRules : List Rule :=
  [.ofPresent (·.vehicle.pulsesPerDistance) (positive 16)
      "vehicle.pulses_per_distance must be in 1..=65535",
    .ofPresent (·.vehicle.tankSize) (decimalWithin 24)
      "vehicle.tank_size must be in [0.0, 16777.215]",
    .ofPresent (·.vehicle.vssPauseMillis) (within 8) "vehicle.vss_pause_ms must be <= 255",
    .ofPresent (·.vehicle.crankRevs) (positive 8) "vehicle.crank_revs must be in 1..=255",
    .ofPresent (·.vehicle.minGoodRpm) (positive 16) "vehicle.min_good_rpm must be in 1..=65535",
    .ofPresent (·.vehicle.microsPerQuantity) (positive 32)
      "vehicle.micros_per_quantity must be > 0"]

def injectorRules : List Rule :=
  [.ofPresent (·.injectors.count) (positive 8) "injectors.count must be in 1..=255",
    .ofPresent (·.injectors.size) (positive 16) "injectors.size_ml_min must be in 1..=65535",
    .ofPresent (·.injectors.settleMicros) (within 16) "injectors.settle_us must be <= 65535",
    .ofPresent (·.injectors.systemPressure) (positiveDecimal 32)
      "injectors.sys_pressure must be > 0",
    .ofPresent (·.injectors.referencePressure) (positiveDecimal 32)
      "injectors.ref_pressure must be > 0",
    .ofPresent (·.injectors.dutyCeiling) (fun share => share.count > 0 && share.count < 1000)
      "injectors.duty_ceiling must be in (0.0, 1.0)"]

def behaviorRules : List Rule :=
  [.ofPresent (·.behavior.activityTimeout) (positive 16)
      "behavior.activity_timeout_s must be in 1..=65535",
    .ofPresent (·.behavior.economyPeriod) (within 16)
      "behavior.fe_vs_time_period_s must be <= 65535",
    .ofPresent (·.behavior.barLowSpeed) (decimalWithin 24)
      "behavior.bar_low_speed must be in [0.0, 16777.215]",
    .ofPresent (·.behavior.barSpeedQuantum) (positiveDecimal 24)
      "behavior.bar_speed_quantum must be > 0",
    .ofPresent (·.behavior.fuelCost) (decimalWithin 16)
      "behavior.fuel_cost must be in [0.0, 65.535]"]

def engineRules : List Rule :=
  [⟨fun config => config.engine.cyclesPerSecond != 0, "engine.cycles_per_second must be > 0"⟩,
    ⟨fun config => Setup.isTickLength config.engine.tickCycles,
      "engine.tick_cycles must be a power of two >= 2"⟩]

def loggingRules : List Rule :=
  [.ofPresent (·.logging.rotation) (["never", "daily", "hourly"].contains ·)
    "logging.rotation must be one of never|daily|hourly"]

/-- The rules of a configuration, in the order in which they are checked. -/
def rules : List Rule :=
  vehicleRules ++ injectorRules ++ behaviorRules ++ engineRules ++ loggingRules

/-- The first rule that a configuration breaks. -/
def broken? (config : Config) : Option Rule :=
  rules.find? fun rule => !rule.holds config

/-- Whether a configuration keeps every rule. -/
def isValid (config : Config) : Bool :=
  rules.all (·.holds config)

/-- The value of a setting that holds thousandths. -/
def settingOf (value : Thousandths) : UInt32 :=
  Word.saturate32 value.count

/-- A share in thousandths as one in 1024ths, a half rounded up. -/
def per1024 (share : Thousandths) : UInt32 :=
  Word.saturate32 ((share.count * 1024 + 500) / 1000)

/-- The value of a switch. -/
def switch (on : Bool) : UInt32 :=
  if on then 1 else 0

/-- The settings that a configuration pins, in the order in which they are laid over the
table.  The unit system comes first, so that the values behind it are in its units.
Microseconds per quantity come last, so that they win over what the injectors give. -/
def overrides (config : Config) : List (Setting × UInt32) :=
  let vehicle := config.vehicle
  let injectors := config.injectors
  let behavior := config.behavior
  [(Setting.metricMode, vehicle.units.map Units.code),
    (.pulsesPerDistance, vehicle.pulsesPerDistance),
    (.tankSize, vehicle.tankSize.map settingOf),
    (.vssPause, vehicle.vssPauseMillis),
    (.crankRevs, vehicle.crankRevs),
    (.minGoodRpm, vehicle.minGoodRpm),
    (.injectorCount, injectors.count),
    (.injectorSize, injectors.size),
    (.injectorSettle, injectors.settleMicros),
    (.systemFuelPressure, injectors.systemPressure.map settingOf),
    (.referenceFuelPressure, injectors.referencePressure.map settingOf),
    (.injectorDutyCeiling, injectors.dutyCeiling.map per1024),
    (.activityTimeout, behavior.activityTimeout),
    (.wakeupResetCurrent, behavior.wakeupResetCurrent.map switch),
    (.windowFilter, behavior.windowFilter.map switch),
    (.economyPeriod, behavior.economyPeriod),
    (.autosaveActive, behavior.autosaveActive.map switch),
    (.autosaveIdle, behavior.autosaveIdle.map switch),
    (.barLowSpeed, behavior.barLowSpeed.map settingOf),
    (.barSpeedQuantum, behavior.barSpeedQuantum.map settingOf),
    (.fuelCost, behavior.fuelCost.map settingOf),
    (.microsPerQuantity, vehicle.microsPerQuantity)].filterMap fun (setting, value?) =>
      value?.map fun value => (setting, value)

end Config

/-- The setup with what a configuration says about it. -/
def Setup.withConfig (setup : Setup) (config : Config) : Setup :=
  { setup with
    overrides := config.overrides
    cyclesPerSecond := config.engine.cyclesPerSecond
    tickCycles := config.engine.tickCycles
    arithmetic := config.engine.arithmetic
    trackIdle := config.engine.trackIdle
    restore := config.engine.restoreTrips }

end TripComputer
