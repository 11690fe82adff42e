/-!
# Settings by name

A setting is an unsigned number of a fixed bit width.  Its position in the declaration
below is its index everywhere: in the stored image, in packed programs and in listings.
-/

namespace TripComputer

/-- One calibration or behaviour setting of the computer. -/
inductive Setting where
  | metricMode
  | systemFuelPressure
  | referenceFuelPressure
  | injectorCount
  | injectorSize
  | microsPerQuantity
  | injectorSettle
  | pulsesPerDistance
  | vssPause
  | crankRevs
  | minGoodRpm
  | tankSize
  | injectorDutyCeiling
  | activityTimeout
  | wakeupResetCurrent
  | windowFilter
  | economyPeriod
  | autosaveActive
  | autosaveIdle
  | barLowSpeed
  | barSpeedQuantum
  | fuelCost
  | scratchpad
deriving DecidableEq, Repr

namespace Setting

/-- Name, width in bits and default value of a setting. -/
structure Entry where
  name : String
  bits : Nat
  default : UInt32

/-- The table of settings. -/
def entry : Setting → Entry
  | metricMode => ⟨"metric_mode", 1, 0⟩
  | systemFuelPressure => ⟨"sys_fuel_pressure", 32, 58015⟩
  | referenceFuelPressure => ⟨"ref_fuel_pressure", 32, 58015⟩
  | injectorCount => ⟨"injector_count", 8, 6⟩
  | injectorSize => ⟨"injector_size", 16, 284⟩
  | microsPerQuantity => ⟨"micros_per_quantity", 32, 133262651⟩
  | injectorSettle => ⟨"injector_settle_us", 16, 550⟩
  | pulsesPerDistance => ⟨"pulses_per_distance", 16, 10000⟩
  | vssPause => ⟨"vss_pause_ms", 8, 2⟩
  | crankRevs => ⟨"crank_revs", 8, 2⟩
  | minGoodRpm => ⟨"min_good_rpm", 16, 100⟩
  | tankSize => ⟨"tank_size", 24, 18000⟩
  | injectorDutyCeiling => ⟨"injector_duty_ceiling", 10, 819⟩
  | activityTimeout => ⟨"activity_timeout_s", 16, 120⟩
  | wakeupResetCurrent => ⟨"wakeup_reset_current", 1, 1⟩
  | windowFilter => ⟨"window_filter", 1, 1⟩
  | economyPeriod => ⟨"fe_vs_time_period_s", 16, 5⟩
  | autosaveActive => ⟨"autosave_active", 1, 1⟩
  | autosaveIdle => ⟨"autosave_idle", 1, 1⟩
  | barLowSpeed => ⟨"bar_low_speed", 24, 25000⟩
  | barSpeedQuantum => ⟨"bar_speed_quantum", 24, 5000⟩
  | fuelCost => ⟨"fuel_cost", 16, 3799⟩
  | scratchpad => ⟨"scratchpad", 32, 0⟩

/-- Every setting, in index order. -/
def all : List Setting :=
  [metricMode, systemFuelPressure, referenceFuelPressure, injectorCount, injectorSize,
    microsPerQuantity, injectorSettle, pulsesPerDistance, vssPause, crankRevs, minGoodRpm,
    tankSize, injectorDutyCeiling, activityTimeout, wakeupResetCurrent, windowFilter,
    economyPeriod, autosaveActive, autosaveIdle, barLowSpeed, barSpeedQuantum, fuelCost,
    scratchpad]

/-- Number of settings. -/
abbrev count : Nat := 23

def name (setting : Setting) : String := setting.entry.name

def bits (setting : Setting) : Nat := setting.entry.bits

def default (setting : Setting) : UInt32 := setting.entry.default

/-- Largest value that fits the width of the setting. -/
def maxValue (setting : Setting) : UInt32 :=
  (1 <<< setting.bits - 1).toUInt32

/-- Index of the setting in the table. -/
def position (setting : Setting) : Fin count :=
  ⟨setting.ctorIdx, by cases setting <;> decide⟩

/-- The index as a byte. -/
def index (setting : Setting) : UInt8 :=
  setting.position.val.toUInt8

def ofIndex? (index : UInt8) : Option Setting :=
  all[index.toNat]?

def ofName? (text : String) : Option Setting :=
  all.find? (·.name == text)

/-- The settings from which the fuel factor is derived. -/
def affectsFuelFactor : Setting → Bool
  | systemFuelPressure | referenceFuelPressure | injectorCount | injectorSize => true
  | _ => false

theorem all_getElem?_position (setting : Setting) :
    all[setting.position.val]? = some setting := by
  cases setting <;> rfl

theorem mem_all (setting : Setting) : setting ∈ all :=
  List.mem_of_getElem? (all_getElem?_position setting)

theorem position_injective {first second : Setting}
    (same : first.position = second.position) : first = second := by
  have found := all_getElem?_position first
  rw [same, all_getElem?_position second] at found
  exact (Option.some.inj found).symm

end Setting

/-- A setting whose unit depends on the unit system, with the factor that takes its value
from imperial to metric units. -/
structure Conversion where
  setting : Setting
  numerator : UInt64
  denominator : UInt64
deriving DecidableEq, Repr

namespace Conversion

/-- A kilometre in millimetres. -/
def kilometre : UInt64 := 1000000

/-- A mile in millimetres. -/
def mile : UInt64 := 1609344

/-- A litre in billionths of a litre. -/
def litre : UInt64 := 1000000000

/-- A gallon in billionths of a litre. -/
def gallon : UInt64 := 3785411784

/-- The numbers of which the conversion factors are made. -/
def numbers : List UInt64 := [kilometre, mile, litre, gallon]

/-- The settings that a change of the unit system rescales, by slot. -/
def all : List Conversion :=
  [⟨.pulsesPerDistance, kilometre, mile⟩,
    ⟨.microsPerQuantity, litre, gallon⟩,
    ⟨.tankSize, gallon, litre⟩,
    ⟨.barLowSpeed, mile, kilometre⟩,
    ⟨.barSpeedQuantum, mile, kilometre⟩,
    ⟨.fuelCost, litre, gallon⟩]

/-- The conversion in a slot. -/
def ofSlot? (slot : UInt8) : Option Conversion :=
  all[slot.toNat]?

end Conversion

/-- Why a setting was refused. -/
inductive SettingError where
  | unknownIndex (index : UInt8)
  | outOfRange (setting : Setting) (value : UInt32)
deriving DecidableEq, Repr

namespace SettingError

def message : SettingError → String
  | unknownIndex index => s!"unknown setting index {index}"
  | outOfRange setting value =>
      s!"{setting.name} value {value} does not fit in {setting.bits} bits"

end SettingError

end TripComputer
