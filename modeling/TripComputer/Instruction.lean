import TripComputer.Board
import TripComputer.Setting
import TripComputer.Trip

/-!
# Instructions

The register machine has five registers and thirty-five instructions.  Programs call each
other by name.  Skip distances count instructions from the one after the skip.
-/

namespace TripComputer

/-- One of the five 64-bit registers. -/
inductive Register where
  | r1
  | r2
  | r3
  | r4
  | r5
deriving DecidableEq, Repr

namespace Register

def all : List Register := [r1, r2, r3, r4, r5]

/-- Position in the register file. -/
def slot (register : Register) : Nat :=
  register.ctorIdx

/-- The number of the register, counted from one. -/
def number (register : Register) : UInt8 :=
  register.slot.toUInt8 + 1

def ofNumber? : UInt8 → Option Register
  | 1 => some r1
  | 2 => some r2
  | 3 => some r3
  | 4 => some r4
  | 5 => some r5
  | _ => none

def name (register : Register) : String :=
  s!"r{register.number}"

end Register

/-- An entry of the table of constants. -/
inductive Constant where
  | decimalPoint
  | microsPerSecond
  | cyclesPerSecond
  | tickCycles
  | hourMillis
  | minuteMillis
  | roundCeiling
  | tenMillion
  | million
  | hundredThousand
  | fiveHundred
  | q12One
  | fuelFactorNumerator
  | volumeNumerator
  | volumeDenominator
  | dutyScale
  | adcReference
  | adcFullScale
deriving DecidableEq, Repr

namespace Constant

def all : List Constant :=
  [decimalPoint, microsPerSecond, cyclesPerSecond, tickCycles, hourMillis, minuteMillis,
    roundCeiling, tenMillion, million, hundredThousand, fiveHundred, q12One,
    fuelFactorNumerator, volumeNumerator, volumeDenominator, dutyScale, adcReference,
    adcFullScale]

def name : Constant → String
  | decimalPoint => "decimal_point"
  | microsPerSecond => "micros_per_second"
  | cyclesPerSecond => "cycles_per_second"
  | tickCycles => "tick_cycles"
  | hourMillis => "hour_millis"
  | minuteMillis => "minute_millis"
  | roundCeiling => "round_ceiling"
  | tenMillion => "ten_million"
  | million => "million"
  | hundredThousand => "hundred_thousand"
  | fiveHundred => "five_hundred"
  | q12One => "q12_one"
  | fuelFactorNumerator => "fuel_factor_numer"
  | volumeNumerator => "volume_numer"
  | volumeDenominator => "volume_denom"
  | dutyScale => "duty_scale"
  | adcReference => "adc_reference_mv"
  | adcFullScale => "adc_full_scale"

/-- Position of the constant in `all`, as packed programs write it. -/
def index (constant : Constant) : UInt8 :=
  constant.ctorIdx.toUInt8

def ofIndex? (index : UInt8) : Option Constant :=
  all[index.toNat]?

/-- Value under a clock of the given rate and tick length. -/
def value (rate tick : UInt32) : Constant → UInt64
  | decimalPoint => 1000
  | microsPerSecond | million => 1000000
  | cyclesPerSecond => rate.toUInt64
  | tickCycles => tick.toUInt64
  | hourMillis => 3600000
  | minuteMillis => 60000
  | roundCeiling => 0xFFFFFFFE
  | tenMillion => 10000000
  | hundredThousand => 100000
  | fiveHundred => 500
  | q12One => 4096
  -- microseconds in a minute, with three decimals and twelve binary places
  | fuelFactorNumerator => 60 * 1000000 * 1000 * 4096
  | volumeNumerator => Conversion.litre
  | volumeDenominator => Conversion.gallon
  | dutyScale => 1024
  | adcReference => Board.adcReference
  | adcFullScale => Board.adcFullScale

end Constant

/-- The name of a program of the catalog. -/
inductive Program where
  | overflow
  | multiply
  | divide
  | adjust
  | divideRound
  | mulDivRound
  | toMicros
  | remainingFuel
  | roundOff
  | formatNumber
  | formatTime
  | fuelUsed
  | fuelRate
  | engineRunTime
  | timeToEmpty
  | distance
  | speed
  | motionTime
  | fuelEconomy
  | distanceToEmpty
  | engineSpeed
  | injectorOpenTime
  | injectorTotalTime
  | vssTotalTime
  | injectorPulses
  | vssPulses
  | fuelCost
  | fuelRateCost
  | fuelCostPerDistance
  | distancePerFuelCost
  | remainingFuelCost
  | voltage0
  | voltage1
  | speedBand
  | convertSetting
  | fuelFactor
  | settleCycles
  | minGoodRpmCycles
  | injectorCeilingCycles
  | sleepTicks
  | vssPauseTicks
  | readSetting
deriving DecidableEq, Repr

namespace Program

def all : List Program :=
  [overflow, multiply, divide, adjust, divideRound, mulDivRound, toMicros, remainingFuel,
    roundOff, formatNumber, formatTime, fuelUsed, fuelRate, engineRunTime, timeToEmpty,
    distance, speed, motionTime, fuelEconomy, distanceToEmpty, engineSpeed, injectorOpenTime,
    injectorTotalTime, vssTotalTime, injectorPulses, vssPulses, fuelCost, fuelRateCost,
    fuelCostPerDistance, distancePerFuelCost, remainingFuelCost, voltage0, voltage1,
    speedBand, convertSetting, fuelFactor, settleCycles, minGoodRpmCycles,
    injectorCeilingCycles, sleepTicks, vssPauseTicks, readSetting]

def name : Program → String
  | overflow => "overflow"
  | multiply => "multiply"
  | divide => "divide"
  | adjust => "adjust"
  | divideRound => "divide_round"
  | mulDivRound => "mul_div_round"
  | toMicros => "to_micros"
  | remainingFuel => "remaining_fuel"
  | roundOff => "round_off"
  | formatNumber => "format_number"
  | formatTime => "format_time"
  | fuelUsed => "fuel_used"
  | fuelRate => "fuel_rate"
  | engineRunTime => "engine_run_time"
  | timeToEmpty => "time_to_empty"
  | distance => "distance"
  | speed => "speed"
  | motionTime => "motion_time"
  | fuelEconomy => "fuel_econ"
  | distanceToEmpty => "distance_to_empty"
  | engineSpeed => "engine_speed"
  | injectorOpenTime => "injector_open_time"
  | injectorTotalTime => "injector_total_time"
  | vssTotalTime => "vss_total_time"
  | injectorPulses => "injector_pulses"
  | vssPulses => "vss_pulses"
  | fuelCost => "fuel_cost"
  | fuelRateCost => "fuel_rate_cost"
  | fuelCostPerDistance => "fuel_cost_per_distance"
  | distancePerFuelCost => "distance_per_fuel_cost"
  | remainingFuelCost => "remaining_fuel_cost"
  | voltage0 => "voltage_0"
  | voltage1 => "voltage_1"
  | speedBand => "speed_bucket"
  | convertSetting => "convert_setting"
  | fuelFactor => "fuel_factor"
  | settleCycles => "settle_cycles"
  | minGoodRpmCycles => "min_good_rpm_cycles"
  | injectorCeilingCycles => "injector_ceiling_cycles"
  | sleepTicks => "sleep_ticks"
  | vssPauseTicks => "vss_pause_ticks"
  | readSetting => "read_setting"

/-- Position of the program in `all`, as packed programs write it. -/
def index (program : Program) : UInt8 :=
  program.ctorIdx.toUInt8

def ofIndex? (index : UInt8) : Option Program :=
  all[index.toNat]?

def ofName? (text : String) : Option Program :=
  all.find? (·.name == text)

end Program

/-- One instruction.  `x` and `y` are registers; a `distance` counts the instructions
skipped, backwards when negative. -/
inductive Instruction where
  /-- Return to the caller, or end the run. -/
  | done
  | skip (distance : Int8)
  | skipIfZero (x : Register) (distance : Int8)
  /-- Skip when `x ≤ y`. -/
  | skipIfAtMost (x y : Register) (distance : Int8)
  /-- Skip when the lowest bit of `x` is set. -/
  | skipIfOdd (x : Register) (distance : Int8)
  /-- Skip when the highest bit of `x` is set. -/
  | skipIfTopBit (x : Register) (distance : Int8)
  | skipIfMetric (distance : Int8)
  /-- Skip when the context index is below `limit`. -/
  | skipIfIndexBelow (limit : UInt8) (distance : Int8)
  | call (program : Program)
  /-- Continue in another program, which returns to this one's caller. -/
  | jump (program : Program)
  | traceOn
  | traceOff
  | loadImmediate (x : Register) (value : UInt8)
  | loadConstant (x : Register) (constant : Constant)
  | loadSetting (x : Register) (setting : Setting)
  /-- Load the setting whose index is `base` plus the context index. -/
  | loadSettingIndexed (x : Register) (base : UInt8)
  /-- Load the setting of the conversion slot that the context index selects. -/
  | loadConvertible (x : Register)
  | storeSetting (x : Register) (setting : Setting)
  /-- Store to the setting of the conversion slot that the context index selects. -/
  | storeConvertible (x : Register)
  | loadNumerator (x : Register)
  | loadDenominator (x : Register)
  /-- Load a counter of the trip at the context index. -/
  | loadCounter (x : Register) (counter : Counter)
  /-- Load the injector open cycles of the tank trip, whatever the context. -/
  | loadTankFuel (x : Register)
  | loadVoltage (x : Register) (channel : UInt8)
  | copy (x y : Register)
  /-- Load a byte of `y` into `x`. -/
  | loadByte (x y : Register) (position : UInt8)
  /-- Store the low byte of `x` into a byte of `y`. -/
  | storeByte (x y : Register) (position : UInt8)
  | swap (x y : Register)
  | add (x y : Register)
  | subtract (x y : Register)
  | multiply (x y : Register)
  /-- Divide `x` by `y`; the remainder goes to `y`. -/
  | divide (x y : Register)
  | shiftLeft (x : Register)
  | shiftRight (x : Register)
  | root (x : Register)
deriving DecidableEq, Repr

namespace Instruction

/-- The skip distance of a skip. -/
def distance? : Instruction → Option Int8
  | skip distance
  | skipIfZero _ distance
  | skipIfAtMost _ _ distance
  | skipIfOdd _ distance
  | skipIfTopBit _ distance
  | skipIfMetric distance
  | skipIfIndexBelow _ distance => some distance
  | _ => none

/-- The same instruction with another skip distance. -/
def withDistance (distance : Int8) : Instruction → Instruction
  | skip _ => skip distance
  | skipIfZero x _ => skipIfZero x distance
  | skipIfAtMost x y _ => skipIfAtMost x y distance
  | skipIfOdd x _ => skipIfOdd x distance
  | skipIfTopBit x _ => skipIfTopBit x distance
  | skipIfMetric _ => skipIfMetric distance
  | skipIfIndexBelow limit _ => skipIfIndexBelow limit distance
  | other => other

/-- Whether control never passes to the instruction after this one. -/
def isTerminal : Instruction → Bool
  | done | jump _ | skip _ => true
  | _ => false

/-- A distance with its sign. -/
def signed (distance : Int8) : String :=
  if distance.toInt < 0 then s!"{distance.toInt}" else s!"+{distance.toInt}"

/-- The line that a listing shows for the instruction. -/
def mnemonic : Instruction → String
  | done => "done"
  | skip distance => s!"skip {signed distance}"
  | skipIfZero x distance => s!"skipz {x.name}, {signed distance}"
  | skipIfAtMost x y distance => s!"skiple {x.name}, {y.name}, {signed distance}"
  | skipIfOdd x distance => s!"skiplsb {x.name}, {signed distance}"
  | skipIfTopBit x distance => s!"skipmsb {x.name}, {signed distance}"
  | skipIfMetric distance => s!"skipmetric {signed distance}"
  | skipIfIndexBelow limit distance => s!"skipidx< {limit}, {signed distance}"
  | call program => s!"call {program.name}"
  | jump program => s!"jump {program.name}"
  | traceOn => "traceon"
  | traceOff => "traceoff"
  | loadImmediate x value => s!"ldi {x.name}, {value}"
  | loadConstant x constant => s!"ldc {x.name}, {constant.name}"
  | loadSetting x setting => s!"lds {x.name}, {setting.name}"
  | loadSettingIndexed x base => s!"lds {x.name}, [{base}+idx]"
  | loadConvertible x => s!"lds {x.name}, [conv idx]"
  | storeSetting x setting => s!"sts {setting.name}, {x.name}"
  | storeConvertible x => s!"sts [conv idx], {x.name}"
  | loadNumerator x => s!"ldnumer {x.name}"
  | loadDenominator x => s!"lddenom {x.name}"
  | loadCounter x counter => s!"ldtrip {x.name}, {counter.name}"
  | loadTankFuel x => s!"ldtank {x.name}"
  | loadVoltage x channel => s!"ldvolt {x.name}, {channel}"
  | copy x y => s!"ld {x.name}, {y.name}"
  | loadByte x y position => s!"ldb {x.name}, {y.name}[{position}]"
  | storeByte x y position => s!"stb {y.name}[{position}], {x.name}"
  | swap x y => s!"swap {x.name}, {y.name}"
  | add x y => s!"add {x.name}, {y.name}"
  | subtract x y => s!"sub {x.name}, {y.name}"
  | multiply x y => s!"mul {x.name}, {y.name}"
  | divide x y => s!"div {x.name}, {y.name}"
  | shiftLeft x => s!"shl {x.name}"
  | shiftRight x => s!"shr {x.name}"
  | root x => s!"isqrt {x.name}"

end Instruction

/-- The instruction that a skip at position `pc` of a program leads to, when it lies inside
the program. -/
def landing? (length pc : Nat) (distance : Int8) : Option Nat :=
  let target : Int := pc + 1 + distance.toInt
  if 0 ≤ target ∧ target < length then some target.toNat else none

end TripComputer
