import TripComputer.Instruction

/-!
# Quantities

One program per quantity that the display can show.  A quantity program reads the trip at
the context index and leaves a value with three decimals in r2, or a plain count, or seconds.
A value that cannot be computed is the largest word.
-/

namespace TripComputer.Catalog

/-- Fuel burnt: open time over microseconds per quantity. -/
def fuelUsed : List Instruction :=
  [.loadCounter .r2 .injectorOpenCycles,
    .call .toMicros,
    .loadConstant .r1 .decimalPoint,
    .loadSetting .r3 .microsPerQuantity,
    .jump .mulDivRound]

/-- Fuel per hour: the open share of an hour over microseconds per quantity. -/
def fuelRate : List Instruction :=
  [.loadCounter .r3 .injectorCycles,
    .skipIfZero .r3 6,
    .loadCounter .r2 .injectorOpenCycles,
    .loadConstant .r1 .hourMillis,
    .call .mulDivRound,
    .loadConstant .r1 .microsPerSecond,
    .loadSetting .r3 .microsPerQuantity,
    .jump .mulDivRound,
    .loadImmediate .r2 0,
    .done]

/-- Seconds for which the engine turned. -/
def engineRunTime : List Instruction :=
  [.loadCounter .r2 .injectorCycles, .loadConstant .r1 .cyclesPerSecond, .jump .divide]

/-- Tank size less what the tank trip burnt, not below zero. -/
def remainingFuel : List Instruction :=
  [.loadTankFuel .r2,
    .call .toMicros,
    .loadConstant .r1 .decimalPoint,
    .loadSetting .r3 .microsPerQuantity,
    .call .mulDivRound,
    .loadSetting .r1 .tankSize,
    .skipIfAtMost .r2 .r1 2,
    .loadImmediate .r2 0,
    .done,
    .subtract .r1 .r2,
    .copy .r2 .r1,
    .done]

/-- Seconds until the remaining fuel is burnt at the rate of the trip. -/
def timeToEmpty : List Instruction :=
  [.loadCounter .r3 .injectorOpenCycles,
    .skipIfZero .r3 9,
    .call .remainingFuel,
    .loadCounter .r1 .injectorCycles,
    .loadCounter .r3 .injectorOpenCycles,
    .call .mulDivRound,
    .loadSetting .r1 .microsPerQuantity,
    .loadConstant .r3 .microsPerSecond,
    .call .mulDivRound,
    .loadConstant .r1 .decimalPoint,
    .jump .divideRound,
    .jump .overflow]

/-- Distance driven. -/
def distance : List Instruction :=
  [.loadCounter .r2 .vssPulses,
    .loadConstant .r1 .decimalPoint,
    .loadSetting .r3 .pulsesPerDistance,
    .jump .mulDivRound]

/-- Distance per hour.  A trip without motion has speed zero. -/
def speed : List Instruction :=
  [.loadSetting .r3 .pulsesPerDistance,
    .skipIfZero .r3 9,
    .loadCounter .r3 .vssCycles,
    .skipIfZero .r3 8,
    .loadCounter .r2 .vssPulses,
    .loadConstant .r1 .hourMillis,
    .loadSetting .r3 .pulsesPerDistance,
    .call .mulDivRound,
    .loadConstant .r1 .cyclesPerSecond,
    .loadCounter .r3 .vssCycles,
    .jump .mulDivRound,
    .jump .overflow,
    -- stationary
    .loadImmediate .r2 0,
    .done]

/-- Seconds for which the vehicle moved. -/
def motionTime : List Instruction :=
  [.loadCounter .r2 .vssCycles, .loadConstant .r1 .cyclesPerSecond, .jump .divide]

/-- Imperial units: distance per quantity.  Metric units: quantity per hundred distances. -/
def fuelEconomy : List Instruction :=
  [.skipIfMetric 13,
    .loadSetting .r3 .pulsesPerDistance,
    .skipIfZero .r3 23,
    .loadCounter .r3 .injectorOpenCycles,
    .skipIfZero .r3 21,
    .loadCounter .r2 .vssPulses,
    .loadSetting .r1 .microsPerQuantity,
    .loadSetting .r3 .pulsesPerDistance,
    .call .mulDivRound,
    .loadConstant .r1 .cyclesPerSecond,
    .loadCounter .r3 .injectorOpenCycles,
    .call .mulDivRound,
    .loadConstant .r1 .decimalPoint,
    .jump .divideRound,
    -- metric
    .loadCounter .r3 .vssPulses,
    .skipIfZero .r3 10,
    .loadSetting .r3 .microsPerQuantity,
    .skipIfZero .r3 8,
    .loadCounter .r2 .injectorOpenCycles,
    .call .toMicros,
    .loadSetting .r1 .pulsesPerDistance,
    .loadCounter .r3 .vssPulses,
    .call .mulDivRound,
    .loadConstant .r1 .hundredThousand,
    .loadSetting .r3 .microsPerQuantity,
    .jump .mulDivRound,
    .jump .overflow]

/-- Distance until the remaining fuel is burnt at the economy of the trip. -/
def distanceToEmpty : List Instruction :=
  [.loadSetting .r3 .pulsesPerDistance,
    .skipIfZero .r3 12,
    .loadCounter .r3 .injectorOpenCycles,
    .skipIfZero .r3 10,
    .call .remainingFuel,
    .loadCounter .r1 .vssPulses,
    .loadSetting .r3 .pulsesPerDistance,
    .call .mulDivRound,
    .loadSetting .r1 .microsPerQuantity,
    .loadCounter .r3 .injectorOpenCycles,
    .call .mulDivRound,
    .loadConstant .r1 .cyclesPerSecond,
    .loadConstant .r3 .microsPerSecond,
    .jump .mulDivRound,
    .jump .overflow]

/-- Crank revolutions per minute. -/
def engineSpeed : List Instruction :=
  [.loadCounter .r3 .injectorCycles,
    .skipIfZero .r3 8,
    .loadCounter .r2 .injectorPulses,
    .loadConstant .r1 .minuteMillis,
    .call .multiply,
    .loadSetting .r1 .crankRevs,
    .call .multiply,
    .loadConstant .r1 .cyclesPerSecond,
    .loadCounter .r3 .injectorCycles,
    .jump .mulDivRound,
    .loadImmediate .r2 0,
    .done]

/-- Microseconds for which the injectors were open. -/
def injectorOpenTime : List Instruction :=
  [.loadCounter .r2 .injectorOpenCycles, .jump .toMicros]

/-- Microseconds of engine cycles. -/
def injectorTotalTime : List Instruction :=
  [.loadCounter .r2 .injectorCycles, .jump .toMicros]

/-- Microseconds between road-speed pulses. -/
def vssTotalTime : List Instruction :=
  [.loadCounter .r2 .vssCycles, .jump .toMicros]

/-- Number of injector pulses. -/
def injectorPulses : List Instruction :=
  [.loadCounter .r2 .injectorPulses, .done]

/-- Number of road-speed pulses. -/
def vssPulses : List Instruction :=
  [.loadCounter .r2 .vssPulses, .done]

/-- Cost of the fuel burnt. -/
def fuelCost : List Instruction :=
  [.loadSetting .r3 .microsPerQuantity,
    .skipIfZero .r3 4,
    .call .fuelUsed,
    .loadSetting .r1 .fuelCost,
    .loadConstant .r3 .decimalPoint,
    .jump .mulDivRound,
    .jump .overflow]

/-- Cost of the fuel per hour. -/
def fuelRateCost : List Instruction :=
  [.loadSetting .r3 .microsPerQuantity,
    .skipIfZero .r3 4,
    .call .fuelRate,
    .loadSetting .r1 .fuelCost,
    .loadConstant .r3 .decimalPoint,
    .jump .mulDivRound,
    .jump .overflow]

/-- Cost of the fuel burnt over the distance driven. -/
def fuelCostPerDistance : List Instruction :=
  [.loadCounter .r3 .vssPulses,
    .skipIfZero .r3 6,
    .loadSetting .r3 .microsPerQuantity,
    .skipIfZero .r3 4,
    .call .fuelCost,
    .loadSetting .r1 .pulsesPerDistance,
    .loadCounter .r3 .vssPulses,
    .jump .mulDivRound,
    .jump .overflow]

/-- Distance driven over the cost of the fuel burnt. -/
def distancePerFuelCost : List Instruction :=
  [.loadSetting .r3 .pulsesPerDistance,
    .skipIfZero .r3 11,
    .loadCounter .r3 .injectorOpenCycles,
    .skipIfZero .r3 9,
    .loadCounter .r2 .vssPulses,
    .loadSetting .r1 .microsPerQuantity,
    .loadSetting .r3 .pulsesPerDistance,
    .call .mulDivRound,
    .loadConstant .r1 .cyclesPerSecond,
    .loadCounter .r3 .injectorOpenCycles,
    .call .mulDivRound,
    .loadSetting .r1 .fuelCost,
    .jump .divideRound,
    .jump .overflow]

/-- Cost of the remaining fuel. -/
def remainingFuelCost : List Instruction :=
  [.loadSetting .r3 .microsPerQuantity,
    .skipIfZero .r3 4,
    .call .remainingFuel,
    .loadSetting .r1 .fuelCost,
    .loadConstant .r3 .decimalPoint,
    .jump .mulDivRound,
    .jump .overflow]

/-- Millivolts on channel 0. -/
def voltage0 : List Instruction :=
  [.loadVoltage .r2 0,
    .loadConstant .r1 .adcReference,
    .loadConstant .r3 .adcFullScale,
    .jump .mulDivRound]

/-- Millivolts on channel 1. -/
def voltage1 : List Instruction :=
  [.loadVoltage .r2 1,
    .loadConstant .r1 .adcReference,
    .loadConstant .r3 .adcFullScale,
    .jump .mulDivRound]

end TripComputer.Catalog
