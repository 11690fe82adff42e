import TripComputer.Instruction

/-!
# Maintenance programs

Programs that the computer runs for itself: the bar of the speed graph, the conversion of
settings between unit systems, the fuel factor, and the parameters of pulse capture.
-/

namespace TripComputer.Catalog

/-- The bar that the speed of the trip falls into, or 255 outside the graph. -/
def speedBand : List Instruction :=
  [.call .speed,
    .loadSetting .r1 .barLowSpeed,
    .skipIfAtMost .r1 .r2 2,
    .loadImmediate .r2 255,
    .done,
    .subtract .r2 .r1,
    .loadSetting .r1 .barSpeedQuantum,
    .call .divide,
    .loadImmediate .r1 14,
    .skipIfAtMost .r2 .r1 1,
    .loadImmediate .r2 255,
    .done]

/-- Rescales the setting of the conversion slot, out of the unit system now in force. -/
def convertSetting : List Instruction :=
  [.loadConvertible .r2,
    .skipIfMetric 4,
    .loadNumerator .r1,
    .loadDenominator .r3,
    .call .mulDivRound,
    .skip 3,
    .loadDenominator .r1,
    .loadNumerator .r3,
    .call .mulDivRound,
    .storeConvertible .r2,
    .done]

/-- Microseconds per quantity from the number and size of the injectors and the square root of
the pressure ratio.  Without a reference pressure, or without flow, nothing is stored. -/
def fuelFactor : List Instruction :=
  [.loadSetting .r3 .referenceFuelPressure,
    .skipIfZero .r3 18,
    .loadSetting .r2 .systemFuelPressure,
    .loadConstant .r1 .q12One,
    .call .mulDivRound,
    .root .r2,
    .loadSetting .r1 .injectorCount,
    .call .multiply,
    .loadSetting .r1 .injectorSize,
    .call .multiply,
    .skipIfMetric 3,
    .loadConstant .r1 .volumeNumerator,
    .loadConstant .r3 .volumeDenominator,
    .call .mulDivRound,
    .skipIfZero .r2 5,
    .copy .r1 .r2,
    .loadConstant .r2 .fuelFactorNumerator,
    .call .divideRound,
    .storeSetting .r2 .microsPerQuantity,
    .done,
    .jump .overflow]

/-- Opening delay of an injector in cycles. -/
def settleCycles : List Instruction :=
  [.loadSetting .r2 .injectorSettle,
    .loadConstant .r1 .cyclesPerSecond,
    .loadConstant .r3 .microsPerSecond,
    .jump .mulDivRound]

/-- Length of an engine cycle at the lowest speed of a running engine. -/
def minGoodRpmCycles : List Instruction :=
  [.loadSetting .r3 .minGoodRpm,
    .skipIfZero .r3 5,
    .loadSetting .r2 .crankRevs,
    .loadImmediate .r1 60,
    .call .multiply,
    .loadConstant .r1 .cyclesPerSecond,
    .jump .mulDivRound,
    .jump .overflow]

/-- Longest plausible open time in that engine cycle. -/
def injectorCeilingCycles : List Instruction :=
  [.loadSetting .r3 .minGoodRpm,
    .skipIfZero .r3 4,
    .call .minGoodRpmCycles,
    .loadSetting .r1 .injectorDutyCeiling,
    .loadConstant .r3 .dutyScale,
    .jump .mulDivRound,
    .jump .overflow]

/-- Ticks without activity before the computer sleeps. -/
def sleepTicks : List Instruction :=
  [.loadSetting .r2 .activityTimeout,
    .loadConstant .r1 .cyclesPerSecond,
    .loadConstant .r3 .tickCycles,
    .jump .mulDivRound]

/-- Ticks of the road-speed debounce. -/
def vssPauseTicks : List Instruction :=
  [.loadSetting .r2 .vssPause,
    .loadConstant .r1 .cyclesPerSecond,
    .loadConstant .r3 .decimalPoint,
    .call .mulDivRound,
    .loadConstant .r1 .tickCycles,
    .jump .divideRound]

/-- The setting at the context index. -/
def readSetting : List Instruction :=
  [.loadSettingIndexed .r2 0, .done]

end TripComputer.Catalog
