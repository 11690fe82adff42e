import TripComputer.Instruction

/-!
# Rounding and digits

The programs behind the text of values: rounding to the decimals asked for and splitting
into digits.
-/

namespace TripComputer.Catalog

/-- Rounds a value with three decimals half up to the decimals of the context index, or to fewer
when the value is large.  From index 4 on the value is left as it is, and only the ceiling is
checked. -/
def roundOff : List Instruction :=
  [.loadConstant .r1 .roundCeiling,
    .skipIfAtMost .r2 .r1 1,
    .jump .overflow,
    .skipIfIndexBelow 4 1,
    .done,
    .skipIfIndexBelow 1 9,
    .loadConstant .r1 .tenMillion,
    .skipIfAtMost .r1 .r2 7,
    .skipIfIndexBelow 2 8,
    .loadConstant .r1 .million,
    .skipIfAtMost .r1 .r2 6,
    .skipIfIndexBelow 3 7,
    .loadConstant .r1 .hundredThousand,
    .skipIfAtMost .r1 .r2 5,
    .skip 6,
    .loadConstant .r1 .fiveHundred,
    .skip 3,
    .loadImmediate .r1 50,
    .skip 1,
    .loadImmediate .r1 5,
    .add .r2 .r1,
    .loadConstant .r1 .roundCeiling,
    .skipIfAtMost .r2 .r1 1,
    .jump .overflow,
    .done]

/-- Rounds, then leaves five pairs of decimal digits in the bytes of r3, the highest pair in
byte 0.  Past the ceiling r2 is the largest word instead. -/
def formatNumber : List Instruction :=
  [.call .roundOff,
    .loadConstant .r1 .roundCeiling,
    .skipIfAtMost .r2 .r1 1,
    .done,
    .loadImmediate .r3 0,
    .loadImmediate .r1 100,
    .call .divide,
    .storeByte .r1 .r3 4,
    .loadImmediate .r1 100,
    .call .divide,
    .storeByte .r1 .r3 3,
    .loadImmediate .r1 100,
    .call .divide,
    .storeByte .r1 .r3 2,
    .loadImmediate .r1 100,
    .call .divide,
    .storeByte .r1 .r3 1,
    .loadImmediate .r1 100,
    .call .divide,
    .storeByte .r1 .r3 0,
    .done]

/-- Seconds in r2 to hours, minutes and seconds in bytes 0, 1 and 2 of r3.  From a hundred hours
on r2 is not zero. -/
def formatTime : List Instruction :=
  [.loadImmediate .r3 0,
    .loadImmediate .r1 60,
    .call .divide,
    .storeByte .r1 .r3 2,
    .loadImmediate .r1 60,
    .call .divide,
    .storeByte .r1 .r3 1,
    .loadImmediate .r1 100,
    .call .divide,
    .storeByte .r1 .r3 0,
    .done]

end TripComputer.Catalog
