import TripComputer.Instruction

/-!
# Arithmetic subroutines

What each subroutine takes and leaves in the registers:

| program       | takes                            | leaves                       | also changes |
|---------------|----------------------------------|------------------------------|--------------|
| `overflow`    |                                  | r2 the largest word          | r1           |
| `multiply`    | r2, r1                           | r2 the product               | r4 r5        |
| `divide`      | r2, r1                           | r2 the quotient, r1 the rest | r4 r5        |
| `adjust`      | r2 quotient, r1 rest, r3 divisor | r2 rounded half up           | r1           |
| `divideRound` | r2, r1                           | r2 = r2 / r1, rounded        | r1 r3 r4 r5  |
| `mulDivRound` | r2, r1, r3                       | r2 = r2 * r1 / r3, rounded   | r1 r3 r4 r5  |

Multiplication and division exist twice, for each `Arithmetic`.
-/

namespace TripComputer.Catalog

/-- The largest word, which stands for a value that cannot be shown. -/
def overflow : List Instruction :=
  [.loadImmediate .r2 0, .loadImmediate .r1 1, .subtract .r2 .r1, .done]

/-- The product, by the machine's own multiplication. -/
def multiplyNative : List Instruction :=
  [.multiply .r2 .r1, .done]

/-- Quotient and rest, by the machine's own division. -/
def divideNative : List Instruction :=
  [.divide .r2 .r1, .done]

/-- Shift and add: r5 is the shifting multiplicand, r4 the multiplier as it drains. -/
def multiplyPrimitive : List Instruction :=
  [.copy .r4 .r1,
    .copy .r5 .r2,
    .loadImmediate .r2 0,
    .skipIfZero .r4 6,
    .skipIfOdd .r4 1,
    .skip 1,
    .add .r2 .r5,
    .shiftLeft .r5,
    .shiftRight .r4,
    .skip (-7),
    .done]

/-- Restoring long division: r4 is the normalized divisor, r5 the marker of the quotient bit. -/
def dividePrimitive : List Instruction :=
  [.skipIfZero .r2 7,
    .skipIfZero .r1 1,
    .skip 7,
    -- zero divisor: the dividend is the rest, the quotient the largest word
    .copy .r1 .r2,
    .loadImmediate .r2 0,
    .loadImmediate .r5 1,
    .subtract .r2 .r5,
    .done,
    -- zero dividend
    .copy .r1 .r2,
    .done,
    -- normalize the divisor
    .copy .r4 .r1,
    .copy .r1 .r2,
    .loadImmediate .r5 1,
    .loadImmediate .r2 0,
    .skipIfTopBit .r4 3,
    .shiftLeft .r4,
    .shiftLeft .r5,
    .skip (-4),
    -- subtract wherever it fits
    .skipIfZero .r5 7,
    .skipIfAtMost .r4 .r1 1,
    .skip 2,
    .subtract .r1 .r4,
    .add .r2 .r5,
    .shiftRight .r4,
    .shiftRight .r5,
    .skip (-8),
    .done]

/-- Rounds up when the rest is at least half the divisor; a zero divisor leaves the quotient. -/
def adjust : List Instruction :=
  [.skipIfZero .r3 5,
    .shiftLeft .r1,
    .skipIfAtMost .r3 .r1 1,
    .done,
    .loadImmediate .r1 1,
    .add .r2 .r1,
    .done]

/-- Quotient rounded half up. -/
def divideRound : List Instruction :=
  [.copy .r3 .r1, .call .divide, .jump .adjust]

/-- Product, then quotient rounded half up. -/
def mulDivRound : List Instruction :=
  [.call .multiply, .copy .r1 .r3, .jump .divideRound]

/-- Cycles in r2 to microseconds. -/
def toMicros : List Instruction :=
  [.loadConstant .r1 .microsPerSecond, .loadConstant .r3 .cyclesPerSecond, .jump .mulDivRound]

end TripComputer.Catalog
