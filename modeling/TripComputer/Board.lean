/-!
# The reference board

The clock rates and converter ranges of the hardware that the computer runs on, and the
length of one pass of its main loop.
-/

namespace TripComputer.Board

/-- Cycle clock rate: a 20 MHz core behind a divider of 64. -/
def cyclesPerSecond : UInt32 := 312500

/-- Range of the 8-bit timer, one scheduler tick per wrap. -/
def tickCycles : UInt32 := 256

/-- Passes of the main loop in one second. -/
def loopsPerSecond : UInt32 := 2

/-- Full-scale reading of the analog converter. -/
def adcFullScale : UInt64 := 1024

/-- Reference voltage of the analog converter in millivolts. -/
def adcReference : UInt64 := 5000

/-- Number of analog channels that are sampled. -/
abbrev analogChannels : Nat := 2

/-- Ticks in one pass of the main loop; never zero.  It is meant for ticks of fewer than `2 ^ 31`
cycles, as the length of that many passes has to fit a word. -/
def loopTicks (cyclesPerSecond tickCycles : UInt32) : UInt32 :=
  max (cyclesPerSecond / (loopsPerSecond * max tickCycles 1)) 1

end TripComputer.Board
