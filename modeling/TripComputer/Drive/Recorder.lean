import TripComputer.Drive

/-!
# Recorded drives

A listener that writes down the interrupts of a drive.  It counts the ticks that it hears, and
from them it tells the cycle of every interrupt.
-/

namespace TripComputer

/-- An interrupt with the cycle at which it was heard. -/
structure DatedInterrupt where
  cycle : Nat
  interrupt : Interrupt
deriving DecidableEq, Repr

/-- A listener that writes down what it hears. -/
structure Recorder where
  /-- Range of the timer. -/
  range : UInt32
  /-- Ticks heard so far. -/
  ticks : Nat
  /-- What has been heard, the latest first. -/
  heard : List DatedInterrupt
deriving DecidableEq, Repr

namespace Recorder

/-- A recorder that has heard nothing. -/
def new (range : UInt32) : Recorder :=
  ⟨range, 0, []⟩

/-- Hears an interrupt that arrives with the timer at a count.  A tick counts at once. -/
def listen (recorder : Recorder) (count : UInt32) (interrupt : Interrupt) : Recorder :=
  let ticks := if interrupt = .timerOverflow then recorder.ticks + 1 else recorder.ticks
  let cycle := ticks * recorder.range.toNat + count.toNat
  { recorder with ticks := ticks, heard := ⟨cycle, interrupt⟩ :: recorder.heard }

/-- The recorder without what it has heard. -/
def forget (recorder : Recorder) : Recorder :=
  { recorder with heard := [] }

end Recorder

end TripComputer
