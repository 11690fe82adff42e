/-!
# The cycle clock

A narrow free-running hardware counter, extended to 32 bits by one counter range for every
overflow interrupt.  Intervals are taken modulo 2^32, so two times less than a full range
apart give the true number of cycles between them.
-/

namespace TripComputer

/-- The hardware counter with its overflow flag.  The range is a power of two. -/
structure Timer where
  counter : UInt32
  /-- The counter has wrapped, and the overflow interrupt has not run yet. -/
  overflowPending : Bool
  range : UInt32
deriving DecidableEq, Repr

namespace Timer

/-- A timer at zero. -/
def new (range : UInt32) : Timer := ⟨0, false, range⟩

/-- The timer with its counter at a count, taken modulo the range. -/
def setCounter (timer : Timer) (count : UInt32) : Timer :=
  { timer with counter := count % timer.range }

end Timer

/-- A timer with the count that its overflows have added up to. -/
structure Clock where
  timer : Timer
  base : UInt32
deriving DecidableEq, Repr

namespace Clock

/-- A clock over a timer that has not overflowed. -/
def new (timer : Timer) : Clock := ⟨timer, 0⟩

/-- The extended count.  A wrap whose interrupt has not run yet is added here, so that the
count never steps back; a counter still at its last value has not been read after the wrap. -/
def now (clock : Clock) : UInt32 :=
  let extended := clock.base + clock.timer.counter
  if clock.timer.overflowPending && clock.timer.counter < clock.timer.range - 1 then
    extended + clock.timer.range
  else extended

/-- The overflow interrupt: one counter range more. -/
def onOverflow (clock : Clock) : Clock :=
  { clock with base := clock.base + clock.timer.range }

/-- The clock with its timer's counter at a count. -/
def setCounter (clock : Clock) (count : UInt32) : Clock :=
  { clock with timer := clock.timer.setCounter count }

/-- The clock with its timer's overflow flag set or cleared. -/
def setPending (clock : Clock) (pending : Bool) : Clock :=
  { clock with timer := { clock.timer with overflowPending := pending } }

/-- Cycles from one time to a later one. -/
def interval (earlier later : UInt32) : UInt32 :=
  later - earlier

end Clock

end TripComputer
