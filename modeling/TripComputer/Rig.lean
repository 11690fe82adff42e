import TripComputer.Computer.Setup
import TripComputer.Drive

/-!
# Test rigs

A computer on the bench: its timer, its interrupt lines and a simulated drive stand beside
it, so that a drive can be replayed through the interrupt handlers while the main loop polls.
-/

namespace TripComputer

/-- A computer with the clock of its interrupt handlers and a simulated drive. -/
structure Rig where
  computer : Computer
  clock : Clock
  simulator : Simulator

/-- What a stretch of time on the bench has brought. -/
structure Stretch where
  counts : DriveCounts
  /-- Reports of the main loop, the latest first. -/
  latest : List CycleReport

namespace Stretch

def empty : Stretch := ⟨.zero, []⟩

/-- Reports of the main loop, the earliest first. -/
def reports (stretch : Stretch) : List CycleReport :=
  stretch.latest.reverse

end Stretch

/-- Why a computation on the bench failed. -/
inductive RigFailure where
  | computer (failure : Failure)
  /-- The events of the drive do not come to an end within their budget. -/
  | endless

namespace Rig

/-- Events that one tick of a drive may hold. -/
def eventBudget : Nat := 0x4000000000000000

/-- A computer beside a timer at zero and a given drive. -/
def new (computer : Computer) (profile : DriveProfile) : Rig where
  computer := computer
  clock := .new (.new computer.tickCycles)
  simulator := .new computer.tickCycles computer.cyclesPerSecond profile

/-- What the interrupt handlers work on. -/
def frontEnd (rig : Rig) : FrontEnd :=
  ⟨rig.clock, rig.computer.capture⟩

def withFrontEnd (rig : Rig) (frontEnd : FrontEnd) : Rig :=
  { rig with
    clock := frontEnd.clock
    computer := { rig.computer with capture := frontEnd.capture } }

/-- An interrupt that arrives with the timer's counter at a count. -/
def interruptAt (rig : Rig) (count : UInt32) (interrupt : Interrupt) : Rig :=
  rig.withFrontEnd (rig.frontEnd.handleAt count interrupt)

/-- A computation on the bench that can fail. -/
abbrev Bench (α : Type) := EStateM RigFailure Rig α

/-- A task of the computer. -/
def perform {α : Type} (task : Computer.Task α) : Bench α := fun rig =>
  match task rig.computer with
  | .ok result computer => .ok result { rig with computer := computer }
  | .error failure computer => .error (.computer failure) { rig with computer := computer }

/-- One tick, without a drive. -/
def tick : Bench DriveCounts := do
  modify (·.interruptAt 0 .timerOverflow)
  return ⟨1, 0, 0⟩

/-- Advances the drive by one tick. -/
def drive : Bench DriveCounts := fun rig =>
  match rig.simulator.advance? FrontEnd.handleAt eventBudget rig.frontEnd
      rig.computer.tickCycles.toUInt64 with
  | none => .error .endless rig
  | some (simulator, frontEnd, counts) =>
      .ok counts { rig.withFrontEnd frontEnd with simulator := simulator }

/-- Repeats an advance and a poll of the main loop, and adds what they bring. -/
def replay (advance : Bench DriveCounts) : (times : Nat) → Stretch → Bench Stretch
  | 0, stretch => pure stretch
  | times + 1, stretch => do
      let counts ← advance
      let report? ← perform Computer.poll
      replay advance times ⟨stretch.counts + counts, report?.toList ++ stretch.latest⟩

end Rig

end TripComputer
