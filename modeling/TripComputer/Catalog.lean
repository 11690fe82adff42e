import TripComputer.Catalog.Kernel
import TripComputer.Catalog.Maintenance
import TripComputer.Catalog.Quantities
import TripComputer.Catalog.Rounding
import TripComputer.Machine

/-!
# The program catalog

`Catalog.table` is the shipped table of programs for each arithmetic.  `ProgramTable.validate`
is the static check that a table passes when no skip leaves its program and no program can
run past its last instruction.
-/

namespace TripComputer

/-- The shipped programs. -/
def Catalog.table (arithmetic : Arithmetic) : ProgramTable
  | .overflow => Catalog.overflow
  | .multiply =>
      match arithmetic with
      | .native => Catalog.multiplyNative
      | .primitive => Catalog.multiplyPrimitive
  | .divide =>
      match arithmetic with
      | .native => Catalog.divideNative
      | .primitive => Catalog.dividePrimitive
  | .adjust => Catalog.adjust
  | .divideRound => Catalog.divideRound
  | .mulDivRound => Catalog.mulDivRound
  | .toMicros => Catalog.toMicros
  | .remainingFuel => Catalog.remainingFuel
  | .roundOff => Catalog.roundOff
  | .formatNumber => Catalog.formatNumber
  | .formatTime => Catalog.formatTime
  | .fuelUsed => Catalog.fuelUsed
  | .fuelRate => Catalog.fuelRate
  | .engineRunTime => Catalog.engineRunTime
  | .timeToEmpty => Catalog.timeToEmpty
  | .distance => Catalog.distance
  | .speed => Catalog.speed
  | .motionTime => Catalog.motionTime
  | .fuelEconomy => Catalog.fuelEconomy
  | .distanceToEmpty => Catalog.distanceToEmpty
  | .engineSpeed => Catalog.engineSpeed
  | .injectorOpenTime => Catalog.injectorOpenTime
  | .injectorTotalTime => Catalog.injectorTotalTime
  | .vssTotalTime => Catalog.vssTotalTime
  | .injectorPulses => Catalog.injectorPulses
  | .vssPulses => Catalog.vssPulses
  | .fuelCost => Catalog.fuelCost
  | .fuelRateCost => Catalog.fuelRateCost
  | .fuelCostPerDistance => Catalog.fuelCostPerDistance
  | .distancePerFuelCost => Catalog.distancePerFuelCost
  | .remainingFuelCost => Catalog.remainingFuelCost
  | .voltage0 => Catalog.voltage0
  | .voltage1 => Catalog.voltage1
  | .speedBand => Catalog.speedBand
  | .convertSetting => Catalog.convertSetting
  | .fuelFactor => Catalog.fuelFactor
  | .settleCycles => Catalog.settleCycles
  | .minGoodRpmCycles => Catalog.minGoodRpmCycles
  | .injectorCeilingCycles => Catalog.injectorCeilingCycles
  | .sleepTicks => Catalog.sleepTicks
  | .vssPauseTicks => Catalog.vssPauseTicks
  | .readSetting => Catalog.readSetting

namespace ProgramTable

/-- Checks that the skips of a program, from the given position on, land inside it. -/
def checkSkips (program : Program) (length : Nat) (pc : Nat) :
    List Instruction → Except Fault Unit
  | [] => .ok ()
  | instruction :: rest =>
      match instruction.distance? with
      | none => checkSkips program length (pc + 1) rest
      | some distance =>
          match landing? length pc distance with
          | none => .error (.skipOutOfRange program pc)
          | some _ => checkSkips program length (pc + 1) rest

/-- Checks one program: it ends in an instruction after which control does not fall through,
and every skip lands inside it. -/
def checkProgram (table : ProgramTable) (program : Program) : Except Fault Unit :=
  match (table program).getLast? with
  | none => .error (.ranOffEnd program)
  | some last =>
      if last.isTerminal then checkSkips program (table program).length 0 (table program)
      else .error (.ranOffEnd program)

/-- Checks every program of a table; the first fault wins. -/
def validate (table : ProgramTable) : Except Fault Unit :=
  Program.all.forM (checkProgram table)

end ProgramTable

end TripComputer
