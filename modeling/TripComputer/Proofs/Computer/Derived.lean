import TripComputer.Computer
import TripComputer.Proofs.Catalog.Rounding
import TripComputer.Proofs.Computer.Task

/-!
# The derived capture parameters

`CaptureParameters.derived` is what the parameters are as a function of the settings and the clock.
`applyDerived_eq` says that deriving them never fails, answers with these parameters and installs
them, whatever the calculator was left with.
-/

namespace TripComputer

open Catalog Machine

/-- The nearest 32-bit value to a number. -/
def saturated (value : Nat) : UInt32 :=
  (min value 0xFFFFFFFF).toUInt32

theorem Word.saturate32_eq (word : UInt64) : saturate32 word = saturated word.toNat := by
  unfold saturate32 saturated
  split
  case isTrue narrow =>
    have fits : word.toNat ≤ 0xFFFFFFFF := UInt64.le_iff_toNat_le.mp narrow
    rw [Nat.min_eq_left fits]
    rfl
  case isFalse wide =>
    have exceeds : 0xFFFFFFFF < word.toNat := UInt64.lt_iff_toNat_lt.mp (UInt64.not_le.mp wide)
    rw [Nat.min_eq_right (Nat.le_of_lt exceeds)]
    rfl

namespace CaptureParameters

/-- Response time of an injector in cycles. -/
def settleTime (settings : Settings) (rate : UInt32) : Nat :=
  scaled (settings.get .injectorSettle).toNat rate.toNat 1000000

/-- Length of an engine cycle at the lowest speed of a running engine. -/
def longestCycle (settings : Settings) (rate : UInt32) : Nat :=
  if (settings.get .minGoodRpm).toNat = 0 then 2 ^ 64 - 1
  else scaled ((settings.get .crankRevs).toNat * 60 % 2 ^ 64) rate.toNat
    (settings.get .minGoodRpm).toNat

/-- Longest plausible open time in that engine cycle. -/
def longestOpening (settings : Settings) (rate : UInt32) : Nat :=
  if (settings.get .minGoodRpm).toNat = 0 then 2 ^ 64 - 1
  else scaled (longestCycle settings rate) (settings.get .injectorDutyCeiling).toNat 1024

/-- Ticks without activity before the computer sleeps. -/
def sleepTime (settings : Settings) (rate tick : UInt32) : Nat :=
  scaled (settings.get .activityTimeout).toNat rate.toNat tick.toNat

/-- Ticks of the road-speed debounce. -/
def pauseTime (settings : Settings) (rate tick : UInt32) : Nat :=
  rounded (scaled (settings.get .vssPause).toNat rate.toNat 1000) tick.toNat

/-- The parameters that belong to a table of settings and a clock. -/
def derived (settings : Settings) (rate tick : UInt32) (trackIdle : Bool) : CaptureParameters where
  settleCycles := saturated (settleTime settings rate)
  minGoodCycles := saturated (longestCycle settings rate)
  maxGoodInjectorCycles := saturated (longestOpening settings rate)
  dutyCeiling := settings.get .injectorDutyCeiling
  injectorResetTicks := saturated ((saturated (longestCycle settings rate)).toNat / tick.toNat + 2)
  vssPauseTicks := saturated (pauseTime settings rate tick)
  vssResetTicks := Board.loopTicks rate tick
  loopTicks := Board.loopTicks rate tick
  sleepTicks := saturated (sleepTime settings rate tick)
  trackIdle := trackIdle

end CaptureParameters

namespace Catalog

section

open CaptureParameters

variable {arithmetic : Arithmetic} {index : UInt8} {surroundings : Surroundings}
  {registers : Registers} (Holds : Nat → Prop)

theorem settleCycles_leads
    (product : Holds ((surroundings.settings.get .injectorSettle).toNat *
      surroundings.cyclesPerSecond.toNat)) :
    Leads (table arithmetic) index (Multiplying Holds) surroundings .settleCycles 0 registers
      (·.r2.toNat = settleTime surroundings.settings surroundings.cyclesPerSecond) := by
  refine .data rfl rfl rfl ?_
  refine .data rfl rfl rfl ?_
  refine .data rfl rfl rfl ?_
  exact .jumpWithin rfl trivial
    (mulDivRound_leads rfl rfl rfl (show 1000000 ≤ 2 ^ 63 by decide) product)

theorem minGoodRpmCycles_leads
    (seconds : Holds ((surroundings.settings.get .crankRevs).toNat * 60))
    (cycles : Holds ((surroundings.settings.get .crankRevs).toNat * 60 % 2 ^ 64 *
      surroundings.cyclesPerSecond.toNat)) :
    Leads (table arithmetic) index (Multiplying Holds) surroundings .minGoodRpmCycles 0 registers
      (·.r2.toNat = longestCycle surroundings.settings surroundings.cyclesPerSecond) := by
  refine .data rfl rfl rfl ?_
  refine .ifZero rfl rfl rfl (fun _ => .jumpWithin rfl trivial overflow_answers) (fun _ => ?_)
  refine .data rfl rfl rfl ?_
  refine .data rfl rfl rfl ?_
  refine .callWithin rfl seconds (kernel_leads rfl) fun between same => ?_
  obtain ⟨_, multiplied, divisor⟩ := Registers.sameResults_iff.mp same
  refine .data rfl rfl rfl (.jumpWithin rfl trivial ?_)
  refine mulDivRound_leads ?_ rfl ?_ (toNat_le_half _) cycles
  · exact (congrArg UInt64.toNat multiplied.symm).trans (UInt64.toNat_mul _ _)
  · exact congrArg UInt64.toNat divisor.symm

theorem injectorCeilingCycles_leads
    (seconds : Holds ((surroundings.settings.get .crankRevs).toNat * 60))
    (cycles : Holds ((surroundings.settings.get .crankRevs).toNat * 60 % 2 ^ 64 *
      surroundings.cyclesPerSecond.toNat))
    (share : (surroundings.settings.get .minGoodRpm).toNat ≠ 0 →
      Holds (longestCycle surroundings.settings surroundings.cyclesPerSecond *
        (surroundings.settings.get .injectorDutyCeiling).toNat)) :
    Leads (table arithmetic) index (Multiplying Holds) surroundings .injectorCeilingCycles 0
      registers
      (·.r2.toNat = longestOpening surroundings.settings surroundings.cyclesPerSecond) := by
  refine .data rfl rfl rfl ?_
  refine .ifZero rfl rfl rfl (fun _ => .jumpWithin rfl trivial overflow_answers) (fun running => ?_)
  refine .callWithin rfl trivial (minGoodRpmCycles_leads Holds seconds cycles) fun between cycle => ?_
  refine .data rfl rfl rfl ?_
  refine .data rfl rfl rfl ?_
  exact .jumpWithin rfl trivial
    (mulDivRound_leads cycle rfl rfl (show 1024 ≤ 2 ^ 63 by decide) (share running))

theorem sleepTicks_leads
    (product : Holds ((surroundings.settings.get .activityTimeout).toNat *
      surroundings.cyclesPerSecond.toNat)) :
    Leads (table arithmetic) index (Multiplying Holds) surroundings .sleepTicks 0 registers
      (·.r2.toNat =
        sleepTime surroundings.settings surroundings.cyclesPerSecond surroundings.tickCycles) := by
  refine .data rfl rfl rfl ?_
  refine .data rfl rfl rfl ?_
  refine .data rfl rfl rfl ?_
  exact .jumpWithin rfl trivial (mulDivRound_leads rfl rfl rfl (toNat_le_half _) product)

theorem vssPauseTicks_leads
    (product : Holds ((surroundings.settings.get .vssPause).toNat *
      surroundings.cyclesPerSecond.toNat)) :
    Leads (table arithmetic) index (Multiplying Holds) surroundings .vssPauseTicks 0 registers
      (·.r2.toNat =
        pauseTime surroundings.settings surroundings.cyclesPerSecond surroundings.tickCycles) := by
  refine .data rfl rfl rfl ?_
  refine .data rfl rfl rfl ?_
  refine .data rfl rfl rfl ?_
  refine .callWithin rfl trivial
    (mulDivRound_leads rfl rfl rfl (show 1000 ≤ 2 ^ 63 by decide) product) fun between pause => ?_
  refine .data rfl rfl rfl ?_
  exact .jumpWithin rfl trivial (divideRound_leads pause rfl (toNat_le_half _))

end

end Catalog

namespace Computer

/-- Running a program that answers changes nothing but the calculator. -/
theorem runProgram_of_leads {program : Program} {index : UInt8} {value : Nat}
    {Allowed : Program → Registers → Prop} (computer : Computer)
    (leads : ∀ registers, Leads (table .native) index Allowed computer.surroundings program 0
      registers (·.r2.toNat = value)) :
    ∃ raw calculator, runProgram program index computer =
        .ok raw { computer with calculator := calculator } ∧ raw.toNat = value := by
  obtain ⟨raw, ended, result, kept⟩ := run_of_answers computer.calculator.arithmetic
    (computer.calculator.machine.setRegister .r2 0) ((leads _).mono fun _ _ _ => trivial)
  refine ⟨raw, computer.calculator.after (computer.calculator.call computer.surroundings program
    index 0), ?_, result⟩
  simp only [runProgram, Calculator.call, ended, Computer.after, kept]
  rfl

/-- The parameters that belong to the settings and the clock of a computer. -/
def derived (computer : Computer) : CaptureParameters :=
  .derived computer.settings computer.cyclesPerSecond computer.tickCycles computer.trackIdle

theorem injectorResetTicks_eq (cycle tick : UInt32) :
    Word.saturate32 ((cycle / tick).toUInt64 + 2) =
      saturated (cycle.toNat / tick.toNat + 2) := by
  have bound := cycle.toNat_lt
  have quotient := Nat.div_le_self cycle.toNat tick.toNat
  rw [Word.saturate32_eq, UInt64.toNat_add, UInt32.toNat_toUInt64, UInt32.toNat_div]
  exact congrArg saturated (Nat.mod_eq_of_lt (show _ + 2 < _ by omega))

/-- Deriving the parameters never fails, and installs what belongs to the settings. -/
theorem applyDerived_eq (computer : Computer) :
    ∃ calculator, applyDerived computer = .ok computer.derived
      { computer with
        calculator := calculator
        capture := computer.capture.setParameters computer.derived } := by
  let free : Nat → Prop := fun _ => True
  -- each program finds the registers that the one before it left
  obtain ⟨settle, first, settled, settleValue⟩ :=
    runProgram_of_leads computer fun _ => settleCycles_leads free trivial
  obtain ⟨minGood, second, measured, minGoodValue⟩ :=
    runProgram_of_leads { computer with calculator := first } fun _ =>
      minGoodRpmCycles_leads free trivial trivial
  obtain ⟨ceiling, third, limited, ceilingValue⟩ :=
    runProgram_of_leads { computer with calculator := second } fun _ =>
      injectorCeilingCycles_leads free trivial trivial fun _ => trivial
  obtain ⟨sleep, fourth, slept, sleepValue⟩ :=
    runProgram_of_leads { computer with calculator := third } fun _ =>
      sleepTicks_leads free trivial
  obtain ⟨pause, fifth, paused, pauseValue⟩ :=
    runProgram_of_leads { computer with calculator := fourth } fun _ =>
      vssPauseTicks_leads free trivial
  refine ⟨fifth, ?_⟩
  unfold applyDerived
  rw [bind_of_ok settled, bind_of_ok measured, bind_of_ok limited, bind_of_ok slept,
    bind_of_ok paused]
  have parameters : CaptureParameters.mk (Word.saturate32 settle) (Word.saturate32 minGood)
      (Word.saturate32 ceiling) (computer.settings.get .injectorDutyCeiling)
      (Word.saturate32 ((Word.saturate32 minGood / computer.tickCycles).toUInt64 + 2))
      (Word.saturate32 pause) (Board.loopTicks computer.cyclesPerSecond computer.tickCycles)
      (Board.loopTicks computer.cyclesPerSecond computer.tickCycles) (Word.saturate32 sleep)
      computer.trackIdle = computer.derived := by
    rw [injectorResetTicks_eq, Word.saturate32_eq, Word.saturate32_eq, Word.saturate32_eq,
      Word.saturate32_eq, Word.saturate32_eq, settleValue, minGoodValue, ceilingValue, sleepValue,
      pauseValue]
    rfl
  rw [← parameters]
  rfl

end Computer

end TripComputer
