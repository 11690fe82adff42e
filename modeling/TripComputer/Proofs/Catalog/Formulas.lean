import Mathlib.Logic.Basic
import TripComputer.Calculator
import TripComputer.Proofs.Catalog.Rounding

/-!
# What the quantity programs compute

The formula of every quantity, over the numbers that its program reads, and each program
followed through the table.  A subroutine is taken as one step, by what it answers; the cases
of a formula are the skips of its program.
-/

namespace TripComputer

/-- The numbers that quantities are computed from. -/
structure Figures where
  metric : Bool
  cyclesPerSecond : Nat
  roadPulses : Nat
  roadCycles : Nat
  injectorPulses : Nat
  injectorCycles : Nat
  openCycles : Nat
  /-- Injector open cycles of the tank trip. -/
  tankCycles : Nat
  microsPerQuantity : Nat
  pulsesPerDistance : Nat
  tankSize : Nat
  fuelPrice : Nat
  crankRevs : Nat
  /-- Readings of the analog channels. -/
  sample : UInt8 → Nat

namespace Figures

open Catalog

/-- The figures that programs observe, with the counters of a trip. -/
def observed {σ : Type} [Environment σ] (environment : σ) (trip : Trip) : Figures where
  metric := Environment.metric environment
  cyclesPerSecond := (Environment.cyclesPerSecond environment).toNat
  roadPulses := trip.vssPulses.toNat
  roadCycles := trip.vssCycles.toNat
  injectorPulses := trip.injectorPulses.toNat
  injectorCycles := trip.injectorCycles.toNat
  openCycles := trip.injectorOpenCycles.toNat
  tankCycles := (Environment.tankFuel environment).toNat
  microsPerQuantity := (Environment.setting environment .microsPerQuantity).toNat
  pulsesPerDistance := (Environment.setting environment .pulsesPerDistance).toNat
  tankSize := (Environment.setting environment .tankSize).toNat
  fuelPrice := (Environment.setting environment .fuelCost).toNat
  crankRevs := (Environment.setting environment .crankRevs).toNat
  sample channel := ((Environment.reading? environment channel).getD 0).toNat

/-- What stands for a value that cannot be computed. -/
def unknown : Nat := 2 ^ 64 - 1

variable (figures : Figures)

/-- Microseconds in a number of cycles. -/
def micros (cycles : Nat) : Nat :=
  scaled cycles 1000000 figures.cyclesPerSecond

/-- Whole seconds in a number of cycles. -/
def seconds (cycles : Nat) : Nat :=
  if figures.cyclesPerSecond = 0 then if cycles = 0 then 0 else unknown
  else cycles / figures.cyclesPerSecond

/-- Fuel that flows in a number of open cycles. -/
def fuel (cycles : Nat) : Nat :=
  scaled (figures.micros cycles) 1000 figures.microsPerQuantity

/-- Fuel per hour. -/
def fuelRate : Nat :=
  if figures.injectorCycles = 0 then 0
  else scaled (scaled figures.openCycles 3600000 figures.injectorCycles) 1000000
    figures.microsPerQuantity

/-- Fuel left in the tank. -/
def remainingFuel : Nat :=
  if figures.fuel figures.tankCycles ≤ figures.tankSize then
    figures.tankSize - figures.fuel figures.tankCycles
  else 0

/-- Seconds until the remaining fuel is burnt. -/
def timeToEmpty : Nat :=
  if figures.openCycles = 0 then unknown
  else rounded (scaled
    (scaled figures.remainingFuel figures.injectorCycles figures.openCycles)
    figures.microsPerQuantity 1000000) 1000

/-- Distance driven. -/
def distance : Nat :=
  scaled figures.roadPulses 1000 figures.pulsesPerDistance

/-- Distance per hour. -/
def speed : Nat :=
  if figures.pulsesPerDistance = 0 then unknown
  else if figures.roadCycles = 0 then 0
  else scaled (scaled figures.roadPulses 3600000 figures.pulsesPerDistance)
    figures.cyclesPerSecond figures.roadCycles

/-- A thousand times the distance per quantity. -/
def reach : Nat :=
  scaled (scaled figures.roadPulses figures.microsPerQuantity figures.pulsesPerDistance)
    figures.cyclesPerSecond figures.openCycles

/-- Distance per quantity, or quantity per hundred distances. -/
def fuelEconomy : Nat :=
  if figures.metric then
    if figures.roadPulses = 0 ∨ figures.microsPerQuantity = 0 then unknown
    else scaled
      (scaled (figures.micros figures.openCycles) figures.pulsesPerDistance figures.roadPulses)
      100000 figures.microsPerQuantity
  else if figures.pulsesPerDistance = 0 ∨ figures.openCycles = 0 then unknown
  else rounded figures.reach 1000

/-- Distance until the remaining fuel is burnt. -/
def distanceToEmpty : Nat :=
  if figures.pulsesPerDistance = 0 ∨ figures.openCycles = 0 then unknown
  else scaled (scaled
    (scaled figures.remainingFuel figures.roadPulses figures.pulsesPerDistance)
    figures.microsPerQuantity figures.openCycles) figures.cyclesPerSecond 1000000

/-- Crank revolutions per minute. -/
def engineSpeed : Nat :=
  if figures.injectorCycles = 0 then 0
  else scaled (figures.injectorPulses * 60000 * figures.crankRevs % 2 ^ 64)
    figures.cyclesPerSecond figures.injectorCycles

/-- Cost of an amount of fuel. -/
def cost (fuel : Nat) : Nat :=
  if figures.microsPerQuantity = 0 then unknown else scaled fuel figures.fuelPrice 1000

/-- Cost of the fuel burnt over the distance driven. -/
def costPerDistance : Nat :=
  if figures.roadPulses = 0 ∨ figures.microsPerQuantity = 0 then unknown
  else scaled (figures.cost (figures.fuel figures.openCycles)) figures.pulsesPerDistance
    figures.roadPulses

/-- Distance driven over the cost of the fuel burnt. -/
def distancePerCost : Nat :=
  if figures.pulsesPerDistance = 0 ∨ figures.openCycles = 0 then unknown
  else rounded figures.reach figures.fuelPrice

/-- Millivolts on an analog channel. -/
def voltage (channel : UInt8) : Nat :=
  scaled (figures.sample channel) Board.adcReference.toNat Board.adcFullScale.toNat

/-- The formula of a quantity. -/
def value : Quantity → Nat
  | .fuelUsed => figures.fuel figures.openCycles
  | .fuelRate => figures.fuelRate
  | .engineRunTime => figures.seconds figures.injectorCycles
  | .timeToEmpty => figures.timeToEmpty
  | .distance => figures.distance
  | .speed => figures.speed
  | .motionTime => figures.seconds figures.roadCycles
  | .fuelEconomy => figures.fuelEconomy
  | .remainingFuel => figures.remainingFuel
  | .distanceToEmpty => figures.distanceToEmpty
  | .engineSpeed => figures.engineSpeed
  | .injectorOpenTime => figures.micros figures.openCycles
  | .injectorTotalTime => figures.micros figures.injectorCycles
  | .vssTotalTime => figures.micros figures.roadCycles
  | .injectorPulses => figures.injectorPulses
  | .vssPulses => figures.roadPulses
  | .fuelCost => figures.cost (figures.fuel figures.openCycles)
  | .fuelRateCost => figures.cost figures.fuelRate
  | .fuelCostPerDistance => figures.costPerDistance
  | .distancePerFuelCost => figures.distancePerCost
  | .remainingFuelCost => figures.cost figures.remainingFuel
  | .voltage0 => figures.voltage 0
  | .voltage1 => figures.voltage 1

end Figures

/-- The analog channel that a quantity shows. -/
def Quantity.channel? : Quantity → Option UInt8
  | .voltage0 => some 0
  | .voltage1 => some 1
  | _ => none

namespace Catalog

open Machine

section

variable {σ : Type} [Environment σ] {index : UInt8} {environment : σ} {registers : Registers}

theorem remainingFuel_answers (trip : Trip) :
    Answers (table .native) index environment .remainingFuel 0 registers
      (Figures.observed environment trip).remainingFuel := by
  refine .data rfl rfl rfl ?_
  refine .call rfl (toMicros_answers rfl) fun r1 r2 r3 r4 r5 micros => ?_
  refine .data rfl rfl rfl ?_
  refine .data rfl rfl rfl ?_
  refine .call rfl (mulDivRound_answers micros rfl rfl (toNat_le_half _))
    fun r1 r2 r3 r4 r5 (burnt : r2.toNat = (Figures.observed environment trip).fuel
      (Figures.observed environment trip).tankCycles) => ?_
  refine .data rfl rfl rfl ?_
  refine .ifAtMost rfl rfl burnt rfl (fun fits => ?_) (fun _ => ?_)
  · refine .data rfl rfl rfl (.data rfl rfl rfl (.done rfl ?_))
    rw [← burnt] at fits ⊢
    exact toNat_subtract fits
  · exact .data rfl rfl rfl (.done rfl rfl)

theorem voltage_answers {program : Program} {channel : UInt8} {reading : UInt16} (trip : Trip)
    (code : table .native program = [.loadVoltage .r2 channel, .loadConstant .r1 .adcReference,
      .loadConstant .r3 .adcFullScale, .jump .mulDivRound])
    (sampled : Environment.reading? environment channel = some reading) :
    Answers (table .native) index environment program 0 registers
      ((Figures.observed environment trip).voltage channel) := by
  have figure : reading.toUInt64.toNat = (Figures.observed environment trip).sample channel := by
    simp [Figures.observed, sampled]
  have performed : perform index registers environment (.loadVoltage .r2 channel) =
      .ok (registers.set .r2 reading.toUInt64, environment) := by simp only [perform, sampled]
  refine .data (by rw [code]; rfl) rfl performed ?_
  refine .data (by rw [code]; rfl) rfl rfl ?_
  refine .data (by rw [code]; rfl) rfl rfl ?_
  exact .jump (by rw [code]; rfl) (mulDivRound_answers figure rfl rfl (show 1024 ≤ 2 ^ 63 by decide))

/-- The three programs that price an amount of fuel differ in the program that they call. -/
theorem cost_answers {program callee : Program} {amount : Nat} (trip : Trip)
    (code : table .native program = [.loadSetting .r3 .microsPerQuantity, .skipIfZero .r3 4,
      .call callee, .loadSetting .r1 .fuelCost, .loadConstant .r3 .decimalPoint,
      .jump .mulDivRound, .jump .overflow])
    (called : ∀ registers, Answers (table .native) index environment callee 0 registers amount) :
    Answers (table .native) index environment program 0 registers
      ((Figures.observed environment trip).cost amount) := by
  refine .data (by rw [code]; rfl) rfl rfl ?_
  refine .ifZero (by rw [code]; rfl) (by rw [code]; rfl) rfl (fun _ => ?_) (fun _ => ?_)
  · exact .jump (by rw [code]; rfl) overflow_answers
  · refine .call (by rw [code]; rfl) (called _) fun r1 r2 r3 r4 r5 priced => ?_
    refine .data (by rw [code]; rfl) rfl rfl ?_
    refine .data (by rw [code]; rfl) rfl rfl ?_
    exact .jump (by rw [code]; rfl)
      (mulDivRound_answers priced rfl rfl (show 1000 ≤ 2 ^ 63 by decide))

variable {trip : Trip}
  (counted : ∀ counter, Environment.counter? environment index counter = some (trip.get counter))

include counted

theorem fuelUsed_answers :
    Answers (table .native) index environment .fuelUsed 0 registers
      ((Figures.observed environment trip).fuel trip.injectorOpenCycles.toNat) := by
  refine .counter rfl (counted _) ?_
  refine .call rfl (toMicros_answers rfl) fun r1 r2 r3 r4 r5 micros => ?_
  refine .data rfl rfl rfl ?_
  refine .data rfl rfl rfl ?_
  exact .jump rfl (mulDivRound_answers micros rfl rfl (toNat_le_half _))

theorem distance_answers :
    Answers (table .native) index environment .distance 0 registers
      (Figures.observed environment trip).distance := by
  refine .counter rfl (counted _) ?_
  refine .data rfl rfl rfl ?_
  refine .data rfl rfl rfl ?_
  exact .jump rfl (mulDivRound_answers rfl rfl rfl (toNat_le_half _))

theorem fuelRate_answers (moderate : trip.injectorCycles.toNat ≤ 2 ^ 63) :
    Answers (table .native) index environment .fuelRate 0 registers
      (Figures.observed environment trip).fuelRate := by
  refine .counter rfl (counted _) ?_
  refine .ifZero rfl rfl rfl (fun _ => ?_) (fun _ => ?_)
  · exact .data rfl rfl rfl (.done rfl rfl)
  · refine .counter rfl (counted _) ?_
    refine .data rfl rfl rfl ?_
    refine .call rfl (mulDivRound_answers rfl rfl rfl moderate) fun r1 r2 r3 r4 r5 share => ?_
    refine .data rfl rfl rfl ?_
    refine .data rfl rfl rfl ?_
    exact .jump rfl (mulDivRound_answers share rfl rfl (toNat_le_half _))

theorem timeToEmpty_answers (moderate : trip.injectorOpenCycles.toNat ≤ 2 ^ 63) :
    Answers (table .native) index environment .timeToEmpty 0 registers
      (Figures.observed environment trip).timeToEmpty := by
  refine .counter rfl (counted _) ?_
  refine .ifZero rfl rfl rfl (fun _ => .jump rfl overflow_answers) (fun _ => ?_)
  refine .call rfl (remainingFuel_answers trip) fun r1 r2 r3 r4 r5 left => ?_
  refine .counter rfl (counted _) ?_
  refine .counter rfl (counted _) ?_
  refine .call rfl (mulDivRound_answers left rfl rfl moderate) fun r1 r2 r3 r4 r5 cycles => ?_
  refine .data rfl rfl rfl ?_
  refine .data rfl rfl rfl ?_
  refine .call rfl (mulDivRound_answers cycles rfl rfl (show 1000000 ≤ 2 ^ 63 by decide))
    fun r1 r2 r3 r4 r5 thousandths => ?_
  refine .data rfl rfl rfl ?_
  exact .jump rfl (divideRound_answers thousandths rfl (by decide))

theorem speed_answers (moderate : trip.vssCycles.toNat ≤ 2 ^ 63) :
    Answers (table .native) index environment .speed 0 registers
      (Figures.observed environment trip).speed := by
  refine .data rfl rfl rfl ?_
  refine .ifZero rfl rfl rfl (fun _ => .jump rfl overflow_answers) (fun _ => ?_)
  refine .counter rfl (counted _) ?_
  refine .ifZero rfl rfl rfl (fun _ => ?_) (fun _ => ?_)
  · exact .data rfl rfl rfl (.done rfl rfl)
  · refine .counter rfl (counted _) ?_
    refine .data rfl rfl rfl ?_
    refine .data rfl rfl rfl ?_
    refine .call rfl (mulDivRound_answers rfl rfl rfl (toNat_le_half _))
      fun r1 r2 r3 r4 r5 hourly => ?_
    refine .data rfl rfl rfl ?_
    refine .counter rfl (counted _) ?_
    exact .jump rfl (mulDivRound_answers hourly rfl rfl moderate)

theorem distanceToEmpty_answers (moderate : trip.injectorOpenCycles.toNat ≤ 2 ^ 63) :
    Answers (table .native) index environment .distanceToEmpty 0 registers
      (Figures.observed environment trip).distanceToEmpty := by
  rw [Figures.distanceToEmpty, ite_or]
  refine .data rfl rfl rfl ?_
  refine .ifZero rfl rfl rfl (fun _ => .jump rfl overflow_answers) (fun _ => ?_)
  refine .counter rfl (counted _) ?_
  refine .ifZero rfl rfl rfl (fun _ => .jump rfl overflow_answers) (fun _ => ?_)
  refine .call rfl (remainingFuel_answers trip) fun r1 r2 r3 r4 r5 left => ?_
  refine .counter rfl (counted _) ?_
  refine .data rfl rfl rfl ?_
  refine .call rfl (mulDivRound_answers left rfl rfl (toNat_le_half _))
    fun r1 r2 r3 r4 r5 share => ?_
  refine .data rfl rfl rfl ?_
  refine .counter rfl (counted _) ?_
  refine .call rfl (mulDivRound_answers share rfl rfl moderate) fun r1 r2 r3 r4 r5 micros => ?_
  refine .data rfl rfl rfl ?_
  refine .data rfl rfl rfl ?_
  exact .jump rfl (mulDivRound_answers micros rfl rfl (show 1000000 ≤ 2 ^ 63 by decide))

theorem engineSpeed_answers (moderate : trip.injectorCycles.toNat ≤ 2 ^ 63) :
    Answers (table .native) index environment .engineSpeed 0 registers
      (Figures.observed environment trip).engineSpeed := by
  rw [Figures.engineSpeed, ← Nat.mod_mul_mod]
  refine .counter rfl (counted _) ?_
  refine .ifZero rfl rfl rfl (fun _ => ?_) (fun _ => ?_)
  · exact .data rfl rfl rfl (.done rfl rfl)
  · refine .counter rfl (counted _) ?_
    refine .data rfl rfl rfl ?_
    refine .call rfl (multiply_answers rfl rfl) fun r1 r2 r3 r4 r5 minutes => ?_
    refine .data rfl rfl rfl ?_
    refine .call rfl (multiply_answers minutes rfl) fun r1 r2 r3 r4 r5 revolutions => ?_
    refine .data rfl rfl rfl ?_
    refine .counter rfl (counted _) ?_
    exact .jump rfl (mulDivRound_answers revolutions rfl rfl moderate)

/-- The stretch of code that two programs have in common. -/
theorem reach_answers {program : Program} {pc value : Nat} {rest : List Instruction}
    (code : (table .native program).drop pc = [.loadCounter .r2 .vssPulses,
      .loadSetting .r1 .microsPerQuantity, .loadSetting .r3 .pulsesPerDistance, .call .mulDivRound,
      .loadConstant .r1 .cyclesPerSecond, .loadCounter .r3 .injectorOpenCycles,
      .call .mulDivRound] ++ rest)
    (moderate : trip.injectorOpenCycles.toNat ≤ 2 ^ 63)
    (goesOn : ∀ r1 r2 r3 r4 r5 : UInt64, r2.toNat = (Figures.observed environment trip).reach →
      Answers (table .native) index environment program (pc + 7) ⟨r1, r2, r3, r4, r5⟩ value) :
    Answers (table .native) index environment program pc registers value := by
  have fetched (place : Nat) : (table .native program)[pc + place]? =
      ((table .native program).drop pc)[place]? := List.getElem?_drop.symm
  rw [code] at fetched
  refine .counter (fetched 0) (counted _) ?_
  refine .data (fetched 1) rfl rfl ?_
  refine .data (fetched 2) rfl rfl ?_
  refine .call (fetched 3) (mulDivRound_answers rfl rfl rfl (toNat_le_half _))
    fun r1 r2 r3 r4 r5 micros => ?_
  refine .data (fetched 4) rfl rfl ?_
  refine .counter (fetched 5) (counted _) ?_
  exact .call (fetched 6) (mulDivRound_answers micros rfl rfl moderate) goesOn

theorem fuelEconomy_answers (moderate : trip.injectorOpenCycles.toNat ≤ 2 ^ 63) :
    Answers (table .native) index environment .fuelEconomy 0 registers
      (Figures.observed environment trip).fuelEconomy := by
  rw [Figures.fuelEconomy, ite_or, ite_or]
  refine .ifMetric rfl rfl rfl ?metric ?imperial
  case metric =>
    refine .counter rfl (counted _) ?_
    refine .ifZero rfl rfl rfl (fun _ => .jump rfl overflow_answers) (fun _ => ?_)
    refine .data rfl rfl rfl ?_
    refine .ifZero rfl rfl rfl (fun _ => .jump rfl overflow_answers) (fun _ => ?_)
    refine .counter rfl (counted _) ?_
    refine .call rfl (toMicros_answers rfl) fun r1 r2 r3 r4 r5 micros => ?_
    refine .data rfl rfl rfl ?_
    refine .counter rfl (counted _) ?_
    refine .call rfl (mulDivRound_answers micros rfl rfl (toNat_le_half _))
      fun r1 r2 r3 r4 r5 spent => ?_
    refine .data rfl rfl rfl ?_
    refine .data rfl rfl rfl ?_
    exact .jump rfl (mulDivRound_answers spent rfl rfl (toNat_le_half _))
  case imperial =>
    refine .data rfl rfl rfl ?_
    refine .ifZero rfl rfl rfl (fun _ => .jump rfl overflow_answers) (fun _ => ?_)
    refine .counter rfl (counted _) ?_
    refine .ifZero rfl rfl rfl (fun _ => .jump rfl overflow_answers) (fun _ => ?_)
    refine reach_answers counted rfl moderate fun r1 r2 r3 r4 r5 reach => ?_
    refine .data rfl rfl rfl ?_
    exact .jump rfl (divideRound_answers reach rfl (show 1000 ≤ 2 ^ 63 by decide))

theorem distancePerFuelCost_answers (moderate : trip.injectorOpenCycles.toNat ≤ 2 ^ 63) :
    Answers (table .native) index environment .distancePerFuelCost 0 registers
      (Figures.observed environment trip).distancePerCost := by
  rw [Figures.distancePerCost, ite_or]
  refine .data rfl rfl rfl ?_
  refine .ifZero rfl rfl rfl (fun _ => .jump rfl overflow_answers) (fun _ => ?_)
  refine .counter rfl (counted _) ?_
  refine .ifZero rfl rfl rfl (fun _ => .jump rfl overflow_answers) (fun _ => ?_)
  refine reach_answers counted rfl moderate fun r1 r2 r3 r4 r5 reach => ?_
  refine .data rfl rfl rfl ?_
  exact .jump rfl (divideRound_answers reach rfl (toNat_le_half _))

theorem fuelCostPerDistance_answers :
    Answers (table .native) index environment .fuelCostPerDistance 0 registers
      (Figures.observed environment trip).costPerDistance := by
  rw [Figures.costPerDistance, ite_or]
  refine .counter rfl (counted _) ?_
  refine .ifZero rfl rfl rfl (fun _ => .jump rfl overflow_answers) (fun _ => ?_)
  refine .data rfl rfl rfl ?_
  refine .ifZero rfl rfl rfl (fun _ => .jump rfl overflow_answers) (fun _ => ?_)
  refine .call rfl (cost_answers trip rfl fun _ => fuelUsed_answers counted)
    fun r1 r2 r3 r4 r5 spent => ?_
  refine .data rfl rfl rfl ?_
  refine .counter rfl (counted _) ?_
  exact .jump rfl (mulDivRound_answers spent rfl rfl (toNat_le_half _))

/-- The programs that count microseconds differ in the counter. -/
theorem micros_answers (program : Program) (counter : Counter)
    (code : table .native program = [.loadCounter .r2 counter, .jump .toMicros]) :
    Answers (table .native) index environment program 0 registers
      ((Figures.observed environment trip).micros (trip.get counter).toNat) := by
  refine .counter (by rw [code]; rfl) (counted _) ?_
  exact .jump (by rw [code]; rfl) (toMicros_answers rfl)

theorem seconds_answers (program : Program) (counter : Counter)
    (code : table .native program =
      [.loadCounter .r2 counter, .loadConstant .r1 .cyclesPerSecond, .jump .divide]) :
    Answers (table .native) index environment program 0 registers
      ((Figures.observed environment trip).seconds (trip.get counter).toNat) := by
  refine .counter (by rw [code]; rfl) (counted _) ?_
  refine .data (by rw [code]; rfl) rfl rfl ?_
  exact .jump (by rw [code]; rfl) ⟨_, divide_returns .., toNat_divide _ _⟩

theorem pulses_answers (program : Program) (counter : Counter)
    (code : table .native program = [.loadCounter .r2 counter, .done]) :
    Answers (table .native) index environment program 0 registers (trip.get counter).toNat := by
  refine .counter (by rw [code]; rfl) (counted _) ?_
  exact .done (by rw [code]; rfl) rfl

/-- Every quantity program answers with its formula. -/
theorem value_answers (moderate : ∀ counter, (trip.get counter).toNat ≤ 2 ^ 63)
    (quantity : Quantity)
    (sampled : ∀ channel ∈ quantity.channel?, Environment.reading? environment channel ≠ none) :
    Answers (table .native) index environment quantity.program 0 registers
      ((Figures.observed environment trip).value quantity) := by
  cases quantity with
  | fuelUsed => exact fuelUsed_answers counted
  | fuelRate => exact fuelRate_answers counted (moderate .injectorCycles)
  | timeToEmpty => exact timeToEmpty_answers counted (moderate .injectorOpenCycles)
  | distance => exact distance_answers counted
  | speed => exact speed_answers counted (moderate .vssCycles)
  | fuelEconomy => exact fuelEconomy_answers counted (moderate .injectorOpenCycles)
  | remainingFuel => exact remainingFuel_answers trip
  | distanceToEmpty => exact distanceToEmpty_answers counted (moderate .injectorOpenCycles)
  | engineSpeed => exact engineSpeed_answers counted (moderate .injectorCycles)
  | engineRunTime => exact seconds_answers counted .engineRunTime .injectorCycles rfl
  | motionTime => exact seconds_answers counted .motionTime .vssCycles rfl
  | injectorOpenTime => exact micros_answers counted .injectorOpenTime .injectorOpenCycles rfl
  | injectorTotalTime => exact micros_answers counted .injectorTotalTime .injectorCycles rfl
  | vssTotalTime => exact micros_answers counted .vssTotalTime .vssCycles rfl
  | injectorPulses => exact pulses_answers counted .injectorPulses .injectorPulses rfl
  | vssPulses => exact pulses_answers counted .vssPulses .vssPulses rfl
  | fuelCost => exact cost_answers trip rfl fun _ => fuelUsed_answers counted
  | fuelRateCost =>
      exact cost_answers trip rfl fun _ => fuelRate_answers counted (moderate .injectorCycles)
  | remainingFuelCost => exact cost_answers trip rfl fun _ => remainingFuel_answers trip
  | fuelCostPerDistance => exact fuelCostPerDistance_answers counted
  | distancePerFuelCost =>
      exact distancePerFuelCost_answers counted (moderate .injectorOpenCycles)
  | voltage0 | voltage1 =>
      obtain ⟨reading, found⟩ := Option.ne_none_iff_exists'.mp (sampled _ rfl)
      exact voltage_answers trip rfl found

end

end Catalog

namespace Calculator

/-- Every quantity is its formula of the figures that the programs observe: for either arithmetic,
any registers and any surroundings, where no cycle count of the trip is above half of the
words. -/
theorem evaluate_eq_value {σ : Type} [Environment σ] (calculator : Calculator) (environment : σ)
    (index : UInt8) (trip : Trip)
    (counted : ∀ counter, Environment.counter? environment index counter = some (trip.get counter))
    (moderate : trip.vssCycles.toNat ≤ 2 ^ 63 ∧ trip.injectorCycles.toNat ≤ 2 ^ 63 ∧
      trip.injectorOpenCycles.toNat ≤ 2 ^ 63)
    (quantity : Quantity)
    (sampled : ∀ channel ∈ quantity.channel?, Environment.reading? environment channel ≠ none) :
    ∃ raw, (calculator.evaluate environment quantity index).1 = .ok ⟨quantity, raw⟩ ∧
      raw.toNat = (Figures.observed environment trip).value quantity := by
  have bounded : ∀ counter, (trip.get counter).toNat ≤ 2 ^ 63 := by
    intro counter
    cases counter with
    | vssPulses | injectorPulses => exact Catalog.toNat_le_half _
    | vssCycles => exact moderate.1
    | injectorCycles => exact moderate.2.1
    | injectorOpenCycles => exact moderate.2.2
  obtain ⟨raw, ended, value, _⟩ := Catalog.run_of_answers calculator.arithmetic
    (calculator.machine.setRegister .r2 0) (Catalog.value_answers counted bounded quantity sampled)
  refine ⟨raw, ?_, value⟩
  rw [evaluate, call]
  exact congrArg (Except.map _) ended

/-- Ten thousand pulses in an hour's time, at ten thousand pulses to the distance. -/
theorem speed_of_one_distance_per_hour :
    let trip : Trip := ⟨10000, 0, 312500 * 3600, 0, 0⟩
    let surroundings : Surroundings :=
      ⟨.defaults, 312500, 256, none, fun _ => some trip, 0, fun _ => none⟩
    ∃ raw, ((new .primitive).evaluate surroundings .speed 3).1 = .ok ⟨.speed, raw⟩ ∧
      raw.toNat = 1000 := by
  intro trip surroundings
  have formula : (Figures.observed surroundings trip).value .speed = 1000 := by decide
  rw [← formula]
  exact evaluate_eq_value (new .primitive) surroundings 3 trip (fun _ => rfl) (by decide) .speed
    nofun

end Calculator

end TripComputer
