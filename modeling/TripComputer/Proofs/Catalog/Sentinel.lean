import Mathlib
import TripComputer.Proofs.Catalog.Formulas
import TripComputer.Proofs.Display.Rendering

/-!
# Divisions by zero in the quantity programs

A division by zero answers the largest word, which is to be shown as no value and not to be
computed with.  `Honest` is this property of a program: either every division on its way has
something to divide by, or the answer itself is no value.  It names the cause of the second case,
so that a caller that excludes the cause can go on with the answer.

The programs are followed in either arithmetic.  Their values play no role, the divisors apart: a
divisor is not zero because of a skip before it, or because it is a constant, or it is the cause.
-/

namespace TripComputer

namespace Quantity

/-- Whether the program divides by the clock rate and goes on with the quotient. -/
def needsClock (metric : Bool) : Quantity → Bool
  | fuelUsed | remainingFuel | timeToEmpty | distanceToEmpty | fuelCost | fuelCostPerDistance
  | remainingFuelCost => true
  | fuelEconomy => metric
  | _ => false

/-- Whether the program divides by the microseconds per quantity and goes on with the quotient,
without having looked at them. -/
def needsFactor : Quantity → Bool
  | remainingFuel | timeToEmpty | distanceToEmpty => true
  | _ => false

end Quantity

namespace Catalog

open Machine

/-- A division is entered with something to divide by, unless there is nothing to divide. -/
def Defined : Program → Registers → Prop
  | .divide, registers => registers.r1 = 0 → registers.r2 = 0
  | _, _ => True

variable {σ : Type} [Environment σ]

/-- From a position of a program, control comes back, and either all divisions on the way are
defined, or the cause is given and the answer is no value. -/
def Honest (arithmetic : Arithmetic) (index : UInt8) (environment : σ) (program : Program)
    (pc : Nat) (registers : Registers) (cause : Prop) : Prop :=
  Leads (table arithmetic) index Defined environment program pc registers (fun _ => True) ∨
    cause ∧ Leads (table arithmetic) index (fun _ _ => True) environment program pc registers
      (2 ^ 63 ≤ ·.r2.toNat)

variable {arithmetic : Arithmetic} {index : UInt8} {environment : σ} {program callee : Program}
  {pc target : Nat} {registers next : Registers} {instruction : Instruction} {distance : Int8}
  {x y : Register} {cause other : Prop}

/-- A division is defined, or its quotient is no value. -/
theorem divide_leads (arithmetic : Arithmetic) (index : UInt8) (environment : σ)
    (registers : Registers) :
    (Defined .divide registers ∧
      Leads (table arithmetic) index Defined environment .divide 0 registers fun _ => True) ∨
    (registers.r1 = 0 ∧
      Leads (table arithmetic) index (fun _ _ => True) environment .divide 0 registers
        fun later => 2 ^ 63 ≤ later.r2.toNat ∧ later.r3 = registers.r3) := by
  by_cases defined : Defined .divide registers
  · exact .inl ⟨defined, (kernel_leads rfl).imp fun _ ⟨returns, _⟩ => ⟨returns, trivial⟩⟩
  · obtain ⟨divisor, dividend⟩ := Classical.not_imp.mp defined
    refine .inr ⟨divisor, (kernel_leads rfl).imp fun later ⟨returns, same⟩ => ⟨returns, ?_⟩⟩
    have largest : later.r2 = 0xFFFFFFFFFFFFFFFF := by
      rw [← (Registers.sameResults_iff.mp same).2.1]
      simp [Program.kernelResult, Registers.set, Word.divide, divisor, dividend]
    refine ⟨?_, (same .r3 rfl).symm⟩
    rw [largest]
    decide

namespace Honest

theorem done (fetched : (table arithmetic program)[pc]? = some .done) :
    Honest arithmetic index environment program pc registers cause :=
  .inl (.done fetched trivial)

theorem data (fetched : (table arithmetic program)[pc]? = some instruction)
    (moves : instruction.isData = true)
    (performed : perform index registers environment instruction = .ok (next, environment))
    (rest : Honest arithmetic index environment program (pc + 1) next cause) :
    Honest arithmetic index environment program pc registers cause :=
  rest.imp (.data fetched moves performed) (And.imp_right (.data fetched moves performed))

theorem counter {counter : Counter} {counted : UInt64}
    (fetched : (table arithmetic program)[pc]? = some (.loadCounter x counter))
    (found : Environment.counter? environment index counter = some counted)
    (rest : Honest arithmetic index environment program (pc + 1) (registers.set x counted)
      cause) :
    Honest arithmetic index environment program pc registers cause :=
  .data fetched rfl (by simp only [perform, found]) rest

theorem taken (fetched : (table arithmetic program)[pc]? = some instruction)
    (skip : instruction.distance? = some distance)
    (lands : landing? (table arithmetic program).length pc distance = some target)
    (skips : skips index registers environment instruction = true)
    (rest : Honest arithmetic index environment program target registers cause) :
    Honest arithmetic index environment program pc registers cause :=
  rest.imp (.taken fetched skip lands skips) (And.imp_right (.taken fetched skip lands skips))

theorem passed (fetched : (table arithmetic program)[pc]? = some instruction)
    (skip : instruction.distance? = some distance)
    (skips : skips index registers environment instruction = false)
    (rest : Honest arithmetic index environment program (pc + 1) registers cause) :
    Honest arithmetic index environment program pc registers cause :=
  rest.imp (.passed fetched skip skips) (And.imp_right (.passed fetched skip skips))

/-- A skip for a register that holds zero. -/
theorem ifZero (fetched : (table arithmetic program)[pc]? = some (.skipIfZero x distance))
    (lands : landing? (table arithmetic program).length pc distance = some target)
    (zero : Honest arithmetic index environment program target registers cause)
    (nonzero : registers.get x ≠ 0 →
      Honest arithmetic index environment program (pc + 1) registers cause) :
    Honest arithmetic index environment program pc registers cause := by
  by_cases empty : registers.get x = 0
  · exact .taken fetched rfl lands (by simp [skips, Word.isZero, empty]) zero
  · exact .passed fetched rfl (Word.isZero_of_ne_zero empty) (nonzero empty)

/-- A skip that leads on honestly either way. -/
theorem either (fetched : (table arithmetic program)[pc]? = some instruction)
    (skip : instruction.distance? = some distance)
    (lands : landing? (table arithmetic program).length pc distance = some target)
    (taken : Honest arithmetic index environment program target registers cause)
    (notTaken : Honest arithmetic index environment program (pc + 1) registers cause) :
    Honest arithmetic index environment program pc registers cause := by
  cases skips : skips index registers environment instruction with
  | true => exact .taken fetched skip lands skips taken
  | false => exact .passed fetched skip skips notTaken

theorem callOf (fetched : (table arithmetic program)[pc]? = some (.call callee))
    (entered : Defined callee registers)
    (returns : ReturnsWithin (table arithmetic) index Defined callee 0 registers environment next
      environment)
    (rest : Honest arithmetic index environment program (pc + 1) next cause) :
    Honest arithmetic index environment program pc registers cause := by
  rcases rest with ⟨later, behind, holds⟩ | ⟨given, later, behind, large⟩
  · exact .inl ⟨later, .call fetched entered returns behind, holds⟩
  · have anyway := returns.mono fun _ _ _ => trivial
    exact .inr ⟨given, later, .call fetched trivial anyway behind, large⟩

/-- A call whose cause is excluded: whatever it answers, control goes on with it. -/
theorem call (fetched : (table arithmetic program)[pc]? = some (.call callee))
    (entered : Defined callee registers)
    (called : Honest arithmetic index environment callee 0 registers other) (excluded : ¬other)
    (rest : ∀ between, Honest arithmetic index environment program (pc + 1) between cause) :
    Honest arithmetic index environment program pc registers cause := by
  rcases called with ⟨between, returns, _⟩ | ⟨given, _⟩
  · exact .callOf fetched entered returns (rest between)
  · exact absurd given excluded

theorem jump (fetched : (table arithmetic program)[pc]? = some (.jump callee))
    (entered : Defined callee registers)
    (rest : Honest arithmetic index environment callee 0 registers cause) :
    Honest arithmetic index environment program pc registers cause :=
  rest.imp (.jumpWithin fetched entered) (And.imp_right (.jumpWithin fetched trivial))

theorem anyway (honest : Honest arithmetic index environment program pc registers other) :
    Honest arithmetic index environment program pc registers True :=
  honest.imp_right (And.imp_left fun _ => trivial)

/-- Where the cause is excluded, it may be any other. -/
theorem of_not (honest : Honest arithmetic index environment program pc registers other)
    (excluded : ¬other) : Honest arithmetic index environment program pc registers cause :=
  .inl (honest.resolve_right fun given => excluded given.1)

end Honest

theorem overflow_honest : Honest arithmetic index environment .overflow 0 registers cause :=
  .data rfl rfl rfl (.data rfl rfl rfl (.data rfl rfl rfl (.done rfl)))

theorem adjust_honest : Honest arithmetic index environment .adjust 0 registers cause := by
  refine .either rfl rfl rfl (.done rfl) ?_
  refine .data rfl rfl rfl ?_
  refine .either rfl rfl rfl ?_ (.done rfl)
  exact .data rfl rfl rfl (.data rfl rfl rfl (.done rfl))

theorem jump_divide_honest (fetched : (table arithmetic program)[pc]? = some (.jump .divide)) :
    Honest arithmetic index environment program pc registers (registers.r1 = 0) := by
  rcases divide_leads arithmetic index environment registers with
    ⟨defined, leads⟩ | ⟨divisor, leads⟩
  · exact .inl (.jumpWithin fetched defined leads)
  · refine .inr ⟨divisor, .jumpWithin fetched trivial ?_⟩
    exact leads.imp fun _ ⟨returns, large, _⟩ => ⟨returns, large⟩

/-- Rounding leaves the largest word as it is, since the divisor is still zero. -/
theorem divideRound_honest :
    Honest arithmetic index environment .divideRound 0 registers (registers.r1 = 0) := by
  rcases divide_leads arithmetic index environment (registers.set .r3 registers.r1) with
    ⟨defined, between, returns, _⟩ | ⟨divisor, leads⟩
  · exact .data rfl rfl rfl (.callOf rfl defined returns (.jump rfl trivial adjust_honest))
  · refine .inr ⟨divisor, .data rfl rfl rfl (.callWithin rfl trivial leads ?_)⟩
    rintro between ⟨large, kept⟩
    have stillZero : between.r3 = 0 := kept.trans divisor
    refine .jumpWithin rfl trivial (.taken rfl rfl rfl ?_ (.done rfl large))
    simp [skips, Registers.get, Word.isZero, stillZero]

theorem mulDivRound_honest :
    Honest arithmetic index environment .mulDivRound 0 registers (registers.r3 = 0) := by
  obtain ⟨between, returns, same⟩ : Leads (table arithmetic) index Defined environment .multiply 0
    registers _ := kernel_leads rfl
  have divisor : between.r3 = registers.r3 := (same .r3 rfl).symm
  rw [← divisor]
  exact .callOf rfl trivial returns (.data rfl rfl rfl (.jump rfl trivial divideRound_honest))

theorem toMicros_honest :
    Honest arithmetic index environment .toMicros 0 registers
      ((Environment.cyclesPerSecond environment).toUInt64 = 0) :=
  .data rfl rfl rfl (.data rfl rfl rfl (.jump rfl trivial mulDivRound_honest))

theorem remainingFuel_honest
    (clock : (Environment.cyclesPerSecond environment).toUInt64 ≠ 0)
    (filled : (Environment.setting environment .microsPerQuantity).toUInt64 ≠ 0) :
    Honest arithmetic index environment .remainingFuel 0 registers cause := by
  refine .data rfl rfl rfl ?_
  refine .call rfl trivial toMicros_honest clock fun micros => ?_
  refine .data rfl rfl rfl ?_
  refine .data rfl rfl rfl ?_
  refine .call rfl trivial mulDivRound_honest filled fun burnt => ?_
  refine .data rfl rfl rfl ?_
  refine .either rfl rfl rfl ?_ ?_
  · exact .data rfl rfl rfl (.data rfl rfl rfl (.done rfl))
  · exact .data rfl rfl rfl (.done rfl)

/-- The programs that price an amount of fuel look at the fuel factor before they call. -/
theorem cost_honest
    (code : table arithmetic program = [.loadSetting .r3 .microsPerQuantity, .skipIfZero .r3 4,
      .call callee, .loadSetting .r1 .fuelCost, .loadConstant .r3 .decimalPoint,
      .jump .mulDivRound, .jump .overflow])
    (entered : ∀ registers, Defined callee registers)
    (called : ∀ registers,
      (Environment.setting environment .microsPerQuantity).toUInt64 ≠ 0 →
        Honest arithmetic index environment callee 0 registers False) :
    Honest arithmetic index environment program 0 registers cause := by
  have fetched (place : Nat) := congrArg (·[place]?) code
  refine .data (fetched 0) rfl rfl ?_
  apply Honest.ifZero (fetched 1) (by rw [code]; rfl)
  · exact .jump (fetched 6) trivial overflow_honest
  · intro filled
    refine .call (fetched 2) (entered _) (called _ filled) not_false fun amount => ?_
    refine .data (fetched 3) rfl rfl ?_
    refine .data (fetched 4) rfl rfl ?_
    exact .jump (fetched 5) trivial (mulDivRound_honest.of_not (show (1000 : UInt64) ≠ 0 by decide))

theorem voltage_honest {channel : UInt8} {reading : UInt16}
    (code : table arithmetic program = [.loadVoltage .r2 channel, .loadConstant .r1 .adcReference,
      .loadConstant .r3 .adcFullScale, .jump .mulDivRound])
    (sampled : Environment.reading? environment channel = some reading) :
    Honest arithmetic index environment program 0 registers cause := by
  have performed : perform index registers environment (.loadVoltage .r2 channel) =
      .ok (registers.set .r2 reading.toUInt64, environment) := by simp only [perform, sampled]
  have fetched (place : Nat) := congrArg (·[place]?) code
  refine .data (fetched 0) rfl performed ?_
  refine .data (fetched 1) rfl rfl ?_
  refine .data (fetched 2) rfl rfl ?_
  exact .jump (fetched 3) trivial (mulDivRound_honest.of_not (show (1024 : UInt64) ≠ 0 by decide))

section

variable {trip : Trip}
  (counted : ∀ counter, Environment.counter? environment index counter = some (trip.get counter))

include counted

theorem fuelUsed_honest (clock : (Environment.cyclesPerSecond environment).toUInt64 ≠ 0) :
    Honest arithmetic index environment .fuelUsed 0 registers
      ((Environment.setting environment .microsPerQuantity).toUInt64 = 0) := by
  refine .counter rfl (counted _) ?_
  refine .call rfl trivial toMicros_honest clock fun micros => ?_
  refine .data rfl rfl rfl ?_
  refine .data rfl rfl rfl ?_
  exact .jump rfl trivial mulDivRound_honest

theorem fuelRate_honest :
    Honest arithmetic index environment .fuelRate 0 registers
      ((Environment.setting environment .microsPerQuantity).toUInt64 = 0) := by
  refine .counter rfl (counted _) ?_
  refine .ifZero rfl rfl (.data rfl rfl rfl (.done rfl)) fun turned => ?_
  refine .counter rfl (counted _) ?_
  refine .data rfl rfl rfl ?_
  refine .call rfl trivial mulDivRound_honest turned fun share => ?_
  refine .data rfl rfl rfl ?_
  refine .data rfl rfl rfl ?_
  exact .jump rfl trivial mulDivRound_honest

theorem timeToEmpty_honest
    (clock : (Environment.cyclesPerSecond environment).toUInt64 ≠ 0)
    (filled : (Environment.setting environment .microsPerQuantity).toUInt64 ≠ 0) :
    Honest arithmetic index environment .timeToEmpty 0 registers cause := by
  refine .counter rfl (counted _) ?_
  refine .ifZero rfl rfl (.jump rfl trivial overflow_honest) fun burnt => ?_
  refine .call rfl trivial (remainingFuel_honest clock filled) not_false fun left => ?_
  refine .counter rfl (counted _) ?_
  refine .counter rfl (counted _) ?_
  refine .call rfl trivial mulDivRound_honest burnt fun cycles => ?_
  refine .data rfl rfl rfl ?_
  refine .data rfl rfl rfl ?_
  refine .call rfl trivial mulDivRound_honest (show (1000000 : UInt64) ≠ 0 by decide)
    fun thousandths => ?_
  refine .data rfl rfl rfl ?_
  exact .jump rfl trivial (divideRound_honest.of_not (show (1000 : UInt64) ≠ 0 by decide))

theorem distance_honest :
    Honest arithmetic index environment .distance 0 registers
      ((Environment.setting environment .pulsesPerDistance).toUInt64 = 0) := by
  refine .counter rfl (counted _) ?_
  refine .data rfl rfl rfl ?_
  refine .data rfl rfl rfl ?_
  exact .jump rfl trivial mulDivRound_honest

theorem speed_honest : Honest arithmetic index environment .speed 0 registers cause := by
  refine .data rfl rfl rfl ?_
  refine .ifZero rfl rfl (.jump rfl trivial overflow_honest) fun spaced => ?_
  refine .counter rfl (counted _) ?_
  refine .ifZero rfl rfl (.data rfl rfl rfl (.done rfl)) fun moved => ?_
  refine .counter rfl (counted _) ?_
  refine .data rfl rfl rfl ?_
  refine .data rfl rfl rfl ?_
  refine .call rfl trivial mulDivRound_honest spaced fun hourly => ?_
  refine .data rfl rfl rfl ?_
  refine .counter rfl (counted _) ?_
  exact .jump rfl trivial (mulDivRound_honest.of_not moved)

theorem distanceToEmpty_honest
    (clock : (Environment.cyclesPerSecond environment).toUInt64 ≠ 0)
    (filled : (Environment.setting environment .microsPerQuantity).toUInt64 ≠ 0) :
    Honest arithmetic index environment .distanceToEmpty 0 registers cause := by
  refine .data rfl rfl rfl ?_
  refine .ifZero rfl rfl (.jump rfl trivial overflow_honest) fun spaced => ?_
  refine .counter rfl (counted _) ?_
  refine .ifZero rfl rfl (.jump rfl trivial overflow_honest) fun burnt => ?_
  refine .call rfl trivial (remainingFuel_honest clock filled) not_false fun left => ?_
  refine .counter rfl (counted _) ?_
  refine .data rfl rfl rfl ?_
  refine .call rfl trivial mulDivRound_honest spaced fun share => ?_
  refine .data rfl rfl rfl ?_
  refine .counter rfl (counted _) ?_
  refine .call rfl trivial mulDivRound_honest burnt fun micros => ?_
  refine .data rfl rfl rfl ?_
  refine .data rfl rfl rfl ?_
  exact .jump rfl trivial (mulDivRound_honest.of_not (show (1000000 : UInt64) ≠ 0 by decide))

theorem engineSpeed_honest :
    Honest arithmetic index environment .engineSpeed 0 registers cause := by
  have multiplies (registers : Registers) :
      Honest arithmetic index environment .multiply 0 registers False :=
    .inl ((kernel_leads rfl).imp fun _ ⟨returns, _⟩ => ⟨returns, trivial⟩)
  refine .counter rfl (counted _) ?_
  refine .ifZero rfl rfl ?_ fun turned => ?_
  · exact .data rfl rfl rfl (.done rfl)
  · refine .counter rfl (counted _) ?_
    refine .data rfl rfl rfl ?_
    refine .call rfl trivial (multiplies _) not_false fun minutes => ?_
    refine .data rfl rfl rfl ?_
    refine .call rfl trivial (multiplies _) not_false fun revolutions => ?_
    refine .data rfl rfl rfl ?_
    refine .counter rfl (counted _) ?_
    exact .jump rfl trivial (mulDivRound_honest.of_not turned)

/-- The stretch of code that two programs have in common. -/
theorem reach_honest {rest : List Instruction}
    (code : (table arithmetic program).drop pc = [.loadCounter .r2 .vssPulses,
      .loadSetting .r1 .microsPerQuantity, .loadSetting .r3 .pulsesPerDistance, .call .mulDivRound,
      .loadConstant .r1 .cyclesPerSecond, .loadCounter .r3 .injectorOpenCycles,
      .call .mulDivRound] ++ rest)
    (spaced : (Environment.setting environment .pulsesPerDistance).toUInt64 ≠ 0)
    (burnt : trip.get .injectorOpenCycles ≠ 0)
    (goesOn : ∀ between,
      Honest arithmetic index environment program (pc + 7) between cause) :
    Honest arithmetic index environment program pc registers cause := by
  have fetched (place : Nat) : (table arithmetic program)[pc + place]? =
      ((table arithmetic program).drop pc)[place]? := List.getElem?_drop.symm
  rw [code] at fetched
  refine .counter (fetched 0) (counted _) ?_
  refine .data (fetched 1) rfl rfl ?_
  refine .data (fetched 2) rfl rfl ?_
  refine .call (fetched 3) trivial mulDivRound_honest spaced fun micros => ?_
  refine .data (fetched 4) rfl rfl ?_
  refine .counter (fetched 5) (counted _) ?_
  exact .call (fetched 6) trivial mulDivRound_honest burnt goesOn

theorem fuelEconomy_honest
    (clock : Environment.metric environment = true →
      (Environment.cyclesPerSecond environment).toUInt64 ≠ 0) :
    Honest arithmetic index environment .fuelEconomy 0 registers cause := by
  cases metric : Environment.metric environment with
  | true =>
      refine .taken rfl rfl rfl metric ?_
      refine .counter rfl (counted _) ?_
      refine .ifZero rfl rfl (.jump rfl trivial overflow_honest) fun moved => ?_
      refine .data rfl rfl rfl ?_
      refine .ifZero rfl rfl (.jump rfl trivial overflow_honest) fun filled => ?_
      refine .counter rfl (counted _) ?_
      refine .call rfl trivial toMicros_honest (clock metric) fun micros => ?_
      refine .data rfl rfl rfl ?_
      refine .counter rfl (counted _) ?_
      refine .call rfl trivial mulDivRound_honest moved fun spent => ?_
      refine .data rfl rfl rfl ?_
      refine .data rfl rfl rfl ?_
      exact .jump rfl trivial (mulDivRound_honest.of_not filled)
  | false =>
      refine .passed rfl rfl metric ?_
      refine .data rfl rfl rfl ?_
      refine .ifZero rfl rfl (.jump rfl trivial overflow_honest) fun spaced => ?_
      refine .counter rfl (counted _) ?_
      refine .ifZero rfl rfl (.jump rfl trivial overflow_honest) fun burnt => ?_
      refine reach_honest counted rfl spaced burnt fun reach => ?_
      refine .data rfl rfl rfl ?_
      exact .jump rfl trivial (divideRound_honest.of_not (show (1000 : UInt64) ≠ 0 by decide))

theorem fuelCostPerDistance_honest
    (clock : (Environment.cyclesPerSecond environment).toUInt64 ≠ 0) :
    Honest arithmetic index environment .fuelCostPerDistance 0 registers cause := by
  refine .counter rfl (counted _) ?_
  refine .ifZero rfl rfl (.jump rfl trivial overflow_honest) fun moved => ?_
  refine .data rfl rfl rfl ?_
  refine .ifZero rfl rfl (.jump rfl trivial overflow_honest) fun filled => ?_
  refine .call rfl trivial (cost_honest rfl (fun _ => trivial) fun _ filled =>
    (fuelUsed_honest counted clock).of_not filled) not_false fun spent => ?_
  refine .data rfl rfl rfl ?_
  refine .counter rfl (counted _) ?_
  exact .jump rfl trivial (mulDivRound_honest.of_not moved)

theorem distancePerFuelCost_honest :
    Honest arithmetic index environment .distancePerFuelCost 0 registers
      ((Environment.setting environment .fuelCost).toUInt64 = 0) := by
  refine .data rfl rfl rfl ?_
  refine .ifZero rfl rfl (.jump rfl trivial overflow_honest) fun spaced => ?_
  refine .counter rfl (counted _) ?_
  refine .ifZero rfl rfl (.jump rfl trivial overflow_honest) fun burnt => ?_
  refine reach_honest counted rfl spaced burnt fun reach => ?_
  refine .data rfl rfl rfl ?_
  exact .jump rfl trivial divideRound_honest

theorem micros_honest (counter : Counter)
    (code : table arithmetic program = [.loadCounter .r2 counter, .jump .toMicros]) :
    Honest arithmetic index environment program 0 registers
      ((Environment.cyclesPerSecond environment).toUInt64 = 0) := by
  have fetched (place : Nat) := congrArg (·[place]?) code
  exact .counter (fetched 0) (counted _) (.jump (fetched 1) trivial toMicros_honest)

theorem seconds_honest (counter : Counter)
    (code : table arithmetic program =
      [.loadCounter .r2 counter, .loadConstant .r1 .cyclesPerSecond, .jump .divide]) :
    Honest arithmetic index environment program 0 registers
      ((Environment.cyclesPerSecond environment).toUInt64 = 0) := by
  have fetched (place : Nat) := congrArg (·[place]?) code
  refine .counter (fetched 0) (counted _) ?_
  exact .data (fetched 1) rfl rfl (jump_divide_honest (fetched 2))

theorem pulses_honest (counter : Counter)
    (code : table arithmetic program = [.loadCounter .r2 counter, .done]) :
    Honest arithmetic index environment program 0 registers cause := by
  have fetched (place : Nat) := congrArg (·[place]?) code
  exact .counter (fetched 0) (counted _) (.done (fetched 1))

/-- Every quantity program is honest, where no zero stands in for the clock or the fuel factor
in the middle of it. -/
theorem value_honest (quantity : Quantity)
    (clock : quantity.needsClock (Environment.metric environment) = true →
      (Environment.cyclesPerSecond environment).toUInt64 ≠ 0)
    (factor : quantity.needsFactor = true →
      (Environment.setting environment .microsPerQuantity).toUInt64 ≠ 0)
    (sampled : ∀ channel ∈ quantity.channel?, Environment.reading? environment channel ≠ none) :
    Honest arithmetic index environment quantity.program 0 registers True := by
  cases quantity with
  | fuelUsed => exact (fuelUsed_honest counted (clock rfl)).anyway
  | fuelRate => exact (fuelRate_honest counted).anyway
  | timeToEmpty => exact timeToEmpty_honest counted (clock rfl) (factor rfl)
  | distance => exact (distance_honest counted).anyway
  | speed => exact speed_honest counted
  | fuelEconomy => exact fuelEconomy_honest counted clock
  | remainingFuel => exact remainingFuel_honest (clock rfl) (factor rfl)
  | distanceToEmpty => exact distanceToEmpty_honest counted (clock rfl) (factor rfl)
  | engineSpeed => exact engineSpeed_honest counted
  | engineRunTime => exact (seconds_honest counted .injectorCycles rfl).anyway
  | motionTime => exact (seconds_honest counted .vssCycles rfl).anyway
  | injectorOpenTime => exact (micros_honest counted .injectorOpenCycles rfl).anyway
  | injectorTotalTime => exact (micros_honest counted .injectorCycles rfl).anyway
  | vssTotalTime => exact (micros_honest counted .vssCycles rfl).anyway
  | injectorPulses => exact pulses_honest counted .injectorPulses rfl
  | vssPulses => exact pulses_honest counted .vssPulses rfl
  | fuelCost =>
      exact cost_honest rfl (fun _ => trivial) fun _ filled =>
        (fuelUsed_honest counted (clock rfl)).of_not filled
  | fuelRateCost =>
      exact cost_honest rfl (fun _ => trivial) fun _ filled =>
        (fuelRate_honest counted).of_not filled
  | remainingFuelCost =>
      exact cost_honest rfl (fun _ => trivial) fun _ filled =>
        remainingFuel_honest (clock rfl) filled
  | fuelCostPerDistance => exact fuelCostPerDistance_honest counted (clock rfl)
  | distancePerFuelCost => exact (distancePerFuelCost_honest counted).anyway
  | voltage0 | voltage1 =>
      obtain ⟨reading, found⟩ := Option.ne_none_iff_exists'.mp (sampled _ rfl)
      exact voltage_honest rfl found

end

/-- Without a reading, the program of a channel stops where it starts. -/
theorem not_entering_of_unsampled {channel : UInt8} {rest : List Instruction} {machine : Machine}
    {count : Nat} {state : State σ}
    (code : table arithmetic program = .loadVoltage .r2 channel :: rest)
    (missing : Environment.reading? environment channel = none)
    (reached : Reaches (table arithmetic) index count (machine.start environment program) state) :
    ¬Entering (table arithmetic) state callee := by
  have fetched : (table arithmetic program)[0]? = some (.loadVoltage .r2 channel) := by
    rw [code]
    rfl
  cases reached with
  | refl =>
      rintro ⟨instruction, same, passes⟩
      cases fetched.symm.trans same
      cases passes
  | head running _ =>
      have stopped : step (table arithmetic) index (machine.start environment program) =
          .faulted (.unknownChannel channel) (machine.start environment program) := by
        rw [step_of_fetched fetched, State.traced_eq_self rfl, apply_data rfl]
        simp only [perform, Machine.start, missing]
      cases stopped.symm.trans running

end Catalog

namespace Calculator

open Catalog Machine

/-- Where a division by zero is entered on the way of an evaluation, the result is no value and is
shown as none. -/
theorem evaluate_overflows {σ : Type} [Environment σ] (calculator : Calculator) (environment : σ)
    (index : UInt8) (trip : Trip)
    (counted : ∀ counter, Environment.counter? environment index counter = some (trip.get counter))
    (quantity : Quantity)
    (clock : quantity.needsClock (Environment.metric environment) = true →
      Environment.cyclesPerSecond environment ≠ 0)
    (factor : quantity.needsFactor = true →
      Environment.setting environment .microsPerQuantity ≠ 0)
    {count : Nat} {state : State σ}
    (reached : Reaches (table calculator.arithmetic) index count
      ((calculator.machine.setRegister .r2 0).start environment quantity.program) state)
    (entering : Entering (table calculator.arithmetic) state .divide)
    (divisor : state.registers.r1 = 0) (dividend : state.registers.r2 ≠ 0) :
    ∃ raw, (calculator.evaluate environment quantity index).1 = .ok ⟨quantity, raw⟩ ∧
      Reading.ofRaw raw = .overflow ∧
      Display.Gives (Display.evaluation ⟨quantity, raw⟩) Display.overflowText := by
  have positive {word : UInt32} (nonzero : word ≠ 0) : word.toUInt64 ≠ 0 := by
    simpa [← UInt64.toNat_inj, ← UInt32.toNat_inj] using nonzero
  have sampled : ∀ channel ∈ quantity.channel?, Environment.reading? environment channel ≠ none := by
    intro channel shows missing
    cases quantity with
    | voltage0 | voltage1 =>
        cases shows
        exact not_entering_of_unsampled rfl missing reached entering
    | _ => cases shows
  have honest : Honest calculator.arithmetic index environment quantity.program 0
      (calculator.machine.setRegister .r2 0).registers True :=
    value_honest counted quantity (positive ∘ clock) (positive ∘ factor) sampled
  have ranked := ranked_table calculator.arithmetic
  have room := height_le_stackDepth quantity.program
  rcases honest with ⟨later, returns, _⟩ | ⟨_, later, returns, large⟩
  · exact absurd (returns.allowed ranked _ room reached entering divisor) dividend
  · have ends := halts_start calculator.arithmetic index (calculator.machine.setRegister .r2 0)
      environment quantity.program
    obtain ⟨result, _, _⟩ := run_of_returns ranked _ room ends returns
    refine ⟨later.r2, congrArg (Except.map _) result, ?_,
      Display.evaluation_gives_overflowText large⟩
    rw [Reading.ofRaw, if_pos]
    exact UInt64.le_iff_toNat_le.mpr large

/-- One pulse, and no pulses to the distance. -/
theorem distance_overflows_without_scale :
    let trip : Trip := ⟨1, 0, 0, 0, 0⟩
    let surroundings : Surroundings :=
      ⟨Settings.defaults.put .pulsesPerDistance 0, 312500, 256, none, fun _ => some trip, 0,
        fun _ => none⟩
    ∃ raw, ((new .native).evaluate surroundings .distance 0).1 = .ok ⟨.distance, raw⟩ ∧
      Reading.ofRaw raw = .overflow ∧
      Display.Gives (Display.evaluation ⟨.distance, raw⟩) Display.overflowText := by
  intro trip surroundings
  apply evaluate_overflows (new .native) surroundings 0 trip (fun _ => rfl) .distance nofun nofun
    (reaches_of_advance (show advance _ _ 10 _ = _ from rfl))
  · exact ⟨_, rfl, rfl⟩
  · rfl
  · decide

/-- Without the fuel factor, the remaining fuel is computed with the largest word: the fuel that
was burnt compares as more than the tank holds. -/
theorem remainingFuel_without_factor :
    ¬∀ (calculator : Calculator) (surroundings : Surroundings) (index : UInt8)
      (quantity : Quantity) (count : Nat) (state : State Surroundings),
      (∀ setting, surroundings.settings.get setting ≤ setting.maxValue) →
      (∀ counter, Environment.counter? surroundings index counter ≠ none) →
      Reaches (table calculator.arithmetic) index count
        ((calculator.machine.setRegister .r2 0).start surroundings quantity.program) state →
      Entering (table calculator.arithmetic) state .divide →
      state.registers.r1 = 0 → state.registers.r2 ≠ 0 →
      ∃ raw, (calculator.evaluate surroundings quantity index).1 = .ok ⟨quantity, raw⟩ ∧
        Reading.ofRaw raw = .overflow := by
  intro claim
  let surroundings : Surroundings :=
    ⟨Settings.defaults.put .microsPerQuantity 0, 312500, 256, none, fun _ => some ⟨0, 0, 0, 0, 0⟩,
      312500, fun _ => none⟩
  have evaluated : ((new .native).evaluate surroundings .remainingFuel 0).1 =
      .ok ⟨.remainingFuel, 0⟩ := by
    cbv
  have passes : (advance (table .native) 0 28
      (((new .native).machine.setRegister .r2 0).start surroundings .remainingFuel)).any
        (fun state => (table .native state.program)[state.pc]? == some (.call .divide) &&
          state.registers.r1 == 0 && state.registers.r2 != 0) = true := by
    decide +kernel
  obtain ⟨state, advanced, holds⟩ := (Option.any_eq_true _ _).mp passes
  simp only [Bool.and_eq_true, beq_iff_eq, bne_iff_ne] at holds
  obtain ⟨⟨fetched, divisor⟩, dividend⟩ := holds
  have inRange : ∀ setting, surroundings.settings.get setting ≤ setting.maxValue := by
    intro setting
    cases setting <;> decide
  obtain ⟨raw, ended, overflow⟩ := claim (new .native) surroundings 0 .remainingFuel 28 state
    inRange (fun _ => Option.some_ne_none _) (reaches_of_advance advanced) ⟨_, fetched, rfl⟩
    divisor dividend
  cases evaluated.symm.trans ended
  cases overflow

end Calculator

end TripComputer
