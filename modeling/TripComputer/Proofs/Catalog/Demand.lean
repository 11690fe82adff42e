import TripComputer.Calculator
import TripComputer.Proofs.Catalog.Rounding
import TripComputer.Proofs.Machine.Demand

/-!
# The catalog reads nothing that was left behind

`Program.takes` says what each program takes from its caller.  Every other register it writes
before it reads it, on every path, so that a quantity takes nothing at all.
-/

namespace TripComputer

/-- The registers in which a program is given its operands. -/
def Program.takes : Program → List Register
  | .multiply | .divide | .divideRound => [.r1, .r2]
  | .adjust | .mulDivRound => [.r1, .r2, .r3]
  | .toMicros | .roundOff | .formatNumber | .formatTime => [.r2]
  | _ => []

namespace Catalog

open Machine

/-- What an instruction demands, with the demands of the positions behind it. -/
def demandBefore (instruction : Instruction) (later : List (List Register)) : List Register :=
  instruction.reads ++ instruction.callee?.elim [] Program.takes ++
    instruction.distance?.elim [] (fun distance => later.getD distance.toInt.toNat []) ++
    if instruction.isTerminal then []
    else (later.headD []).filter (· ∉ instruction.writes)

/-- The demands of the positions of a stretch of code. -/
def demands (code : List Instruction) : List (List Register) :=
  code.foldr (fun instruction later => demandBefore instruction later :: later) []

/-- What the catalog demands at a position of a program. -/
def demand : Demand := fun program pc =>
  (demands (table .native program)).getD pc []

theorem meets_demand : (table .native).Meets demand := by
  have checked : ∀ program, ∀ pc < (table .native program).length,
      ∀ instruction ∈ (table .native program)[pc]?,
        instruction.isTrace = false ∧ (table .native).Covers demand program pc instruction := by
    intro program
    cases program <;> decide +kernel
  intro program pc instruction fetched
  exact checked program pc (List.getElem?_eq_some_iff.mp fetched).1 instruction fetched

/-- A call leaves its answer in register 2, and so the code behind it counts as demanding that
register even before the call. -/
theorem mem_takes_of_demand (program : Program) :
    ∀ register ∈ demand program 0, register = .r2 ∨ register ∈ program.takes := by
  cases program <;> decide +kernel

variable {σ : Type} [Environment σ]

/-- Whatever else the registers hold, a program answers the same from the same operands, in
either arithmetic. -/
theorem run_of_operands (left right : Arithmetic) {machine other : Machine} (environment : σ)
    (entry : Program) (index : UInt8)
    (operands : Registers.AgreeOn (fun register => register = .r2 ∨ register ∈ entry.takes)
      machine.registers other.registers) :
    Run.Alike (· = .r2) (machine.run (table left) environment entry index)
      (other.run (table right) environment entry index) := by
  have native : Run.Alike (· = .r2) (machine.run (table .native) environment entry index)
      (other.run (table .native) environment entry index) := by
    apply run_determined meets_demand
    apply operands.mono
    rintro register (rfl | demanded)
    · exact .inl rfl
    · exact mem_takes_of_demand entry register demanded
  have leftAlike := run_alike left .native machine environment entry index
  have rightAlike := run_alike .native right other environment entry index
  constructor
  · exact leftAlike.result.trans (native.result.trans rightAlike.result)
  · rintro _ rfl
    exact (leftAlike.registers .r2 rfl).trans
      ((native.registers .r2 rfl).trans (rightAlike.registers .r2 rfl))
  · exact leftAlike.environment.trans (native.environment.trans rightAlike.environment)

end Catalog

/-- A program without operands answers alike on every calculator. -/
theorem Calculator.call_result_eq {σ : Type} [Environment σ] (calculator other : Calculator)
    (environment : σ) {program : Program}
    (bare : program.takes = []) (index : UInt8) :
    (calculator.call environment program index 0).result =
      (other.call environment program index 0).result := by
  have operands : Registers.AgreeOn (fun register => register = .r2 ∨ register ∈ program.takes)
      (calculator.machine.setRegister .r2 0).registers
      (other.machine.setRegister .r2 0).registers := by
    rintro register (rfl | taken)
    · rfl
    · rw [bare] at taken
      cases taken
  exact (Catalog.run_of_operands calculator.arithmetic other.arithmetic environment program index
    operands).result

end TripComputer
