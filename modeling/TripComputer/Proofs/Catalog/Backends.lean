import TripComputer.Proofs.Catalog.Budget

/-!
# The two arithmetics compute the same

The catalogs for the two arithmetics differ only in the kernel programs, which take different
numbers of instructions and leave different values in the scratch registers.  No other
program reads these registers, so runs over the two catalogs that start alike pass through
alike states wherever neither is inside a kernel program, and end alike.
-/

namespace TripComputer

namespace Registers

theorem AgreeOn.symm {kept : Register → Prop} {first second : Registers}
    (agree : AgreeOn kept first second) : AgreeOn kept second first :=
  fun register keptRegister => (agree register keptRegister).symm

theorem AgreeOn.trans {kept : Register → Prop} {first second third : Registers}
    (agree : AgreeOn kept first second) (further : AgreeOn kept second third) :
    AgreeOn kept first third :=
  fun register keptRegister => (agree register keptRegister).trans (further register keptRegister)

theorem sameResults_iff {first second : Registers} :
    SameResults first second ↔
      first.r1 = second.r1 ∧ first.r2 = second.r2 ∧ first.r3 = second.r3 := by
  constructor
  · intro same
    exact ⟨same .r1 rfl, same .r2 rfl, same .r3 rfl⟩
  · rintro ⟨r1, r2, r3⟩ register results
    cases register with
    | r1 => exact r1
    | r2 => exact r2
    | r3 => exact r3
    | r4 | r5 => cases results

end Registers

/-- What a kernel program computes does not depend on the scratch registers. -/
theorem Program.kernelResult_alike (program : Program) {first second : Registers}
    (same : Registers.SameResults first second) :
    Registers.SameResults (program.kernelResult first) (program.kernelResult second) := by
  obtain ⟨r1, r2, _⟩ := Registers.sameResults_iff.mp same
  cases program with
  | multiply => exact same.set .r2 (by rw [r1, r2])
  | divide => exact (same.set .r2 (by rw [r1, r2])).set .r1 (by rw [r1, r2])
  | _ => exact same

namespace Catalog

open Machine

variable {σ : Type} {first second : State σ}

/-- States that differ at most in the scratch registers. -/
abbrev SameState : State σ → State σ → Prop :=
  State.Alike fun register => register.isScratch = false

theorem Poised.of_alike (poised : Poised first) (alike : SameState first second) :
    Poised second := by
  obtain ⟨entry, callers, _⟩ := poised
  obtain ⟨_, stack, program, pc, _, untraced⟩ := alike
  exact ⟨program ▸ pc ▸ entry, stack ▸ callers, untraced.2⟩

/-- Two kernel programs with the same operands leave the same results. -/
theorem SameState.results (alike : SameState first second) {left right : Registers}
    (leftSame : Registers.SameResults (first.program.kernelResult first.registers) left)
    (rightSame : Registers.SameResults (second.program.kernelResult second.registers) right) :
    Registers.SameResults left right := by
  have results := Program.kernelResult_alike first.program alike.registers
  rw [alike.program] at results leftSame
  exact leftSame.symm.trans (results.trans rightSame)

variable [Environment σ]

/-- A run that ends in a kernel program ends with its result. -/
theorem Poised.execute_finishes (arithmetic : Arithmetic) (index : UInt8) {steps : Nat}
    {state : State σ} (poised : Poised state) (kernel : state.program.isKernel = true)
    (enough : remaining arithmetic state < steps) (noCallers : state.stack = []) :
    ∃ pc later, Registers.SameResults (state.program.kernelResult state.registers) later ∧
      execute (table arithmetic) index steps state =
        (state.within state.program pc later).stop none := by
  obtain ⟨count, pc, later, few, reached, fetched, same⟩ := poised.leaves arithmetic index kernel
  have ends := step_done index later fetched
  rw [noCallers] at ends
  have whole : arithmetic.kernelCost state.program ≤ remaining arithmetic state := by
    simp [remaining, ahead, kernel]
  obtain ⟨rest, rfl⟩ : ∃ rest, steps = count + (rest + 1) := ⟨steps - (count + 1), by omega⟩
  refine ⟨pc, later, same, ?_⟩
  rw [execute_of_reaches reached, execute, ends]

/-- A run in a kernel program goes on in the caller with its result. -/
theorem Poised.execute_returns (arithmetic : Arithmetic) (index : UInt8) {steps : Nat}
    {state : State σ} (poised : Poised state) (kernel : state.program.isKernel = true)
    (enough : remaining arithmetic state < steps) {frame : Frame} {stack : List Frame}
    (callers : state.stack = frame :: stack) :
    ∃ later rest, Registers.SameResults (state.program.kernelResult state.registers) later ∧
      rest < steps ∧ Poised (back state frame stack later) ∧
      remaining arithmetic (back state frame stack later) < rest ∧
      execute (table arithmetic) index steps state =
        execute (table arithmetic) index rest (back state frame stack later) := by
  obtain ⟨count, pc, later, few, reached, fetched, same⟩ := poised.leaves arithmetic index kernel
  have goesOn := step_done index later fetched
  rw [callers] at goesOn
  obtain ⟨stillPoised, less⟩ := poised.returns arithmetic kernel callers later
  obtain ⟨rest, rfl⟩ : ∃ rest, steps = count + (rest + 1) := ⟨steps - (count + 1), by omega⟩
  refine ⟨later, rest, same, by omega, stillPoised, by omega, ?_⟩
  rw [execute_of_reaches reached, execute, goesOn]

/-- Runs over the two catalogs end alike, where each has the budget that its own arithmetic
needs. -/
theorem execute_alike (left right : Arithmetic) (index : UInt8) {leftSteps rightSteps : Nat}
    (alike : SameState first second) (poised : Poised first)
    (leftEnough : remaining left first < leftSteps)
    (rightEnough : remaining right second < rightSteps) :
    Run.Alike (fun register => register.isScratch = false)
      (execute (table left) index leftSteps first)
      (execute (table right) index rightSteps second) := by
  induction leftSteps using Nat.strongRecOn generalizing first second rightSteps with
  | ind leftSteps induction =>
      have poisedRight := poised.of_alike alike
      by_cases kernel : first.program.isKernel = true
      · have kernelRight : second.program.isKernel = true := alike.program ▸ kernel
        cases callers : first.stack with
        | nil =>
            obtain ⟨leftPc, leftLater, leftSame, leftRun⟩ :=
              poised.execute_finishes left index kernel leftEnough callers
            obtain ⟨rightPc, rightLater, rightSame, rightRun⟩ :=
              poisedRight.execute_finishes right index kernelRight rightEnough
                (alike.stack ▸ callers)
            have same := alike.results leftSame rightSame
            rw [leftRun, rightRun]
            exact ⟨congrArg Except.ok (same .r2 rfl), same, alike.environment⟩
        | cons frame stack =>
            obtain ⟨leftLater, leftRest, leftSame, fewer, stillPoised, leftMore, leftRun⟩ :=
              poised.execute_returns left index kernel leftEnough callers
            obtain ⟨rightLater, rightRest, rightSame, _, _, rightMore, rightRun⟩ :=
              poisedRight.execute_returns right index kernelRight rightEnough
                (alike.stack ▸ callers)
            have same := alike.results leftSame rightSame
            rw [leftRun, rightRun]
            exact induction leftRest fewer
              ⟨same, rfl, rfl, rfl, alike.environment, rfl, rfl⟩ stillPoised leftMore rightMore
      · have plain : first.program.isKernel = false := by simpa using kernel
        obtain ⟨leftRest, rfl⟩ : ∃ rest, leftSteps = rest + 1 := ⟨leftSteps - 1, by omega⟩
        obtain ⟨rightRest, rfl⟩ : ∃ rest, rightSteps = rest + 1 := ⟨rightSteps - 1, by omega⟩
        have progress := step_alike index alike
          (table_eq_of_not_isKernel left right plain)
          fun instruction member =>
            have kept := instruction.isPlain_iff.mp
              (isPlain_of_not_isKernel left plain instruction member)
            ⟨kept.1, kept.2.1⟩
        have leftLess : ∀ {next}, step (table left) index first = .running next →
            Poised next ∧ remaining left next < remaining left first :=
          fun running => poised.step plain running
        have rightLess : ∀ {next}, step (table right) index second = .running next →
            Poised next ∧ remaining right next < remaining right second :=
          fun running => poisedRight.step (alike.program ▸ plain) running
        rw [execute, execute]
        generalize step (table left) index first = leftProgress at progress leftLess ⊢
        generalize step (table right) index second = rightProgress at progress rightLess ⊢
        cases progress with
        | running stillAlike =>
            obtain ⟨stillPoised, leftMore⟩ := leftLess rfl
            obtain ⟨_, rightMore⟩ := rightLess rfl
            exact induction leftRest (Nat.lt_succ_self _) stillAlike stillPoised (by omega)
              (by omega)
        | finished stillAlike => exact stillAlike.stop rfl none
        | faulted fault stillAlike => exact stillAlike.stop rfl (some fault)

/-- No program can tell the two arithmetics apart: from registers that agree outside the
scratch registers, a run has the same result, value or fault, and leaves the same registers
and the same surroundings. -/
theorem native_run_eq_primitive_run (entry : Program) (environment : σ) (index : UInt8)
    (machine other : Machine)
    (operands : machine.registers.r1 = other.registers.r1 ∧
      machine.registers.r2 = other.registers.r2 ∧ machine.registers.r3 = other.registers.r3) :
    let native := machine.run (table .native) environment entry index
    let primitive := other.run (table .primitive) environment entry index
    native.result = primitive.result ∧
      (native.machine.registers.r1 = primitive.machine.registers.r1 ∧
        native.machine.registers.r2 = primitive.machine.registers.r2 ∧
        native.machine.registers.r3 = primitive.machine.registers.r3) ∧
      native.environment = primitive.environment := by
  have alike : SameState (machine.start environment entry) (other.start environment entry) :=
    ⟨Registers.sameResults_iff.mpr operands, rfl, rfl, rfl, rfl, rfl, rfl⟩
  have enough : ∀ (arithmetic : Arithmetic) (machine : Machine),
      remaining arithmetic (machine.start environment entry) < stepLimit := by
    intro arithmetic machine
    rw [remaining_start]
    exact budget_lt_stepLimit arithmetic entry
  obtain ⟨result, registers, surroundings⟩ :=
    execute_alike .native .primitive index alike (.start machine environment entry)
      (enough .native machine) (enough .primitive other)
  exact ⟨result, Registers.sameResults_iff.mp registers, surroundings⟩

/-- Seventeen over five, with different values left in the scratch registers. -/
theorem divideRound_of_different_scratch :
    let surroundings : Surroundings :=
      ⟨.defaults, 20000000, 65536, none, fun _ => none, 0, fun _ => none⟩
    let machine : Machine := ⟨⟨5, 17, 0, 0, 0⟩, [], false⟩
    let other : Machine := ⟨⟨5, 17, 0, 8, 9⟩, [], false⟩
    (machine.run (table .native) surroundings .divideRound 0).result = .ok 3 ∧
      (other.run (table .primitive) surroundings .divideRound 0).result = .ok 3 := by
  intro surroundings machine other
  have agree := native_run_eq_primitive_run .divideRound surroundings 0 machine other
    ⟨rfl, rfl, rfl⟩
  have native : (machine.run (table .native) surroundings .divideRound 0).result = .ok 3 := by
    cbv
  exact ⟨native, agree.1.symm.trans native⟩

end Catalog

end TripComputer
