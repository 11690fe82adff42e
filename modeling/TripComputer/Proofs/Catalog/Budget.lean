import Mathlib.Algebra.GroupWithZero.Nat
import TripComputer.Proofs.Catalog.Kernel

/-!
# Every run of the catalog fits the step budget

Outside the kernel programs the catalog has no loop: every skip goes forward, and calls and
jumps go down.  So the instructions still to come are bounded by a sum over the code ahead,
here and in every caller, with each call counted at the budget of its callee and each kernel
program at its cost.  `Poised.step`, `Poised.leaves` and `Poised.returns` say that the sum goes
down, and `halts_of_remaining` that no run exceeds it.
-/

namespace TripComputer

/-- What every instruction outside the kernel programs keeps to. -/
def Instruction.isPlain (instruction : Instruction) : Bool :=
  !instruction.isTrace &&
    instruction.operands.all (fun register => !register.isScratch) &&
    instruction.distance?.all (fun distance => 0 ≤ distance.toInt)

theorem Instruction.isPlain_iff (instruction : Instruction) :
    instruction.isPlain = true ↔
      instruction.isTrace = false ∧
      (∀ register ∈ instruction.operands, register.isScratch = false) ∧
      ∀ distance, instruction.distance? = some distance → 0 ≤ distance.toInt := by
  cases skip : instruction.distance? <;> simp [isPlain, skip, and_assoc]

/-- A skip that is not backward lands after the skip. -/
theorem succ_le_of_landing? {length pc target : Nat} {distance : Int8}
    (forward : 0 ≤ distance.toInt) (lands : landing? length pc distance = some target) :
    pc + 1 ≤ target := by
  rw [landing?] at lands
  split at lands
  next inside =>
    cases lands
    omega
  next => cases lands

namespace Catalog

open Machine

/-- What one instruction takes, with the program that it passes control to. -/
def weight (budget : Program → Nat) (instruction : Instruction) : Nat :=
  1 + instruction.callee?.elim 0 budget

/-- What a stretch of code takes. -/
def weights (budget : Program → Nat) (code : List Instruction) : Nat :=
  (code.map (weight budget)).sum

/-- What a program takes, its return included, where calls nest no deeper than a level. -/
def budgetWithin (arithmetic : Arithmetic) : (level : Nat) → Program → Nat
  | 0, _ => 0
  | level + 1, program =>
      if program.isKernel then arithmetic.kernelCost program
      else weights (budgetWithin arithmetic level) (table arithmetic program)

/-- What a program takes, its return included. -/
def budget (arithmetic : Arithmetic) : Program → Nat :=
  budgetWithin arithmetic 8

/-- Calls of the catalog nest so little that the budget accounts for all of them. -/
theorem budget_eq (arithmetic : Arithmetic) {program : Program}
    (plain : program.isKernel = false) :
    budget arithmetic program = weights (budget arithmetic) (table arithmetic program) := by
  cases arithmetic <;> cases program <;> first | contradiction | decide +kernel

theorem budget_kernel (arithmetic : Arithmetic) {program : Program}
    (kernel : program.isKernel = true) :
    budget arithmetic program = arithmetic.kernelCost program := by
  rw [budget, budgetWithin, if_pos kernel]

theorem budget_lt_stepLimit (arithmetic : Arithmetic) (program : Program) :
    budget arithmetic program < stepLimit := by
  cases arithmetic <;> cases program <;> decide +kernel

theorem table_eq_of_not_isKernel (first second : Arithmetic) {program : Program}
    (plain : program.isKernel = false) : table first program = table second program := by
  cases program <;> first | rfl | cases plain

theorem isPlain_of_not_isKernel (arithmetic : Arithmetic) {program : Program}
    (plain : program.isKernel = false) :
    ∀ instruction ∈ table arithmetic program, instruction.isPlain = true := by
  rw [table_eq_of_not_isKernel arithmetic .native plain]
  apply List.all_eq_true.mp
  cases program <;> rfl

/-- What is still to come of a program, from a position on. -/
def ahead (arithmetic : Arithmetic) (program : Program) (pc : Nat) : Nat :=
  if program.isKernel then arithmetic.kernelCost program
  else weights (budget arithmetic) ((table arithmetic program).drop pc)

theorem ahead_zero (arithmetic : Arithmetic) (program : Program) :
    ahead arithmetic program 0 = budget arithmetic program := by
  by_cases kernel : program.isKernel = true
  · rw [ahead, if_pos kernel, budget_kernel arithmetic kernel]
  · rw [ahead, if_neg kernel, List.drop_zero, budget_eq arithmetic (by simpa using kernel)]

/-- The code ahead of an instruction is the instruction and the code behind it. -/
theorem ahead_of_fetched {arithmetic : Arithmetic} {program : Program} {pc : Nat}
    {instruction : Instruction} (plain : program.isKernel = false)
    (fetched : (table arithmetic program)[pc]? = some instruction) :
    ahead arithmetic program pc =
      weight (budget arithmetic) instruction + ahead arithmetic program (pc + 1) := by
  obtain ⟨inside, here⟩ := List.getElem?_eq_some_iff.mp fetched
  simp [ahead, plain, List.drop_eq_getElem_cons inside, here, weights]

theorem ahead_anti (arithmetic : Arithmetic) {program : Program} {first second : Nat}
    (plain : program.isKernel = false) (later : first ≤ second) :
    ahead arithmetic program second ≤ ahead arithmetic program first := by
  obtain ⟨distance, rfl⟩ := Nat.exists_eq_add_of_le later
  have split : ((table arithmetic program).drop first) =
      ((table arithmetic program).drop first).take distance ++
        (table arithmetic program).drop (first + distance) := by
    rw [← List.drop_drop, List.take_append_drop]
  simp only [ahead, plain, Bool.false_eq_true, if_false]
  rw [split, weights, weights, List.map_append, List.sum_append]
  exact Nat.le_add_left _ _

/-- What is still to come in the callers. -/
def behind (arithmetic : Arithmetic) (stack : List Frame) : Nat :=
  (stack.map fun frame => ahead arithmetic frame.program frame.pc).sum

variable {σ : Type}

/-- What a run still takes from a state on. -/
def remaining (arithmetic : Arithmetic) (state : State σ) : Nat :=
  ahead arithmetic state.program state.pc + behind arithmetic state.stack

/-- No kernel program is in the middle of its work, and nothing is traced. -/
structure Poised (state : State σ) : Prop where
  entry : state.program.isKernel = true → state.pc = 0
  callers : ∀ frame ∈ state.stack, frame.program.isKernel = false
  untraced : state.tracing = false

theorem Poised.start (machine : Machine) (environment : σ) (entry : Program) :
    Poised (machine.start environment entry) :=
  ⟨fun _ => rfl, nofun, rfl⟩

theorem remaining_start (arithmetic : Arithmetic) (machine : Machine) (environment : σ)
    (entry : Program) :
    remaining arithmetic (machine.start environment entry) = budget arithmetic entry := by
  simp [remaining, Machine.start, ahead_zero, behind]

/-- The state back in a caller. -/
def back (state : State σ) (frame : Frame) (stack : List Frame) (registers : Registers) :
    State σ :=
  { state.within frame.program frame.pc registers with stack := stack }

/-- Leaving a kernel program takes its cost off what remains. -/
theorem Poised.returns (arithmetic : Arithmetic) {state : State σ} (poised : Poised state)
    (kernel : state.program.isKernel = true) {frame : Frame} {stack : List Frame}
    (callers : state.stack = frame :: stack) (registers : Registers) :
    Poised (back state frame stack registers) ∧
      remaining arithmetic (back state frame stack registers) +
        arithmetic.kernelCost state.program = remaining arithmetic state := by
  have plain := callers ▸ poised.callers
  have caller := plain _ List.mem_cons_self
  refine ⟨⟨fun kernel => ?_, fun frame member => ?_, rfl⟩, ?_⟩
  · exact absurd kernel (by simp [back, State.within, caller])
  · exact plain frame (List.mem_cons_of_mem _ member)
  · simp only [remaining, back, State.within, behind, callers, ahead, kernel, if_true,
      List.map_cons, List.sum_cons]
    omega

variable [Environment σ] {arithmetic : Arithmetic} {index : UInt8} {state next : State σ}

/-- A step outside the kernel programs leaves less to come. -/
theorem Poised.step (poised : Poised state) (plain : state.program.isKernel = false)
    (running : Machine.step (table arithmetic) index state = .running next) :
    Poised next ∧ remaining arithmetic next < remaining arithmetic state := by
  obtain ⟨entry, callers, untraced⟩ := poised
  obtain ⟨instruction, fetched, moved⟩ := step_running running
  obtain ⟨noTrace, _, forward⟩ := instruction.isPlain_iff.mp
    (isPlain_of_not_isKernel arithmetic plain instruction (List.mem_of_getElem? fetched))
  have here := ahead_of_fetched plain fetched
  have stillUntraced := (moved.tracing noTrace).trans untraced
  cases moved.transfer with
  | returned stackEq program pc stack =>
      rw [stackEq] at callers
      have caller := callers _ List.mem_cons_self
      refine ⟨⟨fun kernel => ?_, fun frame member => ?_, stillUntraced⟩, ?_⟩
      · rw [program, caller] at kernel
        cases kernel
      · rw [stack] at member
        exact callers frame (List.mem_cons_of_mem _ member)
      · simp only [remaining, behind, program, pc, stack, stackEq, here, weight, List.map_cons,
          List.sum_cons]
        omega
  | called room program pc stack =>
      refine ⟨⟨fun _ => pc, fun frame member => ?_, stillUntraced⟩, ?_⟩
      · rw [stack] at member
        rcases List.mem_cons.mp member with rfl | older
        · exact plain
        · exact callers frame older
      · simp only [remaining, behind, program, pc, stack, here, weight, ahead_zero,
          Instruction.callee?, Option.elim, List.map_cons, List.sum_cons]
        omega
  | jumped program pc stack =>
      refine ⟨⟨fun _ => pc, stack ▸ callers, stillUntraced⟩, ?_⟩
      simp only [remaining, program, pc, stack, here, weight, ahead_zero, Instruction.callee?,
        Option.elim]
      omega
  | skipped skip lands program pc stack =>
      have later := ahead_anti arithmetic plain
        (succ_le_of_landing? (forward _ skip) lands)
      refine ⟨⟨fun kernel => ?_, stack ▸ callers, stillUntraced⟩, ?_⟩
      · rw [program, plain] at kernel
        cases kernel
      · simp only [remaining, program, pc, stack, here, weight]
        omega
  | advanced passes callee program pc stack =>
      refine ⟨⟨fun kernel => ?_, stack ▸ callers, stillUntraced⟩, ?_⟩
      · rw [program, plain] at kernel
        cases kernel
      · simp only [remaining, program, pc, stack, here, weight]
        omega

/-- A kernel program comes to its end with its result, within its cost. -/
theorem Poised.leaves (arithmetic : Arithmetic) (index : UInt8) (poised : Poised state)
    (kernel : state.program.isKernel = true) :
    ∃ count pc later, count < arithmetic.kernelCost state.program ∧
      Reaches (table arithmetic) index count state (state.within state.program pc later) ∧
      (table arithmetic state.program)[pc]? = some .done ∧
      Registers.SameResults (state.program.kernelResult state.registers) later := by
  have atEntry : state.within state.program 0 state.registers = state := by
    rw [State.within, ← poised.entry kernel, ← poised.untraced]
  have reaches := kernel_reaches index state arithmetic kernel state.registers
  rwa [atEntry] at reaches

theorem step_done (index : UInt8) {pc : Nat} (registers : Registers)
    (fetched : (table arithmetic state.program)[pc]? = some .done) :
    Machine.step (table arithmetic) index (state.within state.program pc registers) =
      match state.stack with
      | [] => .finished (state.within state.program pc registers)
      | frame :: stack => .running (back state frame stack registers) := by
  cases callers : state.stack with
  | nil => exact step_ends fetched callers
  | cons frame stack => exact step_resumes fetched callers

/-- A run ends within what remains of it. -/
theorem halts_of_remaining (index : UInt8) {steps : Nat} (poised : Poised state)
    (enough : remaining arithmetic state < steps) :
    Halts (table arithmetic) index steps state := by
  induction steps using Nat.strongRecOn generalizing state with
  | ind steps induction =>
      by_cases kernel : state.program.isKernel = true
      · obtain ⟨count, pc, later, few, reached, fetched, _⟩ := poised.leaves arithmetic index kernel
        have ends := step_done index later fetched
        cases callers : state.stack with
        | nil =>
            rw [callers] at ends
            have finishes : Halts (table arithmetic) index 1 (state.within state.program pc later) :=
              .finished ends
            have whole : arithmetic.kernelCost state.program ≤ remaining arithmetic state := by
              simp [remaining, ahead, kernel]
            exact (Halts.of_reaches reached finishes).mono (by omega)
        | cons frame stack =>
            rw [callers] at ends
            obtain ⟨stillPoised, less⟩ := poised.returns arithmetic kernel callers later
            have rest := induction (steps - (count + 1)) (by omega) stillPoised (by omega)
            exact (Halts.of_reaches reached (.running ends rest)).mono (by omega)
      · obtain ⟨budget, rfl⟩ : ∃ budget, steps = budget + 1 := ⟨steps - 1, by omega⟩
        cases stepped : Machine.step (table arithmetic) index state with
        | running next =>
            obtain ⟨stillPoised, less⟩ := poised.step (by simpa using kernel) stepped
            exact .running stepped (induction budget (by omega) stillPoised (by omega))
        | finished final => exact .finished stepped
        | faulted fault final => exact .faulted stepped

/-- Every run of the catalog ends within the step budget. -/
theorem halts_start (arithmetic : Arithmetic) (index : UInt8) (machine : Machine)
    (environment : σ) (entry : Program) :
    Halts (table arithmetic) index stepLimit (machine.start environment entry) := by
  apply halts_of_remaining index (.start machine environment entry)
  rw [remaining_start]
  exact budget_lt_stepLimit arithmetic entry

end Catalog

end TripComputer
