import TripComputer.Proofs.Machine.Control

/-!
# Programs over the frames of their callers

A program runs over the frames of its callers as it runs by itself.  It neither looks at them nor
removes any before its own last return, which goes to the one on top: all that it shares with them
is the room on the stack.  So what is known of a run by itself holds wherever the program is
called, and, since a jump leaves no frame, wherever it is jumped to.
-/

namespace TripComputer.Machine

variable {σ : Type}

/-- A state is another one, over the frames of callers.  The lines that each of them traces are
its own. -/
structure State.Above (callers : List Frame) (alone state : State σ) : Prop where
  stack : state.stack = alone.stack ++ callers
  registers : state.registers = alone.registers
  program : state.program = alone.program
  pc : state.pc = alone.pc
  environment : state.environment = alone.environment

/-- Control is at a frame, over those beneath it, with what a run has left. -/
structure State.Resumes (left : Run σ) (frame : Frame) (beneath : List Frame) (state : State σ) :
    Prop where
  program : state.program = frame.program
  pc : state.pc = frame.pc
  stack : state.stack = beneath
  registers : state.registers = left.machine.registers
  environment : state.environment = left.environment

variable {callers : List Frame} {alone state : State σ}

theorem State.Above.traced (above : State.Above callers alone state) (instruction : Instruction) :
    State.Above callers (alone.traced instruction) (state.traced instruction) := by
  obtain ⟨registers, stack, program, pc, environment⟩ := above
  constructor <;> simpa

variable [Environment σ]

/-- Within a number of instructions a state leads to where control resumes, and a budget has what
they leave of it. -/
def Resuming (table : ProgramTable) (index : UInt8) (limit : Nat) (state : State σ) (left : Run σ)
    (frame : Frame) (beneath : List Frame) : Prop :=
  ∃ count next, count ≤ limit ∧ Reaches table index count state next ∧
    next.Resumes left frame beneath ∧
      ∀ steps, limit ≤ steps →
        execute table index steps state = execute table index (steps - count) next

variable {table : ProgramTable} {index : UInt8} {next last : State σ}

theorem State.Above.apply {instruction : Instruction} (above : State.Above callers alone state)
    (running : apply table index alone instruction = .running next)
    (room : next.stack.length + callers.length ≤ stackDepth) :
    ∃ later, Machine.apply table index state instruction = .running later ∧
      State.Above callers next later := by
  rcases instruction.kinds with data | ⟨distance, skip⟩ | rfl | trace | ⟨callee, rfl | rfl⟩
  · rw [apply_data data] at running ⊢
    rw [above.registers, above.environment]
    split at running
    next => cases running
    next registers environment performed =>
      cases running
      exact ⟨_, rfl, above.stack, rfl, above.program, congrArg (· + 1) above.pc, rfl⟩
  · rw [apply_skip skip] at running ⊢
    rw [above.registers, above.environment, above.program, above.pc]
    split at running
    next taken =>
      rw [if_pos taken]
      split at running
      next => cases running
      next target lands =>
        cases running
        exact ⟨_, rfl, above.stack, rfl, rfl, rfl, rfl⟩
    next notTaken =>
      cases running
      rw [if_neg notTaken]
      exact ⟨_, rfl, above.stack, rfl, rfl, rfl, rfl⟩
  · simp only [Machine.apply] at running ⊢
    split at running
    next => cases running
    next frame stack callersEq =>
      cases running
      rw [above.stack, callersEq]
      exact ⟨_, rfl, rfl, above.registers, rfl, rfl, above.environment⟩
  · cases instruction <;> cases trace <;> cases running <;>
      exact ⟨_, rfl, above.stack, above.registers, above.program, congrArg (· + 1) above.pc,
        above.environment⟩
  · simp only [Machine.apply] at running ⊢
    split at running
    next =>
      cases running
      have deeper : state.stack.length < stackDepth := by
        rw [above.stack, List.length_append]
        simp only [List.length_cons] at room
        omega
      rw [if_pos deeper, above.stack, above.program, above.pc]
      exact ⟨_, rfl, rfl, above.registers, rfl, rfl, above.environment⟩
    next => cases running
  · cases running
    exact ⟨_, rfl, above.stack, above.registers, rfl, rfl, above.environment⟩

/-- A step over callers is the step without them, where the stack has room for it. -/
theorem State.Above.step (above : State.Above callers alone state)
    (running : step table index alone = .running next)
    (room : next.stack.length + callers.length ≤ stackDepth) :
    ∃ later, Machine.step table index state = .running later ∧ State.Above callers next later := by
  obtain ⟨instruction, fetched, _⟩ := step_running running
  have here : (table state.program)[state.pc]? = some instruction := by
    rw [above.program, above.pc, fetched]
  rw [step_of_fetched fetched] at running
  rw [step_of_fetched here]
  exact (above.traced instruction).apply running room

/-- A run over callers passes through the states of the run without them. -/
theorem State.Above.run {count : Nat} (above : State.Above callers alone state)
    (reached : Reaches table index count alone last)
    (room : ∀ steps passed, Reaches table index steps alone passed →
      passed.stack.length + callers.length ≤ stackDepth) :
    ∃ final, Reaches table index count state final ∧ State.Above callers last final := by
  induction reached generalizing state with
  | refl => exact ⟨state, .refl state, above⟩
  | head running _ induction =>
      obtain ⟨later, goesOn, stillAbove⟩ := above.step running (room _ _ (.single running))
      obtain ⟨final, reached, overLast⟩ := induction stillAbove
        fun steps passed rest => room _ _ (.head running rest)
      exact ⟨final, .head goesOn reached, overLast⟩

/-- A run that ends with a value comes to a return on an empty stack. -/
theorem exists_reaches_of_ok {steps : Nat} {value : UInt64}
    (ended : (execute table index steps state).result = .ok value) :
    ∃ count last final, count < steps ∧ Reaches table index count state last ∧
      step table index last = .finished final ∧
        execute table index steps state = final.stop none := by
  induction steps generalizing state with
  | zero => cases ended
  | succ steps induction =>
      rw [execute] at ended ⊢
      cases stepped : step table index state with
      | running next =>
          rw [stepped] at ended
          obtain ⟨count, last, final, few, reached, finished, same⟩ := induction ended
          exact ⟨count + 1, last, final, by omega, .head stepped reached, finished, same⟩
      | finished final => exact ⟨0, state, final, by omega, .refl state, stepped, rfl⟩
      | faulted fault final =>
          rw [stepped] at ended
          cases ended

section

variable {machine : Machine} {environment : σ} {callee : Program} {few depth : Nat}
  {value : UInt64}

/-- A call enters the program over the frames of its callers and the one that it leaves. -/
theorem exists_called (fetched : (table state.program)[state.pc]? = some (.call callee))
    (room : state.stack.length < stackDepth) (registers : state.registers = machine.registers)
    (surroundings : state.environment = environment) :
    ∃ next, step table index state = .running next ∧
      State.Above (⟨state.program, state.pc + 1⟩ :: state.stack)
        (machine.start environment callee) next := by
  rw [step_of_fetched fetched]
  simp only [Machine.apply, State.traced_stack, State.traced_program, State.traced_pc, if_pos room]
  refine ⟨_, rfl, rfl, ?_, rfl, rfl, ?_⟩
  · exact (State.traced_registers state _).trans registers
  · exact (State.traced_environment state _).trans surroundings

theorem exists_jumped (fetched : (table state.program)[state.pc]? = some (.jump callee))
    (registers : state.registers = machine.registers)
    (surroundings : state.environment = environment) :
    ∃ next, step table index state = .running next ∧
      State.Above state.stack (machine.start environment callee) next := by
  rw [step_of_fetched fetched]
  refine ⟨_, rfl, ?_, ?_, rfl, rfl, ?_⟩
  · exact State.traced_stack state _
  · exact (State.traced_registers state _).trans registers
  · exact (State.traced_environment state _).trans surroundings

section

variable
  (ended : (execute table index few (machine.start environment callee)).result = .ok value)
  (shallow : ∀ count passed, Reaches table index count (machine.start environment callee) passed →
    passed.stack.length ≤ depth)

include ended shallow

/-- Over callers, a program comes to its last return with what it leaves when run by itself. -/
theorem exists_return (above : State.Above callers (machine.start environment callee) state)
    (room : callers.length + depth ≤ stackDepth) :
    let left := execute table index few (machine.start environment callee)
    ∃ count last, count < few ∧ Reaches table index count state last ∧
      (table last.program)[last.pc]? = some .done ∧ last.stack = callers ∧
        last.registers = left.machine.registers ∧ last.environment = left.environment := by
  obtain ⟨count, last, final, fewer, reached, finished, same⟩ := exists_reaches_of_ok ended
  obtain ⟨fetched, empty, rfl⟩ := step_finished finished
  obtain ⟨stopped, toStopped, aboveLast⟩ := above.run reached fun steps passed onTheWay => by
    have bound := shallow steps passed onTheWay
    omega
  refine ⟨count, stopped, fewer, toStopped, ?_, ?_, ?_, ?_⟩
  · rw [aboveLast.program, aboveLast.pc, fetched]
  · rw [aboveLast.stack, empty, List.nil_append]
  · rw [same, aboveLast.registers]
    exact (State.traced_registers last .done).symm
  · rw [same, aboveLast.environment]
    exact (State.traced_environment last .done).symm

theorem resuming_of_above {frame : Frame} {beneath : List Frame}
    (above : State.Above (frame :: beneath) (machine.start environment callee) state)
    (room : beneath.length + 1 + depth ≤ stackDepth) :
    Resuming table index few state (execute table index few (machine.start environment callee))
      frame beneath := by
  obtain ⟨count, last, fewer, reached, fetched, callers, registers, surroundings⟩ :=
    exists_return ended shallow above room
  have back := reached.trans (.single (step_resumes fetched callers))
  refine ⟨count + 1, _, fewer, back, ?_, ?_⟩
  · refine ⟨rfl, rfl, rfl, ?_, ?_⟩
    · exact (State.traced_registers last .done).trans registers
    · exact (State.traced_environment last .done).trans surroundings
  · intro steps enough
    obtain ⟨rest, rfl⟩ := Nat.exists_eq_add_of_le (Nat.le_trans fewer enough)
    rw [execute_of_reaches back, Nat.add_sub_cancel_left]

/-- Without callers, the last return ends the run with what the program leaves. -/
theorem execute_of_above (above : State.Above [] (machine.start environment callee) state)
    (room : depth ≤ stackDepth) {steps : Nat} (enough : few ≤ steps) :
    let left := execute table index few (machine.start environment callee)
    let run := execute table index steps state
    run.result = .ok left.machine.registers.r2 ∧ run.machine.registers = left.machine.registers ∧
      run.environment = left.environment := by
  intro left run
  obtain ⟨count, last, fewer, reached, fetched, empty, registers, surroundings⟩ :=
    exists_return ended shallow above (by simpa using room)
  obtain ⟨rest, rfl⟩ : ∃ rest, steps = count + (rest + 1) := ⟨steps - (count + 1), by omega⟩
  have stopped : run = (last.traced .done).stop none := by
    have cut := execute_of_reaches reached (rest + 1)
    rwa [execute, step_ends fetched empty] at cut
  have leftRegisters : (last.traced .done).registers = left.machine.registers :=
    (State.traced_registers last .done).trans registers
  have leftSurroundings : (last.traced .done).environment = left.environment :=
    (State.traced_environment last .done).trans surroundings
  rw [stopped, ← leftRegisters, ← leftSurroundings]
  exact ⟨rfl, rfl, rfl⟩

end

theorem Resuming.head {limit : Nat} {left : Run σ} {frame : Frame} {beneath : List Frame}
    (running : step table index state = .running next)
    (resuming : Resuming table index limit next left frame beneath) :
    Resuming table index (limit + 1) state left frame beneath := by
  obtain ⟨count, later, few, reached, resumes, budget⟩ := resuming
  refine ⟨count + 1, later, Nat.succ_le_succ few, .head running reached, resumes, ?_⟩
  intro steps enough
  obtain ⟨rest, rfl⟩ := Nat.exists_eq_add_of_le' enough
  rw [← Nat.add_assoc, execute, running, Nat.add_sub_add_right]
  exact budget _ (Nat.le_add_left limit rest)

/-- Where a program run by itself ends with a value, a call of it goes on behind the call with what
that run left, and a jump to it goes on at the frame on top of the stack, or ends the run where
there is none.  It takes one instruction more, and room for the frames of both. -/
theorem calls_compose
    (ended : (execute table index few (machine.start environment callee)).result = .ok value)
    (shallow : ∀ count passed, Reaches table index count (machine.start environment callee) passed →
      passed.stack.length ≤ depth)
    (registers : state.registers = machine.registers)
    (surroundings : state.environment = environment) :
    let left := execute table index few (machine.start environment callee)
    ((table state.program)[state.pc]? = some (.call callee) →
      state.stack.length + 1 + depth ≤ stackDepth →
        Resuming table index (few + 1) state left ⟨state.program, state.pc + 1⟩ state.stack) ∧
    ((table state.program)[state.pc]? = some (.jump callee) →
      state.stack.length + depth ≤ stackDepth →
        (∀ frame beneath, state.stack = frame :: beneath →
          Resuming table index (few + 1) state left frame beneath) ∧
        (state.stack = [] → ∀ steps, few + 1 ≤ steps →
          let run := execute table index steps state
          run.result = .ok left.machine.registers.r2 ∧
            run.machine.registers = left.machine.registers ∧
              run.environment = left.environment)) := by
  intro left
  constructor
  · intro fetched room
    obtain ⟨next, running, above⟩ := exists_called fetched (by omega) registers surroundings
    exact .head running (resuming_of_above ended shallow above room)
  · intro fetched room
    obtain ⟨next, running, above⟩ := exists_jumped fetched registers surroundings
    constructor
    · intro frame beneath callers
      rw [callers] at above room
      exact .head running (resuming_of_above ended shallow above room)
    · intro noCallers steps enough
      rw [noCallers] at above room
      obtain ⟨rest, rfl⟩ := Nat.exists_eq_add_of_le' enough
      rw [← Nat.add_assoc, execute, running]
      exact execute_of_above ended shallow above (by simpa using room) (Nat.le_add_left few rest)

/-- By itself a program never holds more frames than its rank. -/
theorem length_le_of_ranked {rank : Program → Nat} (ranked : table.Ranked rank)
    (bound : rank callee ≤ depth) {count : Nat} {passed : State σ}
    (reached : Reaches table index count (machine.start environment callee) passed) :
    passed.stack.length ≤ depth := by
  have start : Shallow rank depth (machine.start environment callee).program
      (machine.start environment callee).stack := bound
  have preserved : ∀ state next : State σ, Shallow rank depth state.program state.stack →
      step table index state = .running next → Shallow rank depth next.program next.stack :=
    fun _ _ holds running => holds.step ranked running
  have shallow : Shallow rank depth passed.program passed.stack := reached.keeps preserved start
  exact Nat.le_trans (Nat.le_add_left _ _) shallow.length_le

end

/-- A program with a call and a jump in it, called and jumped to over as many frames as there is
room for. -/
theorem doubled_sum_over_fourteen_frames :
    let table : ProgramTable
      | .overflow => [.call .multiply, .jump .multiply]
      | .multiply => [.call .divide, .add .r2 .r1, .jump .adjust]
      | .divide => [.loadImmediate .r1 7, .done]
      | _ => [.shiftLeft .r2, .done]
    let surroundings : Surroundings :=
      ⟨.defaults, 312500, 256, none, fun _ => none, 0, fun _ => none⟩
    let machine : Machine := ⟨⟨0, 1, 0, 0, 0⟩, [], false⟩
    let frames : List Frame := List.replicate 14 ⟨.overflow, 1⟩
    let left := execute table 0 7 (machine.start surroundings .multiply)
    let calling : State Surroundings :=
      ⟨machine.registers, frames, true, .overflow, 0, surroundings, []⟩
    let jumping : State Surroundings := { calling with pc := 1 }
    left.result = .ok 16 ∧
      (∀ count passed, Reaches table 0 count (machine.start surroundings .multiply) passed →
        passed.stack.length ≤ 1) ∧
      Resuming table 0 8 calling left ⟨.overflow, 1⟩ frames ∧
      Resuming table 0 8 jumping left ⟨.overflow, 1⟩ frames.tail := by
  intro table surroundings machine frames left calling jumping
  let rank : Program → Nat
    | .overflow => 2
    | .multiply => 1
    | _ => 0
  have ranked : table.Ranked rank := by
    constructor <;> intro program callee member <;> cases program <;>
      simp_all [table, rank]
  have ended : left.result = .ok 16 := by cbv
  have shallow : ∀ count passed,
      Reaches table 0 count (machine.start surroundings .multiply) passed →
        passed.stack.length ≤ 1 :=
    fun _ _ reached => length_le_of_ranked ranked (Nat.le_refl 1) reached
  have toCall : calling.registers = machine.registers := rfl
  have toJump : jumping.registers = machine.registers := rfl
  obtain ⟨called, _⟩ := calls_compose ended shallow toCall rfl
  obtain ⟨_, jumped⟩ := calls_compose ended shallow toJump rfl
  exact ⟨ended, shallow, called rfl (by decide), (jumped rfl (by decide)).1 _ _ rfl⟩

end TripComputer.Machine
