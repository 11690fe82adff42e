import TripComputer.Machine
import TripComputer.Proofs.Outcome

/-!
# Steps of the register machine

Every later fact about runs is read off two inversions: `step_running` says where control
can pass to, and `step_faulted` says what can go wrong.  No other proof unfolds `step`.
`Throughout.step` is the first of these as an invariant: what entering, skipping and going on
keep of a position, steps keep of all positions in a state.

`Reaches` counts instructions, so that a run with a budget can be cut at any state that it
passes through, and `Halts` says that a budget suffices.
-/

namespace TripComputer

/-- The program that a call or a jump passes control to. -/
def Instruction.callee? : Instruction → Option Program
  | .call program | .jump program => some program
  | _ => none

/-- Whether the instruction works on the conversion slot of the context index. -/
def Instruction.usesSlot : Instruction → Bool
  | .loadConvertible _ | .storeConvertible _ | .loadNumerator _ | .loadDenominator _ => true
  | _ => false

/-- Whether the instruction stores a setting. -/
def Instruction.isStore : Instruction → Bool
  | .storeSetting _ _ | .storeConvertible _ => true
  | _ => false

/-- The setting that the instruction stores in a context. -/
def Instruction.target? (index : UInt8) : Instruction → Option Setting
  | .storeSetting _ setting => some setting
  | .storeConvertible _ => (Conversion.ofSlot? index).map (·.setting)
  | _ => none

/-- Whether the instruction turns tracing on or off. -/
def Instruction.isTrace : Instruction → Bool
  | .traceOn | .traceOff => true
  | _ => false

/-- Whether the instruction moves or combines data and leaves control to the next one. -/
def Instruction.isData : Instruction → Bool
  | .done | .call _ | .jump _ | .traceOn | .traceOff => false
  | instruction => instruction.distance?.isNone

namespace Instruction

theorem kinds (instruction : Instruction) :
    instruction.isData = true ∨ (∃ distance, instruction.distance? = some distance) ∨
      instruction = .done ∨ instruction.isTrace = true ∨
        ∃ program, instruction = .call program ∨ instruction = .jump program := by
  cases instruction <;> simp [isData, distance?, isTrace]

theorem isTerminal_of_isData {instruction : Instruction} (data : instruction.isData = true) :
    instruction.isTerminal = false := by
  cases instruction <;> first | rfl | contradiction

theorem isStore_of_target? {instruction : Instruction} {index : UInt8} {setting : Setting}
    (stores : instruction.target? index = some setting) : instruction.isStore = true := by
  cases instruction <;> first | rfl | contradiction

theorem callee?_of_isData {instruction : Instruction} (data : instruction.isData = true) :
    instruction.callee? = none := by
  cases instruction <;> first | rfl | contradiction

theorem callee?_of_distance? {instruction : Instruction} {distance : Int8}
    (skip : instruction.distance? = some distance) : instruction.callee? = none := by
  cases instruction <;> first | rfl | contradiction

end Instruction

namespace Machine

variable {σ : Type}

namespace State

@[simp] theorem traced_registers (state : State σ) (instruction : Instruction) :
    (state.traced instruction).registers = state.registers := by
  unfold traced; split <;> rfl

@[simp] theorem traced_stack (state : State σ) (instruction : Instruction) :
    (state.traced instruction).stack = state.stack := by
  unfold traced; split <;> rfl

@[simp] theorem traced_tracing (state : State σ) (instruction : Instruction) :
    (state.traced instruction).tracing = state.tracing := by
  unfold traced; split <;> rfl

@[simp] theorem traced_program (state : State σ) (instruction : Instruction) :
    (state.traced instruction).program = state.program := by
  unfold traced; split <;> rfl

@[simp] theorem traced_pc (state : State σ) (instruction : Instruction) :
    (state.traced instruction).pc = state.pc := by
  unfold traced; split <;> rfl

@[simp] theorem traced_environment (state : State σ) (instruction : Instruction) :
    (state.traced instruction).environment = state.environment := by
  unfold traced; split <;> rfl

theorem traced_eq_self {state : State σ} (untraced : state.tracing = false)
    (instruction : Instruction) : state.traced instruction = state := by
  simp [traced, untraced]

end State

/-- Where an instruction passes control to. -/
inductive Transfer (table : ProgramTable) (state next : State σ) : Instruction → Prop where
  /-- Back to the latest caller. -/
  | returned {frame : Frame} {stack : List Frame} :
      state.stack = frame :: stack →
      next.program = frame.program → next.pc = frame.pc → next.stack = stack →
      Transfer table state next .done
  | called {program : Program} :
      state.stack.length < stackDepth →
      next.program = program → next.pc = 0 →
      next.stack = ⟨state.program, state.pc + 1⟩ :: state.stack →
      Transfer table state next (.call program)
  | jumped {program : Program} :
      next.program = program → next.pc = 0 → next.stack = state.stack →
      Transfer table state next (.jump program)
  | skipped {instruction : Instruction} {distance : Int8} {target : Nat} :
      instruction.distance? = some distance →
      landing? (table state.program).length state.pc distance = some target →
      next.program = state.program → next.pc = target → next.stack = state.stack →
      Transfer table state next instruction
  | advanced {instruction : Instruction} :
      instruction.isTerminal = false → instruction.callee? = none →
      next.program = state.program → next.pc = state.pc + 1 → next.stack = state.stack →
      Transfer table state next instruction

variable [Environment σ]

/-- What an instruction that moves data can fail on. -/
inductive DataFault (index : UInt8) (environment : σ) : Instruction → Fault → Prop where
  | setting {x : Register} {base : UInt8} :
      Setting.ofIndex? (base + index) = none →
      DataFault index environment (.loadSettingIndexed x base) (.unknownSetting (base + index))
  | slot {instruction : Instruction} :
      instruction.usesSlot = true → Conversion.ofSlot? index = none →
      DataFault index environment instruction (.unknownConversion index)
  | trip {x : Register} {counter : Counter} :
      Environment.counter? environment index counter = none →
      DataFault index environment (.loadCounter x counter) (.unknownTrip index)
  | channel {x : Register} {channel : UInt8} :
      Environment.reading? environment channel = none →
      DataFault index environment (.loadVoltage x channel) (.unknownChannel channel)
  | loadByte {x y : Register} {position : UInt8} :
      8 ≤ position.toNat →
      DataFault index environment (.loadByte x y position) (.bytePosition position)
  | storeByte {x y : Register} {position : UInt8} :
      8 ≤ position.toNat →
      DataFault index environment (.storeByte x y position) (.bytePosition position)

/-- What a step can fail on. -/
inductive StepFault (table : ProgramTable) (index : UInt8) (state : State σ) :
    Fault → Prop where
  | ranOffEnd :
      (table state.program)[state.pc]? = none →
      StepFault table index state (.ranOffEnd state.program)
  | stackOverflow {program : Program} :
      (table state.program)[state.pc]? = some (.call program) →
      ¬state.stack.length < stackDepth →
      StepFault table index state (.stackOverflow program)
  | skipOutOfRange {instruction : Instruction} {distance : Int8} :
      (table state.program)[state.pc]? = some instruction →
      instruction.distance? = some distance →
      landing? (table state.program).length state.pc distance = none →
      StepFault table index state (.skipOutOfRange state.program state.pc)
  | data {instruction : Instruction} {fault : Fault} :
      (table state.program)[state.pc]? = some instruction →
      DataFault index state.environment instruction fault →
      StepFault table index state fault

variable {table : ProgramTable} {index : UInt8} {state next final : State σ}

theorem step_of_fetched {instruction : Instruction}
    (fetched : (table state.program)[state.pc]? = some instruction) :
    step table index state = apply table index (state.traced instruction) instruction := by
  simp [step, fetched]

theorem apply_skip {instruction : Instruction} {distance : Int8}
    (skip : instruction.distance? = some distance) :
    apply table index state instruction =
      if skips index state.registers state.environment instruction then
        match landing? (table state.program).length state.pc distance with
        | none => .faulted (.skipOutOfRange state.program state.pc) state
        | some target => .running { state with pc := target }
      else .running { state with pc := state.pc + 1 } := by
  cases instruction <;> first | contradiction | (cases skip; rfl)

theorem apply_data {instruction : Instruction} (data : instruction.isData = true) :
    apply table index state instruction =
      match perform index state.registers state.environment instruction with
      | .error fault => .faulted fault state
      | .ok (registers, environment) =>
          .running { state with
            pc := state.pc + 1
            registers := registers
            environment := environment } := by
  cases instruction <;> first | contradiction | rfl

theorem conversion_error {fault : Fault} (failed : conversion index = .error fault) :
    fault = .unknownConversion index ∧ Conversion.ofSlot? index = none := by
  unfold conversion at failed
  cases slot : Conversion.ofSlot? index with
  | none =>
      rw [slot] at failed
      cases failed
      exact ⟨rfl, rfl⟩
  | some found =>
      rw [slot] at failed
      cases failed

/-- A use of the conversion slot fails only where there is no slot. -/
private theorem slotFault {α : Type} {environment : σ} {instruction : Instruction}
    {fault : Fault} {rest : Conversion → Except Fault α}
    (usesSlot : instruction.usesSlot = true)
    (neverFails : ∀ slot, ∃ result, rest slot = .ok result)
    (failed : (conversion index).bind rest = .error fault) :
    DataFault index environment instruction fault := by
  cases found : conversion index with
  | error missing =>
      rw [found] at failed
      cases failed
      obtain ⟨rfl, none⟩ := conversion_error found
      exact .slot usesSlot none
  | ok slot =>
      obtain ⟨result, succeeded⟩ := neverFails slot
      rw [found] at failed
      simp only [Except.bind, succeeded] at failed
      cases failed

theorem perform_error {registers : Registers} {environment : σ} {instruction : Instruction}
    {fault : Fault} (failed : perform index registers environment instruction = .error fault) :
    DataFault index environment instruction fault := by
  cases instruction with
  | loadSettingIndexed x base =>
      simp only [perform] at failed
      split at failed
      next missing =>
        cases failed
        exact .setting missing
      next => cases failed
  | loadConvertible x => exact slotFault rfl (fun _ => ⟨_, rfl⟩) failed
  | storeConvertible x => exact slotFault rfl (fun _ => ⟨_, rfl⟩) failed
  | loadNumerator x => exact slotFault rfl (fun _ => ⟨_, rfl⟩) failed
  | loadDenominator x => exact slotFault rfl (fun _ => ⟨_, rfl⟩) failed
  | loadCounter x counter =>
      simp only [perform] at failed
      split at failed
      next missing =>
        cases failed
        exact .trip missing
      next => cases failed
  | loadVoltage x channel =>
      simp only [perform] at failed
      split at failed
      next missing =>
        cases failed
        exact .channel missing
      next => cases failed
  | loadByte x y position =>
      simp only [perform] at failed
      split at failed
      next missing =>
        cases failed
        exact .loadByte (by simpa [Word.byte?, Word.bytes] using missing)
      next => cases failed
  | storeByte x y position =>
      simp only [perform] at failed
      split at failed
      next missing =>
        cases failed
        exact .storeByte (by simpa [Word.setByte?] using missing)
      next => cases failed
  | _ => cases failed

/-- What moving data can do to the surroundings. -/
inductive Stored (index : UInt8) (environment : σ) : Instruction → σ → Prop where
  | kept {instruction : Instruction} : Stored index environment instruction environment
  | stored {instruction : Instruction} {setting : Setting} {value : UInt64} :
      instruction.target? index = some setting →
      Stored index environment instruction (Environment.store environment setting value)

theorem perform_ok {registers later : Registers} {environment changed : σ}
    {instruction : Instruction}
    (performed : perform index registers environment instruction = .ok (later, changed)) :
    Stored index environment instruction changed := by
  cases instruction with
  | storeSetting x setting =>
      cases performed
      exact .stored rfl
  | storeConvertible x =>
      obtain ⟨slot, found, performed⟩ := bind_eq_ok_iff.mp performed
      cases performed
      exact .stored (by rw [Instruction.target?, elim_eq_ok_iff.mp found]; rfl)
  | _ =>
      simp only [perform, bind, Except.bind] at performed
      (try split at performed) <;> cases performed
      all_goals exact .kept

/-- What one instruction does to a state. -/
structure Moved (table : ProgramTable) (index : UInt8) (state next : State σ)
    (instruction : Instruction) : Prop where
  transfer : Transfer table state next instruction
  tracing : instruction.isTrace = false → next.tracing = state.tracing
  environment : Stored index state.environment instruction next.environment

theorem apply_running {instruction : Instruction}
    (running : apply table index state instruction = .running next) :
    Moved table index state next instruction := by
  rcases instruction.kinds with data | ⟨distance, skip⟩ | rfl | trace | ⟨program, rfl | rfl⟩
  · rw [apply_data data] at running
    split at running
    next => cases running
    next registers environment performed =>
      cases running
      have terminal := Instruction.isTerminal_of_isData data
      have callee := Instruction.callee?_of_isData data
      exact ⟨.advanced terminal callee rfl rfl rfl, fun _ => rfl, perform_ok performed⟩
  · rw [apply_skip skip] at running
    split at running
    next taken =>
      split at running
      next => cases running
      next target lands =>
        cases running
        exact ⟨.skipped skip lands rfl rfl rfl, fun _ => rfl, .kept⟩
    next notTaken =>
      cases running
      have conditional : instruction.isTerminal = false := by
        cases instruction <;> first | rfl | contradiction
      have callee := Instruction.callee?_of_distance? skip
      exact ⟨.advanced conditional callee rfl rfl rfl, fun _ => rfl, .kept⟩
  · simp only [apply] at running
    split at running
    next => cases running
    next frame stack callers =>
      cases running
      exact ⟨.returned callers rfl rfl rfl, fun _ => rfl, .kept⟩
  · cases instruction <;> cases trace <;> cases running <;>
      exact ⟨.advanced rfl rfl rfl rfl rfl, nofun, .kept⟩
  · simp only [apply] at running
    split at running
    next room =>
      cases running
      exact ⟨.called room rfl rfl rfl, fun _ => rfl, .kept⟩
    next => cases running
  · cases running
    exact ⟨.jumped rfl rfl rfl, fun _ => rfl, .kept⟩

theorem apply_faulted {instruction : Instruction} {fault : Fault}
    (fetched : (table state.program)[state.pc]? = some instruction)
    (faulted : apply table index state instruction = .faulted fault final) :
    StepFault table index state fault ∧ final = state := by
  rcases instruction.kinds with data | ⟨distance, skip⟩ | rfl | trace | ⟨program, rfl | rfl⟩
  · rw [apply_data data] at faulted
    split at faulted
    next failed =>
      cases faulted
      exact ⟨.data fetched (perform_error failed), rfl⟩
    next => cases faulted
  · rw [apply_skip skip] at faulted
    split at faulted
    next taken =>
      split at faulted
      next outside =>
        cases faulted
        exact ⟨.skipOutOfRange fetched skip outside, rfl⟩
      next => cases faulted
    next => cases faulted
  · simp only [apply] at faulted
    split at faulted <;> cases faulted
  · cases instruction <;> cases trace <;> cases faulted
  · simp only [apply] at faulted
    split at faulted
    next => cases faulted
    next full =>
      cases faulted
      exact ⟨.stackOverflow fetched full, rfl⟩
  · cases faulted

theorem apply_finished {instruction : Instruction}
    (finished : apply table index state instruction = .finished final) :
    instruction = .done ∧ state.stack = [] ∧ final = state := by
  rcases instruction.kinds with data | ⟨distance, skip⟩ | rfl | trace | ⟨program, rfl | rfl⟩
  · rw [apply_data data] at finished
    split at finished <;> cases finished
  · rw [apply_skip skip] at finished
    split at finished
    next => split at finished <;> cases finished
    next => cases finished
  · simp only [apply] at finished
    split at finished
    next empty =>
      cases finished
      exact ⟨rfl, empty, rfl⟩
    next => cases finished
  · cases instruction <;> cases trace <;> cases finished
  · simp only [apply] at finished
    split at finished <;> cases finished
  · cases finished

/-- Tracing notes an instruction and leaves everything else to it. -/
theorem Moved.of_traced {instruction traced : Instruction}
    (moved : Moved table index (state.traced traced) next instruction) :
    Moved table index state next instruction := by
  obtain ⟨transfer, tracing, environment⟩ := moved
  refine ⟨?_, by simpa using tracing, by simpa using environment⟩
  cases transfer with
  | returned callers program pc stack =>
      exact .returned (by simpa using callers) program pc stack
  | called room program pc stack =>
      exact .called (by simpa using room) program pc (by simpa using stack)
  | jumped program pc stack => exact .jumped program pc (by simpa using stack)
  | skipped skip lands program pc stack =>
      exact .skipped skip (by simpa using lands) (by simpa using program) pc
        (by simpa using stack)
  | advanced terminal callee program pc stack =>
      exact .advanced terminal callee (by simpa using program) (by simpa using pc)
        (by simpa using stack)

theorem StepFault.of_traced {traced : Instruction} {fault : Fault}
    (cause : StepFault table index (state.traced traced) fault) :
    StepFault table index state fault := by
  cases cause with
  | ranOffEnd missing => simpa using StepFault.ranOffEnd (by simpa using missing)
  | stackOverflow fetched full =>
      exact .stackOverflow (by simpa using fetched) (by simpa using full)
  | skipOutOfRange fetched skip outside =>
      simpa using StepFault.skipOutOfRange (by simpa using fetched) skip (by simpa using outside)
  | data fetched fault => exact .data (by simpa using fetched) (by simpa using fault)

/-- Where control is after a step, and what the step changed. -/
theorem step_running (running : step table index state = .running next) :
    ∃ instruction, (table state.program)[state.pc]? = some instruction ∧
      Moved table index state next instruction := by
  cases fetched : (table state.program)[state.pc]? with
  | none =>
      rw [step, fetched] at running
      cases running
  | some instruction =>
      rw [step_of_fetched fetched] at running
      exact ⟨instruction, rfl, (apply_running running).of_traced⟩

/-- What has gone wrong where a step fails; the surroundings are as they were. -/
theorem step_faulted {fault : Fault} (faulted : step table index state = .faulted fault final) :
    StepFault table index state fault ∧ final.environment = state.environment := by
  cases fetched : (table state.program)[state.pc]? with
  | none =>
      rw [step, fetched] at faulted
      cases faulted
      exact ⟨.ranOffEnd fetched, rfl⟩
  | some instruction =>
      rw [step_of_fetched fetched] at faulted
      have tracedFetch :
          (table (state.traced instruction).program)[(state.traced instruction).pc]? =
            some instruction := by
        simpa using fetched
      obtain ⟨cause, rfl⟩ := apply_faulted tracedFetch faulted
      exact ⟨cause.of_traced, State.traced_environment state instruction⟩

theorem step_finished (finished : step table index state = .finished final) :
    (table state.program)[state.pc]? = some .done ∧ state.stack = [] ∧
      final = state.traced .done := by
  cases fetched : (table state.program)[state.pc]? with
  | none =>
      rw [step, fetched] at finished
      cases finished
  | some instruction =>
      rw [step_of_fetched fetched] at finished
      obtain ⟨rfl, empty, same⟩ := apply_finished finished
      exact ⟨rfl, by simpa using empty, same⟩

/-- A return goes to the frame on top of the stack. -/
theorem step_resumes {frame : Frame} {stack : List Frame}
    (fetched : (table state.program)[state.pc]? = some .done)
    (callers : state.stack = frame :: stack) :
    step table index state = .running { state.traced .done with
      program := frame.program, pc := frame.pc, stack := stack } := by
  rw [step_of_fetched fetched]
  simp only [apply, State.traced_stack, callers]

/-- A return without callers ends the run. -/
theorem step_ends (fetched : (table state.program)[state.pc]? = some .done)
    (noCallers : state.stack = []) :
    step table index state = .finished (state.traced .done) := by
  rw [step_of_fetched fetched]
  simp only [apply, State.traced_stack, noCallers]

/-- A condition on positions that control does not leave: entering a program, skipping and
going on to the next instruction lead from where it holds to where it holds. -/
structure Preserved (table : ProgramTable) (Holds : Program → Nat → Prop) : Prop where
  enters : ∀ {program pc instruction callee}, Holds program pc →
    (table program)[pc]? = some instruction → instruction.callee? = some callee → Holds callee 0
  lands : ∀ {program pc distance target}, Holds program pc →
    landing? (table program).length pc distance = some target → Holds program target
  passes : ∀ {program pc instruction}, Holds program pc →
    (table program)[pc]? = some instruction → instruction.isTerminal = false →
    Holds program (pc + 1)

/-- A condition holds where control is, and wherever it can return to. -/
structure Throughout (Holds : Program → Nat → Prop) (state : State σ) : Prop where
  here : Holds state.program state.pc
  callers : ∀ frame ∈ state.stack, Holds frame.program frame.pc

/-- A step from where a condition holds to where a later one does, if the later one is weaker and
holds wherever the instruction leads. -/
theorem Throughout.advance {Holds Later : Program → Nat → Prop} {instruction : Instruction}
    (throughout : Throughout Holds state) (moved : Moved table index state next instruction)
    (weaker : ∀ program pc, Holds program pc → Later program pc)
    (enters : ∀ callee, instruction.callee? = some callee → Later callee 0)
    (lands : ∀ distance target, instruction.distance? = some distance →
      landing? (table state.program).length state.pc distance = some target →
      Later state.program target)
    (passes : instruction.isTerminal = false → Later state.program (state.pc + 1)) :
    Throughout Later next := by
  obtain ⟨here, callers⟩ := throughout
  have callersLater : ∀ frame ∈ state.stack, Later frame.program frame.pc :=
    fun frame member => weaker _ _ (callers frame member)
  cases moved.transfer with
  | returned stackEq program pc stack =>
      rw [stackEq] at callersLater
      constructor
      · rw [program, pc]
        exact callersLater _ List.mem_cons_self
      · rw [stack]
        exact fun frame older => callersLater frame (List.mem_cons_of_mem _ older)
  | called room program pc stack =>
      constructor
      · rw [program, pc]
        exact enters _ rfl
      · intro frame pushed
        rw [stack] at pushed
        rcases List.mem_cons.mp pushed with rfl | older
        · exact passes rfl
        · exact callersLater frame older
  | jumped program pc stack =>
      constructor
      · rw [program, pc]
        exact enters _ rfl
      · exact stack ▸ callersLater
  | skipped skip landing program pc stack =>
      constructor
      · rw [program, pc]
        exact lands _ _ skip landing
      · exact stack ▸ callersLater
  | advanced goesOn callee program pc stack =>
      constructor
      · rw [program, pc]
        exact passes goesOn
      · exact stack ▸ callersLater

theorem Throughout.step {Holds : Program → Nat → Prop} (preserved : Preserved table Holds)
    (throughout : Throughout Holds state)
    (running : Machine.step table index state = .running next) : Throughout Holds next := by
  obtain ⟨instruction, fetched, moved⟩ := step_running running
  apply throughout.advance moved
  · exact fun _ _ holds => holds
  · exact fun _ callee => preserved.enters throughout.here fetched callee
  · exact fun _ _ _ landing => preserved.lands throughout.here landing
  · exact fun goesOn => preserved.passes throughout.here fetched goesOn

/-- `Reaches table index count state final`: from `state`, `count` instructions lead to
`final`. -/
inductive Reaches (table : ProgramTable) (index : UInt8) : Nat → State σ → State σ → Prop where
  | refl (state : State σ) : Reaches table index 0 state state
  | head {state next final : State σ} {count : Nat} :
      step table index state = .running next →
      Reaches table index count next final →
      Reaches table index (count + 1) state final

namespace Reaches

theorem single (running : step table index state = .running next) :
    Reaches table index 1 state next :=
  .head running (.refl next)

theorem trans {first second : Nat} {middle : State σ}
    (start : Reaches table index first state middle)
    (rest : Reaches table index second middle final) :
    Reaches table index (first + second) state final := by
  induction start with
  | refl => simpa using rest
  | head running _ induction =>
      rw [Nat.succ_add]
      exact .head running (induction rest)

/-- What steps keep, holds in every state that is reached. -/
theorem keeps {Invariant : State σ → Prop} {count : Nat}
    (preserved : ∀ state next, Invariant state → step table index state = .running next →
      Invariant next)
    (reached : Reaches table index count state final) (holds : Invariant state) :
    Invariant final := by
  induction reached with
  | refl => exact holds
  | head running _ induction => exact induction (preserved _ _ holds running)

end Reaches

/-- The state that a number of instructions lead to, where the run comes that far. -/
def advance (table : ProgramTable) (index : UInt8) : (count : Nat) → State σ → Option (State σ)
  | 0, state => some state
  | count + 1, state =>
      match step table index state with
      | .running next => advance table index count next
      | _ => none

theorem reaches_of_advance {count : Nat} (advanced : advance table index count state = some final) :
    Reaches table index count state final := by
  induction count generalizing state with
  | zero =>
      cases advanced
      exact .refl _
  | succ count induction =>
      rw [advance] at advanced
      split at advanced
      next running => exact .head running (induction advanced)
      next => cases advanced

/-- A run can be cut at any state that it passes through. -/
theorem execute_of_reaches {count : Nat} (reached : Reaches table index count state final)
    (steps : Nat) :
    execute table index (count + steps) state = execute table index steps final := by
  induction reached with
  | refl => rw [Nat.zero_add]
  | head running _ induction =>
      rw [Nat.succ_add, execute, running]
      exact induction

/-- A run from a state ends within a number of instructions, with or without a fault. -/
inductive Halts (table : ProgramTable) (index : UInt8) : Nat → State σ → Prop where
  | finished {state final : State σ} {steps : Nat} :
      step table index state = .finished final → Halts table index (steps + 1) state
  | faulted {state final : State σ} {fault : Fault} {steps : Nat} :
      step table index state = .faulted fault final → Halts table index (steps + 1) state
  | running {state next : State σ} {steps : Nat} :
      step table index state = .running next →
      Halts table index steps next →
      Halts table index (steps + 1) state

namespace Halts

theorem mono {few many : Nat} (halts : Halts table index few state) (enough : few ≤ many) :
    Halts table index many state := by
  induction halts generalizing many with
  | finished finished =>
      obtain ⟨rest, rfl⟩ := Nat.exists_eq_add_of_le' enough
      exact .finished finished
  | faulted faulted =>
      obtain ⟨rest, rfl⟩ := Nat.exists_eq_add_of_le' enough
      exact .faulted faulted
  | running running _ induction =>
      obtain ⟨rest, rfl⟩ := Nat.exists_eq_add_of_le' enough
      exact .running running (induction (Nat.le_add_left _ _))

theorem of_reaches {count steps : Nat} (reached : Reaches table index count state final)
    (halts : Halts table index steps final) : Halts table index (count + steps) state := by
  induction reached with
  | refl => simpa using halts
  | head running _ induction =>
      rw [Nat.succ_add]
      exact .running running (induction halts)

end Halts

/-- A run leaves the surroundings of the last state that it passes through. -/
theorem execute_environment {Invariant : State σ → Prop}
    (preserved : ∀ state next, Invariant state → step table index state = .running next →
      Invariant next)
    (steps : Nat) (holds : Invariant state) :
    ∃ last, Invariant last ∧
      (execute table index steps state).environment = last.environment := by
  induction steps generalizing state with
  | zero => exact ⟨state, holds, rfl⟩
  | succ steps induction =>
      cases stepped : step table index state with
      | running next =>
          rw [execute, stepped]
          exact induction (preserved _ _ holds stepped)
      | finished final =>
          have same := (step_finished stepped).2.2
          rw [execute, stepped]
          exact ⟨state, holds, by simp [State.stop, same]⟩
      | faulted fault final =>
          have same := (step_faulted stepped).2
          rw [execute, stepped]
          exact ⟨state, holds, by simp [State.stop, same]⟩

/-- A run that ends within its budget, and whose steps keep an invariant under which none of
them fails, ends with a value. -/
theorem execute_ok {Invariant : State σ → Prop} {steps : Nat}
    (preserved : ∀ state next, Invariant state → step table index state = .running next →
      Invariant next)
    (faultless : ∀ state fault, Invariant state → ¬StepFault table index state fault)
    (halts : Halts table index steps state) (holds : Invariant state) :
    ∃ value, (execute table index steps state).result = .ok value := by
  induction halts with
  | finished finished =>
      rw [execute, finished]
      exact ⟨_, rfl⟩
  | faulted faulted => exact absurd (step_faulted faulted).1 (faultless _ _ holds)
  | running running _ induction =>
      rw [execute, running]
      exact induction (preserved _ _ holds running)

/-- What a run ends with is the exhausted budget, or what a step fails on in a state in which the
invariant of the run holds. -/
theorem execute_error {Invariant : State σ → Prop}
    (preserved : ∀ state next, Invariant state → step table index state = .running next →
      Invariant next)
    {steps : Nat} (holds : Invariant state) {error : ExecutionError}
    (failed : (execute table index steps state).result = .error error) :
    error.fault = .stepLimit stepLimit ∨
      ∃ last, Invariant last ∧ StepFault table index last error.fault := by
  induction steps generalizing state with
  | zero =>
      cases failed
      exact .inl rfl
  | succ steps induction =>
      rw [execute] at failed
      cases stepped : step table index state with
      | running next =>
          rw [stepped] at failed
          exact induction (preserved _ _ holds stepped) failed
      | finished final =>
          rw [stepped] at failed
          cases failed
      | faulted fault final =>
          rw [stepped] at failed
          cases failed
          exact .inr ⟨state, holds, (step_faulted stepped).1⟩

end Machine

end TripComputer
