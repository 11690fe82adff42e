import TripComputer.Proofs.Machine.CallGraph

/-!
# Programs that see one trip

Of its surroundings, a program that is made of tripwise instructions sees the unit system, the
settings, the cycle rate and the trip at the context index.  Surroundings that agree on these are
the same to it: a run of it goes the same way in the one as in the other.
-/

namespace TripComputer

/-- Whether the instruction leaves the surroundings alone, and sees nothing of them but the unit
system, the settings, the cycle rate and the trip at the context index. -/
def Instruction.isTripwise : Instruction → Bool
  | .loadConstant _ constant => constant != .tickCycles
  | .storeSetting _ _ | .storeConvertible _ | .loadTankFuel _ | .loadVoltage _ _ => false
  | _ => true

theorem Instruction.target?_of_isTripwise {instruction : Instruction}
    (tripwise : instruction.isTripwise = true) (index : UInt8) :
    instruction.target? index = none := by
  cases instruction <;> first | rfl | cases tripwise

theorem Constant.value_eq_of_ne {constant : Constant} (other : constant ≠ .tickCycles)
    (cyclesPerSecond first second : UInt32) :
    constant.value cyclesPerSecond first = constant.value cyclesPerSecond second := by
  cases constant <;> first | rfl | exact absurd rfl other

/-- The run of a program meets tripwise instructions only. -/
def ProgramTable.Tripwise (table : ProgramTable) (entry : Program) : Prop :=
  ∀ program, table.Uses entry program → ∀ instruction ∈ table program, instruction.isTripwise = true

/-- A program is tripwise that is among programs which are made of tripwise instructions, and which
pass control to none but each other. -/
theorem ProgramTable.tripwise_of_closed {table : ProgramTable} {entry : Program}
    {programs : List Program} (start : entry ∈ programs)
    (closed : ∀ program ∈ programs, ∀ instruction ∈ table program,
      instruction.isTripwise = true ∧ ∀ callee ∈ instruction.callee?, callee ∈ programs) :
    table.Tripwise entry := by
  intro program uses instruction member
  have among : ∀ caller callee, caller ∈ programs → table.Calls caller callee →
      callee ∈ programs := by
    rintro caller callee inside ⟨passing, found, passes⟩
    exact (closed caller inside passing found).2 callee passes
  exact (closed program (uses.mem_of_closed among start) instruction member).1

/-- A tripwise program sees the same at a context index in both surroundings. -/
structure Environment.SameSight {σ : Type} [Environment σ] (index : UInt8) (first second : σ) :
    Prop where
  metric : metric first = metric second
  cyclesPerSecond : cyclesPerSecond first = cyclesPerSecond second
  setting : ∀ name, setting first name = setting second name
  counter : ∀ counter, counter? first index counter = counter? second index counter

namespace Machine

variable {σ : Type}

/-- The state in other surroundings. -/
def State.under (environment : σ) (state : State σ) : State σ :=
  { state with environment := environment }

/-- The same progress in other surroundings. -/
def Progress.under (environment : σ) : Progress σ → Progress σ
  | .running state => .running (state.under environment)
  | .finished state => .finished (state.under environment)
  | .faulted fault state => .faulted fault (state.under environment)

theorem State.traced_under (environment : σ) (state : State σ) (instruction : Instruction) :
    (state.under environment).traced instruction =
      (state.traced instruction).under environment := by
  unfold traced under
  split <;> rfl

theorem State.stop_under (environment : σ) (state : State σ) (fault? : Option Fault) :
    ((state.under environment).stop fault?).result = (state.stop fault?).result := by
  cases fault? <;> rfl

variable [Environment σ] {table : ProgramTable} {index : UInt8} {entry : Program}
  {environment : σ} {state : State σ} {instruction : Instruction}

theorem skips_under (same : Environment.SameSight index state.environment environment) :
    skips index state.registers environment instruction =
      skips index state.registers state.environment instruction := by
  cases instruction with
  | skipIfMetric distance => exact same.metric.symm
  | _ => rfl

/-- A tripwise instruction does the same to the registers, and nothing to the surroundings. -/
theorem perform_under (tripwise : instruction.isTripwise = true) (registers : Registers)
    {first second : σ} (same : Environment.SameSight index first second) :
    ∃ outcome : Except Fault Registers,
      perform index registers first instruction = outcome.map (·, first) ∧
        perform index registers second instruction = outcome.map (·, second) := by
  cases instruction with
  | loadConstant x constant =>
      have clocked : constant.value (Environment.cyclesPerSecond first)
            (Environment.tickCycles first) =
          constant.value (Environment.cyclesPerSecond second) (Environment.tickCycles second) := by
        rw [same.cyclesPerSecond]
        exact Constant.value_eq_of_ne (bne_iff_ne.mp tripwise) _ _ _
      refine ⟨.ok (registers.set x _), rfl, ?_⟩
      rw [clocked]
      rfl
  | loadSetting x name =>
      refine ⟨.ok (registers.set x _), rfl, ?_⟩
      rw [same.setting]
      rfl
  | loadSettingIndexed x base =>
      simp only [perform, same.setting]
      cases Setting.ofIndex? (base + index) with
      | none => exact ⟨.error _, rfl, rfl⟩
      | some name => exact ⟨.ok _, rfl, rfl⟩
  | loadConvertible x =>
      simp only [perform, same.setting]
      cases conversion index with
      | error fault => exact ⟨.error _, rfl, rfl⟩
      | ok slot => exact ⟨.ok _, rfl, rfl⟩
  | loadNumerator x | loadDenominator x =>
      simp only [perform]
      cases conversion index with
      | error fault => exact ⟨.error _, rfl, rfl⟩
      | ok slot => exact ⟨.ok _, rfl, rfl⟩
  | loadCounter x counter =>
      simp only [perform, same.counter]
      cases Environment.counter? second index counter with
      | none => exact ⟨.error _, rfl, rfl⟩
      | some value => exact ⟨.ok _, rfl, rfl⟩
  | loadByte x y position =>
      simp only [perform]
      cases Word.byte? (registers.get y) position with
      | none => exact ⟨.error _, rfl, rfl⟩
      | some byte => exact ⟨.ok _, rfl, rfl⟩
  | storeByte x y position =>
      simp only [perform]
      cases Word.setByte? (registers.get y) position (registers.get x).toUInt8 with
      | none => exact ⟨.error _, rfl, rfl⟩
      | some word => exact ⟨.ok _, rfl, rfl⟩
  | storeSetting | storeConvertible | loadTankFuel | loadVoltage => cases tripwise
  | _ => exact ⟨.ok _, rfl, rfl⟩

theorem apply_under (tripwise : instruction.isTripwise = true)
    (same : Environment.SameSight index state.environment environment) :
    apply table index (state.under environment) instruction =
      (apply table index state instruction).under environment := by
  rcases instruction.kinds with data | ⟨distance, skip⟩ | rfl | trace | ⟨callee, rfl | rfl⟩
  · obtain ⟨outcome, here, there⟩ := perform_under tripwise state.registers same
    rw [apply_data data, apply_data data, here]
    simp only [State.under, there]
    cases outcome <;> rfl
  · rw [apply_skip skip, apply_skip skip]
    simp only [State.under, skips_under same]
    split
    next => cases landing? (table state.program).length state.pc distance <;> rfl
    next => rfl
  · obtain ⟨registers, stack, tracing, program, pc, _, trace⟩ := state
    cases stack <;> rfl
  · cases instruction <;> first | rfl | cases trace
  · have sameStack : (state.under environment).stack = state.stack := rfl
    by_cases room : state.stack.length < stackDepth
    · simp only [apply, sameStack, if_pos room]
      rfl
    · simp only [apply, sameStack, if_neg room]
      rfl
  · rfl

theorem step_under
    (tripwise : ∀ instruction ∈ table state.program, instruction.isTripwise = true)
    (same : Environment.SameSight index state.environment environment) :
    step table index (state.under environment) =
      (step table index state).under environment := by
  cases fetched : (table state.program)[state.pc]? with
  | none =>
      have missing : (table (state.under environment).program)[(state.under environment).pc]? =
        none := fetched
      rw [step, step, fetched, missing]
      rfl
  | some instruction =>
      have found : (table (state.under environment).program)[(state.under environment).pc]? =
        some instruction := fetched
      rw [step_of_fetched fetched, step_of_fetched found, State.traced_under]
      refine apply_under (tripwise _ (List.mem_of_getElem? fetched)) ?_
      rwa [State.traced_environment]

/-- Tripwise programs have the same results in surroundings that are the same to them. -/
theorem execute_under (tripwise : table.Tripwise entry) (steps : Nat)
    (confined : Confined table entry state)
    (same : Environment.SameSight index state.environment environment) :
    (execute table index steps (state.under environment)).result =
      (execute table index steps state).result := by
  induction steps generalizing state with
  | zero => exact state.stop_under environment _
  | succ steps induction =>
      have storeless (name : Setting) : ¬table.Stores index entry name := by
        rintro ⟨program, uses, instruction, member, target⟩
        rw [Instruction.target?_of_isTripwise (tripwise program uses instruction member)] at target
        cases target
      rw [execute, execute, step_under (tripwise _ confined.here) same]
      cases stepped : step table index state with
      | running next =>
          refine induction (confined.step stepped) ?_
          rwa [confined.step_environment storeless stepped]
      | finished final => exact final.stop_under environment none
      | faulted fault final => exact final.stop_under environment (some fault)

theorem run_under (tripwise : table.Tripwise entry) (machine : Machine) {first second : σ}
    (same : Environment.SameSight index first second) :
    (machine.run table second entry index).result = (machine.run table first entry index).result :=
  execute_under tripwise stepLimit (.start machine first) same

end Machine

end TripComputer
