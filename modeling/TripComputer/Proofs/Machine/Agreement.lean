import TripComputer.Proofs.Machine.Steps

/-!
# Runs that agree on some registers

An instruction that reads only registers on which two states agree leads them to states that
agree on these registers and on those that it writes, whatever the other registers hold.
-/

namespace TripComputer

/-- The registers that an instruction reads or writes. -/
def Instruction.operands : Instruction → List Register
  | .skipIfZero x _ | .skipIfOdd x _ | .skipIfTopBit x _ => [x]
  | .skipIfAtMost x y _ => [x, y]
  | .loadImmediate x _ | .loadConstant x _ | .loadSetting x _ | .loadSettingIndexed x _ => [x]
  | .loadConvertible x | .storeSetting x _ | .storeConvertible x => [x]
  | .loadNumerator x | .loadDenominator x | .loadCounter x _ | .loadTankFuel x => [x]
  | .loadVoltage x _ | .shiftLeft x | .shiftRight x | .root x => [x]
  | .copy x y | .loadByte x y _ | .storeByte x y _ | .swap x y => [x, y]
  | .add x y | .subtract x y | .multiply x y | .divide x y => [x, y]
  | .done | .skip _ | .skipIfMetric _ | .skipIfIndexBelow _ _ | .call _ | .jump _
  | .traceOn | .traceOff => []

/-- The registers whose contents decide what an instruction does. -/
def Instruction.reads : Instruction → List Register
  | .skipIfZero x _ | .skipIfOdd x _ | .skipIfTopBit x _ => [x]
  | .storeSetting x _ | .storeConvertible x | .shiftLeft x | .shiftRight x | .root x => [x]
  | .copy _ y | .loadByte _ y _ => [y]
  | .skipIfAtMost x y _ | .storeByte x y _ | .swap x y => [x, y]
  | .add x y | .subtract x y | .multiply x y | .divide x y => [x, y]
  | _ => []

/-- The registers that an instruction gives new contents. -/
def Instruction.writes : Instruction → List Register
  | .loadImmediate x _ | .loadConstant x _ | .loadSetting x _ | .loadSettingIndexed x _ => [x]
  | .loadConvertible x | .loadNumerator x | .loadDenominator x | .loadCounter x _ => [x]
  | .loadTankFuel x | .loadVoltage x _ | .copy x _ | .loadByte x _ _ | .storeByte _ x _ => [x]
  | .add x _ | .subtract x _ | .multiply x _ | .shiftLeft x | .shiftRight x | .root x => [x]
  | .swap x y | .divide x y => [x, y]
  | _ => []

namespace Instruction

theorem mem_operands_of_mem_reads {instruction : Instruction} :
    ∀ register ∈ instruction.reads, register ∈ instruction.operands := by
  cases instruction <;> simp [reads, operands]

/-- Only the instructions that move data write registers. -/
theorem writes_of_not_isData {instruction : Instruction} (control : instruction.isData = false) :
    instruction.writes = [] := by
  cases instruction <;> first | rfl | cases control

end Instruction

/-- Two register files hold the same in the registers of a set. -/
def Registers.AgreeOn (kept : Register → Prop) (first second : Registers) : Prop :=
  ∀ register, kept register → first.get register = second.get register

namespace Registers

theorem get_set_self (registers : Registers) (register : Register) (value : UInt64) :
    (registers.set register value).get register = value := by
  cases register <;> rfl

theorem get_set_of_ne (registers : Registers) {register other : Register} (value : UInt64)
    (different : other ≠ register) :
    (registers.set register value).get other = registers.get other := by
  cases register <;> cases other <;> first | rfl | exact absurd rfl different

theorem AgreeOn.mono {kept fewer : Register → Prop} {first second : Registers}
    (agree : AgreeOn kept first second) (among : ∀ register, fewer register → kept register) :
    AgreeOn fewer first second :=
  fun register inFewer => agree register (among register inFewer)

/-- Register files also agree on a register that is given the same contents. -/
theorem AgreeOn.put {kept : Register → Prop} {first second : Registers}
    (agree : AgreeOn kept first second) (register : Register) {value other : UInt64}
    (same : value = other) :
    AgreeOn (fun read => kept read ∨ read ∈ [register]) (first.set register value)
      (second.set register other) := by
  intro read known
  subst same
  by_cases written : read = register
  · rw [written, get_set_self, get_set_self]
  · have keptRead : kept read := by simpa [written] using known
    rw [get_set_of_ne _ _ written, get_set_of_ne _ _ written, agree read keptRead]

theorem AgreeOn.set {kept : Register → Prop} {first second : Registers}
    (agree : AgreeOn kept first second) (register : Register) {value other : UInt64}
    (same : value = other) :
    AgreeOn kept (first.set register value) (second.set register other) :=
  (agree.put register same).mono fun _ => .inl

theorem AgreeOn.put_two {kept : Register → Prop} {first second : Registers}
    (agree : AgreeOn kept first second) (x y : Register) {value other last lastOther : UInt64}
    (same : value = other) (lastSame : last = lastOther) :
    AgreeOn (fun read => kept read ∨ read ∈ [x, y]) ((first.set x value).set y last)
      ((second.set x other).set y lastOther) := by
  apply ((agree.put x same).put y lastSame).mono
  intro read known
  simpa [or_assoc] using known

end Registers

namespace Machine

variable {σ : Type} {kept : Register → Prop}

/-- Outcomes of moving data that differ at most in registers outside a set. -/
inductive DataAlike (kept : Register → Prop) :
    Except Fault (Registers × σ) → Except Fault (Registers × σ) → Prop where
  | error (fault : Fault) : DataAlike kept (.error fault) (.error fault)
  | ok {first second : Registers} (environment : σ) :
      Registers.AgreeOn kept first second →
      DataAlike kept (.ok (first, environment)) (.ok (second, environment))

/-- States that differ at most in registers outside a set, neither of them traced. -/
structure State.Alike (kept : Register → Prop) (first second : State σ) : Prop where
  registers : Registers.AgreeOn kept first.registers second.registers
  stack : first.stack = second.stack
  program : first.program = second.program
  pc : first.pc = second.pc
  environment : first.environment = second.environment
  untraced : first.tracing = false ∧ second.tracing = false

/-- What alike states lead to: to a running state that is alike on a second set, or to the end
on the first. -/
inductive Progress.Alike (kept later : Register → Prop) : Progress σ → Progress σ → Prop where
  | running {first second : State σ} :
      State.Alike later first second → Alike kept later (.running first) (.running second)
  | finished {first second : State σ} :
      State.Alike kept first second → Alike kept later (.finished first) (.finished second)
  | faulted {first second : State σ} (fault : Fault) :
      State.Alike kept first second →
      Alike kept later (.faulted fault first) (.faulted fault second)

/-- Runs with the same result and surroundings, and the same registers of a set. -/
structure Run.Alike (kept : Register → Prop) (first second : Run σ) : Prop where
  result : first.result = second.result
  registers : Registers.AgreeOn kept first.machine.registers second.machine.registers
  environment : first.environment = second.environment

theorem State.Alike.stop {first second : State σ} (alike : State.Alike kept first second)
    (result : kept .r2) (fault? : Option Fault) :
    Run.Alike kept (first.stop fault?) (second.stop fault?) := by
  have same : first.registers.r2 = second.registers.r2 := alike.registers .r2 result
  refine ⟨?_, alike.registers, alike.environment⟩
  cases fault? <;> simp [State.stop, same]

theorem State.Alike.mono {fewer : Register → Prop} {first second : State σ}
    (alike : State.Alike kept first second) (among : ∀ register, fewer register → kept register) :
    State.Alike fewer first second :=
  { alike with registers := alike.registers.mono among }

theorem Progress.Alike.mono {later fewer : Register → Prop} {first second : Progress σ}
    (alike : Progress.Alike kept later first second)
    (among : ∀ register, fewer register → later register) :
    Progress.Alike kept fewer first second := by
  cases alike with
  | running states => exact .running (states.mono among)
  | finished states => exact .finished states
  | faulted fault states => exact .faulted fault states

variable [Environment σ]

theorem skips_alike (index : UInt8) (environment : σ) {first second : Registers}
    {instruction : Instruction} (agree : Registers.AgreeOn kept first second)
    (reads : ∀ register ∈ instruction.reads, kept register) :
    skips index first environment instruction = skips index second environment instruction := by
  cases instruction <;>
    simp_all [skips, Instruction.reads, Registers.AgreeOn]

theorem perform_alike (index : UInt8) (environment : σ) {first second : Registers}
    {instruction : Instruction} (agree : Registers.AgreeOn kept first second)
    (reads : ∀ register ∈ instruction.reads, kept register) :
    DataAlike (fun register => kept register ∨ register ∈ instruction.writes)
      (perform index first environment instruction)
      (perform index second environment instruction) := by
  have same : ∀ register ∈ instruction.reads, first.get register = second.get register :=
    fun register read => agree register (reads register read)
  have unwritten : Registers.AgreeOn (fun register => kept register ∨ register ∈ []) first second :=
    agree.mono fun _ known => known.resolve_right List.not_mem_nil
  cases instruction with
  | loadSettingIndexed x base =>
      simp only [perform]
      split
      next => exact .error _
      next => exact .ok _ (agree.put x rfl)
  | loadConvertible x | loadNumerator x | loadDenominator x =>
      simp only [perform, bind, Except.bind]
      split
      next => exact .error _
      next => exact .ok _ (agree.put x rfl)
  | loadCounter x counter =>
      simp only [perform]
      split
      next => exact .error _
      next => exact .ok _ (agree.put x rfl)
  | loadVoltage x channel =>
      simp only [perform]
      split
      next => exact .error _
      next => exact .ok _ (agree.put x rfl)
  | loadImmediate x | loadConstant x | loadSetting x | loadTankFuel x =>
      exact .ok _ (agree.put x rfl)
  | storeSetting x setting =>
      have stored := same x List.mem_cons_self
      simp only [perform, stored]
      exact .ok _ unwritten
  | storeConvertible x =>
      have stored := same x List.mem_cons_self
      simp only [perform, bind, Except.bind, stored]
      split
      next => exact .error _
      next => exact .ok _ unwritten
  | copy x y =>
      have source := same y List.mem_cons_self
      exact .ok _ (agree.put x source)
  | loadByte x y position =>
      have source := same y List.mem_cons_self
      simp only [perform, source]
      split
      next => exact .error _
      next => exact .ok _ (agree.put x rfl)
  | storeByte x y position =>
      have source := same x (by simp [Instruction.reads])
      have target := same y (by simp [Instruction.reads])
      simp only [perform, source, target]
      split
      next => exact .error _
      next => exact .ok _ (agree.put y rfl)
  | swap x y =>
      have left := same x (by simp [Instruction.reads])
      have right := same y (by simp [Instruction.reads])
      exact .ok _ (agree.put_two x y right left)
  | add x y | subtract x y | multiply x y =>
      have left := same x (by simp [Instruction.reads])
      have right := same y (by simp [Instruction.reads])
      exact .ok _ (agree.put x (by rw [left, right]))
  | divide x y =>
      have left := same x (by simp [Instruction.reads])
      have right := same y (by simp [Instruction.reads])
      exact .ok _ (agree.put_two x y (by rw [left, right]) (by rw [left, right]))
  | shiftLeft x | shiftRight x | root x =>
      have value := same x List.mem_cons_self
      exact .ok _ (agree.put x (by rw [value]))
  | _ => exact .ok _ unwritten

theorem apply_alike {left right : ProgramTable} {index : UInt8} {first second : State σ}
    {instruction : Instruction} (alike : State.Alike kept first second)
    (shared : left first.program = right first.program)
    (untraced : instruction.isTrace = false)
    (reads : ∀ register ∈ instruction.reads, kept register) :
    Progress.Alike kept (fun register => kept register ∨ register ∈ instruction.writes)
      (apply left index first instruction) (apply right index second instruction) := by
  obtain ⟨firstRegisters, stack, tracing, program, pc, environment, firstTrace⟩ := first
  obtain ⟨secondRegisters, _, _, _, _, _, secondTrace⟩ := second
  obtain ⟨agree, rfl, rfl, rfl, rfl, rfl, rfl⟩ := alike
  dsimp only at agree shared ⊢
  -- control leaves the registers as they are
  have unwritten (control : instruction.isData = false) : Registers.AgreeOn
      (fun register => kept register ∨ register ∈ instruction.writes) firstRegisters
      secondRegisters := by
    rw [Instruction.writes_of_not_isData control]
    exact agree.mono fun _ known => known.resolve_right List.not_mem_nil
  rcases instruction.kinds with data | ⟨distance, skip⟩ | rfl | trace | ⟨callee, rfl | rfl⟩
  · rw [apply_data data, apply_data data]
    have performed := perform_alike index environment agree reads
    generalize perform index firstRegisters environment instruction = firstOutcome at performed ⊢
    generalize perform index secondRegisters environment instruction = secondOutcome at performed ⊢
    cases performed with
    | error fault => exact .faulted fault ⟨agree, rfl, rfl, rfl, rfl, rfl, rfl⟩
    | ok after agreeAfter => exact .running ⟨agreeAfter, rfl, rfl, rfl, rfl, rfl, rfl⟩
  · have taken := skips_alike index environment agree reads
    have agreeAfter := unwritten (by cases instruction <;> first | rfl | cases skip)
    simp only [apply_skip skip, ← shared, taken]
    cases skips index secondRegisters environment instruction with
    | false => exact .running ⟨agreeAfter, rfl, rfl, rfl, rfl, rfl, rfl⟩
    | true =>
        cases landing? (left program).length pc distance with
        | none => exact .faulted _ ⟨agree, rfl, rfl, rfl, rfl, rfl, rfl⟩
        | some target => exact .running ⟨agreeAfter, rfl, rfl, rfl, rfl, rfl, rfl⟩
  · cases stack with
    | nil => exact .finished ⟨agree, rfl, rfl, rfl, rfl, rfl, rfl⟩
    | cons frame stack => exact .running ⟨unwritten rfl, rfl, rfl, rfl, rfl, rfl, rfl⟩
  · rw [untraced] at trace
    cases trace
  · simp only [apply]
    split
    next => exact .running ⟨unwritten rfl, rfl, rfl, rfl, rfl, rfl, rfl⟩
    next => exact .faulted _ ⟨agree, rfl, rfl, rfl, rfl, rfl, rfl⟩
  · exact .running ⟨unwritten rfl, rfl, rfl, rfl, rfl, rfl, rfl⟩

/-- Alike states are led to alike states by an instruction that reads what they agree on. -/
theorem step_reads_alike {left right : ProgramTable} (index : UInt8) {first second : State σ}
    {instruction : Instruction} (alike : State.Alike kept first second)
    (shared : left first.program = right first.program)
    (fetched : (left first.program)[first.pc]? = some instruction)
    (untraced : instruction.isTrace = false)
    (reads : ∀ register ∈ instruction.reads, kept register) :
    Progress.Alike kept (fun register => kept register ∨ register ∈ instruction.writes)
      (step left index first) (step right index second) := by
  have fetchedThere : (right second.program)[second.pc]? = some instruction := by
    rw [← alike.program, ← alike.pc, ← shared, fetched]
  rw [step_of_fetched fetched, step_of_fetched fetchedThere,
    State.traced_eq_self alike.untraced.1, State.traced_eq_self alike.untraced.2]
  exact apply_alike alike shared untraced reads

theorem step_ranOffEnd_alike {left right : ProgramTable} (index : UInt8) {first second : State σ}
    (alike : State.Alike kept first second)
    (shared : left first.program = right first.program)
    (missing : (left first.program)[first.pc]? = none) :
    Progress.Alike kept kept (step left index first) (step right index second) := by
  have missingThere : (right second.program)[second.pc]? = none := by
    rw [← alike.program, ← alike.pc, ← shared, missing]
  rw [step, step, missing, missingThere, alike.program]
  exact .faulted _ alike

/-- A program whose operands are all among the registers of a set, and which both tables have in
common, leads states alike on this set to such states. -/
theorem step_alike {left right : ProgramTable} (index : UInt8) {first second : State σ}
    (alike : State.Alike kept first second)
    (shared : left first.program = right first.program)
    (plain : ∀ instruction ∈ left first.program,
      instruction.isTrace = false ∧ ∀ register ∈ instruction.operands, kept register) :
    Progress.Alike kept kept (step left index first) (step right index second) := by
  cases fetched : (left first.program)[first.pc]? with
  | none => exact step_ranOffEnd_alike index alike shared fetched
  | some instruction =>
      obtain ⟨untraced, operands⟩ := plain instruction (List.mem_of_getElem? fetched)
      have reads : ∀ register ∈ instruction.reads, kept register := fun register read =>
        operands register (Instruction.mem_operands_of_mem_reads register read)
      apply (step_reads_alike index alike shared fetched untraced reads).mono
      exact fun register known => .inl known

end Machine

end TripComputer
