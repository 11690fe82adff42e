import TripComputer.Proofs.Catalog.Kernel
import TripComputer.Proofs.Machine.Control

/-!
# Programs as single steps

`ReturnsWithin` is what a program does from a position on until control comes back to its caller,
with every call taken as one step, where every program entered on the way is allowed its
registers.  It knows nothing of the stack and of the budget, so that what is proved of a
subroutine once holds wherever it is called.  Two results go back to the machine, where ranks
leave room for the calls: `run_of_returns` for how a run ends, and `ReturnsWithin.allowed` for
what it passes through.

`Leads` is the part of it that callers rely on, a condition on the last registers.  `Answers`
is the most common one, a number in register 2.
-/

namespace TripComputer.Machine

variable {σ : Type}

/-- The state with other surroundings. -/
def State.seeing (state : State σ) (environment : σ) : State σ :=
  { state with environment := environment }

/-- Control is about to pass to a program. -/
def Entering (table : ProgramTable) (state : State σ) (callee : Program) : Prop :=
  ∃ instruction, (table state.program)[state.pc]? = some instruction ∧
    instruction.callee? = some callee

/-- A program that is about to be entered is allowed its registers. -/
def Allows (table : ProgramTable) (Allowed : Program → Registers → Prop) (state : State σ) : Prop :=
  ∀ callee, Entering table state callee → Allowed callee state.registers

namespace Allows

variable {table : ProgramTable} {Allowed : Program → Registers → Prop} {program callee : Program}
  {pc : Nat} {registers : Registers} {instruction : Instruction}

theorem of_staying (state : State σ) (fetched : (table program)[pc]? = some instruction)
    (stays : instruction.callee? = none) :
    Allows table Allowed (state.within program pc registers) := by
  intro callee ⟨found, same, passes⟩
  cases fetched.symm.trans same
  cases stays.symm.trans passes

theorem of_entering (state : State σ) (fetched : (table program)[pc]? = some instruction)
    (passes : instruction.callee? = some callee) (allowed : Allowed callee registers) :
    Allows table Allowed (state.within program pc registers) := by
  intro other ⟨found, same, passesToo⟩
  cases fetched.symm.trans same
  cases passes.symm.trans passesToo
  exact allowed

end Allows

variable [Environment σ]

/-- As `Reaches`, through states in which a condition holds, the last one apart. -/
inductive ReachesThrough (table : ProgramTable) (index : UInt8) (Good : State σ → Prop) :
    Nat → State σ → State σ → Prop where
  | refl (state : State σ) : ReachesThrough table index Good 0 state state
  | head {state next final : State σ} {count : Nat} :
      Good state → step table index state = .running next →
      ReachesThrough table index Good count next final →
      ReachesThrough table index Good (count + 1) state final

/-- From a position of a program, control comes back to the caller with the last registers
and surroundings, and every program entered on the way is allowed its registers. -/
inductive ReturnsWithin (table : ProgramTable) (index : UInt8)
    (Allowed : Program → Registers → Prop) :
    Program → Nat → Registers → σ → Registers → σ → Prop where
  | done {program : Program} {pc : Nat} {registers : Registers} {environment : σ} :
      (table program)[pc]? = some .done →
      ReturnsWithin table index Allowed program pc registers environment registers environment
  | data {program : Program} {pc : Nat} {registers next later : Registers}
      {environment changed final : σ} {instruction : Instruction} :
      (table program)[pc]? = some instruction → instruction.isData = true →
      perform index registers environment instruction = .ok (next, changed) →
      ReturnsWithin table index Allowed program (pc + 1) next changed later final →
      ReturnsWithin table index Allowed program pc registers environment later final
  | taken {program : Program} {pc target : Nat} {registers later : Registers}
      {environment final : σ} {instruction : Instruction} {distance : Int8} :
      (table program)[pc]? = some instruction → instruction.distance? = some distance →
      landing? (table program).length pc distance = some target →
      skips index registers environment instruction = true →
      ReturnsWithin table index Allowed program target registers environment later final →
      ReturnsWithin table index Allowed program pc registers environment later final
  | passed {program : Program} {pc : Nat} {registers later : Registers}
      {environment final : σ} {instruction : Instruction} {distance : Int8} :
      (table program)[pc]? = some instruction → instruction.distance? = some distance →
      skips index registers environment instruction = false →
      ReturnsWithin table index Allowed program (pc + 1) registers environment later final →
      ReturnsWithin table index Allowed program pc registers environment later final
  | call {program callee : Program} {pc : Nat} {registers between later : Registers}
      {environment changed final : σ} :
      (table program)[pc]? = some (.call callee) → Allowed callee registers →
      ReturnsWithin table index Allowed callee 0 registers environment between changed →
      ReturnsWithin table index Allowed program (pc + 1) between changed later final →
      ReturnsWithin table index Allowed program pc registers environment later final
  | jump {program callee : Program} {pc : Nat} {registers later : Registers}
      {environment final : σ} :
      (table program)[pc]? = some (.jump callee) → Allowed callee registers →
      ReturnsWithin table index Allowed callee 0 registers environment later final →
      ReturnsWithin table index Allowed program pc registers environment later final

/-- From a position of a program, control comes back to the caller, whatever is entered on the
way. -/
abbrev Returns (table : ProgramTable) (index : UInt8) :
    Program → Nat → Registers → σ → Registers → σ → Prop :=
  ReturnsWithin table index fun _ _ => True

variable {table : ProgramTable} {index : UInt8} {rank : Program → Nat}
  {Allowed : Program → Registers → Prop} {Good : State σ → Prop}
  {program entry callee : Program} {pc : Nat} {registers later : Registers} {environment final : σ}

theorem step_performed (state : State σ) {next : Registers} {changed : σ}
    {instruction : Instruction} (fetched : (table program)[pc]? = some instruction)
    (data : instruction.isData = true)
    (performed : perform index registers state.environment instruction = .ok (next, changed)) :
    step table index (state.within program pc registers) =
      .running ((state.seeing changed).within program (pc + 1) next) := by
  rw [step_within state registers fetched, apply_data data]
  simp only [State.within, performed, State.seeing]

theorem step_call (state : State σ)
    (fetched : (table program)[pc]? = some (.call callee))
    (room : state.stack.length < stackDepth) :
    step table index (state.within program pc registers) =
      .running (({ state with stack := ⟨program, pc + 1⟩ :: state.stack }).within callee 0
        registers) := by
  rw [step_within state registers fetched]
  simp only [apply, State.within, room, if_true]

theorem step_jump (state : State σ)
    (fetched : (table program)[pc]? = some (.jump callee)) :
    step table index (state.within program pc registers) =
      .running (state.within callee 0 registers) := by
  rw [step_within state registers fetched]
  rfl

/-- The end of a called program leads back behind the call. -/
theorem step_return (state : State σ) (frame : Frame)
    (fetched : (table program)[pc]? = some .done) :
    step table index
        (({ state with stack := frame :: state.stack }).within program pc registers) =
      .running (state.within frame.program frame.pc registers) :=
  step_resumes fetched rfl

namespace ReachesThrough

theorem trans {first second : Nat} {state middle last : State σ}
    (start : ReachesThrough table index Good first state middle)
    (rest : ReachesThrough table index Good second middle last) :
    ReachesThrough table index Good (first + second) state last := by
  induction start with
  | refl => simpa using rest
  | head good running _ induction =>
      rw [Nat.succ_add]
      exact .head good running (induction rest)

theorem reaches {count : Nat} {state last : State σ}
    (through : ReachesThrough table index Good count state last) :
    Reaches table index count state last := by
  induction through with
  | refl state => exact .refl state
  | head _ running _ induction => exact .head running induction

/-- Where the last state ends the run, no other states are reached at all. -/
theorem good_or_last {count steps : Nat} {state last stopped passed : State σ}
    (through : ReachesThrough table index Good count state last)
    (finished : step table index last = .finished stopped)
    (reached : Reaches table index steps state passed) : Good passed ∨ passed = last := by
  induction through generalizing steps with
  | refl =>
      cases reached with
      | refl => exact .inr rfl
      | head running _ => cases finished.symm.trans running
  | head good running _ induction =>
      cases reached with
      | refl => exact .inl good
      | head same rest =>
          cases running.symm.trans same
          exact induction finished rest

end ReachesThrough

theorem ReturnsWithin.mono {Other : Program → Registers → Prop}
    (returns : ReturnsWithin table index Allowed program pc registers environment later final)
    (weaker : ∀ callee registers, Allowed callee registers → Other callee registers) :
    ReturnsWithin table index Other program pc registers environment later final := by
  induction returns with
  | done fetched => exact .done fetched
  | data fetched data performed _ induction => exact .data fetched data performed induction
  | taken fetched skip lands taken _ induction => exact .taken fetched skip lands taken induction
  | passed fetched skip notTaken _ induction => exact .passed fetched skip notTaken induction
  | call fetched allowed _ _ inCallee behind =>
      exact .call fetched (weaker _ _ allowed) inCallee behind
  | jump fetched allowed _ induction => exact .jump fetched (weaker _ _ allowed) induction

/-- A program that enters no other one returns where it is seen to reach its end on an empty
stack. -/
theorem ReturnsWithin.of_reaches {count : Nat} {state last : State σ}
    (flat : ∀ instruction ∈ table state.program,
      instruction.callee? = none ∧ instruction.isTrace = false)
    (alone : state.stack = []) (untraced : state.tracing = false)
    (reached : Reaches table index count state last)
    (ended : (table last.program)[last.pc]? = some .done) :
    ReturnsWithin table index Allowed state.program state.pc state.registers state.environment
      last.registers last.environment := by
  induction reached with
  | refl => exact .done ended
  | @head state next _ _ running _ induction =>
      cases fetched : (table state.program)[state.pc]? with
      | none =>
          rw [step, fetched] at running
          cases running
      | some instruction =>
          rw [step_of_fetched fetched, State.traced_eq_self untraced] at running
          obtain ⟨stays, noTrace⟩ := flat instruction (List.mem_of_getElem? fetched)
          rcases instruction.kinds with data | ⟨distance, skip⟩ | rfl | trace | ⟨_, rfl | rfl⟩
          · rw [apply_data data] at running
            split at running
            next => cases running
            next performed =>
              cases running
              exact .data fetched data performed (induction flat alone untraced ended)
          · rw [apply_skip skip] at running
            split at running
            next taken =>
              split at running
              next => cases running
              next lands =>
                cases running
                exact .taken fetched skip lands taken (induction flat alone untraced ended)
            next notTaken =>
              cases running
              exact .passed fetched skip (Bool.eq_false_iff.mpr notTaken)
                (induction flat alone untraced ended)
          · simp only [apply, alone] at running
            cases running
          · cases noTrace.symm.trans trace
          · cases stays
          · cases stays

/-- Where ranks leave room on the stack, the machine comes to the end of the program. -/
theorem ReturnsWithin.reaches (ranked : table.Ranked rank)
    (returns : ReturnsWithin table index Allowed program pc registers environment later final)
    (state : State σ) (shallow : Shallow rank stackDepth program state.stack) :
    ∃ count last position,
      ReachesThrough table index (Allows table Allowed) count
        ((state.seeing environment).within program pc registers)
        ((state.seeing final).within last position later) ∧
      (table last)[position]? = some .done := by
  -- on the steps of the program, for every stack that leaves room for its calls
  induction returns generalizing state with
  | done fetched => exact ⟨0, _, _, .refl _, fetched⟩
  | @data _ _ _ _ _ environment _ _ _ fetched data performed _ induction =>
      obtain ⟨count, last, position, reached, ended⟩ := induction state shallow
      have running := step_performed (state.seeing environment) fetched data performed
      refine ⟨count + 1, last, position, .head ?_ running reached, ended⟩
      exact .of_staying _ fetched (Instruction.callee?_of_isData data)
  | taken fetched skip lands taken _ induction =>
      obtain ⟨count, last, position, reached, ended⟩ := induction state shallow
      refine ⟨count + 1, last, position,
        .head ?_ (step_taken _ fetched skip lands taken) reached, ended⟩
      exact .of_staying _ fetched (Instruction.callee?_of_distance? skip)
  | passed fetched skip notTaken _ induction =>
      obtain ⟨count, last, position, reached, ended⟩ := induction state shallow
      refine ⟨count + 1, last, position,
        .head ?_ (step_passed _ fetched skip notTaken) reached, ended⟩
      exact .of_staying _ fetched (Instruction.callee?_of_distance? skip)
  | @call program _ pc _ _ _ _ changed _ fetched allowed _ _ inCallee behind =>
      have down := ranked.calls (List.mem_of_getElem? fetched)
      have bound := shallow.length_le
      have room : state.stack.length < stackDepth := by omega
      -- the callee runs on a stack with one frame more, and its end takes that frame off again
      obtain ⟨calling, last, position, called, ended⟩ :=
        inCallee { state with stack := ⟨program, pc + 1⟩ :: state.stack } ⟨by omega, shallow⟩
      obtain ⟨count, final, place, reached, endsThere⟩ := behind state shallow
      have rest := ReachesThrough.head (.of_staying _ ended rfl)
        (step_return (state.seeing changed) ⟨program, pc + 1⟩ ended) reached
      refine ⟨_, final, place, .head ?_ (step_call _ fetched room) (called.trans rest), endsThere⟩
      exact .of_entering _ fetched rfl allowed
  | jump fetched allowed _ induction =>
      have down := ranked.jumps (List.mem_of_getElem? fetched)
      obtain ⟨count, last, position, reached, ended⟩ := induction state (shallow.anti down)
      refine ⟨count + 1, last, position, .head ?_ (step_jump _ fetched) reached, ended⟩
      exact .of_entering _ fetched rfl allowed

theorem Halts.lt_of_reaches {count steps : Nat} {state last stopped : State σ}
    (halts : Halts table index steps state) (reached : Reaches table index count state last)
    (finished : step table index last = .finished stopped) : count < steps := by
  induction reached generalizing steps with
  | refl =>
      cases halts with
      | finished _ | faulted _ | running _ _ => exact Nat.succ_pos _
  | head running _ induction =>
      cases halts with
      | finished ends => cases ends.symm.trans running
      | faulted faults => cases faults.symm.trans running
      | running continues rest =>
          cases continues.symm.trans running
          exact Nat.succ_lt_succ (induction rest finished)

/-- The machine comes to the end of the program on an empty stack, which is the end of the run. -/
theorem ReturnsWithin.finishes (ranked : table.Ranked rank) (machine : Machine)
    (room : rank entry ≤ stackDepth)
    (returns : ReturnsWithin table index Allowed entry 0 machine.registers environment later final) :
    ∃ count last, ReachesThrough table index (Allows table Allowed) count
        (machine.start environment entry) last ∧
      step table index last = .finished last ∧
      (table last.program)[last.pc]? = some .done ∧
      last.registers = later ∧ last.environment = final := by
  obtain ⟨count, last, position, reached, ended⟩ :=
    returns.reaches ranked (machine.start environment entry) room
  have finished : step table index
      (((machine.start environment entry).seeing final).within last position later) =
        .finished (((machine.start environment entry).seeing final).within last position later) :=
    step_ends ended rfl
  exact ⟨count, _, reached, finished, ended, rfl, rfl⟩

/-- A run that ends within its budget does what its program does. -/
theorem run_of_returns (ranked : table.Ranked rank) (machine : Machine)
    (room : rank entry ≤ stackDepth)
    (halts : Halts table index stepLimit (machine.start environment entry))
    (returns : ReturnsWithin table index Allowed entry 0 machine.registers environment later final) :
    (machine.run table environment entry index).result = .ok later.r2 ∧
      (machine.run table environment entry index).machine.registers = later ∧
      (machine.run table environment entry index).environment = final := by
  obtain ⟨count, last, through, finished, _, rfl, rfl⟩ := returns.finishes ranked machine room
  have few := Halts.lt_of_reaches halts through.reaches finished
  obtain ⟨rest, enough⟩ := Nat.exists_eq_add_of_lt few
  have cut := execute_of_reaches through.reaches (rest + 1)
  rw [execute, finished] at cut
  rw [run, enough, Nat.add_assoc]
  exact ⟨congrArg Run.result cut, congrArg (·.machine.registers) cut, congrArg Run.environment cut⟩

/-- A run enters programs only with registers that they are allowed. -/
theorem ReturnsWithin.allowed (ranked : table.Ranked rank) (machine : Machine)
    (room : rank entry ≤ stackDepth)
    (returns : ReturnsWithin table index Allowed entry 0 machine.registers environment later final)
    {count : Nat} {state : State σ}
    (reached : Reaches table index count (machine.start environment entry) state)
    (entering : Entering table state callee) : Allowed callee state.registers := by
  obtain ⟨_, last, through, finished, ended, _⟩ := returns.finishes ranked machine room
  rcases through.good_or_last finished reached with allows | rfl
  · exact allows callee entering
  · obtain ⟨instruction, fetched, passes⟩ := entering
    cases ended.symm.trans fetched
    cases passes

/-- From a position of a program, control comes back with registers of which a condition holds,
and with the surroundings as they were. -/
def Leads (table : ProgramTable) (index : UInt8) (Allowed : Program → Registers → Prop)
    (environment : σ) (program : Program) (pc : Nat) (registers : Registers)
    (Post : Registers → Prop) : Prop :=
  ∃ later, ReturnsWithin table index Allowed program pc registers environment later environment ∧
    Post later

variable {target : Nat} {next : Registers} {distance : Int8} {instruction : Instruction}
  {x y : Register}

namespace Leads

variable {Post Between : Registers → Prop}

theorem done (fetched : (table program)[pc]? = some .done) (holds : Post registers) :
    Leads table index Allowed environment program pc registers Post :=
  ⟨registers, .done fetched, holds⟩

theorem data (fetched : (table program)[pc]? = some instruction)
    (moves : instruction.isData = true)
    (performed : perform index registers environment instruction = .ok (next, environment))
    (rest : Leads table index Allowed environment program (pc + 1) next Post) :
    Leads table index Allowed environment program pc registers Post :=
  rest.imp fun _ ⟨returns, holds⟩ => ⟨.data fetched moves performed returns, holds⟩

theorem counter {counter : Counter} {counted : UInt64}
    (fetched : (table program)[pc]? = some (.loadCounter x counter))
    (found : Environment.counter? environment index counter = some counted)
    (rest : Leads table index Allowed environment program (pc + 1) (registers.set x counted) Post) :
    Leads table index Allowed environment program pc registers Post :=
  .data fetched rfl (by simp only [perform, found]) rest

theorem taken (fetched : (table program)[pc]? = some instruction)
    (skip : instruction.distance? = some distance)
    (lands : landing? (table program).length pc distance = some target)
    (skips : skips index registers environment instruction = true)
    (rest : Leads table index Allowed environment program target registers Post) :
    Leads table index Allowed environment program pc registers Post :=
  rest.imp fun _ ⟨returns, holds⟩ => ⟨.taken fetched skip lands skips returns, holds⟩

theorem passed (fetched : (table program)[pc]? = some instruction)
    (skip : instruction.distance? = some distance)
    (skips : skips index registers environment instruction = false)
    (rest : Leads table index Allowed environment program (pc + 1) registers Post) :
    Leads table index Allowed environment program pc registers Post :=
  rest.imp fun _ ⟨returns, holds⟩ => ⟨.passed fetched skip skips returns, holds⟩

theorem onAtMost (fetched : (table program)[pc]? = some (.skipIfAtMost x y distance))
    (lands : landing? (table program).length pc distance = some target)
    (atMost : registers.get x ≤ registers.get y →
      Leads table index Allowed environment program target registers Post)
    (above : ¬registers.get x ≤ registers.get y →
      Leads table index Allowed environment program (pc + 1) registers Post) :
    Leads table index Allowed environment program pc registers Post := by
  by_cases fits : registers.get x ≤ registers.get y
  · exact .taken fetched rfl lands ((Word.atMost_iff _ _).mpr fits) (atMost fits)
  · have notTaken := Bool.eq_false_iff.mpr (mt (Word.atMost_iff _ _).mp fits)
    exact .passed fetched rfl notTaken (above fits)

theorem callWithin (fetched : (table program)[pc]? = some (.call callee))
    (allowed : Allowed callee registers)
    (called : Leads table index Allowed environment callee 0 registers Between)
    (rest : ∀ between, Between between →
      Leads table index Allowed environment program (pc + 1) between Post) :
    Leads table index Allowed environment program pc registers Post := by
  obtain ⟨between, inCallee, known⟩ := called
  obtain ⟨later, behind, holds⟩ := rest between known
  exact ⟨later, .call fetched allowed inCallee behind, holds⟩

theorem jumpWithin (fetched : (table program)[pc]? = some (.jump callee))
    (allowed : Allowed callee registers)
    (rest : Leads table index Allowed environment callee 0 registers Post) :
    Leads table index Allowed environment program pc registers Post :=
  rest.imp fun _ ⟨returns, holds⟩ => ⟨.jump fetched allowed returns, holds⟩

theorem mono {Other : Program → Registers → Prop}
    (leads : Leads table index Allowed environment program pc registers Post)
    (weaker : ∀ callee registers, Allowed callee registers → Other callee registers) :
    Leads table index Other environment program pc registers Post :=
  leads.imp fun _ ⟨returns, holds⟩ => ⟨returns.mono weaker, holds⟩

end Leads

/-- From a position of a program, control comes back with a number in register 2, whatever is
entered on the way, and with the surroundings as they were. -/
abbrev Answers (table : ProgramTable) (index : UInt8) (environment : σ) (program : Program)
    (pc : Nat) (registers : Registers) (value : Nat) : Prop :=
  Leads table index (fun _ _ => True) environment program pc registers (·.r2.toNat = value)

namespace Leads

variable {value other between : Nat}

/-- A skip for a register that holds zero. -/
theorem ifZero {held : Nat} (fetched : (table program)[pc]? = some (.skipIfZero x distance))
    (lands : landing? (table program).length pc distance = some target)
    (holds : (registers.get x).toNat = held)
    (zero : held = 0 →
      Leads table index Allowed environment program target registers (·.r2.toNat = value))
    (nonzero : held ≠ 0 →
      Leads table index Allowed environment program (pc + 1) registers (·.r2.toNat = other)) :
    Leads table index Allowed environment program pc registers
      (·.r2.toNat = if held = 0 then value else other) := by
  subst holds
  split
  case isTrue none =>
    have same : registers.get x = 0 := UInt64.toNat_inj.mp none
    exact .taken fetched rfl lands (by simp [skips, Word.isZero, same]) (zero none)
  case isFalse some =>
    have different : registers.get x ≠ 0 := fun same => some (by rw [same]; rfl)
    exact .passed fetched rfl (Word.isZero_of_ne_zero different) (nonzero some)

/-- A skip for a register that holds at most what another one does. -/
theorem ifAtMost {lesser greater : Nat}
    (fetched : (table program)[pc]? = some (.skipIfAtMost x y distance))
    (lands : landing? (table program).length pc distance = some target)
    (holdsLesser : (registers.get x).toNat = lesser)
    (holdsGreater : (registers.get y).toNat = greater)
    (atMost : lesser ≤ greater →
      Leads table index Allowed environment program target registers (·.r2.toNat = value))
    (above : ¬lesser ≤ greater →
      Leads table index Allowed environment program (pc + 1) registers (·.r2.toNat = other)) :
    Leads table index Allowed environment program pc registers
      (·.r2.toNat = if lesser ≤ greater then value else other) := by
  subst holdsLesser holdsGreater
  apply onAtMost fetched lands
  · intro fits
    rw [if_pos (UInt64.le_iff_toNat_le.mp fits)]
    exact atMost (UInt64.le_iff_toNat_le.mp fits)
  · intro exceeds
    rw [if_neg (mt UInt64.le_iff_toNat_le.mpr exceeds)]
    exact above (mt UInt64.le_iff_toNat_le.mpr exceeds)

theorem ifMetric {metric : Bool}
    (fetched : (table program)[pc]? = some (.skipIfMetric distance))
    (lands : landing? (table program).length pc distance = some target)
    (seen : Environment.metric environment = metric)
    (inMetric : Answers table index environment program target registers value)
    (inImperial : Answers table index environment program (pc + 1) registers other) :
    Answers table index environment program pc registers (if metric then value else other) := by
  cases metric with
  | true => exact .taken fetched rfl lands seen inMetric
  | false => exact .passed fetched rfl seen inImperial

theorem ifIndexBelow {limit : UInt8}
    (fetched : (table program)[pc]? = some (.skipIfIndexBelow limit distance))
    (lands : landing? (table program).length pc distance = some target)
    (below : Answers table index environment program target registers value)
    (above : Answers table index environment program (pc + 1) registers other) :
    Answers table index environment program pc registers
      (if index < limit then value else other) := by
  split
  case isTrue small => exact .taken fetched rfl lands (decide_eq_true small) below
  case isFalse large => exact .passed fetched rfl (decide_eq_false large) above

/-- A call of which more is known than its answer. -/
theorem callOf (fetched : (table program)[pc]? = some (.call callee))
    (returns : Returns table index callee 0 registers environment next environment)
    (rest : Answers table index environment program (pc + 1) next value) :
    Answers table index environment program pc registers value :=
  rest.imp fun _ ⟨behind, result⟩ => ⟨.call fetched trivial returns behind, result⟩

/-- After a call of which only the answer is known, so is only register 2. -/
theorem call (fetched : (table program)[pc]? = some (.call callee))
    (called : Answers table index environment callee 0 registers between)
    (rest : ∀ r1 r2 r3 r4 r5 : UInt64, r2.toNat = between →
      Answers table index environment program (pc + 1) ⟨r1, r2, r3, r4, r5⟩ value) :
    Answers table index environment program pc registers value :=
  callWithin fetched trivial called fun _ known => rest _ _ _ _ _ known

theorem jump (fetched : (table program)[pc]? = some (.jump callee))
    (rest : Answers table index environment callee 0 registers value) :
    Answers table index environment program pc registers value :=
  jumpWithin fetched trivial rest

end Leads

end TripComputer.Machine
