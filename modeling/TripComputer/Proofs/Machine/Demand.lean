import TripComputer.Proofs.Machine.Agreement

/-!
# What a program needs of the registers

A demand says, for every position of every program, which registers the code from there on may
read before it writes them.  Two runs that agree on what is demanded where they start, and on
register 2, end alike: neither result depends on anything else that the registers held.
-/

namespace TripComputer

/-- The registers demanded at a position of a program. -/
abbrev Demand := Program → Nat → List Register

namespace ProgramTable

/-- A demand covers an instruction at a position of a program. -/
def Covers (table : ProgramTable) (demand : Demand) (program : Program) (pc : Nat)
    (instruction : Instruction) : Prop :=
  (∀ register ∈ instruction.reads, register ∈ demand program pc) ∧
    (∀ callee ∈ instruction.callee?, ∀ register ∈ demand callee 0, register ∈ demand program pc) ∧
    (∀ distance ∈ instruction.distance?, ∀ target ∈ landing? (table program).length pc distance,
      ∀ register ∈ demand program target, register ∈ demand program pc) ∧
    (instruction.isTerminal = false → ∀ register ∈ demand program (pc + 1),
      register ∈ demand program pc ∨ register ∈ instruction.writes)

instance (table : ProgramTable) (demand : Demand) (program : Program) (pc : Nat)
    (instruction : Instruction) : Decidable (table.Covers demand program pc instruction) :=
  inferInstanceAs (Decidable (_ ∧ _ ∧ _ ∧ _))

/-- A demand covers every instruction of a table. -/
def Meets (table : ProgramTable) (demand : Demand) : Prop :=
  ∀ program pc instruction, (table program)[pc]? = some instruction →
    instruction.isTrace = false ∧ table.Covers demand program pc instruction

end ProgramTable

namespace Machine

variable {σ : Type} {table : ProgramTable} {demand : Demand} {known : Register → Prop}
  {first second : State σ}

/-- Two states agree on what is demanded where control is and wherever it can return to, and on
register 2. -/
structure Determined (demand : Demand) (known : Register → Prop) (first second : State σ) :
    Prop where
  alike : State.Alike known first second
  supplied : Throughout (fun program pc => ∀ register ∈ demand program pc, known register) first
  result : known .r2

theorem State.Alike.result (alike : State.Alike known first second) (result : known .r2)
    (fault? : Option Fault) :
    Run.Alike (· = .r2) (first.stop fault?) (second.stop fault?) := by
  have onResult : State.Alike (· = Register.r2) first second := by
    apply alike.mono
    rintro _ rfl
    exact result
  exact onResult.stop rfl fault?

variable [Environment σ] {index : UInt8}

theorem Determined.supplied_step {instruction : Instruction} {next : State σ}
    (determined : Determined demand known first second)
    (fetched : (table first.program)[first.pc]? = some instruction)
    (covers : table.Covers demand first.program first.pc instruction)
    (running : step table index first = .running next) :
    Throughout
      (fun program pc => ∀ register ∈ demand program pc,
        known register ∨ register ∈ instruction.writes) next := by
  obtain ⟨reads, enters, lands, passes⟩ := covers
  obtain ⟨_, fetchedToo, moved⟩ := step_running running
  cases fetched.symm.trans fetchedToo
  have here := determined.supplied.here
  apply determined.supplied.advance moved
  · exact fun program pc supplied register demanded => .inl (supplied register demanded)
  · intro callee passesTo register demanded
    exact .inl (here register (enters callee passesTo register demanded))
  · intro distance target skip landing register demanded
    exact .inl (here register (lands distance skip target landing register demanded))
  · intro goesOn register demanded
    exact (passes goesOn register demanded).imp_left (here register)

/-- Determined states are led to determined states, which agree on what has been written too. -/
theorem Determined.step (meets : table.Meets demand)
    (determined : Determined demand known first second) :
    ∃ later, later .r2 ∧
      Progress.Alike known later (step table index first) (step table index second) ∧
      ∀ next, step table index first = .running next →
        Throughout (fun program pc => ∀ register ∈ demand program pc, later register) next := by
  cases fetched : (table first.program)[first.pc]? with
  | none =>
      have alike := step_ranOffEnd_alike index determined.alike rfl fetched
      refine ⟨known, determined.result, alike, fun next running => ?_⟩
      obtain ⟨_, found, _⟩ := step_running running
      cases fetched.symm.trans found
  | some instruction =>
      obtain ⟨untraced, covers⟩ := meets _ _ _ fetched
      refine ⟨_, .inl determined.result, ?_, fun next => determined.supplied_step fetched covers⟩
      apply step_reads_alike index determined.alike rfl fetched untraced
      exact fun register read => determined.supplied.here register (covers.1 register read)

/-- Runs from states that agree on what is demanded end alike. -/
theorem Determined.execute (meets : table.Meets demand) (steps : Nat)
    (determined : Determined demand known first second) :
    Run.Alike (· = .r2) (execute table index steps first) (execute table index steps second) := by
  -- on the steps, for whatever the two states agree on
  induction steps generalizing known first second with
  | zero => exact determined.alike.result determined.result _
  | succ steps induction =>
      obtain ⟨later, result, progress, supplied⟩ := determined.step meets
      rw [Machine.execute, Machine.execute]
      generalize Machine.step table index first = firstProgress at progress supplied ⊢
      generalize Machine.step table index second = secondProgress at progress ⊢
      cases progress with
      | running alike => exact induction ⟨alike, supplied _ rfl, result⟩
      | finished alike => exact alike.result determined.result none
      | faulted fault alike => exact alike.result determined.result (some fault)

/-- What a program answers depends on the registers that it demands at its start, and on
register 2 where it fails before writing it. -/
theorem run_determined (meets : table.Meets demand) {machine other : Machine} (environment : σ)
    (entry : Program) (index : UInt8)
    (agree : Registers.AgreeOn (fun register => register = .r2 ∨ register ∈ demand entry 0)
      machine.registers other.registers) :
    Run.Alike (· = .r2) (machine.run table environment entry index)
      (other.run table environment entry index) := by
  have determined : Determined demand (fun register => register = .r2 ∨ register ∈ demand entry 0)
      (machine.start environment entry) (other.start environment entry) := by
    refine ⟨⟨agree, rfl, rfl, rfl, rfl, rfl, rfl⟩, ⟨fun _ => .inr, nofun⟩, .inl rfl⟩
  exact determined.execute meets stepLimit

end Machine

end TripComputer
