import Mathlib.Logic.Relation
import TripComputer.Proofs.Machine.Steps

/-!
# Which programs a run can enter

A run started at a program stays among the programs that it calls and jumps to, and theirs.
What none of these programs does, the run does not do: a run among programs without stores
leaves its surroundings as they were.
-/

namespace TripComputer

namespace ProgramTable

/-- One program calls the other or jumps to it. -/
def Calls (table : ProgramTable) (caller callee : Program) : Prop :=
  ∃ instruction ∈ table caller, instruction.callee? = some callee

/-- Control can pass from one program to the other. -/
def Uses (table : ProgramTable) : Program → Program → Prop :=
  Relation.ReflTransGen table.Calls

/-- A run of the program can read the trip at the context index. -/
def ReadsTrips (table : ProgramTable) (entry : Program) : Prop :=
  ∃ program, table.Uses entry program ∧ ∃ x counter, .loadCounter x counter ∈ table program

/-- A run of the program can store the setting. -/
def Stores (table : ProgramTable) (index : UInt8) (entry : Program) (setting : Setting) : Prop :=
  ∃ program, table.Uses entry program ∧
    ∃ instruction ∈ table program, instruction.target? index = some setting

variable {table : ProgramTable} {entry program : Program}

/-- A set of programs that calls keep inside holds everything that its members use. -/
theorem Uses.mem_of_closed (uses : table.Uses entry program) {within : Program → Prop}
    (closed : ∀ caller callee, within caller → table.Calls caller callee → within callee)
    (start : within entry) : within program := by
  induction uses with
  | refl => exact start
  | tail _ calls induction => exact closed _ _ induction calls

/-- A program that nothing calls is used only by itself. -/
theorem Uses.eq_of_uncalled (uses : table.Uses entry program)
    (uncalled : ∀ caller, ¬table.Calls caller program) : entry = program := by
  cases uses with
  | refl => rfl
  | tail _ calls => exact absurd calls (uncalled _)

end ProgramTable

namespace Machine

variable {σ : Type} {table : ProgramTable} {index : UInt8} {entry : Program}
  {state next : State σ}

/-- Control is in a program that the entry uses, and can only return to such programs. -/
abbrev Confined (table : ProgramTable) (entry : Program) : State σ → Prop :=
  Throughout fun program _ => table.Uses entry program

theorem Confined.start (machine : Machine) (environment : σ) :
    Confined table entry (machine.start environment entry) :=
  ⟨.refl, nofun⟩

variable [Environment σ]

theorem Confined.step (confined : Confined table entry state)
    (running : step table index state = .running next) : Confined table entry next := by
  refine Throughout.step ⟨?_, ?_, ?_⟩ confined running
  · exact fun uses fetched passes => uses.tail ⟨_, List.mem_of_getElem? fetched, passes⟩
  · exact fun uses _ => uses
  · exact fun uses _ _ => uses

/-- What the stores of a program do not change, its steps do not change. -/
theorem Confined.step_stable (Stable : σ → Prop) (confined : Confined table entry state)
    (stored : ∀ environment setting value, table.Stores index entry setting →
      Stable environment → Stable (Environment.store environment setting value))
    (running : Machine.step table index state = .running next)
    (stable : Stable state.environment) : Stable next.environment := by
  obtain ⟨instruction, fetched, moved⟩ := step_running running
  have member := List.mem_of_getElem? fetched
  have change := moved.environment
  generalize next.environment = after at change ⊢
  cases change with
  | kept => exact stable
  | stored stores => exact stored _ _ _ ⟨_, confined.here, _, member, stores⟩ stable

/-- A step of a program without stores leaves the surroundings as they were. -/
theorem Confined.step_environment (confined : Confined table entry state)
    (storeless : ∀ setting, ¬table.Stores index entry setting)
    (running : Machine.step table index state = .running next) :
    next.environment = state.environment :=
  confined.step_stable (· = state.environment)
    (fun _ setting _ stores => absurd stores (storeless setting)) running rfl

/-- What the stores of a program do not change, a run of it does not change. -/
theorem run_environment_of_stable (Stable : σ → Prop) {environment : σ}
    (stored : ∀ environment setting value, table.Stores index entry setting →
      Stable environment → Stable (Environment.store environment setting value))
    (machine : Machine) (holds : Stable environment) :
    Stable (machine.run table environment entry index).environment := by
  have preserved : ∀ state next : State σ,
      Confined table entry state ∧ Stable state.environment →
        step table index state = .running next →
          Confined table entry next ∧ Stable next.environment := by
    intro state next ⟨confined, stable⟩ running
    exact ⟨confined.step running, confined.step_stable Stable stored running stable⟩
  have start : Confined table entry (machine.start environment entry) ∧
      Stable (machine.start environment entry).environment :=
    ⟨.start machine environment, holds⟩
  obtain ⟨last, ⟨_, stable⟩, final⟩ := execute_environment preserved stepLimit start
  rw [run, final]
  exact stable

theorem run_environment_of_storeless (machine : Machine) (environment : σ)
    (storeless : ∀ setting, ¬table.Stores index entry setting) :
    (machine.run table environment entry index).environment = environment :=
  run_environment_of_stable (· = environment)
    (fun _ setting _ stores => absurd stores (storeless setting)) machine rfl

end Machine

end TripComputer
