import TripComputer.Proofs.Machine.Control

/-!
# Runs of validated tables

`ProgramTable.validate` looks at each program by itself: it has a last instruction, control does
not pass that one, and every skip leads to an instruction of the program.  Calls, jumps and returns
pass control between programs all the same.  A call is never the last instruction, and so the frame
that it leaves on the stack lies inside its program as well: in no run of a table that passes the
check does control leave the programs of the table.
-/

namespace TripComputer.ProgramTable

open Machine

/-- In a run of a table that passes its check, control is inside a program at every instruction, and
so is every position on the return stack.  No run ends past the last instruction of a program, or
with a skip that leads out of one. -/
theorem validated_runs_stay_inside {σ : Type} [Environment σ] {table : ProgramTable}
    (valid : table.validate = .ok ()) (machine : Machine) (environment : σ) (entry : Program)
    (index : UInt8) :
    (∀ count state, Reaches table index count (machine.start environment entry) state →
      state.pc < (table state.program).length ∧
        ∀ frame ∈ state.stack, frame.pc < (table frame.program).length) ∧
    ∀ error, (machine.run table environment entry index).result = .error error →
      (∀ program, error.fault ≠ .ranOffEnd program) ∧
        ∀ program pc, error.fault ≠ .skipOutOfRange program pc := by
  have wellFormed := validate_eq_ok_iff.mp valid
  have start : Inside table (machine.start environment entry) :=
    .start wellFormed machine environment entry
  have preserved : ∀ state next : State σ, Inside table state →
      step table index state = .running next → Inside table next :=
    fun _ _ inside running => inside.step wellFormed running
  constructor
  · intro count state reached
    have inside := reached.keeps preserved start
    exact ⟨inside.here, inside.callers⟩
  · intro error failed
    rcases execute_error preserved start failed with exhausted | ⟨last, inside, cause⟩
    · constructor <;> intros <;> rw [exhausted] <;> nofun
    · -- of the faults of a step, the two that look at the position do not arise inside
      generalize error.fault = fault at cause
      cases cause with
      | ranOffEnd missing => exact absurd missing inside.fetches
      | skipOutOfRange fetched skip outside => exact absurd outside (wellFormed.lands fetched skip)
      | stackOverflow fetched full => exact ⟨nofun, nofun⟩
      | data fetched cause => cases cause <;> exact ⟨nofun, nofun⟩

/-- Every program calls itself, and behind the call skips back to it: the frames lie on the last
instruction, and the run ends on a full stack. -/
theorem recursion_before_backward_skip :
    let table : ProgramTable := fun program => [.call program, .skip (-2)]
    let surroundings : Surroundings :=
      ⟨.defaults, 312500, 256, none, fun _ => none, 0, fun _ => none⟩
    table.validate = .ok () ∧
      ∃ error, (Machine.initial.run table surroundings .adjust 0).result = .error error ∧
        error.fault = .stackOverflow .adjust ∧
        (∀ program, error.fault ≠ .ranOffEnd program) ∧
        ∀ program pc, error.fault ≠ .skipOutOfRange program pc := by
  intro table surroundings
  have valid : table.validate = .ok () := by rfl
  have overflows : (Machine.initial.run table surroundings .adjust 0).result =
      .error ⟨.stackOverflow .adjust, 0⟩ := by
    cbv
  exact ⟨valid, _, overflows, rfl,
    (validated_runs_stay_inside valid Machine.initial surroundings .adjust 0).2 _ overflows⟩

end TripComputer.ProgramTable
