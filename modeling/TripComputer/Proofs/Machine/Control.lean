import TripComputer.Catalog
import TripComputer.Proofs.Machine.Steps

/-!
# Control stays inside programs

Two static conditions on a table, each with the invariant that it buys.  A table that passes
`ProgramTable.validate` keeps every position inside its program.  A table whose calls go
down in some numbering of the programs keeps the return stack below the highest number.
-/

namespace TripComputer

/-- What `validate` checks of every program. -/
structure ProgramTable.WellFormed (table : ProgramTable) : Prop where
  terminal : ∀ program, ∃ last, (table program).getLast? = some last ∧ last.isTerminal = true
  lands : ∀ {program pc instruction distance},
    (table program)[pc]? = some instruction → instruction.distance? = some distance →
    landing? (table program).length pc distance ≠ none

/-- Programs can be numbered so that calls go down and jumps do not go up. -/
structure ProgramTable.Ranked (table : ProgramTable) (rank : Program → Nat) : Prop where
  calls : ∀ {program callee}, .call callee ∈ table program → rank callee < rank program
  jumps : ∀ {program callee}, .jump callee ∈ table program → rank callee ≤ rank program

namespace Program

theorem all_getElem?_ctorIdx (program : Program) : all[program.ctorIdx]? = some program := by
  cases program <;> rfl

theorem mem_all (program : Program) : program ∈ all :=
  List.mem_of_getElem? (all_getElem?_ctorIdx program)

end Program

namespace ProgramTable

variable {table : ProgramTable}

theorem checkSkips_eq_ok_iff {program : Program} {length start : Nat} {code : List Instruction} :
    checkSkips program length start code = .ok () ↔
      ∀ offset instruction distance, code[offset]? = some instruction →
        instruction.distance? = some distance →
        landing? length (start + offset) distance ≠ none := by
  induction code generalizing start with
  | nil => exact ⟨fun _ _ _ _ fetched => absurd fetched (by simp), fun _ => rfl⟩
  | cons first rest induction =>
      -- the check of the first instruction, which the check of the others waits for
      have split : checkSkips program length start (first :: rest) = .ok () ↔
          (∀ distance, first.distance? = some distance → landing? length start distance ≠ none) ∧
            checkSkips program length (start + 1) rest = .ok () := by
        rw [checkSkips]
        cases skip : first.distance? with
        | none => simp
        | some distance => cases lands : landing? length start distance <;> simp [lands]
      rw [split, induction]
      constructor
      · rintro ⟨here, later⟩ (_ | offset) instruction distance fetched skip
        · cases fetched
          exact here distance skip
        · rw [show start + (offset + 1) = start + 1 + offset by omega]
          exact later offset instruction distance fetched skip
      · intro all
        refine ⟨fun distance skip => all 0 first distance rfl skip, ?_⟩
        intro offset instruction distance fetched skip
        rw [show start + 1 + offset = start + (offset + 1) by omega]
        exact all (offset + 1) instruction distance fetched skip

theorem checkProgram_eq_ok_iff {program : Program} :
    checkProgram table program = .ok () ↔
      (∃ last, (table program).getLast? = some last ∧ last.isTerminal = true) ∧
        ∀ pc instruction distance, (table program)[pc]? = some instruction →
          instruction.distance? = some distance →
          landing? (table program).length pc distance ≠ none := by
  have skips : checkSkips program (table program).length 0 (table program) = .ok () ↔ _ :=
    checkSkips_eq_ok_iff
  simp only [Nat.zero_add] at skips
  rw [← skips, checkProgram]
  cases (table program).getLast? with
  | none => simp
  | some last => cases terminal : last.isTerminal <;> simp [terminal]

private theorem forM_eq_ok_iff {α ε : Type} {check : α → Except ε Unit} {items : List α} :
    items.forM check = .ok () ↔ ∀ item ∈ items, check item = .ok () := by
  induction items with
  | nil => exact ⟨fun _ => nofun, fun _ => rfl⟩
  | cons first rest induction =>
      rw [List.forM_eq_forM, List.forM_cons, bind_eq_ok_iff, List.forall_mem_cons, ← induction,
        ← List.forM_eq_forM]
      exact ⟨fun ⟨_, passed⟩ => passed, fun passed => ⟨(), passed⟩⟩

/-- The static check of a table is the condition that later proofs use. -/
theorem validate_eq_ok_iff : table.validate = .ok () ↔ table.WellFormed := by
  rw [validate, forM_eq_ok_iff]
  simp only [checkProgram_eq_ok_iff]
  constructor
  · intro checked
    exact ⟨fun program => (checked program program.mem_all).1,
      fun fetched skip => (checked _ (Program.mem_all _)).2 _ _ _ fetched skip⟩
  · rintro ⟨terminal, lands⟩ program _
    exact ⟨terminal program, fun _ _ _ fetched skip => lands fetched skip⟩

namespace WellFormed

theorem length_pos (wellFormed : table.WellFormed) (program : Program) :
    0 < (table program).length := by
  obtain ⟨last, found, _⟩ := wellFormed.terminal program
  exact List.length_pos_of_mem (List.mem_of_getLast? found)

/-- An instruction that control can pass is not the last one. -/
theorem succ_lt_length (wellFormed : table.WellFormed) {program : Program} {pc : Nat}
    {instruction : Instruction} (fetched : (table program)[pc]? = some instruction)
    (passes : instruction.isTerminal = false) : pc + 1 < (table program).length := by
  obtain ⟨last, found, terminal⟩ := wellFormed.terminal program
  obtain ⟨inside, here⟩ := List.getElem?_eq_some_iff.mp fetched
  rcases Nat.lt_or_ge (pc + 1) (table program).length with before | atEnd
  · exact before
  · have position : (table program).length - 1 = pc := by omega
    rw [List.getLast?_eq_getElem?, position, fetched] at found
    cases found
    rw [passes] at terminal
    cases terminal

end WellFormed

end ProgramTable

theorem landing?_lt {length pc target : Nat} {distance : Int8}
    (lands : landing? length pc distance = some target) : target < length := by
  rw [landing?] at lands
  split at lands
  next inside =>
    cases lands
    omega
  next => cases lands

namespace Machine

variable {σ : Type}

/-- Every position that control is at or can return to lies inside its program. -/
abbrev Inside (table : ProgramTable) : State σ → Prop :=
  Throughout fun program pc => pc < (table program).length

/-- With `program` running over `stack`, no calls can make the stack longer than `limit`. -/
def Shallow (rank : Program → Nat) (limit : Nat) : Program → List Frame → Prop
  | program, [] => rank program ≤ limit
  | program, frame :: stack =>
      rank program + (stack.length + 1) ≤ limit ∧ Shallow rank limit frame.program stack

variable {table : ProgramTable} {index : UInt8} {state next : State σ}

theorem Inside.start (wellFormed : table.WellFormed) (machine : Machine) (environment : σ)
    (entry : Program) : Inside table (machine.start environment entry) :=
  ⟨wellFormed.length_pos entry, nofun⟩

theorem Inside.fetches (inside : Inside table state) :
    (table state.program)[state.pc]? ≠ none := by
  rw [List.getElem?_eq_getElem inside.here]
  exact Option.some_ne_none _

theorem Inside.step [Environment σ] (wellFormed : table.WellFormed) (inside : Inside table state)
    (running : step table index state = .running next) : Inside table next := by
  refine Throughout.step ⟨?_, ?_, ?_⟩ inside running
  · exact fun _ _ _ => wellFormed.length_pos _
  · exact fun _ lands => landing?_lt lands
  · exact fun _ fetched passes => wellFormed.succ_lt_length fetched passes

namespace Shallow

variable {rank : Program → Nat} {limit : Nat}

theorem length_le {program : Program} {stack : List Frame}
    (shallow : Shallow rank limit program stack) : rank program + stack.length ≤ limit := by
  cases stack with
  | nil => exact shallow
  | cons frame stack => exact shallow.1

theorem anti {program lower : Program} {stack : List Frame}
    (shallow : Shallow rank limit program stack) (down : rank lower ≤ rank program) :
    Shallow rank limit lower stack := by
  cases stack with
  | nil => exact Nat.le_trans down shallow
  | cons frame stack => exact ⟨by have := shallow.1; omega, shallow.2⟩

theorem step [Environment σ] (ranked : table.Ranked rank)
    (shallow : Shallow rank limit state.program state.stack)
    (running : Machine.step table index state = .running next) :
    Shallow rank limit next.program next.stack := by
  obtain ⟨instruction, fetched, moved⟩ := step_running running
  have member := List.mem_of_getElem? fetched
  cases moved.transfer with
  | returned stackEq program pc stack =>
      rw [stackEq] at shallow
      rw [program, stack]
      exact shallow.2
  | called room program pc stack =>
      have down := ranked.calls member
      have bound := shallow.length_le
      rw [program, stack]
      exact ⟨by omega, shallow⟩
  | jumped program pc stack =>
      rw [program, stack]
      exact shallow.anti (ranked.jumps member)
  | skipped skip lands program pc stack => rwa [program, stack]
  | advanced passes callee program pc stack => rwa [program, stack]

/-- Where the ranks leave room, a call finds room on the stack. -/
theorem has_room (ranked : table.Ranked rank)
    (shallow : Shallow rank stackDepth state.program state.stack) {callee : Program}
    (fetched : (table state.program)[state.pc]? = some (.call callee)) :
    state.stack.length < stackDepth := by
  have down := ranked.calls (List.mem_of_getElem? fetched)
  have bound := shallow.length_le
  omega

end Shallow

end Machine

end TripComputer
