import TripComputer.Proofs.Catalog.Budget
import TripComputer.Proofs.Machine.CallGraph
import TripComputer.Proofs.Machine.Control

/-!
# No program of the catalog faults

Each fault is excluded by something that can be read off the table.  Positions stay inside
programs because the table passes `validate`, the stack never overflows because calls go
down in `height`, and the budget suffices by `halts_start`.  The instructions that can fail
on the surroundings stand only where `admits` lets them stand, so that a program fails only
where its surroundings do not serve it.
-/

namespace TripComputer

/-- The programs that store settings. -/
def Program.isStoring : Program → Bool
  | .convertSetting | .fuelFactor => true
  | _ => false

/-- The instruction by which a program stores. -/
def Program.storing? : Program → Option Instruction
  | .convertSetting => some (.storeConvertible .r2)
  | .fuelFactor => some (.storeSetting .r2 .microsPerQuantity)
  | _ => none

/-- The programs that take the context index for a slot or a setting, and those that store.
None of them is a subroutine. -/
def Program.isEntry : Program → Bool
  | .convertSetting | .fuelFactor | .readSetting => true
  | _ => false

/-- The programs that read neither trips nor channels, and use only such programs. -/
def Program.isSelfContained : Program → Bool
  | .convertSetting | .fuelFactor | .mulDivRound | .divideRound | .multiply | .divide
  | .adjust | .overflow => true
  | _ => false

namespace Catalog

open Machine

/-- Whether an instruction may stand in a program. -/
def admits (program : Program) : Instruction → Bool
  | .traceOn | .traceOff => false
  | .call callee | .jump callee =>
      !callee.isEntry && (!program.isSelfContained || callee.isSelfContained)
  | .storeSetting _ _ => program.isStoring
  | .storeConvertible _ | .loadConvertible _ | .loadNumerator _ | .loadDenominator _ =>
      program == .convertSetting
  | .loadSettingIndexed _ base => program == .readSetting && base == 0
  | .loadCounter _ _ => !program.isSelfContained
  | .loadVoltage _ channel => !program.isSelfContained && channel < 2
  | .loadByte _ _ position | .storeByte _ _ position => position < 8
  | _ => true

theorem admits_of_mem {arithmetic : Arithmetic} {program : Program} :
    ∀ instruction ∈ table arithmetic program, admits program instruction = true := by
  apply List.all_eq_true.mp
  cases arithmetic <;> cases program <;> rfl

theorem validate_table (arithmetic : Arithmetic) : (table arithmetic).validate = .ok () := by
  cases arithmetic <;> rfl

theorem wellFormed_table (arithmetic : Arithmetic) : (table arithmetic).WellFormed :=
  ProgramTable.validate_eq_ok_iff.mp (validate_table arithmetic)

/-- How deep a program nests calls, up to a level. -/
def heightWithin : (level : Nat) → Program → Nat
  | 0, _ => 0
  | level + 1, program =>
      (table .native program).foldr (fun instruction height =>
        match instruction with
        | .call callee => max (heightWithin level callee + 1) height
        | .jump callee => max (heightWithin level callee) height
        | _ => height) 0

/-- How deep a program nests calls. -/
def height : Program → Nat :=
  heightWithin 8

/-- Whether the callee of an instruction nests calls less deep than its program. -/
def descends (program : Program) : Instruction → Bool
  | .call callee => height callee < height program
  | .jump callee => height callee ≤ height program
  | _ => true

theorem descends_of_mem {arithmetic : Arithmetic} {program : Program} :
    ∀ instruction ∈ table arithmetic program, descends program instruction = true := by
  apply List.all_eq_true.mp
  cases arithmetic <;> cases program <;> decide +kernel

theorem ranked_table (arithmetic : Arithmetic) : (table arithmetic).Ranked height where
  calls member := by simpa [descends] using descends_of_mem _ member
  jumps member := by simpa [descends] using descends_of_mem _ member

theorem height_le_stackDepth (program : Program) : height program ≤ stackDepth := by
  cases program <;> decide +kernel

variable {arithmetic : Arithmetic} {entry program : Program}

theorem callee?_admitted {instruction : Instruction} {callee : Program}
    (passes : instruction.callee? = some callee) (admitted : admits program instruction = true) :
    callee.isEntry = false ∧
      (program.isSelfContained = true → callee.isSelfContained = true) := by
  cases within : program.isSelfContained <;> cases instruction <;> cases passes <;>
    simpa [admits, within] using admitted

/-- An entry that a run is in is the one that it was started at. -/
theorem eq_of_isEntry (uses : (table arithmetic).Uses entry program)
    (isEntry : program.isEntry = true) : entry = program := by
  apply uses.eq_of_uncalled
  rintro caller ⟨instruction, member, passes⟩
  have notEntry := (callee?_admitted passes (admits_of_mem _ member)).1
  rw [isEntry] at notEntry
  cases notEntry

theorem isSelfContained_of_uses (uses : (table arithmetic).Uses entry program)
    (selfContained : entry.isSelfContained = true) : program.isSelfContained = true := by
  have closed : ∀ caller callee : Program, caller.isSelfContained = true →
      (table arithmetic).Calls caller callee → callee.isSelfContained = true := by
    rintro caller callee within ⟨instruction, member, passes⟩
    exact (callee?_admitted passes (admits_of_mem _ member)).2 within
  exact uses.mem_of_closed closed selfContained

theorem storing?_of_mem {instruction : Instruction}
    (member : instruction ∈ table arithmetic program) (store : instruction.isStore = true) :
    program.storing? = some instruction := by
  have checked : (table arithmetic program).all
      (fun instruction => !instruction.isStore || program.storing? == some instruction) = true := by
    cases arithmetic <;> cases program <;> rfl
  simpa [store] using List.all_eq_true.mp checked instruction member

/-- What a run of a program stores is stored by the program itself. -/
theorem exists_storing_of_stores {index : UInt8} {setting : Setting}
    (stores : (table arithmetic).Stores index entry setting) :
    ∃ instruction, entry.storing? = some instruction ∧
      instruction.target? index = some setting := by
  obtain ⟨program, uses, instruction, member, target⟩ := stores
  have storing := storing?_of_mem member (Instruction.isStore_of_target? target)
  have isEntry : program.isEntry = true := by
    cases program <;> first | rfl | cases storing
  rw [eq_of_isEntry uses isEntry]
  exact ⟨instruction, storing, target⟩

theorem storeless_of_not_isStoring {index : UInt8} (storeless : entry.isStoring = false)
    (setting : Setting) : ¬(table arithmetic).Stores index entry setting := by
  intro stores
  obtain ⟨instruction, storing, _⟩ := exists_storing_of_stores stores
  cases entry <;> contradiction

/-- The program of the fuel factor stores nothing else. -/
theorem eq_microsPerQuantity_of_stores {index : UInt8} {setting : Setting}
    (stores : (table arithmetic).Stores index .fuelFactor setting) :
    setting = .microsPerQuantity := by
  obtain ⟨instruction, storing, target⟩ := exists_storing_of_stores stores
  cases storing
  cases target
  rfl

/-- What a program needs of its surroundings, and of the context index. -/
structure Serves {σ : Type} [Environment σ] (arithmetic : Arithmetic) (environment : σ)
    (entry : Program) (index : UInt8) : Prop where
  trips : (table arithmetic).ReadsTrips entry →
    ∀ counter, Environment.counter? environment index counter ≠ none
  channels : ∀ channel : UInt8, channel < 2 → Environment.reading? environment channel ≠ none
  slots : entry = .convertSetting → index < 6
  settings : entry = .readSetting → index < 23

variable {σ : Type} {environment : σ} {index : UInt8} {state next : State σ}

/-- What holds in every state of a run of the catalog. -/
structure Safe (arithmetic : Arithmetic) (environment : σ) (entry : Program)
    (state : State σ) : Prop where
  inside : Inside (table arithmetic) state
  shallow : Shallow height stackDepth state.program state.stack
  confined : Confined (table arithmetic) entry state
  kept : entry.isStoring = false → state.environment = environment

theorem Safe.start (arithmetic : Arithmetic) (machine : Machine) (environment : σ)
    (entry : Program) :
    Safe arithmetic environment entry (machine.start environment entry) where
  inside := .start (wellFormed_table arithmetic) machine environment entry
  shallow := height_le_stackDepth entry
  confined := .start machine environment
  kept _ := rfl

variable [Environment σ]

theorem Safe.step (safe : Safe arithmetic environment entry state)
    (running : Machine.step (table arithmetic) index state = .running next) :
    Safe arithmetic environment entry next where
  inside := safe.inside.step (wellFormed_table arithmetic) running
  shallow := safe.shallow.step (ranked_table arithmetic) running
  confined := safe.confined.step running
  kept storeless :=
    (safe.confined.step_environment (storeless_of_not_isStoring storeless) running).trans
      (safe.kept storeless)

/-- Where the surroundings serve the entry, no instruction fails on its data. -/
theorem Safe.not_dataFault (safe : Safe arithmetic environment entry state)
    (serves : Serves arithmetic environment entry index) {instruction : Instruction}
    (member : instruction ∈ table arithmetic state.program) (fault : Fault) :
    ¬DataFault index state.environment instruction fault := by
  have admitted := admits_of_mem _ member
  have uses := safe.confined.here
  -- reading the surroundings, a program is not one of those that store
  have untouched : state.program.isSelfContained = false → state.environment = environment := by
    intro reading
    apply safe.kept
    apply Bool.eq_false_iff.mpr
    intro storing
    have selfContained : entry.isSelfContained = true := by
      cases entry <;> first | rfl | cases storing
    rw [isSelfContained_of_uses uses selfContained] at reading
    cases reading
  intro cause
  cases cause with
  | @setting x base missing =>
      have inReading : state.program = .readSetting ∧ base = 0 := by
        simpa only [admits, Bool.and_eq_true, beq_iff_eq] using admitted
      have entered := eq_of_isEntry uses (by rw [inReading.1]; rfl)
      have bound := serves.settings (entered.trans inReading.1)
      rw [inReading.2, UInt8.zero_add, Setting.ofIndex?, List.getElem?_eq_none_iff] at missing
      exact absurd (UInt8.lt_iff_toNat_lt.mp bound) (Nat.not_lt.mpr missing)
  | slot usesSlot missing =>
      have converting : state.program = .convertSetting := by
        cases instruction <;> cases usesSlot <;> simpa [admits] using admitted
      have entered := eq_of_isEntry uses (by rw [converting]; rfl)
      have bound := serves.slots (entered.trans converting)
      rw [Conversion.ofSlot?, List.getElem?_eq_none_iff] at missing
      exact absurd (UInt8.lt_iff_toNat_lt.mp bound) (Nat.not_lt.mpr missing)
  | trip missing =>
      have reading : state.program.isSelfContained = false := by simpa [admits] using admitted
      rw [untouched reading] at missing
      exact serves.trips ⟨_, uses, _, _, member⟩ _ missing
  | @channel x channel missing =>
      have reading : state.program.isSelfContained = false ∧ channel < 2 := by
        simpa [admits] using admitted
      rw [untouched reading.1] at missing
      exact serves.channels _ reading.2 missing
  | loadByte outside | storeByte outside =>
      simp only [admits, decide_eq_true_eq, UInt8.lt_iff_toNat_lt] at admitted
      exact absurd admitted (by simpa using outside)

theorem Safe.not_stepFault (safe : Safe arithmetic environment entry state)
    (serves : Serves arithmetic environment entry index) (fault : Fault) :
    ¬StepFault (table arithmetic) index state fault := by
  intro cause
  cases cause with
  | ranOffEnd missing => exact safe.inside.fetches missing
  | stackOverflow fetched full =>
      exact full (safe.shallow.has_room (ranked_table arithmetic) fetched)
  | skipOutOfRange fetched skip outside =>
      exact (wellFormed_table arithmetic).lands fetched skip outside
  | data fetched cause => exact safe.not_dataFault serves (List.mem_of_getElem? fetched) _ cause

/-- A program ends with a value wherever its surroundings serve it. -/
theorem run_ok (arithmetic : Arithmetic) (machine : Machine) (environment : σ)
    (entry : Program) (index : UInt8) (serves : Serves arithmetic environment entry index) :
    ∃ value, (machine.run (table arithmetic) environment entry index).result = .ok value := by
  have preserved : ∀ state next : State σ, Safe arithmetic environment entry state →
      Machine.step (table arithmetic) index state = .running next →
        Safe arithmetic environment entry next :=
    fun _ _ safe running => safe.step running
  exact execute_ok preserved (fun _ fault safe => safe.not_stepFault serves fault)
    (halts_start arithmetic index machine environment entry)
    (.start arithmetic machine environment entry)

end Catalog

end TripComputer
