import Mathlib
import TripComputer.Computer
import TripComputer.Proofs.Catalog.Safety

/-!
# The check of the catalog finds nothing

The check runs every program on the trips and channels of the computer, which are all there.
Its runs share their surroundings, but all that a run can change in them is a scratch table
of settings, so that each run finds what the first one did.
-/

namespace TripComputer

namespace Computer

open Catalog

/-- Surroundings in which there are all trips and channels. -/
structure Furnished (surroundings : Surroundings) : Prop where
  trips : ∀ index : UInt8, index.toNat < tripCount → surroundings.trip? index ≠ none
  channels : ∀ channel : UInt8, channel < 2 → surroundings.reading? channel ≠ none

theorem furnished_surroundings (computer : Computer) : Furnished computer.surroundings where
  trips index bound := by
    simpa [surroundings, Trips.byIndex?, Vector.getElem?_eq_none_iff] using bound
  channels channel bound := by
    have inside : channel.toNat < Board.analogChannels := UInt8.lt_iff_toNat_lt.mp bound
    simpa [surroundings, Capture.analog?, Vector.getElem?_eq_none_iff] using inside

/-- Runs leave trips and channels where they are. -/
theorem Furnished.run {surroundings : Surroundings} (furnished : Furnished surroundings)
    (machine : Machine) (table : ProgramTable) (entry : Program) (index : UInt8) :
    Furnished (machine.run table surroundings entry index).environment :=
  Machine.run_environment_of_stable Furnished
    (fun _ _ _ _ stable => ⟨stable.trips, stable.channels⟩) machine furnished

/-- Whether a context index is one that every program which uses it can be run with. -/
def isAccepted (program : Program) (index : UInt8) : Bool :=
  index.toNat < tripCount && (program != .convertSetting || index < 6) &&
    (program != .readSetting || index < 23)

theorem Furnished.serves {surroundings : Surroundings} (furnished : Furnished surroundings)
    (arithmetic : Arithmetic) {program : Program} {index : UInt8}
    (accepted : isAccepted program index = true) :
    Serves arithmetic surroundings program index := by
  simp only [isAccepted, Bool.and_eq_true, decide_eq_true_eq, Bool.or_eq_true,
    bne_iff_ne] at accepted
  obtain ⟨⟨bound, slots⟩, settings⟩ := accepted
  refine ⟨fun _ counter => ?_, furnished.channels, fun same => slots.resolve_left (by simpa),
    fun same => settings.resolve_left (by simpa)⟩
  have found := furnished.trips index bound
  simpa [Environment.counter?] using found

theorem isAccepted_of_mem_checkRuns :
    ∀ run ∈ checkRuns, isAccepted run.1 run.2.1 = true := by
  apply List.all_eq_true.mp
  decide +kernel

theorem tryRuns_nil (calculator : Calculator) {surroundings : Surroundings}
    (furnished : Furnished surroundings) {runs : List (Program × UInt8 × UInt64)}
    (accepted : ∀ run ∈ runs, isAccepted run.1 run.2.1 = true) :
    (tryRuns calculator surroundings runs).1 = [] := by
  induction runs generalizing calculator surroundings with
  | nil => rfl
  | cons first rest induction =>
      obtain ⟨program, index, input⟩ := first
      obtain ⟨acceptedFirst, acceptedRest⟩ := List.forall_mem_cons.mp accepted
      obtain ⟨value, succeeded⟩ := run_ok calculator.arithmetic
        (calculator.machine.setRegister .r2 input) surroundings program index
        (furnished.serves calculator.arithmetic acceptedFirst)
      have later := furnished.run (calculator.machine.setRegister .r2 input)
        (table calculator.arithmetic) program index
      simp only [tryRuns, Calculator.call, succeeded]
      exact induction _ later acceptedRest

theorem modifyGet_eq {α : Type} {change : Computer → α × Computer} {computer changed : Computer}
    {answer : α} (outcome : change computer = (answer, changed)) :
    (modifyGet change : Task α) computer = .ok answer changed := by
  simp only [modifyGet, MonadStateOf.modifyGet, EStateM.modifyGet, outcome]

theorem checkCatalog_eq {computer : Computer} {failures : List CheckFailure}
    {calculator : Calculator}
    (outcome : tryRuns computer.calculator computer.surroundings checkRuns =
      (failures, calculator)) :
    checkCatalog computer = .ok failures { computer with calculator := calculator } := by
  unfold checkCatalog
  refine modifyGet_eq ?_
  rw [outcome]

/-- No run of the catalog faults: for either arithmetic, every program, any registers and any
surroundings that serve the program, a run ends with a value.  So the check of the catalog
finds nothing, on any computer, and changes nothing but the calculator. -/
theorem catalog_never_faults :
    (∀ (σ : Type) [Environment σ] (arithmetic : Arithmetic) (machine : Machine)
      (environment : σ) (entry : Program) (index : UInt8),
      Serves arithmetic environment entry index →
        ∃ value, (machine.run (table arithmetic) environment entry index).result = .ok value) ∧
    ∀ computer : Computer, ∃ calculator : Calculator,
      checkCatalog computer = .ok [] { computer with calculator := calculator } := by
  constructor
  · intro σ _ arithmetic machine environment entry index serves
    exact run_ok arithmetic machine environment entry index serves
  · intro computer
    have nothing := tryRuns_nil computer.calculator (furnished_surroundings computer)
      isAccepted_of_mem_checkRuns
    cases outcome : tryRuns computer.calculator computer.surroundings checkRuns with
    | mk failures calculator =>
        rw [outcome] at nothing
        obtain rfl : failures = [] := nothing
        exact ⟨calculator, checkCatalog_eq outcome⟩

/-- The last setting that there is, read among trips and channels that are all there. -/
theorem readSetting_of_last_index :
    let surroundings : Surroundings :=
      ⟨.defaults, 20000000, 65536, none, Trips.empty.byIndex?, 0,
        fun channel => if channel < 2 then some 512 else none⟩
    Serves .primitive surroundings .readSetting 22 ∧
      ∃ value, (Machine.initial.run (table .primitive) surroundings .readSetting 22).result =
        .ok value := by
  intro surroundings
  have serves : Serves .primitive surroundings .readSetting 22 := by
    refine ⟨fun _ counter => ?_, fun channel inside => ?_, nofun, fun _ => by decide⟩
    · cases counter <;> decide
    · simp [Environment.reading?, surroundings, inside]
  exact ⟨serves, catalog_never_faults.1 Surroundings .primitive .initial surroundings .readSetting
    22 serves⟩

end Computer

end TripComputer
