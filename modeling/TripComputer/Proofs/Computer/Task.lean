import TripComputer.Computer
import TripComputer.Proofs.Image.Access

/-!
# What tasks do to the computer

`Meets` is the contract of a task: from a state in which `before` holds it answers in a state
in which `after` holds of the answer, or fails in a state in which `failed` holds.  Contracts
are put together along the binds of a task, so that no later proof runs one.
-/

namespace TripComputer.Computer

variable {α β : Type}

def Meets (before : Computer → Prop) (task : Task α) (after : α → Computer → Prop)
    (failed : Computer → Prop) : Prop :=
  ∀ computer, before computer →
    match task computer with
    | .ok answer changed => after answer changed
    | .error _ changed => failed changed

/-- A task keeps what holds before it, whether it fails or not. -/
def Keeps (invariant : Computer → Prop) (task : Task α) : Prop :=
  Meets invariant task (fun _ => invariant) invariant

/-- The computer after a task, whether it failed or not. -/
def afterTask (task : Task α) (computer : Computer) : Computer :=
  match task computer with
  | .ok _ changed => changed
  | .error _ changed => changed

theorem Meets.afterTask {start final : Computer → Prop} {task : Task α}
    (meets : Meets start task (fun _ => final) final) {computer : Computer}
    (holds : start computer) : final (afterTask task computer) := by
  have met := meets computer holds
  unfold Computer.afterTask
  cases outcome : task computer <;> rw [outcome] at met <;> exact met

theorem keeps_iff {invariant : Computer → Prop} {task : Task α} :
    Keeps invariant task ↔
      ∀ computer, invariant computer → invariant (afterTask task computer) := by
  constructor
  · exact fun keeps _ holds => Meets.afterTask keeps holds
  · intro keeps computer holds
    have kept := keeps computer holds
    unfold afterTask at kept
    cases outcome : task computer <;> rw [outcome] at kept <;> exact kept

theorem afterTask_runProgram (program : Program) (index : UInt8) (computer : Computer) :
    afterTask (runProgram program index) computer =
      computer.after (computer.calculator.call computer.surroundings program index 0) := by
  unfold afterTask runProgram
  generalize computer.calculator.call computer.surroundings program index 0 = run
  cases outcome : run.result <;> simp only [outcome]

theorem writeStore_eq_ok_iff {wrap : StorageError → Failure}
    {access : Store.Access StorageError Unit} {computer changed : Computer} :
    writeStore wrap access computer = .ok () changed ↔
      ∃ store, access.outcome computer.store = .ok store ∧
        { computer with store := store } = changed := by
  unfold writeStore Store.Access.outcome
  cases access computer.store <;> simp

variable {before failed : Computer → Prop} {after : α → Computer → Prop}

namespace Meets

theorem bind {middle : α → Computer → Prop} {after : β → Computer → Prop} {task : Task α}
    {rest : α → Task β} (first : Meets before task middle failed)
    (second : ∀ answer, Meets (middle answer) (rest answer) after failed) :
    Meets before (task >>= rest) after failed := by
  intro computer holds
  have reached := first computer holds
  show match EStateM.bind task rest computer with
    | .ok answer changed => after answer changed
    | .error _ changed => failed changed
  rw [EStateM.bind]
  cases outcome : task computer with
  | ok answer changed =>
      rw [outcome] at reached
      exact second answer changed reached
  | error failure changed =>
      rw [outcome] at reached
      exact reached

theorem pure {answer : α} (holds : ∀ computer, before computer → after answer computer) :
    Meets before (pure answer : Task α) after failed :=
  fun computer start => holds computer start

theorem read {rest : Computer → Task α}
    (meets : ∀ computer, before computer → Meets (· = computer) (rest computer) after failed) :
    Meets before ((get : Task Computer) >>= rest) after failed :=
  fun computer start => meets computer start computer rfl

theorem write {changed : Computer} {after : PUnit → Computer → Prop}
    (holds : ∀ computer, before computer → after ⟨⟩ changed) :
    Meets before (set changed : Task PUnit) after failed :=
  fun computer start => holds computer start

theorem update {change : Computer → Computer} {after : PUnit → Computer → Prop}
    (holds : ∀ computer, before computer → after ⟨⟩ (change computer)) :
    Meets before (modify change : Task PUnit) after failed :=
  fun computer start => holds computer start

theorem updateGet {change : Computer → α × Computer}
    (holds : ∀ computer, before computer → after (change computer).1 (change computer).2) :
    Meets before (modifyGet change : Task α) after failed :=
  fun computer start => holds computer start

/-- Two ways of obtaining an answer, for the same rest of a task. -/
theorem choose (middle : α → Computer → Prop) {condition : Prop} [Decidable condition]
    {after : β → Computer → Prop} {task other : Task α} {rest : α → Task β}
    (first : condition → Meets before task middle failed)
    (second : ¬condition → Meets before other middle failed)
    (later : ∀ answer, Meets (middle answer) (rest answer) after failed) :
    Meets before (if condition then task >>= rest else other >>= rest) after failed := by
  by_cases holds : condition
  · rw [if_pos holds]
    exact (first holds).bind later
  · rw [if_neg holds]
    exact (second holds).bind later

/-- A task that is left out unless a condition holds. -/
theorem guard (middle : PUnit → Computer → Prop) {condition : Prop} [Decidable condition]
    {after : β → Computer → Prop} {task : Task PUnit} {rest : PUnit → Task β}
    (first : condition → Meets before task middle failed)
    (skipped : ¬condition → ∀ computer, before computer → middle ⟨⟩ computer)
    (later : ∀ answer, Meets (middle answer) (rest answer) after failed) :
    Meets before (if condition then task >>= rest else rest ⟨⟩) after failed :=
  choose middle first (fun unmet => Meets.pure (skipped unmet)) later

/-- A contract for every state is one for all that satisfy a condition. -/
theorem weaken {stronger : Computer → Prop} {task : Task α}
    (meets : Meets before task after failed)
    (holds : ∀ computer, stronger computer → before computer) :
    Meets stronger task after failed :=
  fun computer start => meets computer (holds computer start)

/-- A condition on failures may be replaced by a weaker one. -/
theorem relax {other : Computer → Prop} {task : Task α} (meets : Meets before task after failed)
    (holds : ∀ computer, failed computer → other computer) : Meets before task after other := by
  intro computer start
  have met := meets computer start
  cases outcome : task computer with
  | ok answer changed => rwa [outcome] at met
  | error failure changed =>
      rw [outcome] at met
      exact holds changed met

/-- A contract for each state that satisfies a condition is one for all of them. -/
theorem each {task : Task α}
    (meets : ∀ computer, before computer → Meets (· = computer) task after failed) :
    Meets before task after failed :=
  fun computer start => meets computer start computer rfl

/-- A condition on answers may be replaced by a weaker one. -/
theorem mono {other : α → Computer → Prop} {task : Task α} (meets : Meets before task after failed)
    (holds : ∀ answer computer, after answer computer → other answer computer) :
    Meets before task other failed := by
  intro computer start
  have met := meets computer start
  cases outcome : task computer with
  | ok answer changed =>
      rw [outcome] at met
      exact holds answer changed met
  | error failure changed => rwa [outcome] at met

theorem and {other : α → Computer → Prop} {otherFailed : Computer → Prop} {task : Task α}
    (first : Meets before task after failed) (second : Meets before task other otherFailed) :
    Meets before task (fun answer changed => after answer changed ∧ other answer changed)
      failed := by
  intro computer holds
  have one := first computer holds
  have two := second computer holds
  cases outcome : task computer with
  | ok answer changed =>
      rw [outcome] at one two
      exact ⟨one, two⟩
  | error failure changed => rwa [outcome] at one

/-- A task that cannot fail answers. -/
theorem exists_answer {task : Task α} (meets : Meets before task after fun _ => False)
    {computer : Computer} (start : before computer) :
    ∃ answer changed, task computer = .ok answer changed ∧ after answer changed := by
  have met := meets computer start
  cases outcome : task computer with
  | ok answer changed =>
      rw [outcome] at met
      exact ⟨answer, changed, rfl, met⟩
  | error failure changed =>
      rw [outcome] at met
      exact met.elim

theorem trivial (task : Task α) : Meets before task (fun _ _ => True) (fun _ => True) := by
  intro computer _
  cases task computer <;> exact True.intro

/-- What each task of a list keeps, all of them together keep. -/
theorem forM {items : List β} {task : β → Task PUnit}
    (each : ∀ item ∈ items, Meets before (task item) (fun _ => before) failed) :
    Meets before (items.forM task) (fun _ => before) failed := by
  induction items with
  | nil => exact pure fun _ holds => holds
  | cons first rest induction =>
      obtain ⟨here, later⟩ := List.forall_mem_cons.mp each
      rw [List.forM_eq_forM, List.forM_cons]
      exact here.bind fun _ => induction later

/-- Where an access that is refused leaves the store as it was, its failure leaves the computer. -/
theorem writeStore {wrap : StorageError → Failure} {access : Store.Access StorageError Unit}
    {after : PUnit → Computer → Prop} (atomic : access.Atomic)
    (written : ∀ computer store, before computer → access.outcome computer.store = .ok store →
      after ⟨⟩ { computer with store := store })
    (refused : ∀ computer error, before computer → access.outcome computer.store = .error error →
      failed computer) :
    Meets before (writeStore wrap access) after failed := by
  intro computer holds
  unfold Computer.writeStore
  cases result : access computer.store with
  | ok _ store =>
      exact written computer store holds (Store.Access.outcome_eq_ok_iff.mpr result)
  | error error left =>
      have unchanged : { computer with store := left } = computer := by
        rw [atomic computer.store error left result]
      simp only [unchanged]
      exact refused computer error holds (Store.Access.outcome_eq_error_iff.mpr ⟨left, result⟩)

theorem saveSettings {after : PUnit → Computer → Prop}
    (written : ∀ computer store, before computer →
      Image.saveSettings computer.store computer.settings = .ok store →
        after ⟨⟩ { computer with store := store })
    (refused : ∀ computer error, before computer →
      Image.saveSettings computer.store computer.settings = .error error → failed computer) :
    Meets before saveSettings after failed := by
  unfold Computer.saveSettings
  apply Meets.read
  intro computer holds
  apply Meets.writeStore (Image.atomic_putSettings computer.settings)
  · rintro _ store rfl wrote
    exact written _ store holds wrote
  · rintro _ error rfl unwritten
    exact refused _ error holds unwritten

theorem saveTrip {trip : TripName} {slot : Nat} {after : PUnit → Computer → Prop}
    (written : ∀ computer store, before computer →
      Image.saveTrip computer.store slot (computer.trips.get trip) computer.uptimeSeconds =
          .ok store →
        after ⟨⟩ { computer with store := store })
    (refused : ∀ computer, before computer → failed computer) :
    Meets before (saveTrip trip slot) after failed := by
  unfold Computer.saveTrip
  apply Meets.read
  intro computer holds
  apply Meets.writeStore (Image.atomic_putTrip slot (computer.trips.get trip) _)
  · rintro _ store rfl wrote
    exact written _ store holds wrote
  · rintro _ error rfl _
    exact refused _ holds

/-- What saving a trip keeps, saving all those trips keeps. -/
theorem autosave (saves : ∀ trip slot, Keeps before (Computer.saveTrip trip slot)) :
    Keeps before autosave :=
  Meets.read fun _ holds => (Meets.forM fun _ _ => saves _ _).weaken fun _ same => same ▸ holds

end Meets

end TripComputer.Computer
