import Mathlib.Algebra.Group.Nat.Defs
import TripComputer.Drive

/-!
# Slices of a drive

`Delivers` is the event loop of a simulated drive without its budget: one event after another, as
long as the next one is due before the horizon.  Where a first horizon stops the loop, a later one
takes it up again at the very event that was left over, whatever the simulator takes for the
current cycle in between.  So an event on the boundary of two slices falls into the second one.
-/

namespace TripComputer

namespace DriveCounts

theorem zero_add (counts : DriveCounts) : zero + counts = counts := by
  show DriveCounts.add zero counts = counts
  simp [DriveCounts.add, zero]

theorem add_assoc (first second third : DriveCounts) :
    first + second + third = first + (second + third) := by
  show DriveCounts.add (DriveCounts.add first second) third =
    DriveCounts.add first (DriveCounts.add second third)
  simp [DriveCounts.add, Nat.add_assoc]

end DriveCounts

namespace Simulator

variable {α : Type} {listen : α → UInt32 → Interrupt → α} {horizon middle : UInt64}
  {simulator between final : Simulator} {listener heard last : α}
  {counts total firstCounts secondCounts : DriveCounts}

/-- The simulator at another cycle, with the same events ahead of it. -/
def atCycle (simulator : Simulator) (now : UInt64) : Simulator :=
  { simulator with now := now }

/-- The interrupts of the next event, the simulator behind it, and what it adds to the counts. -/
def next (simulator : Simulator) : List Interrupt × Simulator × DriveCounts :=
  simulator.occur simulator.nextEvent.1 simulator.nextEvent.2

/-- The listener after the interrupts of the next event. -/
def tell (listen : α → UInt32 → Interrupt → α) (simulator : Simulator) (listener : α) : α :=
  simulator.next.1.foldl
    (fun listener => listen listener (simulator.countAt simulator.nextEvent.1)) listener

/-- A number of events are due before a horizon: what they lead to, and what they add to the
counts. -/
inductive Delivers (listen : α → UInt32 → Interrupt → α) (horizon : UInt64) :
    Nat → Simulator → α → Simulator → α → DriveCounts → Prop where
  | rest {simulator : Simulator} {listener : α} :
      horizon ≤ simulator.nextEvent.1 →
      Delivers listen horizon 0 simulator listener simulator listener .zero
  | event {simulator final : Simulator} {listener heard : α} {counts : DriveCounts} {events : Nat} :
      simulator.nextEvent.1 < horizon →
      Delivers listen horizon events simulator.next.2.1 (tell listen simulator listener) final heard
        counts →
      Delivers listen horizon (events + 1) simulator listener final heard
        (simulator.next.2.2 + counts)

theorem next_atCycle (simulator : Simulator) (now : UInt64) :
    (simulator.atCycle now).next =
      (simulator.next.1, simulator.next.2.1.atCycle now, simulator.next.2.2) := by
  have same : (simulator.atCycle now).nextEvent = simulator.nextEvent := rfl
  rw [next, next, same]
  cases simulator.nextEvent.2 <;> rfl

theorem tell_atCycle (simulator : Simulator) (now : UInt64) (listener : α) :
    tell listen (simulator.atCycle now) listener = tell listen simulator listener := by
  rw [tell, next_atCycle]
  rfl

theorem deliver?_eq_some_iff {budget : Nat} :
    deliver? listen horizon budget simulator listener counts = some (final, heard, total) ↔
      ∃ events added, events < budget ∧
        Delivers listen horizon events simulator listener final heard added ∧
          total = counts + added := by
  induction budget generalizing simulator listener counts with
  | zero => simp [deliver?]
  | succ budget induction =>
      rw [deliver?]
      dsimp only
      split
      next due =>
        constructor
        · intro delivered
          cases delivered
          exact ⟨0, .zero, Nat.succ_pos _, .rest due, rfl⟩
        · rintro ⟨events, added, few, delivers, rfl⟩
          cases delivers with
          | rest _ => rfl
          | event before _ => exact absurd due (UInt64.not_le.mpr before)
      next due =>
        have before := UInt64.not_le.mp due
        rw [induction]
        constructor
        · rintro ⟨events, added, few, delivers, rfl⟩
          exact ⟨events + 1, _, Nat.succ_lt_succ few, .event before delivers,
            DriveCounts.add_assoc ..⟩
        · rintro ⟨events, added, few, delivers, rfl⟩
          cases delivers with
          | rest due => exact absurd due (UInt64.not_le.mpr before)
          | event _ rest =>
              exact ⟨_, _, Nat.lt_of_succ_lt_succ few, rest, (DriveCounts.add_assoc ..).symm⟩

namespace Delivers

variable {events more : Nat}

/-- The current cycle has no part in what the events do. -/
theorem atCycle (delivers : Delivers listen horizon events simulator listener final heard counts)
    (now : UInt64) :
    Delivers listen horizon events (simulator.atCycle now) listener (final.atCycle now) heard
      counts := by
  induction delivers with
  | rest due => exact .rest due
  | @event simulator _ _ _ _ _ before _ induction =>
      have step : Delivers listen horizon _ (simulator.atCycle now) _ _ _ _ :=
        .event before (by rw [next_atCycle, tell_atCycle]; exact induction)
      rwa [next_atCycle] at step

theorem trans (first : Delivers listen middle events simulator listener between heard firstCounts)
    (second : Delivers listen horizon more between heard final last secondCounts)
    (later : middle ≤ horizon) :
    Delivers listen horizon (events + more) simulator listener final last
      (firstCounts + secondCounts) := by
  induction first with
  | rest => rwa [Nat.zero_add, DriveCounts.zero_add]
  | event before _ induction =>
      rw [Nat.succ_add, DriveCounts.add_assoc]
      exact .event (UInt64.lt_of_lt_of_le before later) (induction second)

theorem split (delivers : Delivers listen horizon events simulator listener final last total)
    (earlier : middle ≤ horizon) :
    ∃ few more between heard firstCounts secondCounts, events = few + more ∧
      Delivers listen middle few simulator listener between heard firstCounts ∧
      Delivers listen horizon more between heard final last secondCounts ∧
        total = firstCounts + secondCounts := by
  induction delivers with
  | rest due =>
      have dueEarlier := UInt64.le_trans earlier due
      exact ⟨0, 0, _, _, _, _, rfl, .rest dueEarlier, .rest due, rfl⟩
  | @event simulator _ listener _ _ _ before rest induction =>
      by_cases inFirst : simulator.nextEvent.1 < middle
      · obtain ⟨few, more, between, heard, firstCounts, secondCounts, rfl, first, second, rfl⟩ :=
          induction
        exact ⟨few + 1, more, between, heard, _, secondCounts, (Nat.succ_add _ _).symm,
          .event inFirst first, second, (DriveCounts.add_assoc ..).symm⟩
      · -- the event is left to the second slice, and so is everything behind it
        have due := UInt64.not_lt.mp inFirst
        exact ⟨0, _, simulator, listener, .zero, _, (Nat.zero_add _).symm, .rest due,
          .event before rest, (DriveCounts.zero_add _).symm⟩

end Delivers

theorem advance?_eq_some_iff {budget : Nat} {cycles : UInt64}
    (fits : simulator.now.toNat + cycles.toNat < 2 ^ 64) :
    simulator.advance? listen budget listener cycles = some (final, heard, total) ↔
      ∃ reached, deliver? listen (simulator.now + cycles) budget simulator listener .zero =
        some (reached, heard, total) ∧ final = reached.atCycle (simulator.now + cycles) := by
  have inOrder : ¬simulator.now + cycles < simulator.now := by
    rw [UInt64.lt_iff_toNat_lt, UInt64.toNat_add, Nat.mod_eq_of_lt fits]
    omega
  simp only [advance?, inOrder, if_false, Option.bind_eq_bind, Option.bind_eq_some_iff]
  constructor
  · rintro ⟨⟨reached, _, _⟩, delivered, same⟩
    cases same
    exact ⟨reached, delivered, rfl⟩
  · rintro ⟨reached, delivered, rfl⟩
    exact ⟨_, delivered, rfl⟩

/-- With enough of a budget, the loop ends where the events before the horizon do. -/
theorem exists_advance?_iff {cycles : UInt64}
    (fits : simulator.now.toNat + cycles.toNat < 2 ^ 64) :
    (∃ budget, simulator.advance? listen budget listener cycles = some (final, heard, total)) ↔
      ∃ events reached,
        Delivers listen (simulator.now + cycles) events simulator listener reached heard total ∧
          final = reached.atCycle (simulator.now + cycles) := by
  simp only [advance?_eq_some_iff fits, deliver?_eq_some_iff, DriveCounts.zero_add]
  constructor
  · rintro ⟨budget, reached, ⟨events, added, few, delivers, rfl⟩, rfl⟩
    exact ⟨events, reached, delivers, rfl⟩
  · rintro ⟨events, reached, delivers, rfl⟩
    exact ⟨events + 1, reached, ⟨events, total, Nat.lt_succ_self _, delivers, rfl⟩, rfl⟩

/-- How a drive is sliced cannot be heard.  To advance by a sum of cycles ends if and only if to
advance by one of them and then by the other does; and any listener is told the same, with the same
timer counts, the simulator is left in the same state and the counts are the sums. -/
theorem slicing_unheard {first second : UInt64}
    (fits : simulator.now.toNat + first.toNat + second.toNat < 2 ^ 64) :
    (∃ budget, simulator.advance? listen budget listener (first + second) =
        some (final, last, total)) ↔
      ∃ between heard firstCounts secondCounts,
        (∃ budget, simulator.advance? listen budget listener first =
          some (between, heard, firstCounts)) ∧
        (∃ budget, between.advance? listen budget heard second =
          some (final, last, secondCounts)) ∧
        total = firstCounts + secondCounts := by
  have wholeFits : simulator.now.toNat + (first + second).toNat < 2 ^ 64 := by
    rw [UInt64.toNat_add]
    omega
  have firstFits : simulator.now.toNat + first.toNat < 2 ^ 64 := by omega
  have middle : (simulator.now + first).toNat = simulator.now.toNat + first.toNat := by
    rw [UInt64.toNat_add, Nat.mod_eq_of_lt firstFits]
  have secondFits (between : Simulator) :
      (between.atCycle (simulator.now + first)).now.toNat + second.toNat < 2 ^ 64 := by
    rw [atCycle, middle]
    exact fits
  have later : simulator.now + first ≤ simulator.now + first + second := by
    rw [UInt64.le_iff_toNat_le, UInt64.toNat_add _ second, middle, Nat.mod_eq_of_lt fits]
    omega
  rw [exists_advance?_iff wholeFits, ← UInt64.add_assoc]
  constructor
  · rintro ⟨events, reached, delivers, rfl⟩
    obtain ⟨few, more, between, heard, firstCounts, secondCounts, rfl, before, behind, rfl⟩ :=
      delivers.split later
    refine ⟨between.atCycle (simulator.now + first), heard, firstCounts, secondCounts, ?_, ?_, rfl⟩
    · exact (exists_advance?_iff firstFits).mpr ⟨few, between, before, rfl⟩
    · apply (exists_advance?_iff (secondFits between)).mpr
      exact ⟨more, reached.atCycle (simulator.now + first), behind.atCycle _, rfl⟩
  · rintro ⟨between, heard, firstCounts, secondCounts, advanced, advancedOn, rfl⟩
    obtain ⟨few, reached, before, rfl⟩ := (exists_advance?_iff firstFits).mp advanced
    obtain ⟨more, stopped, behind, rfl⟩ := (exists_advance?_iff (secondFits reached)).mp advancedOn
    -- the second slice starts from the boundary, and the loop does not
    have goesOn := behind.atCycle reached.now
    exact ⟨few + more, stopped.atCycle reached.now, before.trans goesOn later, rfl⟩

/-- A tick and a closing, and then a tick on the boundary of the slices. -/
theorem tick_on_boundary :
    let simulator : Simulator := ⟨256, 312500, .parked, 0, 256, none, none, some 300⟩
    let listen (log : List (UInt32 × Interrupt)) (count : UInt32) (interrupt : Interrupt) :=
      log ++ [(count, interrupt)]
    let final : Simulator := ⟨256, 312500, .parked, 513, 768, none, none, none⟩
    simulator.now.toNat + (512 : UInt64).toNat + (1 : UInt64).toNat < 2 ^ 64 ∧
      ∃ budget, simulator.advance? listen budget [] (512 + 1) =
        some (final, [(0, .timerOverflow), (44, .injectorClose), (0, .timerOverflow)],
          ⟨2, 0, 1⟩) := by
  intro simulator listen final
  have fits : simulator.now.toNat + (512 : UInt64).toNat + (1 : UInt64).toNat < 2 ^ 64 := by decide
  have first : Delivers listen 512 2 ⟨256, 312500, .parked, 0, 256, none, none, some 300⟩ []
      ⟨256, 312500, .parked, 0, 512, none, none, none⟩ [(0, .timerOverflow), (44, .injectorClose)]
      (⟨1, 0, 0⟩ + (⟨0, 0, 1⟩ + .zero)) :=
    .event (by decide) (.event (by decide) (.rest (by decide)))
  have second : Delivers listen 513 1 ⟨256, 312500, .parked, 512, 512, none, none, none⟩
      [(0, .timerOverflow), (44, .injectorClose)] ⟨256, 312500, .parked, 512, 768, none, none, none⟩
      [(0, .timerOverflow), (44, .injectorClose), (0, .timerOverflow)] (⟨1, 0, 0⟩ + .zero) :=
    .event (by decide) (.rest (by decide))
  let between : Simulator := ⟨256, 312500, .parked, 512, 512, none, none, none⟩
  have advanced : ∃ budget, simulator.advance? listen budget [] 512 = some (between, _, _) :=
    (exists_advance?_iff (by decide)).mpr ⟨2, _, first, rfl⟩
  have advancedOn : ∃ budget, between.advance? listen budget _ 1 = some (final, _, _) :=
    (exists_advance?_iff (by decide)).mpr ⟨1, _, second, rfl⟩
  exact ⟨fits, (slicing_unheard fits).mpr ⟨_, _, _, _, advanced, advancedOn, rfl⟩⟩

end Simulator

end TripComputer
