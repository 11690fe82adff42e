import Mathlib.Data.List.Infix
import TripComputer.Proofs.Capture.IdleShare

/-!
# No time is counted twice

A meter keeps what has been drained from a capture, while edges and ticks come at any times
that never go back, and parameters are installed between them.
-/

namespace TripComputer.Capture

/-- What can be done with a capture.  The time of an event is the true one, of which the
handler sees only a word. -/
inductive Operation where
  | vssEdge (time : Nat)
  | injectorOpen (time : Nat)
  | injectorClose (time : Nat)
  | tick (time : Nat)
  | install (parameters : CaptureParameters)
  | drain
deriving DecidableEq, Repr

def Operation.time? : Operation → Option Nat
  | .vssEdge time => some time
  | .injectorOpen time => some time
  | .injectorClose time => some time
  | .tick time => some time
  | .install _ => none
  | .drain => none

/-- What a counter of the raw trip has been in all drains together. -/
def sumOf (drained : List (Trip × Trip)) (counter : Counter) : Nat :=
  (drained.map fun trips => (trips.1.get counter).toNat).sum

/-- A capture with all that has been drained from it, and the edges since the last drain. -/
structure Meter where
  capture : Capture
  drained : List (Trip × Trip)
  vssEdges : Nat
  injectorEdges : Nat
  /-- Whether the debounce held back an edge at the last drain, as a number of edges.  Such an
  edge came before the drain and is credited after it. -/
  carried : Nat

namespace Meter

def new (parameters : CaptureParameters) : Meter := ⟨.new parameters, [], 0, 0, 0⟩

def operate (meter : Meter) : Operation → Meter
  | .vssEdge time =>
      { meter with
        capture := meter.capture.onVssEdge time.toUInt32
        vssEdges := meter.vssEdges + 1 }
  | .injectorOpen time =>
      { meter with
        capture := meter.capture.onInjectorOpen time.toUInt32
        injectorEdges := meter.injectorEdges + 1 }
  | .injectorClose time =>
      { meter with
        capture := meter.capture.onInjectorClose time.toUInt32
        injectorEdges := meter.injectorEdges + 1 }
  | .tick time => { meter with capture := meter.capture.onTick time.toUInt32 }
  | .install parameters => { meter with capture := meter.capture.setParameters parameters }
  | .drain =>
      ⟨meter.capture.drain.2, meter.capture.drain.1 :: meter.drained, 0, 0,
        meter.capture.heldBack⟩

/-- All that a counter has been credited with, as a number that does not wrap. -/
def total (meter : Meter) (counter : Counter) : Nat :=
  sumOf meter.drained counter + (meter.capture.raw.get counter).toNat

/-- The edges since the last drain. -/
def edges (meter : Meter) : Nat := meter.vssEdges + meter.injectorEdges

theorem sumOf_drain (meter : Meter) (counter : Counter) :
    sumOf (meter.operate .drain).drained counter = meter.total counter :=
  Nat.add_comm _ _

end Meter

/-- Every cycle that has been credited lies between `first` and `now`, once. -/
structure Timely (first now : Nat) (meter : Meter) : Prop where
  vss : VssTimely first now (sumOf meter.drained .vssCycles) meter.capture
  injector : InjectorTimely first now (sumOf meter.drained .injectorCycles)
    (sumOf meter.drained .injectorOpenCycles) meter.capture
  idle : IdleShare (meter.vssEdges + meter.carried) meter.injectorEdges meter.capture

namespace Timely

variable {first now : Nat} {meter : Meter}

theorem start (parameters : CaptureParameters) (first : Nat) :
    Timely first first (.new parameters) where
  vss := ⟨first, Nat.le_refl first, Nat.le_refl first, nofun, Nat.zero_le _⟩
  injector := by
    refine ⟨first, Nat.le_refl first, Nat.le_refl first, ?_, Nat.zero_le _, Nat.zero_le _⟩
    rintro (recent | seen)
    · cases recent
    · cases seen
  idle := .uncredited (.new parameters) rfl rfl

theorem operate (timely : Timely first now meter) (operation : Operation)
    (onTime : ∀ time ∈ operation.time?, now ≤ time ∧ time < 2 ^ 64) :
    Timely first (operation.time?.getD now) (meter.operate operation) := by
  obtain ⟨vss, injector, idle⟩ := timely
  cases operation with
  | vssEdge time =>
      obtain ⟨ordered, bounded⟩ := onTime time rfl
      exact ⟨(VssTimely.keptByPulses ..).onVssEdge (vss.later ordered),
        (InjectorTimely.keptByPulses ..).onVssEdge (injector.later ordered),
        (idle.onVssEdge vss ordered bounded).more (Nat.le_of_eq (Nat.add_right_comm ..))
          (Nat.le_refl _)⟩
  | injectorOpen time =>
      obtain ⟨ordered, bounded⟩ := onTime time rfl
      have same := idle.onInjectorOpen time.toUInt32
      exact ⟨vss.onInjectorOpen ordered, injector.onInjectorOpen ordered,
        same.more (Nat.le_refl _) (Nat.le_succ _)⟩
  | injectorClose time =>
      obtain ⟨ordered, bounded⟩ := onTime time rfl
      exact ⟨vss.onInjectorClose ordered, injector.onInjectorClose ordered,
        idle.onInjectorClose injector ordered bounded⟩
  | tick time =>
      obtain ⟨ordered, bounded⟩ := onTime time rfl
      constructor <;> dsimp only [Meter.operate, Operation.time?, Option.getD_some]
      · exact (VssTimely.keptByPulses ..).onTick (vss.later ordered)
      · exact (InjectorTimely.keptByPulses ..).onTick (injector.later ordered)
      · exact idle.onTick vss ordered bounded
  | install parameters =>
      have installed := Wanes.setParameters meter.capture parameters
      exact ⟨vss.wanes installed, injector.wanes installed, idle.wanes installed⟩
  | drain =>
      refine ⟨?_, ?_, (IdleShare.uncredited meter.capture.drain.2 rfl rfl).more
        (Nat.le_of_eq (Nat.zero_add _).symm) (Nat.le_refl 0)⟩
      · rw [Meter.sumOf_drain]
        exact vss.drain
      · rw [Meter.sumOf_drain, Meter.sumOf_drain]
        exact injector.drain

theorem run (timely : Timely first now meter) (operations : List Operation)
    (ordered : (now :: operations.filterMap Operation.time?).Pairwise (· ≤ ·))
    (bounded : ∀ time ∈ operations.filterMap Operation.time?, time < 2 ^ 64) :
    Timely first ((operations.filterMap Operation.time?).getLastD now)
      (operations.foldl Meter.operate meter) := by
  induction operations generalizing now meter with
  | nil => exact timely
  | cons operation rest induction =>
      cases timed : operation.time? with
      | none =>
          rw [List.filterMap_cons_none timed] at ordered bounded ⊢
          have operated := timely.operate operation (by simp [timed])
          rw [timed] at operated
          exact induction operated ordered bounded
      | some time =>
          rw [List.filterMap_cons_some timed] at ordered bounded ⊢
          obtain ⟨before, after⟩ := List.pairwise_cons.mp ordered
          have operated := timely.operate operation fun seen isSeen => by
            cases timed.symm.trans isSeen
            exact ⟨before time (List.mem_cons_self ..), bounded time (List.mem_cons_self ..)⟩
          rw [timed] at operated
          rw [List.getLastD_cons]
          exact induction operated after
            fun later listed => bounded later (List.mem_cons_of_mem time listed)

/-- All cycles together are no more than the time that has passed. -/
theorem total_le (timely : Timely first now meter) :
    meter.total .vssCycles ≤ now - first ∧ meter.total .injectorCycles ≤ now - first ∧
      meter.total .injectorOpenCycles ≤ now - first := by
  have openTotal := timely.injector.open_le (Nat.le_refl now)
  obtain ⟨pulse, _, beforePulse, _, vssTotal⟩ := timely.vss
  obtain ⟨opening, _, beforeOpening, _, injectorTotal, _⟩ := timely.injector
  refine ⟨?_, ?_, openTotal⟩
  · exact Nat.le_trans vssTotal (Nat.sub_le_sub_right beforePulse first)
  · have cycles : meter.total .injectorCycles ≤ opening - first :=
      Nat.le_trans (Nat.le_add_right _ _) injectorTotal
    exact Nat.le_trans cycles (Nat.sub_le_sub_right beforeOpening first)

end Timely

theorem pairwise_headD_cons {times : List Nat} (ordered : times.Pairwise (· ≤ ·)) :
    (times.headD 0 :: times).Pairwise (· ≤ ·) := by
  cases times with
  | nil => exact List.pairwise_singleton _ 0
  | cons first rest =>
      refine List.pairwise_cons.mpr ⟨fun time listed => ?_, ordered⟩
      rcases List.mem_cons.mp listed with rfl | later
      · exact Nat.le_refl time
      · exact List.rel_of_pairwise_cons ordered later

/-- No time is counted twice: of each kind of cycles, what has been drained and what is still
in the raw trip are together no more than the time from the first event to the last.  And
the idle trip is within the raw trip, unless so many edges come between drains that a pulse
counter wraps, the edge that was held back at a drain being one of those after it. -/
theorem no_time_counted_twice (parameters : CaptureParameters) (operations : List Operation)
    (ordered : (operations.filterMap Operation.time?).Pairwise (· ≤ ·))
    (bounded : ∀ time ∈ operations.filterMap Operation.time?, time < 2 ^ 64) :
    let times := operations.filterMap Operation.time?
    let span := times.getLastD 0 - times.headD 0
    let final := operations.foldl Meter.operate (.new parameters)
    (final.total .vssCycles ≤ span ∧ final.total .injectorCycles ≤ span ∧
        final.total .injectorOpenCycles ≤ span) ∧
      (final.edges + final.carried < 2 ^ 32 →
        ∀ counter, final.capture.rawIdle.get counter ≤ final.capture.raw.get counter) := by
  intro times span final
  have timely := (Timely.start parameters (times.headD 0)).run operations
    (pairwise_headD_cons ordered) bounded
  have sameLast : times.getLastD (times.headD 0) = times.getLastD 0 := by
    cases times <;> rfl
  have totals := timely.total_le
  rw [sameLast] at totals
  refine ⟨totals, fun few => timely.idle.le ?_⟩
  rwa [Nat.add_right_comm]

/-- Pulses on both sides of the time at which the clock wraps, and of a drain. -/
theorem pulses_around_wrap_and_drain :
    let parameters : CaptureParameters :=
      ⟨1, 1000, 500, 1024, 10, 0, 10, 5, 100, true⟩
    let operations : List Operation :=
      [.vssEdge 4294967290, .injectorOpen 4294967291, .injectorClose 4294967294, .drain,
        .install parameters, .vssEdge 4294967305, .tick 4294967306]
    let times := operations.filterMap Operation.time?
    let final := operations.foldl Meter.operate (.new parameters)
    times.Pairwise (· ≤ ·) ∧ (∀ time ∈ times, time < 2 ^ 64) ∧
      final.edges + final.carried < 2 ^ 32 ∧
      (final.total .vssCycles = 15 ∧ final.total .injectorOpenCycles = 2) ∧
      (final.total .vssCycles ≤ 16 ∧ final.total .injectorCycles ≤ 16 ∧
        final.total .injectorOpenCycles ≤ 16) ∧
      ∀ counter, final.capture.rawIdle.get counter ≤ final.capture.raw.get counter := by
  intro parameters operations times final
  have ordered : times.Pairwise (· ≤ ·) := by decide +kernel
  have bounded : ∀ time ∈ times, time < 2 ^ 64 := by decide +kernel
  have few : final.edges + final.carried < 2 ^ 32 := by decide +kernel
  have credited : final.total .vssCycles = 15 ∧ final.total .injectorOpenCycles = 2 := by
    decide +kernel
  have passed : times.getLastD 0 - times.headD 0 = 16 := by decide +kernel
  obtain ⟨totals, share⟩ := no_time_counted_twice parameters operations ordered bounded
  rw [passed] at totals
  exact ⟨ordered, bounded, few, credited, totals, share few⟩

/-- Edges without a debounce, and without counts of idling: each is credited to the raw trip
alone. -/
theorem Meter.operate_vssEdges (time count : Nat) {meter : Meter}
    (pause : meter.capture.parameters.vssPauseTicks = 0)
    (untracked : meter.capture.parameters.trackIdle = false) :
    let final := (List.replicate count (Operation.vssEdge time)).foldl Meter.operate meter
    final.edges = meter.edges + count ∧
      final.capture.raw.vssPulses = meter.capture.raw.vssPulses + count.toUInt32 ∧
      final.capture.rawIdle = meter.capture.rawIdle := by
  induction count generalizing meter with
  | zero => exact ⟨rfl, (UInt32.add_zero _).symm, rfl⟩
  | succ count induction =>
      have credited : meter.capture.onVssEdge time.toUInt32 =
          meter.capture.creditVss time.toUInt32 := if_pos pause
      have unidled : (meter.capture.creditVss time.toUInt32).rawIdle = meter.capture.rawIdle := by
        simp [creditVss, untracked]
      obtain ⟨edges, pulses, idle⟩ :=
        @induction (meter.operate (.vssEdge time)) (by rw [Meter.operate, credited]; exact pause)
          (by rw [Meter.operate, credited]; exact untracked)
      rw [List.replicate_succ, List.foldl_cons]
      refine ⟨?_, ?_, ?_⟩
      · rw [edges]
        simp only [Meter.operate, Meter.edges]
        omega
      · rw [pulses, Meter.operate, credited]
        show meter.capture.raw.vssPulses + 1 + count.toUInt32 = _
        rw [UInt32.add_assoc]
        simp [UInt32.ofNat_add, UInt32.add_comm]
      · rw [idle, Meter.operate, credited]
        exact unidled

/-- A debounce of one tick, and counts of idling. -/
def debouncedIdling : CaptureParameters :=
  { CaptureParameters.inert with vssPauseTicks := 1, trackIdle := true }

/-- An edge that the debounce holds back over a drain, and is credited to both trips after it. -/
def heldOverDrain : List Operation :=
  [.vssEdge 100, .drain, .tick 200, .install .inert]

/-- The edges that come after a held one without a debounce, and without counts of idling, are
credited to the raw trip. -/
def edgesBehindHeld (count : Nat) : List Operation :=
  heldOverDrain ++ List.replicate count (.vssEdge 300)

theorem operate_edgesBehindHeld (count : Nat) :
    let final := (edgesBehindHeld count).foldl Meter.operate (.new debouncedIdling)
    final.edges = count ∧ final.capture.raw.vssPulses = 1 + count.toUInt32 ∧
      final.capture.rawIdle.vssPulses = 1 := by
  intro final
  let held : Meter := heldOverDrain.foldl Meter.operate (.new debouncedIdling)
  have runs : final = (List.replicate count (Operation.vssEdge 300)).foldl Meter.operate held := by
    rw [← List.foldl_append]
    rfl
  have heldEdges : held.edges = 0 := by decide
  have heldPulses : held.capture.raw.vssPulses = 1 ∧ held.capture.rawIdle.vssPulses = 1 := by
    decide
  obtain ⟨edges, pulses, idle⟩ := held.operate_vssEdges 300 count (by decide) (by decide)
  rw [heldEdges, Nat.zero_add] at edges
  rw [heldPulses.1] at pulses
  rw [runs, idle]
  exact ⟨edges, pulses, heldPulses.2⟩

theorem times_edgesBehindHeld (count : Nat) :
    (edgesBehindHeld count).filterMap Operation.time? =
      [100, 200] ++ List.replicate count 300 := by
  rw [edgesBehindHeld, List.filterMap_append, List.filterMap_replicate]
  rfl

/-- At no time are there more edges since the last drain than the one that is held back, or those
behind it. -/
theorem edges_le_of_prefix {count : Nat} {before : List Operation}
    (begins : before <+: edgesBehindHeld count) :
    (before.foldl Meter.operate (.new debouncedIdling)).edges ≤ max 1 count := by
  rcases List.prefix_or_prefix_of_prefix begins (List.prefix_append ..) with early | late
  · have few : ∀ before ∈ heldOverDrain.inits,
        (before.foldl Meter.operate (.new debouncedIdling)).edges ≤ 1 := by
      decide
    exact Nat.le_trans (few before ((List.mem_inits ..).mpr early)) (Nat.le_max_left ..)
  · obtain ⟨behind, rfl⟩ := late
    have counted := List.prefix_replicate_iff.mp ((List.prefix_append_right_inj _).mp begins)
    rw [counted.2]
    exact Nat.le_trans (Nat.le_of_eq (operate_edgesBehindHeld behind.length).1)
      (Nat.le_trans counted.1 (Nat.le_max_right ..))

/-- If the edges behind a held one are as many as take the raw trip back to no pulse, the idle
trip has one more. -/
theorem wrap_behind_held_edge {count : Nat} (few : count < 2 ^ 32)
    (wrapped : 1 + count.toUInt32 = 0) :
    let operations := edgesBehindHeld count
    let times := operations.filterMap Operation.time?
    let final := operations.foldl Meter.operate (.new debouncedIdling)
    times.Pairwise (· ≤ ·) ∧ (∀ time ∈ times, time < 2 ^ 64) ∧
      (∀ before, before <+: operations →
        (before.foldl Meter.operate (.new debouncedIdling)).edges < 2 ^ 32) ∧
      ¬∀ counter, final.capture.rawIdle.get counter ≤ final.capture.raw.get counter := by
  intro operations times final
  obtain ⟨-, pulses, idle⟩ := operate_edgesBehindHeld count
  have all : times = [100, 200] ++ List.replicate count 300 := times_edgesBehindHeld count
  refine ⟨?_, ?_, fun before begins => ?_, fun share => ?_⟩
  · rw [all]
    refine List.pairwise_append.mpr
      ⟨by decide, List.pairwise_replicate.mpr (.inr (Nat.le_refl _)), ?_⟩
    intro early first late last
    rw [(List.mem_replicate.mp last).2]
    revert early
    decide
  · intro time listed
    rw [all] at listed
    rcases List.mem_append.mp listed with first | last
    · clear listed
      revert time
      decide
    · rw [(List.mem_replicate.mp last).2]
      decide
  · have within := edges_le_of_prefix begins
    omega
  · have pulse : final.capture.rawIdle.vssPulses.toUInt64 ≤ final.capture.raw.vssPulses.toUInt64 :=
      share .vssPulses
    rw [pulses, idle, wrapped] at pulse
    exact absurd pulse (by decide)

/-- With the edge that was held back left out of the count, the idle trip need not be within the
raw trip, though at no time there are so many edges since the last drain that a pulse counter
wraps: one edge fewer than that, behind a drain and a held edge. -/
theorem share_fails_behind_held_edge :
    ¬∀ (parameters : CaptureParameters) (operations : List Operation),
      (operations.filterMap Operation.time?).Pairwise (· ≤ ·) →
      (∀ time ∈ operations.filterMap Operation.time?, time < 2 ^ 64) →
      let times := operations.filterMap Operation.time?
      let span := times.getLastD 0 - times.headD 0
      let final := operations.foldl Meter.operate (.new parameters)
      (final.total .vssCycles ≤ span ∧ final.total .injectorCycles ≤ span ∧
          final.total .injectorOpenCycles ≤ span) ∧
        ((∀ before, before <+: operations →
            (before.foldl Meter.operate (.new parameters)).edges < 2 ^ 32) →
          ∀ counter, final.capture.rawIdle.get counter ≤ final.capture.raw.get counter) := by
  intro claimed
  have wrapped : (1 : UInt32) + (2 ^ 32 - 1).toUInt32 = 0 := by decide
  obtain ⟨ordered, bounded, few, fails⟩ := wrap_behind_held_edge (by decide) wrapped
  exact fails ((claimed _ _ ordered bounded).2 few)

end TripComputer.Capture
