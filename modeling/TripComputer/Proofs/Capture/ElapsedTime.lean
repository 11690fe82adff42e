import TripComputer.Capture
import TripComputer.Proofs.Trip.Group

/-!
# Credited cycles are elapsed cycles

Handlers see times modulo the width of a word; the times behind them are natural numbers.
`VssTimely` and `InjectorTimely` hold a total of credited cycles against the time of the edge
from which the next interval is measured: intervals credited so far lie before that edge, and
what is credited next lies after it.
-/

namespace TripComputer.Capture

/-- The interval between two times as handlers see them is not longer than the true one. -/
theorem interval_le {earlier later : Nat} (ordered : earlier ≤ later) :
    (Clock.interval earlier.toUInt32 later.toUInt32).toNat ≤ later - earlier := by
  simp only [Clock.interval, UInt32.toNat_sub, Nat.toUInt32_eq, UInt32.toNat_ofNat']
  omega

/-- Two readings of times less than a word of cycles apart are the cycles between them apart. -/
theorem toNat_interval {earlier later : UInt32} {first second : Nat}
    (readFirst : earlier.toNat = first % 2 ^ 32) (readSecond : later.toNat = second % 2 ^ 32)
    (ordered : first ≤ second) (near : second < first + 2 ^ 32) :
    (Clock.interval earlier later).toNat = second - first := by
  rw [Clock.interval, UInt32.toNat_sub, readFirst, readSecond]
  omega

theorem toNat_add_le (total : UInt64) (cycles : UInt32) :
    (total + cycles.toUInt64).toNat ≤ total.toNat + cycles.toNat := by
  rw [UInt64.toNat_add, UInt32.toNat_toUInt64]
  exact Nat.mod_le _ _

/-- Cycles between road-speed pulses, `drained` of them no longer in the raw trip, lie between
`first` and the last pulse that was credited. -/
def VssTimely (first now drained : Nat) (capture : Capture) : Prop :=
  ∃ pulse, first ≤ pulse ∧ pulse ≤ now ∧
    (capture.fresh.goodVss = true → capture.lastVss = pulse.toUInt32) ∧
    drained + capture.raw.vssCycles.toNat ≤ pulse - first

/-- Cycles of the engine, the one under way included, lie between `first` and the last
opening; so do the cycles of open injectors while one is open, and else they lie before
`now`. -/
def InjectorTimely (first now drained drainedOpen : Nat) (capture : Capture) : Prop :=
  ∃ opening, first ≤ opening ∧ opening ≤ now ∧
    (capture.fresh.goodInjector = true ∨ capture.fresh.openingSeen = true →
      capture.thisOpening = opening.toUInt32) ∧
    drained + capture.raw.injectorCycles.toNat + capture.engineCycle.toNat ≤ opening - first ∧
    drainedOpen + capture.raw.injectorOpenCycles.toNat ≤
      (if capture.fresh.openingSeen then opening else now) - first

variable {first now time drained drainedOpen : Nat} {capture : Capture}

theorem VssTimely.later (timely : VssTimely first now drained capture) (ordered : now ≤ time) :
    VssTimely first time drained capture := by
  obtain ⟨pulse, after, before, seen, total⟩ := timely
  exact ⟨pulse, after, Nat.le_trans before ordered, seen, total⟩

theorem InjectorTimely.later (timely : InjectorTimely first now drained drainedOpen capture)
    (ordered : now ≤ time) : InjectorTimely first time drained drainedOpen capture := by
  obtain ⟨opening, after, before, seen, total, openTotal⟩ := timely
  refine ⟨opening, after, Nat.le_trans before ordered, seen, total, Nat.le_trans openTotal ?_⟩
  split <;> omega

/-- The length of the interval that a pulse credits. -/
theorem VssTimely.interval_le (timely : VssTimely first now drained capture)
    (ordered : now ≤ time) :
    drained + capture.raw.vssCycles.toNat +
        (if capture.fresh.goodVss then
          Clock.interval capture.lastVss time.toUInt32 else 0).toNat ≤ time - first := by
  obtain ⟨pulse, after, before, seen, total⟩ := timely
  by_cases good : capture.fresh.goodVss = true
  · have interval := Capture.interval_le (Nat.le_trans before ordered)
    rw [if_pos good, seen good]
    omega
  · rw [if_neg good]
    simp only [UInt32.toNat_zero]
    omega

theorem VssTimely.creditVss (timely : VssTimely first now drained capture)
    (ordered : now ≤ time) :
    VssTimely first time drained (capture.creditVss time.toUInt32) := by
  have credited := timely.interval_le ordered
  obtain ⟨pulse, after, before, _⟩ := timely
  refine ⟨time, by omega, Nat.le_refl time, fun _ => rfl, ?_⟩
  have added := toNat_add_le capture.raw.vssCycles
    (if capture.fresh.goodVss then Clock.interval capture.lastVss time.toUInt32 else 0)
  simp only [Capture.creditVss, Trip.creditVss]
  omega

/-- What an opening does: an engine cycle is measured from the last opening, or dropped, or
left as it was. -/
theorem onInjectorOpen_spec (capture : Capture) (now : UInt32) :
    (capture.onInjectorOpen now).raw = capture.raw ∧
      (capture.onInjectorOpen now).rawIdle = capture.rawIdle ∧
      (capture.onInjectorOpen now).thisOpening = now ∧
      (capture.onInjectorOpen now).fresh.openingSeen = true ∧
      ((capture.onInjectorOpen now).engineCycle = capture.engineCycle ∨
        (capture.onInjectorOpen now).engineCycle = 0 ∨
        capture.fresh.goodInjector = true ∧
          (capture.onInjectorOpen now).engineCycle =
            Clock.interval capture.thisOpening now) := by
  unfold onInjectorOpen measureEngineCycle
  dsimp only
  split
  next good =>
    split
    next => exact ⟨rfl, rfl, rfl, rfl, .inr (.inr ⟨good, rfl⟩)⟩
    next => exact ⟨rfl, rfl, rfl, rfl, .inr (.inl rfl)⟩
  next => exact ⟨rfl, rfl, rfl, rfl, .inl rfl⟩

theorem InjectorTimely.open_le (timely : InjectorTimely first now drained drainedOpen capture)
    (ordered : now ≤ time) :
    drainedOpen + capture.raw.injectorOpenCycles.toNat ≤ time - first := by
  obtain ⟨opening, after, before, seen, total, openTotal⟩ := timely
  refine Nat.le_trans openTotal ?_
  split <;> omega

theorem InjectorTimely.onInjectorOpen
    (timely : InjectorTimely first now drained drainedOpen capture) (ordered : now ≤ time) :
    InjectorTimely first time drained drainedOpen (capture.onInjectorOpen time.toUInt32) := by
  have openBefore := timely.open_le ordered
  obtain ⟨opening, after, before, seen, total, openTotal⟩ := timely
  obtain ⟨raw, _, thisOpening, openingSeen, cycle⟩ :=
    onInjectorOpen_spec capture time.toUInt32
  refine ⟨time, by omega, Nat.le_refl time, fun _ => thisOpening, ?_, ?_⟩
  · rw [raw]
    rcases cycle with kept | dropped | ⟨good, measured⟩
    · rw [kept]
      omega
    · rw [dropped, UInt32.toNat_zero]
      omega
    · have interval := interval_le (Nat.le_trans before ordered)
      rw [measured, seen (.inl good)]
      omega
  · rw [raw, openingSeen, if_pos rfl]
    exact openBefore

/-- What a closing credits as open time is no longer than the time since the opening. -/
theorem acceptedDuration?_le {capture : Capture} {now opened : UInt32}
    (accepted : capture.acceptedDuration? now = some opened) :
    opened.toNat ≤ (Clock.interval capture.thisOpening now).toNat := by
  simp only [acceptedDuration?] at accepted
  split at accepted
  next inside =>
    cases accepted
    rw [UInt32.toNat_sub_of_le _ _ inside.1]
    exact Nat.sub_le _ _
  next => cases accepted

/-- How a closing is judged: the opening is used up, and without it nothing is credited. -/
theorem judgeDuration_spec (capture : Capture) (now : UInt32) :
    (capture.judgeDuration now).2.raw = capture.raw ∧
      (capture.judgeDuration now).2.rawIdle = capture.rawIdle ∧
      (capture.judgeDuration now).2.thisOpening = capture.thisOpening ∧
      (capture.judgeDuration now).2.engineCycle = capture.engineCycle ∧
      (capture.judgeDuration now).2.fresh.openingSeen = false ∧
      ((capture.judgeDuration now).2.fresh.goodInjector = true →
        capture.fresh.goodInjector = true ∨ capture.fresh.openingSeen = true) ∧
      ((capture.judgeDuration now).1 = 0 ∨
        capture.fresh.openingSeen = true ∧
          (capture.judgeDuration now).1.toNat ≤
            (Clock.interval capture.thisOpening now).toNat) := by
  unfold judgeDuration
  by_cases seen : capture.fresh.openingSeen = true
  · rw [if_pos seen]
    cases accepted : capture.acceptedDuration? now with
    | some opened =>
        exact ⟨rfl, rfl, rfl, rfl, rfl, fun _ => .inr seen,
          .inr ⟨seen, acceptedDuration?_le accepted⟩⟩
    | none => exact ⟨rfl, rfl, rfl, rfl, rfl, nofun, .inl rfl⟩
  · rw [if_neg seen]
    exact ⟨rfl, rfl, rfl, rfl, Bool.eq_false_iff.mpr seen, .inl, .inl rfl⟩

theorem raw_onInjectorClose (capture : Capture) (now : UInt32) :
    (capture.onInjectorClose now).raw =
      capture.raw + Trip.injectorCredit (capture.judgeDuration now).1 capture.engineCycle := by
  obtain ⟨raw, _, _, cycle, _⟩ := judgeDuration_spec capture now
  rw [← raw, ← cycle, ← Trip.creditInjector_eq_add]
  rfl

/-- The open time that a closing credits lies after what has been credited before. -/
theorem InjectorTimely.judged_le
    (timely : InjectorTimely first now drained drainedOpen capture) (ordered : now ≤ time) :
    drainedOpen + capture.raw.injectorOpenCycles.toNat +
      (capture.judgeDuration time.toUInt32).1.toNat ≤ time - first := by
  have openBefore := timely.open_le ordered
  obtain ⟨opening, after, before, seen, total, openTotal⟩ := timely
  obtain ⟨_, _, _, _, _, _, rejected | ⟨wasSeen, accepted⟩⟩ :=
    judgeDuration_spec capture time.toUInt32
  · rw [rejected, UInt32.toNat_zero]
    exact openBefore
  · have interval := interval_le (Nat.le_trans before ordered)
    rw [if_pos wasSeen] at openTotal
    rw [seen (.inr wasSeen)] at accepted
    omega

theorem InjectorTimely.onInjectorClose
    (timely : InjectorTimely first now drained drainedOpen capture) (ordered : now ≤ time) :
    InjectorTimely first time drained drainedOpen
      (capture.onInjectorClose time.toUInt32) := by
  have judged := timely.judged_le ordered
  obtain ⟨opening, after, before, seen, total, openTotal⟩ := timely
  obtain ⟨_, _, thisOpening, _, used, good, _⟩ := judgeDuration_spec capture time.toUInt32
  have credited := raw_onInjectorClose capture time.toUInt32
  refine ⟨opening, after, Nat.le_trans before ordered, fun recent => ?_, ?_, ?_⟩
  · rcases recent with stillGood | stillSeen
    · exact thisOpening.trans (seen (good stillGood))
    · exact absurd stillSeen (by simp [Capture.onInjectorClose, used])
  · have cycles := toNat_add_le capture.raw.injectorCycles capture.engineCycle
    have noCycle : (capture.onInjectorClose time.toUInt32).engineCycle.toNat = 0 := rfl
    rw [credited, noCycle]
    change drained + (capture.raw.injectorCycles + capture.engineCycle.toUInt64).toNat + 0 ≤ _
    omega
  · have cycles := toNat_add_le capture.raw.injectorOpenCycles
      (capture.judgeDuration time.toUInt32).1
    have closed : (capture.onInjectorClose time.toUInt32).fresh.openingSeen = false := used
    rw [credited, closed, if_neg Bool.false_ne_true]
    change drainedOpen + (capture.raw.injectorOpenCycles +
      (capture.judgeDuration time.toUInt32).1.toUInt64).toNat ≤ _
    omega

/-- An injector event leaves alone what road-speed pulses are measured with. -/
structure SameVss (capture later : Capture) : Prop where
  lastVss : later.lastVss = capture.lastVss
  goodVss : later.fresh.goodVss = capture.fresh.goodVss
  debounceCountdown : later.debounceCountdown = capture.debounceCountdown

theorem sameVss_onInjectorOpen (capture : Capture) (now : UInt32) :
    SameVss capture (capture.onInjectorOpen now) := by
  unfold onInjectorOpen measureEngineCycle
  dsimp only
  split
  next => split <;> exact ⟨rfl, rfl, rfl⟩
  next => exact ⟨rfl, rfl, rfl⟩

theorem sameVss_onInjectorClose (capture : Capture) (now : UInt32) :
    SameVss capture (capture.onInjectorClose now) := by
  have judged : SameVss capture (capture.judgeDuration now).2 := by
    unfold judgeDuration
    split
    next => cases capture.acceptedDuration? now <;> exact ⟨rfl, rfl, rfl⟩
    next => exact ⟨rfl, rfl, rfl⟩
  exact ⟨judged.lastVss, judged.goodVss, judged.debounceCountdown⟩

theorem VssTimely.sameVss (timely : VssTimely first now drained capture) {later : Capture}
    (same : SameVss capture later) (cycles : later.raw.vssCycles = capture.raw.vssCycles) :
    VssTimely first now drained later := by
  obtain ⟨pulse, after, before, seen, total⟩ := timely
  refine ⟨pulse, after, before, fun recent => ?_, ?_⟩
  · rw [same.lastVss]
    exact seen (same.goodVss ▸ recent)
  · rw [cycles]
    exact total

theorem VssTimely.onInjectorOpen (timely : VssTimely first now drained capture)
    (ordered : now ≤ time) :
    VssTimely first time drained (capture.onInjectorOpen time.toUInt32) := by
  have raw := (onInjectorOpen_spec capture time.toUInt32).1
  exact (timely.later ordered).sameVss (sameVss_onInjectorOpen capture _) (by rw [raw])

theorem VssTimely.onInjectorClose (timely : VssTimely first now drained capture)
    (ordered : now ≤ time) :
    VssTimely first time drained (capture.onInjectorClose time.toUInt32) := by
  have cycles : (capture.onInjectorClose time.toUInt32).raw.vssCycles = capture.raw.vssCycles := by
    rw [raw_onInjectorClose]
    exact UInt64.add_zero _
  exact (timely.later ordered).sameVss (sameVss_onInjectorClose capture _) cycles

/-- A change that credits nothing and makes no edge recent. -/
structure Wanes (capture later : Capture) : Prop where
  raw : later.raw = capture.raw
  rawIdle : later.rawIdle = capture.rawIdle
  debounceCountdown : later.debounceCountdown = capture.debounceCountdown
  lastVss : later.lastVss = capture.lastVss
  thisOpening : later.thisOpening = capture.thisOpening
  engineCycle : later.engineCycle = capture.engineCycle
  goodVss : later.fresh.goodVss = true → capture.fresh.goodVss = true
  goodInjector : later.fresh.goodInjector = true → capture.fresh.goodInjector = true
  openingSeen : later.fresh.openingSeen = true → capture.fresh.openingSeen = true

namespace Wanes

theorem refl (capture : Capture) : Wanes capture capture :=
  ⟨rfl, rfl, rfl, rfl, rfl, rfl, id, id, id⟩

theorem trans {first second third : Capture} (wanes : Wanes first second)
    (further : Wanes second third) : Wanes first third where
  raw := further.raw.trans wanes.raw
  rawIdle := further.rawIdle.trans wanes.rawIdle
  debounceCountdown := further.debounceCountdown.trans wanes.debounceCountdown
  lastVss := further.lastVss.trans wanes.lastVss
  thisOpening := further.thisOpening.trans wanes.thisOpening
  engineCycle := further.engineCycle.trans wanes.engineCycle
  goodVss recent := wanes.goodVss (further.goodVss recent)
  goodInjector recent := wanes.goodInjector (further.goodInjector recent)
  openingSeen recent := wanes.openingSeen (further.openingSeen recent)

theorem setParameters (capture : Capture) (parameters : CaptureParameters) :
    Wanes capture (capture.setParameters parameters) :=
  ⟨rfl, rfl, rfl, rfl, rfl, rfl, id, nofun, nofun⟩

theorem countSystemCycles (capture : Capture) (now : UInt32) :
    Wanes capture (capture.countSystemCycles now) :=
  ⟨rfl, rfl, rfl, rfl, rfl, rfl, id, id, id⟩

theorem ageInjector (capture : Capture) : Wanes capture capture.ageInjector := by
  unfold Capture.ageInjector
  dsimp only
  split
  next =>
    split
    next => exact ⟨rfl, rfl, rfl, rfl, rfl, rfl, id, nofun, nofun⟩
    next => exact ⟨rfl, rfl, rfl, rfl, rfl, rfl, id, id, id⟩
  next => exact .refl capture

theorem ageVss (capture : Capture) : Wanes capture capture.ageVss := by
  unfold Capture.ageVss
  dsimp only
  split
  next =>
    split
    next => exact ⟨rfl, rfl, rfl, rfl, rfl, rfl, nofun, id, id⟩
    next => exact ⟨rfl, rfl, rfl, rfl, rfl, rfl, id, id, id⟩
  next => exact .refl capture

theorem ageLoop (capture : Capture) : Wanes capture capture.ageLoop := by
  unfold Capture.ageLoop
  dsimp only
  generalize (if capture.loopCountdown > 0 then capture.loopCountdown - 1 else 0) = left
  split <;> exact ⟨rfl, rfl, rfl, rfl, rfl, rfl, id, id, id⟩

theorem ageSleep (capture : Capture) : Wanes capture capture.ageSleep := by
  unfold Capture.ageSleep
  split
  next => exact ⟨rfl, rfl, rfl, rfl, rfl, rfl, id, id, id⟩
  next => split <;> exact ⟨rfl, rfl, rfl, rfl, rfl, rfl, id, id, id⟩

theorem answerWake (capture : Capture) : Wanes capture capture.answerWake := by
  unfold Capture.answerWake
  split <;> exact ⟨rfl, rfl, rfl, rfl, rfl, rfl, id, id, id⟩

end Wanes

/-- A tick does nothing to what is measured but end the debounce. -/
theorem onTick_spec (capture : Capture) (now : UInt32) :
    ∃ aged, Wanes capture aged ∧ Wanes (aged.ageDebounce now) (capture.onTick now) := by
  have timed := Wanes.countSystemCycles capture now
  refine ⟨(capture.countSystemCycles now).ageInjector.ageVss, ?_, ?_⟩
  · exact timed.trans ((Wanes.ageInjector _).trans (.ageVss _))
  · exact (Wanes.ageLoop _).trans ((Wanes.ageSleep _).trans (.answerWake _))

/-- What the debounce does: a pulse that it has held back is credited at its end. -/
theorem ageDebounce_cases (capture : Capture) (now : UInt32) :
    capture.ageDebounce now = capture ∨
      capture.debounceCountdown ≠ 0 ∧
        ((∃ left, left ≠ 0 ∧
          capture.ageDebounce now = { capture with debounceCountdown := left }) ∨
        capture.ageDebounce now =
          ({ capture with debounceCountdown := 0 } : Capture).creditVss now) := by
  unfold ageDebounce
  dsimp only
  split
  next counting =>
    have held : capture.debounceCountdown ≠ 0 := by
      intro zero
      rw [zero] at counting
      exact absurd counting (by decide)
    split
    next ends => exact .inr ⟨held, .inr (by rw [ends])⟩
    next goesOn => exact .inr ⟨held, .inl ⟨_, goesOn, rfl⟩⟩
  next => exact .inl rfl

theorem VssTimely.wanes (timely : VssTimely first now drained capture) {later : Capture}
    (wanes : Wanes capture later) : VssTimely first now drained later := by
  obtain ⟨pulse, after, before, seen, total⟩ := timely
  refine ⟨pulse, after, before, fun recent => ?_, ?_⟩
  · rw [wanes.lastVss]
    exact seen (wanes.goodVss recent)
  · rw [wanes.raw]
    exact total

theorem InjectorTimely.wanes (timely : InjectorTimely first now drained drainedOpen capture)
    {later : Capture} (wanes : Wanes capture later) :
    InjectorTimely first now drained drainedOpen later := by
  have openBefore := timely.open_le (Nat.le_refl now)
  obtain ⟨opening, after, before, seen, total, openTotal⟩ := timely
  refine ⟨opening, after, before, fun recent => ?_, ?_, ?_⟩
  · rw [wanes.thisOpening]
    exact seen (recent.imp wanes.goodInjector wanes.openingSeen)
  · rw [wanes.raw, wanes.engineCycle]
    exact total
  · rw [wanes.raw]
    split
    next stillSeen => rwa [if_pos (wanes.openingSeen stillSeen)] at openTotal
    next => exact openBefore

/-- What the debounce makes of an edge. -/
theorem onVssEdge_cases (capture : Capture) (now : UInt32) :
    capture.onVssEdge now = capture ∨ capture.onVssEdge now = capture.creditVss now ∨
      capture.debounceCountdown = 0 ∧ ∃ pause, pause ≠ 0 ∧
        capture.onVssEdge now = { capture with debounceCountdown := pause } := by
  unfold onVssEdge
  split
  next => exact .inr (.inl rfl)
  next pauses =>
    split
    next settled => exact .inr (.inr ⟨settled, _, pauses, rfl⟩)
    next => exact .inl rfl

/-- What does not depend on the debounce, and is kept where freshness lapses and where a
pulse is credited, is kept by road-speed edges and ticks. -/
structure KeptByPulses (now : UInt32) (Holds : Capture → Prop) : Prop where
  wanes : ∀ {capture later}, Holds capture → Wanes capture later → Holds later
  debounces : ∀ {capture : Capture} countdown, Holds capture →
    Holds { capture with debounceCountdown := countdown }
  credits : ∀ {capture}, Holds capture → Holds (capture.creditVss now)

theorem KeptByPulses.onVssEdge {now : UInt32} {Holds : Capture → Prop}
    (kept : KeptByPulses now Holds) (holds : Holds capture) : Holds (capture.onVssEdge now) := by
  rcases onVssEdge_cases capture now with ignored | atOnce | ⟨_, pause, _, held⟩
  · rw [ignored]
    exact holds
  · rw [atOnce]
    exact kept.credits holds
  · rw [held]
    exact kept.debounces pause holds

theorem KeptByPulses.onTick {now : UInt32} {Holds : Capture → Prop}
    (kept : KeptByPulses now Holds) (holds : Holds capture) : Holds (capture.onTick now) := by
  obtain ⟨aged, before, after⟩ := onTick_spec capture now
  have agedHolds := kept.wanes holds before
  refine kept.wanes ?_ after
  rcases ageDebounce_cases aged now with same | ⟨_, ⟨left, _, counted⟩ | ends⟩
  · rw [same]
    exact agedHolds
  · rw [counted]
    exact kept.debounces left agedHolds
  · rw [ends]
    exact kept.credits (kept.debounces 0 agedHolds)

theorem VssTimely.keptByPulses (first time drained : Nat) :
    KeptByPulses time.toUInt32 (VssTimely first time drained) where
  wanes timely wanes := timely.wanes wanes
  debounces _ timely := timely
  credits timely := timely.creditVss (Nat.le_refl time)

theorem InjectorTimely.keptByPulses (first time drained drainedOpen : Nat) :
    KeptByPulses time.toUInt32 (InjectorTimely first time drained drainedOpen) where
  wanes timely wanes := timely.wanes wanes
  debounces _ timely := timely
  credits timely := timely

theorem VssTimely.drain (timely : VssTimely first now drained capture) :
    VssTimely first now (drained + capture.raw.vssCycles.toNat) capture.drain.2 := by
  obtain ⟨pulse, after, before, seen, total⟩ := timely
  exact ⟨pulse, after, before, seen, total⟩

theorem InjectorTimely.drain (timely : InjectorTimely first now drained drainedOpen capture) :
    InjectorTimely first now (drained + capture.raw.injectorCycles.toNat)
      (drainedOpen + capture.raw.injectorOpenCycles.toNat) capture.drain.2 := by
  obtain ⟨opening, after, before, seen, total, openTotal⟩ := timely
  exact ⟨opening, after, before, seen, total, openTotal⟩

end TripComputer.Capture
