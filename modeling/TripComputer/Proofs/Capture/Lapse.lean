import TripComputer.Proofs.Capture.IdleShare
import TripComputer.Proofs.Capture.Sides

/-!
# After the injector freshness has lapsed

A lapse makes the last opening useless: no closing edge is judged against it, and the next opening
does not end an engine cycle.  The lapse leaves the length that the last opening may have measured,
and the first closing edge after it credits that length.  Where none is pending, nothing is
credited.
-/

namespace TripComputer.Capture

/-- The next opening ends no engine cycle; the length of an earlier one may be pending. -/
structure Unmeasured (pending : UInt32) (side : InjectorSide) : Prop where
  goodInjector : side.goodInjector = false
  engineCycle : side.engineCycle = pending

/-- The last opening has lapsed. -/
structure Lapsed (pending : UInt32) (side : InjectorSide) : Prop
    extends Unmeasured pending side where
  openingSeen : side.openingSeen = false

variable {pending : UInt32} {capture later : Capture}

theorem Unmeasured.wanes (unmeasured : Unmeasured pending capture.injectorSide)
    (wanes : Wanes capture later) : Unmeasured pending later.injectorSide where
  goodInjector := Bool.eq_false_iff.mpr fun good =>
    Bool.eq_false_iff.mp unmeasured.goodInjector (wanes.goodInjector good)
  engineCycle := wanes.engineCycle.trans unmeasured.engineCycle

theorem Lapsed.wanes (lapsed : Lapsed pending capture.injectorSide)
    (wanes : Wanes capture later) : Lapsed pending later.injectorSide where
  toUnmeasured := lapsed.toUnmeasured.wanes wanes
  openingSeen := Bool.eq_false_iff.mpr fun seen =>
    Bool.eq_false_iff.mp lapsed.openingSeen (wanes.openingSeen seen)

/-- The tick that ends the countdown. -/
theorem lapsed_onTick {now : UInt32} (counting : capture.injectorCountdown ≠ 0)
    (ends : (capture.onTick now).injectorCountdown = 0) :
    Lapsed capture.engineCycle (capture.onTick now).injectorSide := by
  rw [← injectorSide_countdown, injectorSide_onTick] at ends
  have ended : capture.ageInjector.injectorCountdown.toNat = 0 := congrArg UInt32.toNat ends
  have started : capture.injectorCountdown.toNat ≠ 0 :=
    fun none => counting (UInt32.toNat_inj.mp none)
  obtain ⟨counted, fresh⟩ := ageInjector_spec capture
  have one : capture.injectorCountdown.toNat = 1 := by omega
  rw [if_pos one] at fresh
  rw [injectorSide_onTick]
  exact
    { goodInjector := congrArg Freshness.goodInjector fresh
      engineCycle := (Wanes.ageInjector capture).engineCycle
      openingSeen := congrArg Freshness.openingSeen fresh }

section Edges

variable (now : UInt32)

theorem Lapsed.judgeDuration (lapsed : Lapsed pending capture.injectorSide) :
    capture.judgeDuration now = (0, capture) :=
  if_neg (Bool.eq_false_iff.mp lapsed.openingSeen)

/-- A closing edge that comes late takes what is pending, and no open time. -/
theorem Lapsed.onInjectorClose (lapsed : Lapsed pending capture.injectorSide) :
    Lapsed 0 (capture.onInjectorClose now).injectorSide := by
  unfold Capture.onInjectorClose
  rw [lapsed.judgeDuration]
  exact ⟨⟨lapsed.goodInjector, rfl⟩, lapsed.openingSeen⟩

theorem Unmeasured.onInjectorOpen (unmeasured : Unmeasured pending capture.injectorSide) :
    Unmeasured pending (capture.onInjectorOpen now).injectorSide := by
  have good : ¬capture.fresh.goodInjector = true := Bool.eq_false_iff.mp unmeasured.goodInjector
  unfold Capture.onInjectorOpen measureEngineCycle
  dsimp only
  rw [if_neg good]
  exact ⟨unmeasured.goodInjector, unmeasured.engineCycle⟩

/-- Where no length is pending, a closing edge that comes late credits nothing. -/
theorem Lapsed.uncredited (lapsed : Lapsed 0 capture.injectorSide) :
    (capture.onInjectorClose now).raw = capture.raw ∧
      (capture.onInjectorClose now).rawIdle = capture.rawIdle := by
  have opened : (capture.judgeDuration now).1 = 0 := congrArg Prod.fst (lapsed.judgeDuration now)
  have cycle : capture.engineCycle = 0 := lapsed.engineCycle
  have nothing : Trip.injectorCredit 0 0 = 0 := rfl
  constructor
  · rw [raw_onInjectorClose, opened, cycle, nothing, add_zero]
  · rcases rawIdle_onInjectorClose capture now with kept | credited
    · exact kept
    · rw [credited, opened, cycle, nothing, add_zero]

/-- Where no length is pending, a closing edge credits none. -/
theorem Unmeasured.cycles_uncredited (unmeasured : Unmeasured 0 capture.injectorSide) :
    (capture.onInjectorClose now).raw.injectorCycles = capture.raw.injectorCycles ∧
      (capture.onInjectorClose now).rawIdle.injectorCycles = capture.rawIdle.injectorCycles := by
  have cycle : capture.engineCycle = 0 := unmeasured.engineCycle
  constructor
  · rw [raw_onInjectorClose, cycle]
    exact UInt64.add_zero _
  · rcases rawIdle_onInjectorClose capture now with kept | credited
    · rw [kept]
    · rw [credited, cycle]
      exact UInt64.add_zero _

end Edges

/-- Until the next opening, nothing but a closing edge takes what is pending. -/
theorem Lapsed.act (lapsed : Lapsed pending capture.injectorSide) {action : Action}
    (unopened : action.isInjectorOpen = false) :
    Lapsed (if action.isInjectorClose then 0 else pending) (capture.act action).injectorSide := by
  cases action using Action.injectorCases with
  | opening now => cases unopened
  | closing now =>
      rw [act_injectorClose]
      exact lapsed.onInjectorClose now
  | tick now =>
      rw [act_tick, injectorSide_onTick]
      exact lapsed.wanes (.ageInjector capture)
  | install parameters => exact lapsed.wanes (.setParameters capture parameters)
  | other action _ unclosed noTick fixed =>
      rw [injectorSide_act capture unopened unclosed noTick fixed, unclosed]
      exact lapsed

/-- Until the next closing, openings leave what is pending. -/
theorem Unmeasured.act (unmeasured : Unmeasured pending capture.injectorSide) {action : Action}
    (unclosed : action.isInjectorClose = false) :
    Unmeasured pending (capture.act action).injectorSide := by
  cases action using Action.injectorCases with
  | opening now =>
      rw [act_injectorOpen]
      exact unmeasured.onInjectorOpen now
  | closing now => cases unclosed
  | tick now =>
      rw [act_tick, injectorSide_onTick]
      exact unmeasured.wanes (.ageInjector capture)
  | install parameters => exact unmeasured.wanes (.setParameters capture parameters)
  | other action unopened _ noTick fixed =>
      rw [injectorSide_act capture unopened unclosed noTick fixed]
      exact unmeasured

theorem Lapsed.run (lapsed : Lapsed pending capture.injectorSide) {actions : List Action}
    (unopened : ∀ action ∈ actions, action.isInjectorOpen = false) :
    Lapsed (if actions.any Action.isInjectorClose then 0 else pending)
      (actions.foldl Capture.act capture).injectorSide := by
  induction actions generalizing pending capture with
  | nil => exact lapsed
  | cons action rest induction =>
      obtain ⟨first, others⟩ := List.forall_mem_cons.mp unopened
      have left := induction (lapsed.act first) others
      rw [List.any_cons]
      cases closing : action.isInjectorClose with
      | true =>
          rw [closing, if_pos rfl, ite_self] at left
          exact left
      | false =>
          rw [closing, if_neg Bool.false_ne_true] at left
          exact left

theorem Unmeasured.run (unmeasured : Unmeasured pending capture.injectorSide)
    {actions : List Action} (unclosed : ∀ action ∈ actions, action.isInjectorClose = false) :
    Unmeasured pending (actions.foldl Capture.act capture).injectorSide := by
  induction actions generalizing capture with
  | nil => exact unmeasured
  | cons action rest induction =>
      obtain ⟨first, others⟩ := List.forall_mem_cons.mp unclosed
      exact induction (unmeasured.act first) others

/-- Once the injector freshness has lapsed, and the length that was pending, if any, has been
taken by a late closing edge, further closing edges credit nothing before the next opening, and
the first one after it credits no engine cycle. -/
theorem lapsed_cycle_uncredited (capture : Capture) (now : UInt32) (meanwhile : List Action)
    (counting : capture.injectorCountdown ≠ 0)
    (ends : (capture.onTick now).injectorCountdown = 0)
    (unopened : ∀ action ∈ meanwhile, action.isInjectorOpen = false)
    (taken : capture.engineCycle = 0 ∨ ∃ action ∈ meanwhile, action.isInjectorClose = true) :
    let late := meanwhile.foldl Capture.act (capture.onTick now)
    (∀ closing, (late.onInjectorClose closing).raw = late.raw ∧
      (late.onInjectorClose closing).rawIdle = late.rawIdle) ∧
    ∀ opening (missed : List Action) closing,
      (∀ action ∈ missed, action.isInjectorClose = false) →
      let reopened := missed.foldl Capture.act (late.onInjectorOpen opening)
      (reopened.onInjectorClose closing).raw.injectorCycles = reopened.raw.injectorCycles ∧
        (reopened.onInjectorClose closing).rawIdle.injectorCycles =
          reopened.rawIdle.injectorCycles := by
  intro late
  have lapsed : Lapsed 0 late.injectorSide := by
    have run := (lapsed_onTick counting ends).run unopened
    have none : (if meanwhile.any Action.isInjectorClose then 0 else capture.engineCycle) = 0 := by
      rcases taken with unmeasured | closing
      · rw [unmeasured, ite_self]
      · exact if_pos (List.any_eq_true.mpr closing)
    rwa [none] at run
  refine ⟨fun closing => lapsed.uncredited closing, ?_⟩
  intro opening missed closing unclosed reopened
  have unmeasured : Unmeasured 0 reopened.injectorSide :=
    (lapsed.toUnmeasured.onInjectorOpen opening).run unclosed
  exact unmeasured.cycles_uncredited closing

/-- Parameters under which injector edges stay recent for one tick. -/
def recentForOneTick : CaptureParameters :=
  { CaptureParameters.inert with
    settleCycles := 172
    minGoodCycles := 375000
    maxGoodInjectorCycles := 299927
    dutyCeiling := 819
    injectorResetTicks := 1 }

/-- The second opening ends a cycle, its closing takes the length, and then the tick comes. -/
theorem completed_cycle_uncredited :
    let actions : List Action :=
      [.injectorOpen 0, .injectorClose 1000, .injectorOpen 20000, .injectorClose 20500]
    let capture := actions.foldl Capture.act (.new recentForOneTick)
    let late := capture.onTick 20756
    capture.injectorCountdown ≠ 0 ∧ late.injectorCountdown = 0 ∧ capture.engineCycle = 0 ∧
      (late.onInjectorClose 21000).raw = late.raw ∧
      ((late.onInjectorOpen 30000).onInjectorClose 30500).raw.injectorCycles =
        late.raw.injectorCycles := by
  intro actions capture
  have counting : capture.injectorCountdown ≠ 0 := by decide +kernel
  have ends : (capture.onTick 20756).injectorCountdown = 0 := by decide +kernel
  have cycle : capture.engineCycle = 0 := by decide +kernel
  obtain ⟨closings, reopened⟩ :=
    lapsed_cycle_uncredited capture 20756 [] counting ends nofun (.inl cycle)
  rw [List.foldl_nil] at closings reopened
  generalize capture.onTick 20756 = late at ends closings reopened ⊢
  have kept : (late.onInjectorOpen 30000).raw = late.raw := (onInjectorOpen_spec late 30000).1
  obtain ⟨raw, _⟩ := reopened 30000 [] 30500 nofun
  exact ⟨counting, ends, cycle, (closings 21000).1, raw.trans (congrArg Trip.injectorCycles kept)⟩

/-- The tick comes between the second opening and its closing: the length is still pending, and
the closing credits it, or the next one does. -/
theorem pending_cycle_credited :
    let actions : List Action := [.injectorOpen 0, .injectorClose 1000, .injectorOpen 20000]
    let capture := actions.foldl Capture.act (.new recentForOneTick)
    let late := capture.onTick 20256
    capture.injectorCountdown ≠ 0 ∧ late.injectorCountdown = 0 ∧ late.raw.injectorCycles = 0 ∧
      (late.onInjectorClose 21000).raw.injectorCycles = 20000 ∧
      ((late.onInjectorOpen 30000).onInjectorClose 30500).raw.injectorCycles = 20000 := by
  decide +kernel

end TripComputer.Capture
