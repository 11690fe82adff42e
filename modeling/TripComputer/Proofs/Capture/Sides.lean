import Mathlib.Tactic.SplitIfs
import TripComputer.Proofs.Capture.Parameters
import TripComputer.Proofs.Capture.Tally

/-!
# The two sides of pulse capture

What injector events are measured with is left alone by road-speed edges, and the other way round.
Only the tick ages both.
-/

namespace TripComputer.Capture

/-- What injector events are measured and judged with. -/
structure InjectorSide where
  parameters : CaptureParameters
  goodInjector : Bool
  openingSeen : Bool
  thisOpening : UInt32
  engineCycle : UInt32
  openCeiling : UInt32
  countdown : UInt32

/-- What road-speed pulses are measured with. -/
structure VssSide where
  parameters : CaptureParameters
  goodVss : Bool
  lastVss : UInt32
  countdown : UInt32
  debounceCountdown : UInt32

def injectorSide (capture : Capture) : InjectorSide where
  parameters := capture.parameters
  goodInjector := capture.fresh.goodInjector
  openingSeen := capture.fresh.openingSeen
  thisOpening := capture.thisOpening
  engineCycle := capture.engineCycle
  openCeiling := capture.openCeiling
  countdown := capture.injectorCountdown

def vssSide (capture : Capture) : VssSide where
  parameters := capture.parameters
  goodVss := capture.fresh.goodVss
  lastVss := capture.lastVss
  countdown := capture.vssCountdown
  debounceCountdown := capture.debounceCountdown

variable (capture : Capture) (now : UInt32)

theorem injectorSide_countdown : capture.injectorSide.countdown = capture.injectorCountdown := rfl

section Scheduling

theorem sides_ageLoop : capture.ageLoop.injectorSide = capture.injectorSide ∧
    capture.ageLoop.vssSide = capture.vssSide := by
  unfold ageLoop
  dsimp only
  generalize (if capture.loopCountdown > 0 then capture.loopCountdown - 1 else 0) = left
  split <;> exact ⟨rfl, rfl⟩

theorem sides_ageSleep : capture.ageSleep.injectorSide = capture.injectorSide ∧
    capture.ageSleep.vssSide = capture.vssSide := by
  unfold ageSleep
  split_ifs <;> exact ⟨rfl, rfl⟩

theorem sides_answerWake : capture.answerWake.injectorSide = capture.injectorSide ∧
    capture.answerWake.vssSide = capture.vssSide := by
  unfold answerWake
  split <;> exact ⟨rfl, rfl⟩

/-- Scheduling leaves both sides alone. -/
theorem sides_schedule :
    capture.ageLoop.ageSleep.answerWake.injectorSide = capture.injectorSide ∧
      capture.ageLoop.ageSleep.answerWake.vssSide = capture.vssSide := by
  obtain ⟨loopInjector, loopVss⟩ := sides_ageLoop capture
  obtain ⟨sleepInjector, sleepVss⟩ := sides_ageSleep capture.ageLoop
  obtain ⟨wakeInjector, wakeVss⟩ := sides_answerWake capture.ageLoop.ageSleep
  exact ⟨wakeInjector.trans (sleepInjector.trans loopInjector),
    wakeVss.trans (sleepVss.trans loopVss)⟩

end Scheduling

theorem injectorSide_onVssEdge : (capture.onVssEdge now).injectorSide = capture.injectorSide := by
  unfold onVssEdge
  split_ifs <;> rfl

theorem injectorSide_ageVss : capture.ageVss.injectorSide = capture.injectorSide := by
  unfold ageVss
  dsimp only
  split_ifs <;> rfl

theorem injectorSide_ageDebounce :
    (capture.ageDebounce now).injectorSide = capture.injectorSide := by
  unfold ageDebounce
  dsimp only
  split_ifs <;> rfl

theorem injectorSide_countSystemCycles :
    (capture.countSystemCycles now).ageInjector.injectorSide =
      capture.ageInjector.injectorSide := by
  by_cases counting : capture.injectorCountdown > 0
  · simp only [ageInjector, countSystemCycles, counting, if_true]
    rfl
  · simp only [ageInjector, countSystemCycles, counting, if_false]
    rfl

/-- A tick ages the injector side and does nothing else to it. -/
theorem injectorSide_onTick :
    (capture.onTick now).injectorSide = capture.ageInjector.injectorSide := by
  rw [onTick, (sides_schedule _).1, injectorSide_ageDebounce, injectorSide_ageVss,
    injectorSide_countSystemCycles]

theorem vssSide_onInjectorOpen : (capture.onInjectorOpen now).vssSide = capture.vssSide := by
  unfold onInjectorOpen measureEngineCycle
  dsimp only
  split_ifs <;> rfl

theorem vssSide_onInjectorClose : (capture.onInjectorClose now).vssSide = capture.vssSide := by
  unfold onInjectorClose judgeDuration
  split_ifs
  · cases capture.acceptedDuration? now <;> rfl
  · rfl

theorem vssSide_ageInjector : capture.ageInjector.vssSide = capture.vssSide := by
  unfold ageInjector
  dsimp only
  split_ifs <;> rfl

section Aging

variable {count : UInt32}

theorem toNat_pred (positive : count > 0) : (count - 1).toNat = count.toNat - 1 := by
  have one : 1 ≤ count.toNat := UInt32.lt_iff_toNat_lt.mp positive
  exact UInt32.toNat_sub_of_le count 1 (UInt32.le_iff_toNat_le.mpr one)

theorem pred_eq_zero_iff (positive : count > 0) : count - 1 = 0 ↔ count.toNat = 1 := by
  have some : 0 < count.toNat := UInt32.lt_iff_toNat_lt.mp positive
  rw [← UInt32.toNat_inj, toNat_pred positive, UInt32.toNat_zero]
  omega

theorem toNat_eq_zero (none : ¬count > 0) : count.toNat = 0 :=
  Nat.eq_zero_of_not_pos fun positive => none (UInt32.lt_iff_toNat_lt.mpr positive)

/-- The injector edges stay recent until the tick that ends their countdown. -/
theorem ageInjector_spec :
    capture.ageInjector.injectorCountdown.toNat = capture.injectorCountdown.toNat - 1 ∧
      capture.ageInjector.fresh =
        if capture.injectorCountdown.toNat = 1 then
          { capture.fresh with goodInjector := false, openingSeen := false }
        else capture.fresh := by
  unfold ageInjector
  dsimp only
  by_cases counting : capture.injectorCountdown > 0
  · rw [if_pos counting]
    exact ⟨toNat_pred counting, if_congr (pred_eq_zero_iff counting) rfl rfl⟩
  · have zero := toNat_eq_zero counting
    rw [if_neg counting, zero]
    exact ⟨rfl, rfl⟩

/-- A pulse stays recent until the tick that ends its countdown. -/
theorem ageVss_spec :
    capture.ageVss.vssCountdown.toNat = capture.vssCountdown.toNat - 1 ∧
      capture.ageVss.fresh =
        if capture.vssCountdown.toNat = 1 then { capture.fresh with goodVss := false }
        else capture.fresh := by
  unfold ageVss
  dsimp only
  by_cases counting : capture.vssCountdown > 0
  · rw [if_pos counting]
    exact ⟨toNat_pred counting, if_congr (pred_eq_zero_iff counting) rfl rfl⟩
  · have zero := toNat_eq_zero counting
    rw [if_neg counting, zero]
    exact ⟨rfl, rfl⟩

end Aging

theorem injectorSide_act {action : Action} (noOpening : action.isInjectorOpen = false)
    (noClosing : action.isInjectorClose = false) (noTick : action.isTick = false)
    (fixed : action.isInstall = false) :
    (capture.act action).injectorSide = capture.injectorSide := by
  cases action with
  | event event =>
      cases event with
      | wakeRequest => rfl
      | interrupt interrupt now =>
          cases interrupt with
          | timerOverflow => cases noTick
          | vssEdge => exact injectorSide_onVssEdge capture now
          | injectorOpen => cases noOpening
          | injectorClose => cases noClosing
          | analogSample channel value => rfl
  | install parameters => cases fixed
  | drain => rfl
  | takeLoopDue => rfl
  | takeEvents => rfl

/-- Whether an action opens or closes an injector, or changes what it is measured with. -/
def Action.touchesInjector (action : Action) : Bool :=
  action.isInjectorOpen || action.isInjectorClose || action.isInstall

theorem Action.unclosed {action : Action} (untouched : action.touchesInjector = false) :
    action.isInjectorClose = false := by
  rw [touchesInjector, Bool.or_eq_false_iff, Bool.or_eq_false_iff] at untouched
  exact untouched.1.2

theorem injectorSide_ageInjector (unlapsed : capture.injectorCountdown.toNat ≠ 1) :
    ∃ left : UInt32, left.toNat = capture.injectorCountdown.toNat - 1 ∧
      capture.ageInjector.injectorSide = { capture.injectorSide with countdown := left } := by
  unfold ageInjector
  dsimp only
  by_cases counting : capture.injectorCountdown > 0
  · have goesOn : ¬capture.injectorCountdown - 1 = 0 :=
      fun zero => unlapsed ((pred_eq_zero_iff counting).mp zero)
    rw [if_pos counting, if_neg goesOn]
    exact ⟨_, toNat_pred counting, rfl⟩
  · have zero := toNat_eq_zero counting
    rw [if_neg counting, zero]
    exact ⟨_, zero, rfl⟩

/-- Where no tick ends the countdown, the ticks of a run take from it, and the rest of the run
leaves the injector side alone. -/
theorem injectorSide_run {actions : List Action}
    (untouched : ∀ action ∈ actions, action.touchesInjector = false)
    (unlapsed : actions.countP Action.isTick < capture.injectorCountdown.toNat ∨
      capture.injectorCountdown.toNat = 0) :
    ∃ left : UInt32,
      left.toNat = capture.injectorCountdown.toNat - actions.countP Action.isTick ∧
      (actions.foldl act capture).injectorSide =
        { capture.injectorSide with countdown := left } := by
  induction actions generalizing capture with
  | nil => exact ⟨_, rfl, rfl⟩
  | cons action rest induction =>
      obtain ⟨first, others⟩ := List.forall_mem_cons.mp untouched
      rw [List.countP_cons] at unlapsed ⊢
      have step : ∃ left : UInt32,
          left.toNat = capture.injectorCountdown.toNat - (if action.isTick then 1 else 0) ∧
          (capture.act action).injectorSide = { capture.injectorSide with countdown := left } := by
        cases action using Action.injectorCases with
        | opening now => cases first
        | closing now => cases first
        | install parameters => cases first
        | tick now =>
            have more : (Action.tick now).isTick = true := rfl
            rw [more, if_pos rfl] at unlapsed ⊢
            rw [act_tick, injectorSide_onTick]
            exact capture.injectorSide_ageInjector (by omega)
        | other action unopened unclosed noTick fixed =>
            rw [injectorSide_act capture unopened unclosed noTick fixed, noTick]
            exact ⟨_, rfl, rfl⟩
      obtain ⟨between, counted, acted⟩ := step
      have now : (capture.act action).injectorCountdown = between := by
        rw [← injectorSide_countdown, acted]
      obtain ⟨left, total, ran⟩ := induction (capture.act action) others (by rw [now]; omega)
      refine ⟨left, ?_, ?_⟩
      · rw [now] at total
        omega
      · rw [List.foldl_cons, ran, acted]

theorem vssSide_act {action : Action} (noEdge : action.isVssEdge = false)
    (noTick : action.isTick = false) (fixed : action.isInstall = false) :
    (capture.act action).vssSide = capture.vssSide := by
  cases action with
  | event event =>
      cases event with
      | wakeRequest => rfl
      | interrupt interrupt now =>
          cases interrupt with
          | timerOverflow => cases noTick
          | vssEdge => cases noEdge
          | injectorOpen => exact vssSide_onInjectorOpen capture now
          | injectorClose => exact vssSide_onInjectorClose capture now
          | analogSample channel value => rfl
  | install parameters => cases fixed
  | drain => rfl
  | takeLoopDue => rfl
  | takeEvents => rfl

theorem parameters_act {action : Action} (fixed : action.isInstall = false) :
    (capture.act action).parameters = capture.parameters := by
  cases action with
  | event event => exact parameters_handle capture event
  | install parameters => cases fixed
  | drain => rfl
  | takeLoopDue => rfl
  | takeEvents => rfl

theorem parameters_run {actions : List Action}
    (fixed : ∀ action ∈ actions, action.isInstall = false) :
    (actions.foldl act capture).parameters = capture.parameters := by
  induction actions generalizing capture with
  | nil => rfl
  | cons action rest induction =>
      obtain ⟨first, others⟩ := List.forall_mem_cons.mp fixed
      exact (induction (capture.act action) others).trans (parameters_act capture first)

end TripComputer.Capture
