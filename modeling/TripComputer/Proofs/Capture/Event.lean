import TripComputer.Interrupt
import TripComputer.Proofs.Trip.Group

/-!
# Events of pulse capture

What the main loop takes from the capture state does not come back to it: a handler credits
the same whatever the raw trips hold, and whichever scheduler flags are set.  So counts that
are missing from the raw trips are missing by the same amount after any events.
-/

namespace TripComputer.Capture

/-- What reaches the capture state from outside the main loop. -/
inductive Event where
  | interrupt (interrupt : Interrupt) (now : UInt32)
  | wakeRequest
deriving DecidableEq, Repr

/-- Handles an interrupt at a time. -/
def handleInterrupt (capture : Capture) (now : UInt32) : Interrupt → Capture
  | .timerOverflow => capture.onTick now
  | .vssEdge => capture.onVssEdge now
  | .injectorOpen => capture.onInjectorOpen now
  | .injectorClose => capture.onInjectorClose now
  | .analogSample channel value => capture.setAnalog channel value

def handle (capture : Capture) : Event → Capture
  | .interrupt interrupt now => capture.handleInterrupt now interrupt
  | .wakeRequest => capture.requestWake

/-- The front end does this and no more to the capture state. -/
theorem frontEnd_handle (frontEnd : FrontEnd) (interrupt : Interrupt) :
    (frontEnd.handle interrupt).capture =
      frontEnd.capture.handleInterrupt (frontEnd.handle interrupt).clock.now interrupt := by
  cases interrupt <;> simp only [FrontEnd.handle, handleInterrupt]

/-- The state with more in the raw trips, and with other scheduler flags. -/
def adding (capture : Capture) (raw rawIdle : Trip) (loopDue : Bool) (events : TickEvents) :
    Capture :=
  { capture with
    raw := capture.raw + raw
    rawIdle := capture.rawIdle + rawIdle
    loopDue := loopDue
    events := events }

variable (capture : Capture) (raw rawIdle : Trip) (loopDue : Bool) (events : TickEvents)

theorem creditVss_adding (now : UInt32) :
    (capture.adding raw rawIdle loopDue events).creditVss now =
      (capture.creditVss now).adding raw rawIdle loopDue events := by
  by_cases idle : (capture.parameters.trackIdle && !capture.fresh.goodInjector) = true
  · simp only [creditVss, adding, idle, if_true, Trip.creditVss_eq_add, add_right_comm]
    rfl
  · simp only [creditVss, adding, idle, if_false, Bool.false_eq_true, Trip.creditVss_eq_add,
      add_right_comm]
    rfl

theorem onVssEdge_adding (now : UInt32) :
    (capture.adding raw rawIdle loopDue events).onVssEdge now =
      (capture.onVssEdge now).adding raw rawIdle loopDue events := by
  have credited := creditVss_adding capture raw rawIdle loopDue events now
  by_cases atOnce : capture.parameters.vssPauseTicks = 0
  · rw [onVssEdge, onVssEdge, if_pos atOnce, if_pos (by exact atOnce), credited]
  · rw [onVssEdge, onVssEdge, if_neg atOnce, if_neg (by exact atOnce)]
    by_cases settled : capture.debounceCountdown = 0
    · rw [if_pos settled, if_pos (by exact settled)]
      rfl
    · rw [if_neg settled, if_neg (by exact settled)]

theorem measureEngineCycle_adding (now : UInt32) :
    (capture.adding raw rawIdle loopDue events).measureEngineCycle now =
      (capture.measureEngineCycle now).adding raw rawIdle loopDue events := by
  by_cases recent : capture.fresh.goodInjector = true
  · by_cases running : Clock.interval capture.lastOpening now < capture.parameters.minGoodCycles
    · simp only [measureEngineCycle, adding, recent, running, if_true]
    · simp only [measureEngineCycle, adding, recent, running, if_true, if_false]
  · simp only [measureEngineCycle, adding, recent, Bool.false_eq_true, if_false]

theorem onInjectorOpen_adding (now : UInt32) :
    (capture.adding raw rawIdle loopDue events).onInjectorOpen now =
      (capture.onInjectorOpen now).adding raw rawIdle loopDue events := by
  let stamped : Capture := { capture with lastOpening := capture.thisOpening, thisOpening := now }
  have measured := measureEngineCycle_adding stamped raw rawIdle loopDue events now
  change (let measured := (stamped.adding raw rawIdle loopDue events).measureEngineCycle now
    { measured with
      openCeiling :=
        if measured.fresh.goodInjector then measured.openCeiling
        else measured.parameters.maxGoodInjectorCycles
      fresh := { measured.fresh with openingSeen := true }
      injectorCountdown := measured.parameters.injectorResetTicks }) = _
  rw [measured]
  rfl

theorem judgeDuration_adding (now : UInt32) :
    (capture.adding raw rawIdle loopDue events).judgeDuration now =
      ((capture.judgeDuration now).1,
        (capture.judgeDuration now).2.adding raw rawIdle loopDue events) := by
  have sameDuration : (capture.adding raw rawIdle loopDue events).acceptedDuration? now =
      capture.acceptedDuration? now := rfl
  unfold judgeDuration
  rw [sameDuration]
  by_cases seen : capture.fresh.openingSeen = true
  · cases accepted : capture.acceptedDuration? now <;> simp only [adding, seen, if_true]
  · simp only [adding, seen, Bool.false_eq_true, if_false]

theorem onInjectorClose_adding (now : UInt32) :
    (capture.adding raw rawIdle loopDue events).onInjectorClose now =
      (capture.onInjectorClose now).adding raw rawIdle loopDue events := by
  unfold onInjectorClose
  rw [judgeDuration_adding]
  generalize capture.judgeDuration now = judgement
  obtain ⟨opened, judged⟩ := judgement
  by_cases idle : (capture.parameters.trackIdle && !capture.fresh.goodVss) = true
  · simp only [adding, idle, if_true, Trip.creditInjector_eq_add, add_right_comm]
  · simp only [adding, idle, if_false, Bool.false_eq_true, Trip.creditInjector_eq_add,
      add_right_comm]

theorem countSystemCycles_adding (now : UInt32) :
    (capture.adding raw rawIdle loopDue events).countSystemCycles now =
      (capture.countSystemCycles now).adding raw rawIdle loopDue events := rfl

theorem ageInjector_adding :
    (capture.adding raw rawIdle loopDue events).ageInjector =
      capture.ageInjector.adding raw rawIdle loopDue events := by
  by_cases counting : capture.injectorCountdown > 0
  · simp only [ageInjector, adding, counting, if_true]
    rfl
  · simp only [ageInjector, adding, counting, if_false]

theorem ageVss_adding :
    (capture.adding raw rawIdle loopDue events).ageVss =
      capture.ageVss.adding raw rawIdle loopDue events := by
  by_cases counting : capture.vssCountdown > 0
  · simp only [ageVss, adding, counting, if_true]
    rfl
  · simp only [ageVss, adding, counting, if_false]

theorem ageDebounce_adding (now : UInt32) :
    (capture.adding raw rawIdle loopDue events).ageDebounce now =
      (capture.ageDebounce now).adding raw rawIdle loopDue events := by
  have credited := creditVss_adding
    { capture with debounceCountdown := capture.debounceCountdown - 1 } raw rawIdle loopDue
    events now
  by_cases counting : capture.debounceCountdown > 0
  · by_cases ends : capture.debounceCountdown - 1 = 0
    · simp only [adding] at credited
      simp only [ageDebounce, adding, counting, ends, if_true] at credited ⊢
      exact credited
    · simp only [ageDebounce, adding, counting, ends, if_true, if_false]
  · simp only [ageDebounce, adding, counting, if_false]

/-- The loop comes due in either state, or keeps its flag in both. -/
theorem ageLoop_adding :
    ∃ due, (capture.adding raw rawIdle loopDue events).ageLoop =
      capture.ageLoop.adding raw rawIdle due events := by
  have same : (capture.adding raw rawIdle loopDue events).loopCountdown =
      capture.loopCountdown := rfl
  unfold ageLoop
  dsimp only
  rw [same]
  by_cases comesDue : (if capture.loopCountdown > 0 then capture.loopCountdown - 1 else 0) = 0
  · exact ⟨true, by rw [if_pos comesDue, if_pos comesDue]; rfl⟩
  · exact ⟨loopDue, by rw [if_neg comesDue, if_neg comesDue]; rfl⟩

theorem ageSleep_adding :
    ∃ later, (capture.adding raw rawIdle loopDue events).ageSleep =
      capture.ageSleep.adding raw rawIdle loopDue later := by
  by_cases counting : capture.sleepCountdown > 0
  · exact ⟨events, by simp only [ageSleep, adding, counting, if_true]⟩
  · by_cases awake : capture.awake = true
    · exact ⟨{ events with fellAsleep := true }, by
        simp only [ageSleep, adding, counting, awake, if_true, if_false]⟩
    · exact ⟨events, by
        simp only [ageSleep, adding, counting, awake, Bool.false_eq_true, if_false]⟩

theorem answerWake_adding :
    ∃ later, (capture.adding raw rawIdle loopDue events).answerWake =
      capture.answerWake.adding raw rawIdle loopDue later := by
  by_cases requested : capture.wakeRequested = true
  · exact ⟨{ events with woke := events.woke || !capture.awake }, by
      simp only [answerWake, adding, requested, if_true]⟩
  · exact ⟨events, by
      simp only [answerWake, adding, requested, Bool.false_eq_true, if_false]⟩

theorem onTick_adding (now : UInt32) :
    ∃ due later, (capture.adding raw rawIdle loopDue events).onTick now =
      (capture.onTick now).adding raw rawIdle due later := by
  unfold onTick
  dsimp only
  rw [countSystemCycles_adding, ageInjector_adding, ageVss_adding, ageDebounce_adding]
  generalize (capture.countSystemCycles now).ageInjector.ageVss.ageDebounce now = aged
  obtain ⟨due, looped⟩ := ageLoop_adding aged raw rawIdle loopDue events
  obtain ⟨slept, sleeping⟩ := ageSleep_adding aged.ageLoop raw rawIdle due events
  obtain ⟨woken, waking⟩ := answerWake_adding aged.ageLoop.ageSleep raw rawIdle due slept
  exact ⟨due, woken, by rw [looped, sleeping, waking]⟩

/-- Events credit the same, whatever has been taken from the raw trips before. -/
theorem handle_adding (event : Event) :
    ∃ due later, (capture.adding raw rawIdle loopDue events).handle event =
      (capture.handle event).adding raw rawIdle due later := by
  cases event with
  | interrupt interrupt now =>
      cases interrupt with
      | timerOverflow => exact onTick_adding capture raw rawIdle loopDue events now
      | vssEdge => exact ⟨_, _, onVssEdge_adding capture raw rawIdle loopDue events now⟩
      | injectorOpen =>
          exact ⟨_, _, onInjectorOpen_adding capture raw rawIdle loopDue events now⟩
      | injectorClose =>
          exact ⟨_, _, onInjectorClose_adding capture raw rawIdle loopDue events now⟩
      | analogSample channel value => exact ⟨loopDue, events, rfl⟩
  | wakeRequest => exact ⟨loopDue, events, rfl⟩

end TripComputer.Capture
