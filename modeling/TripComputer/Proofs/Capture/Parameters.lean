import TripComputer.Proofs.Capture.Event

/-!
# The parameters of pulse capture stay

Handlers read the parameters and never change them: they are what was installed last.
-/

namespace TripComputer.Capture

theorem parameters_onVssEdge (capture : Capture) (now : UInt32) :
    (capture.onVssEdge now).parameters = capture.parameters := by
  unfold onVssEdge
  split
  · rfl
  · split <;> rfl

theorem parameters_measureEngineCycle (capture : Capture) (now : UInt32) :
    (capture.measureEngineCycle now).parameters = capture.parameters := by
  unfold measureEngineCycle
  split
  · dsimp only
    split <;> rfl
  · rfl

theorem parameters_onInjectorOpen (capture : Capture) (now : UInt32) :
    (capture.onInjectorOpen now).parameters = capture.parameters :=
  parameters_measureEngineCycle _ now

theorem parameters_judgeDuration (capture : Capture) (now : UInt32) :
    (capture.judgeDuration now).2.parameters = capture.parameters := by
  unfold judgeDuration
  split
  · split <;> rfl
  · rfl

theorem parameters_onInjectorClose (capture : Capture) (now : UInt32) :
    (capture.onInjectorClose now).parameters = capture.parameters :=
  parameters_judgeDuration capture now

theorem parameters_ageInjector (capture : Capture) :
    capture.ageInjector.parameters = capture.parameters := by
  unfold ageInjector
  split <;> rfl

theorem parameters_ageVss (capture : Capture) :
    capture.ageVss.parameters = capture.parameters := by
  unfold ageVss
  split <;> rfl

theorem parameters_ageDebounce (capture : Capture) (now : UInt32) :
    (capture.ageDebounce now).parameters = capture.parameters := by
  unfold ageDebounce
  split
  · dsimp only
    split <;> rfl
  · rfl

theorem parameters_ageLoop (capture : Capture) :
    capture.ageLoop.parameters = capture.parameters := by
  unfold ageLoop
  dsimp only
  split
  · split <;> rfl
  · rfl

theorem parameters_ageSleep (capture : Capture) :
    capture.ageSleep.parameters = capture.parameters := by
  unfold ageSleep
  split
  · rfl
  · split <;> rfl

theorem parameters_answerWake (capture : Capture) :
    capture.answerWake.parameters = capture.parameters := by
  unfold answerWake
  split <;> rfl

theorem parameters_onTick (capture : Capture) (now : UInt32) :
    (capture.onTick now).parameters = capture.parameters := by
  simp only [onTick]
  rw [parameters_answerWake, parameters_ageSleep, parameters_ageLoop, parameters_ageDebounce,
    parameters_ageVss, parameters_ageInjector]
  rfl

/-- No event changes the parameters. -/
theorem parameters_handle (capture : Capture) (event : Event) :
    (capture.handle event).parameters = capture.parameters := by
  cases event with
  | wakeRequest => rfl
  | interrupt interrupt now =>
      cases interrupt with
      | timerOverflow => exact parameters_onTick capture now
      | vssEdge => exact parameters_onVssEdge capture now
      | injectorOpen => exact parameters_onInjectorOpen capture now
      | injectorClose => exact parameters_onInjectorClose capture now
      | analogSample channel value => rfl

end TripComputer.Capture
