import TripComputer.Capture

/-!
# Interrupts

The lines into the interrupt controller.  Every handler stamps its event with the extended
time and hands it to the capture state.
-/

namespace TripComputer

/-- One interrupt. -/
inductive Interrupt where
  /-- The hardware counter rolled over. -/
  | timerOverflow
  /-- An edge of the road-speed sensor. -/
  | vssEdge
  /-- An injector started to open. -/
  | injectorOpen
  /-- An injector started to close. -/
  | injectorClose
  /-- An analog conversion finished. -/
  | analogSample (channel : UInt8) (value : UInt16)
deriving DecidableEq, Repr

/-- What the interrupt handlers work on. -/
structure FrontEnd where
  clock : Clock
  capture : Capture
deriving DecidableEq

namespace FrontEnd

/-- Handles one interrupt. -/
def handle (frontEnd : FrontEnd) : Interrupt → FrontEnd
  | .timerOverflow =>
      let clock := frontEnd.clock.onOverflow
      ⟨clock, frontEnd.capture.onTick clock.now⟩
  | .vssEdge => { frontEnd with capture := frontEnd.capture.onVssEdge frontEnd.clock.now }
  | .injectorOpen =>
      { frontEnd with capture := frontEnd.capture.onInjectorOpen frontEnd.clock.now }
  | .injectorClose =>
      { frontEnd with capture := frontEnd.capture.onInjectorClose frontEnd.clock.now }
  | .analogSample channel value =>
      { frontEnd with capture := frontEnd.capture.setAnalog channel value }

/-- Handles an interrupt that arrives with the timer's counter at a count. -/
def handleAt (frontEnd : FrontEnd) (count : UInt32) (interrupt : Interrupt) : FrontEnd :=
  { frontEnd with clock := frontEnd.clock.setCounter count }.handle interrupt

end FrontEnd

end TripComputer
