import TripComputer.Proofs.Capture.ElapsedTime
import TripComputer.Proofs.Capture.Event

/-!
# Tallies

An action is anything that can be done to a capture.  A tally keeps what has been drained on the
way, so that its total is what has been counted: draining moves counts and does not change the
total.  Totals wrap at the width of their counters, as trips do.

Road-speed pulses and injector events count in different counters.  `Trip.vssPart` and
`Trip.injectorPart` tell them apart.
-/

namespace TripComputer

namespace Trip

/-- The counters of road-speed pulses alone. -/
def vssPart (trip : Trip) : Trip :=
  ⟨trip.vssPulses, 0, trip.vssCycles, 0, 0⟩

/-- The counters of injector events alone. -/
def injectorPart (trip : Trip) : Trip :=
  ⟨0, trip.injectorPulses, 0, trip.injectorCycles, trip.injectorOpenCycles⟩

theorem vssPart_add_injectorCredit (trip : Trip) (opened total : UInt32) :
    (trip + injectorCredit opened total).vssPart = trip.vssPart := by
  simp [vssPart, injectorCredit, add_def, Trip.add]

theorem vssPart_add_vssCredit (trip : Trip) (cycles : UInt32) :
    (trip + vssCredit cycles).vssPart = trip.vssPart + vssCredit cycles := by
  simp [vssPart, vssCredit, add_def, Trip.add]

theorem injectorPart_add_vssCredit (trip : Trip) (cycles : UInt32) :
    (trip + vssCredit cycles).injectorPart = trip.injectorPart := by
  simp [injectorPart, vssCredit, add_def, Trip.add]

theorem injectorPart_add_injectorCredit (trip : Trip) (opened total : UInt32) :
    (trip + injectorCredit opened total).injectorPart =
      trip.injectorPart + injectorCredit opened total := by
  simp [injectorPart, injectorCredit, add_def, Trip.add]

end Trip

namespace Capture

/-- Anything that can be done to a capture. -/
inductive Action where
  | event (event : Event)
  | install (parameters : CaptureParameters)
  | drain
  | takeLoopDue
  | takeEvents
deriving DecidableEq, Repr

namespace Action

@[match_pattern]
abbrev vssEdge (now : UInt32) : Action := .event (.interrupt .vssEdge now)

@[match_pattern]
abbrev injectorOpen (now : UInt32) : Action := .event (.interrupt .injectorOpen now)

@[match_pattern]
abbrev injectorClose (now : UInt32) : Action := .event (.interrupt .injectorClose now)

@[match_pattern]
abbrev tick (now : UInt32) : Action := .event (.interrupt .timerOverflow now)

def isVssEdge : Action → Bool
  | vssEdge _ => true
  | _ => false

def isInjectorOpen : Action → Bool
  | injectorOpen _ => true
  | _ => false

def isInjectorClose : Action → Bool
  | injectorClose _ => true
  | _ => false

def isTick : Action → Bool
  | tick _ => true
  | _ => false

def isInstall : Action → Bool
  | install _ => true
  | _ => false

/-- The actions that the road-speed side answers to, and the others. -/
@[elab_as_elim]
theorem vssCases {motive : Action → Prop} (action : Action)
    (edge : ∀ now, motive (.vssEdge now)) (tick : ∀ now, motive (.tick now))
    (install : ∀ parameters, motive (.install parameters))
    (other : ∀ action : Action, action.isVssEdge = false → action.isTick = false →
      action.isInstall = false → motive action) :
    motive action := by
  cases action with
  | event event =>
      cases event with
      | wakeRequest => exact other _ rfl rfl rfl
      | interrupt interrupt now =>
          cases interrupt with
          | timerOverflow => exact tick now
          | vssEdge => exact edge now
          | injectorOpen => exact other _ rfl rfl rfl
          | injectorClose => exact other _ rfl rfl rfl
          | analogSample channel value => exact other _ rfl rfl rfl
  | install parameters => exact install parameters
  | drain => exact other _ rfl rfl rfl
  | takeLoopDue => exact other _ rfl rfl rfl
  | takeEvents => exact other _ rfl rfl rfl

/-- The actions that the injector side answers to, and the others. -/
@[elab_as_elim]
theorem injectorCases {motive : Action → Prop} (action : Action)
    (opening : ∀ now, motive (.injectorOpen now)) (closing : ∀ now, motive (.injectorClose now))
    (tick : ∀ now, motive (.tick now)) (install : ∀ parameters, motive (.install parameters))
    (other : ∀ action : Action, action.isInjectorOpen = false → action.isInjectorClose = false →
      action.isTick = false → action.isInstall = false → motive action) :
    motive action := by
  cases action with
  | event event =>
      cases event with
      | wakeRequest => exact other _ rfl rfl rfl rfl
      | interrupt interrupt now =>
          cases interrupt with
          | timerOverflow => exact tick now
          | vssEdge => exact other _ rfl rfl rfl rfl
          | injectorOpen => exact opening now
          | injectorClose => exact closing now
          | analogSample channel value => exact other _ rfl rfl rfl rfl
  | install parameters => exact install parameters
  | drain => exact other _ rfl rfl rfl rfl
  | takeLoopDue => exact other _ rfl rfl rfl rfl
  | takeEvents => exact other _ rfl rfl rfl rfl

end Action

def act (capture : Capture) : Action → Capture
  | .event event => capture.handle event
  | .install parameters => capture.setParameters parameters
  | .drain => capture.drain.2
  | .takeLoopDue => capture.takeLoopDue.2
  | .takeEvents => capture.takeEvents.2

section Act

variable (capture : Capture) (now : UInt32)

theorem act_tick : capture.act (.tick now) = capture.onTick now := by
  rw [act, handle, handleInterrupt]

theorem act_vssEdge : capture.act (.vssEdge now) = capture.onVssEdge now := by
  rw [act, handle, handleInterrupt]

theorem act_injectorOpen : capture.act (.injectorOpen now) = capture.onInjectorOpen now := by
  rw [act, handle, handleInterrupt]

theorem act_injectorClose : capture.act (.injectorClose now) = capture.onInjectorClose now := by
  rw [act, handle, handleInterrupt]

end Act

/-- A capture with the sum of the raw trips that have been drained from it. -/
structure Tally where
  capture : Capture
  drained : Trip

theorem raw_onVssEdge (capture : Capture) (now : UInt32) :
    (capture.onVssEdge now).raw = capture.raw ∨
      ∃ cycles, (capture.onVssEdge now).raw = capture.raw + Trip.vssCredit cycles := by
  rcases onVssEdge_cases capture now with ignored | atOnce | ⟨_, pause, _, held⟩
  · exact .inl (by rw [ignored])
  · exact .inr ⟨_, by rw [atOnce]; exact Trip.creditVss_eq_add _ _⟩
  · exact .inl (by rw [held])

theorem raw_onTick (capture : Capture) (now : UInt32) :
    (capture.onTick now).raw = capture.raw ∨
      ∃ cycles, (capture.onTick now).raw = capture.raw + Trip.vssCredit cycles := by
  obtain ⟨aged, before, after⟩ := onTick_spec capture now
  rw [after.raw, ← before.raw]
  rcases ageDebounce_cases aged now with same | ⟨_, ⟨left, _, counted⟩ | ends⟩
  · exact .inl (by rw [same])
  · exact .inl (by rw [counted])
  · exact .inr ⟨_, by rw [ends]; exact Trip.creditVss_eq_add _ _⟩

namespace Tally

/-- A fresh capture, of which nothing has been drained. -/
def new (parameters : CaptureParameters) : Tally := ⟨.new parameters, 0⟩

def act (tally : Tally) (action : Action) : Tally where
  capture := tally.capture.act action
  drained :=
    match action with
    | .drain => tally.drained + tally.capture.raw
    | _ => tally.drained

def run (tally : Tally) (actions : List Action) : Tally :=
  actions.foldl act tally

/-- All that has been counted, drained or not. -/
def total (tally : Tally) : Trip :=
  tally.drained + tally.capture.raw

variable (tally : Tally)

theorem run_cons (action : Action) (rest : List Action) :
    tally.run (action :: rest) = (tally.act action).run rest := rfl

theorem run_append (first second : List Action) :
    tally.run (first ++ second) = (tally.run first).run second :=
  List.foldl_append

theorem capture_run (actions : List Action) :
    (tally.run actions).capture = actions.foldl Capture.act tally.capture := by
  induction actions generalizing tally with
  | nil => rfl
  | cons action rest induction => exact induction (tally.act action)

theorem total_drain : (tally.act .drain).total = tally.total :=
  add_zero (tally.drained + tally.capture.raw)

theorem capture_act (action : Action) :
    (tally.act action).capture = tally.capture.act action := rfl

theorem total_event (event : Event) :
    (tally.act (.event event)).total = tally.drained + (tally.capture.handle event).raw := by
  unfold total act Capture.act
  dsimp only

theorem total_vssEdge (now : UInt32) :
    (tally.act (.vssEdge now)).total = tally.total ∨
      ∃ cycles, (tally.act (.vssEdge now)).total = tally.total + Trip.vssCredit cycles := by
  rw [total_event, handle, handleInterrupt, total]
  rcases raw_onVssEdge tally.capture now with same | ⟨cycles, credited⟩
  · exact .inl (by rw [same])
  · exact .inr ⟨cycles, by rw [credited, add_assoc]⟩

theorem total_tick (now : UInt32) :
    (tally.act (.tick now)).total = tally.total ∨
      ∃ cycles, (tally.act (.tick now)).total = tally.total + Trip.vssCredit cycles := by
  rw [total_event, handle, handleInterrupt, total]
  rcases raw_onTick tally.capture now with same | ⟨cycles, credited⟩
  · exact .inl (by rw [same])
  · exact .inr ⟨cycles, by rw [credited, add_assoc]⟩

theorem total_injectorOpen (now : UInt32) :
    (tally.act (.injectorOpen now)).total = tally.total := by
  rw [total_event, handle, handleInterrupt, (onInjectorOpen_spec tally.capture now).1, total]

theorem total_injectorClose (now : UInt32) :
    (tally.act (.injectorClose now)).total =
      tally.total + Trip.injectorCredit (tally.capture.judgeDuration now).1
        tally.capture.engineCycle := by
  rw [total_event, handle, handleInterrupt, raw_onInjectorClose, total, add_assoc]

/-- Only closing edges count in the counters of the injectors. -/
theorem injectorPart_act {action : Action} (unclosed : action.isInjectorClose = false) :
    (tally.act action).total.injectorPart = tally.total.injectorPart := by
  have pulse {later : Trip}
      (counted : later = tally.total ∨ ∃ cycles, later = tally.total + Trip.vssCredit cycles) :
      later.injectorPart = tally.total.injectorPart := by
    rcases counted with same | ⟨cycles, credited⟩
    · rw [same]
    · rw [credited, Trip.injectorPart_add_vssCredit]
  cases action with
  | event event =>
      cases event with
      | wakeRequest => rfl
      | interrupt interrupt now =>
          cases interrupt with
          | timerOverflow => exact pulse (tally.total_tick now)
          | vssEdge => exact pulse (tally.total_vssEdge now)
          | injectorOpen => exact congrArg _ (tally.total_injectorOpen now)
          | injectorClose => cases unclosed
          | analogSample channel value => rfl
  | install parameters => rfl
  | drain => exact congrArg _ tally.total_drain
  | takeLoopDue => rfl
  | takeEvents => rfl

/-- Only road-speed edges, and ticks that end a debounce, count in the counters of road speed. -/
theorem vssPart_act {action : Action} (noEdge : action.isVssEdge = false)
    (noTick : action.isTick = false) :
    (tally.act action).total.vssPart = tally.total.vssPart := by
  cases action with
  | event event =>
      cases event with
      | wakeRequest => rfl
      | interrupt interrupt now =>
          cases interrupt with
          | timerOverflow => cases noTick
          | vssEdge => cases noEdge
          | injectorOpen => exact congrArg _ (tally.total_injectorOpen now)
          | injectorClose =>
              exact (congrArg _ (tally.total_injectorClose now)).trans
                (Trip.vssPart_add_injectorCredit _ _ _)
          | analogSample channel value => rfl
  | install parameters => rfl
  | drain => exact congrArg _ tally.total_drain
  | takeLoopDue => rfl
  | takeEvents => rfl

theorem injectorPart_run {actions : List Action}
    (unclosed : ∀ action ∈ actions, action.isInjectorClose = false) :
    (tally.run actions).total.injectorPart = tally.total.injectorPart := by
  induction actions generalizing tally with
  | nil => rfl
  | cons action rest induction =>
      obtain ⟨first, others⟩ := List.forall_mem_cons.mp unclosed
      exact (induction (tally.act action) others).trans (tally.injectorPart_act first)

end Tally

end Capture

end TripComputer
