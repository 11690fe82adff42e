import Mathlib.Algebra.BigOperators.Group.Finset.Piecewise
import TripComputer.Proofs.Capture.InjectorEdges

/-!
# The injector filter

A train is a run of injector pulses.  Whether the filter accepts a pulse depends on the pulse
before it, which decides on the ceiling: `Train.accepted` follows that from the first pulse on.
Between two pulses, and while one is open, the injector side holds what `Awaiting` and `Opened`
say, as long as no edge lapses.
-/

namespace TripComputer.Capture

open Finset

/-- An opening of an injector with its closing, and what happens until the next opening. -/
structure Pulse where
  opening : Nat
  whileOpen : List Action
  closing : Nat
  afterwards : List Action

def Pulse.actions (pulse : Pulse) : List Action :=
  .injectorOpen pulse.opening.toUInt32 :: (pulse.whileOpen ++
    .injectorClose pulse.closing.toUInt32 :: pulse.afterwards)

/-- The state that the closing of a pulse finds. -/
def Pulse.held (pulse : Pulse) (capture : Capture) : Capture :=
  pulse.whileOpen.foldl act (capture.onInjectorOpen pulse.opening.toUInt32)

namespace Tally

variable (tally : Tally) (pulse : Pulse)

theorem capture_pulse :
    (tally.run pulse.actions).capture =
      pulse.afterwards.foldl Capture.act
        ((pulse.held tally.capture).onInjectorClose pulse.closing.toUInt32) := by
  rw [capture_run, Pulse.actions, List.foldl_cons, List.foldl_append, List.foldl_cons,
    act_injectorOpen, act_injectorClose, Pulse.held]

/-- A pulse credits what its closing edge does. -/
theorem injectorPart_pulse
    (whileOpen : ∀ action ∈ pulse.whileOpen, action.isInjectorClose = false)
    (afterwards : ∀ action ∈ pulse.afterwards, action.isInjectorClose = false) :
    (tally.run pulse.actions).total.injectorPart =
      tally.total.injectorPart +
        Trip.injectorCredit ((pulse.held tally.capture).judgeDuration pulse.closing.toUInt32).1
          (pulse.held tally.capture).engineCycle := by
  have held : ((tally.act (.injectorOpen pulse.opening.toUInt32)).run pulse.whileOpen).capture =
      pulse.held tally.capture := by
    rw [capture_run, capture_act, act_injectorOpen, Pulse.held]
  rw [Pulse.actions, run_cons, run_append, run_cons, injectorPart_run _ afterwards,
    total_injectorClose, Trip.injectorPart_add_injectorCredit, injectorPart_run _ whileOpen,
    total_injectorOpen, held]

end Tally

/-- Injector pulses after some other actions. -/
structure Train where
  parameters : CaptureParameters
  before : List Action
  pulse : Nat → Pulse

namespace Train

variable (train : Train)

/-- What happens up to the opening with an index. -/
def actions (count : Nat) : List Action :=
  train.before ++ (List.range count).flatMap fun index => (train.pulse index).actions

/-- The time between an opening and the one before it. -/
def cycle (index : Nat) : Nat :=
  (train.pulse index).opening - (train.pulse (index - 1)).opening

/-- The time between an opening and its closing. -/
def length (index : Nat) : Nat :=
  (train.pulse index).closing - (train.pulse index).opening

def duration (index : Nat) : Nat :=
  train.length index - train.parameters.settleCycles.toNat

/-- Whether a pulse is long enough, and shorter than a ceiling. -/
def isWithin (ceiling index : Nat) : Bool :=
  train.parameters.settleCycles.toNat ≤ train.length index && train.duration index < ceiling

/-- The ceiling of durations after an opening, given whether it ends a running engine's cycle. -/
def ceilingOf (measured : Bool) (index : Nat) : Nat :=
  if measured then min (2 ^ 32 - 1) (train.cycle index * train.parameters.dutyCeiling.toNat / 1024)
  else train.parameters.maxGoodInjectorCycles.toNat

/-- Whether the time before an opening is short enough for a running engine. -/
def isRunning (index : Nat) : Bool :=
  train.cycle index < train.parameters.minGoodCycles.toNat

/-- Whether the filter accepts a pulse. -/
def accepted : Nat → Bool
  | 0 => train.isWithin (train.ceilingOf false 0) 0
  | index + 1 =>
      train.isWithin (train.ceilingOf (accepted index && train.isRunning (index + 1)) (index + 1))
        (index + 1)

/-- Whether an opening ends an engine cycle: the pulse before it was accepted, and not long ago. -/
def measured : Nat → Bool
  | 0 => false
  | index + 1 => train.accepted index && train.isRunning (index + 1)

theorem accepted_eq (index : Nat) :
    train.accepted index = train.isWithin (train.ceilingOf (train.measured index) index) index := by
  cases index with
  | zero => rfl
  | succ index => rfl

theorem actions_succ (count : Nat) :
    train.actions (count + 1) = train.actions count ++ (train.pulse count).actions := by
  rw [actions, actions, List.range_succ, List.flatMap_append, List.flatMap_singleton,
    List.append_assoc]

/-- Edges are less than a clock range apart and do not lapse, and nothing else but them touches the
injector side. -/
structure Timely (count : Nat) : Prop where
  before : ∀ action ∈ train.before, action.touchesInjector = false
  whileOpen : ∀ index < count, ∀ action ∈ (train.pulse index).whileOpen,
    action.touchesInjector = false
  afterwards : ∀ index < count, ∀ action ∈ (train.pulse index).afterwards,
    action.touchesInjector = false
  closes : ∀ index < count, (train.pulse index).opening ≤ (train.pulse index).closing ∧
    (train.pulse index).closing < (train.pulse index).opening + 2 ^ 32
  reopens : ∀ index, index + 1 < count →
    (train.pulse index).opening ≤ (train.pulse (index + 1)).opening ∧
      (train.pulse (index + 1)).opening < (train.pulse index).opening + 2 ^ 32
  ticksOpen : ∀ index < count, (train.pulse index).whileOpen.countP Action.isTick <
    train.parameters.injectorResetTicks.toNat
  ticks : ∀ index, index + 1 < count → (train.pulse index).whileOpen.countP Action.isTick +
    (train.pulse index).afterwards.countP Action.isTick < train.parameters.injectorResetTicks.toNat

/-- The injector side before the opening with an index. -/
structure Awaiting (index : Nat) (side : InjectorSide) : Prop where
  parameters : side.parameters = train.parameters
  engineCycle : side.engineCycle = 0
  goodInjector : side.goodInjector = true ↔ 0 < index ∧ train.accepted (index - 1) = true
  thisOpening : 0 < index → side.thisOpening = (train.pulse (index - 1)).opening.toUInt32

/-- The injector side after the opening with an index, and after some ticks more. -/
structure Opened (index ticks : Nat) (side : InjectorSide) : Prop where
  parameters : side.parameters = train.parameters
  openingSeen : side.openingSeen = true
  thisOpening : side.thisOpening = (train.pulse index).opening.toUInt32
  engineCycle : side.engineCycle.toNat = if train.measured index then train.cycle index else 0
  openCeiling : side.openCeiling.toNat = train.ceilingOf (train.measured index) index
  countdown : side.countdown.toNat + ticks = train.parameters.injectorResetTicks.toNat

/-- What a pulse adds to the counters of the injectors. -/
def credit (index : Nat) : Trip where
  vssPulses := 0
  injectorPulses :=
    (if train.accepted index ∧ 0 < train.duration index then 1 else 0 : Nat).toUInt32
  vssCycles := 0
  injectorCycles := (if train.measured index then train.cycle index else 0).toUInt64
  injectorOpenCycles := (if train.accepted index then train.duration index else 0).toUInt64

variable {train : Train} {index ticks : Nat} {capture : Capture}

section Opening

variable (ordered : (train.pulse (index - 1)).opening ≤ (train.pulse index).opening)
  (near : (train.pulse index).opening < (train.pulse (index - 1)).opening + 2 ^ 32)
include ordered near

theorem Awaiting.interval (awaiting : train.Awaiting index capture.injectorSide)
    (later : 0 < index) :
    (Clock.interval capture.thisOpening (train.pulse index).opening.toUInt32).toNat =
      train.cycle index := by
  have last : capture.thisOpening = (train.pulse (index - 1)).opening.toUInt32 :=
    awaiting.thisOpening later
  rw [last]
  exact toNat_interval UInt32.toNat_ofNat' UInt32.toNat_ofNat' ordered near

theorem Awaiting.measured_iff (awaiting : train.Awaiting index capture.injectorSide) :
    (capture.fresh.goodInjector = true ∧
      Clock.interval capture.thisOpening (train.pulse index).opening.toUInt32 <
        capture.parameters.minGoodCycles) ↔ train.measured index = true := by
  have good : capture.fresh.goodInjector = true ↔ 0 < index ∧ train.accepted (index - 1) = true :=
    awaiting.goodInjector
  have parameters : capture.parameters = train.parameters := awaiting.parameters
  cases index with
  | zero =>
      have bad : ¬capture.fresh.goodInjector = true := fun recent =>
        Nat.lt_irrefl 0 (good.mp recent).1
      exact iff_of_false (fun both => bad both.1) Bool.false_ne_true
  | succ index =>
      have interval := awaiting.interval ordered near index.succ_pos
      have accepted : capture.fresh.goodInjector = true ↔ train.accepted index = true :=
        good.trans (and_iff_right index.succ_pos)
      rw [accepted, UInt32.lt_iff_toNat_lt, interval, parameters, measured, Bool.and_eq_true,
        isRunning, decide_eq_true_iff]

/-- An opening measures the cycle that it ends, if there is one. -/
theorem Awaiting.onInjectorOpen (awaiting : train.Awaiting index capture.injectorSide) :
    train.Opened index 0
      (capture.onInjectorOpen (train.pulse index).opening.toUInt32).injectorSide := by
  have parameters : capture.parameters = train.parameters := awaiting.parameters
  have measures := awaiting.measured_iff ordered near
  by_cases measured : train.measured index = true
  · obtain ⟨good, running⟩ := measures.mpr measured
    have later : 0 < index := (awaiting.goodInjector.mp good).1
    have interval := awaiting.interval ordered near later
    rw [injectorSide_onInjectorOpen_measured good running]
    exact
      { parameters := parameters
        openingSeen := rfl
        thisOpening := rfl
        engineCycle := by rw [if_pos measured]; exact interval
        openCeiling := by
          rw [ceilingOf, if_pos measured, toNat_dutyCeilingOf, interval, parameters]
        countdown := by rw [parameters]; rfl }
  · have none : capture.engineCycle = 0 := awaiting.engineCycle
    rw [injectorSide_onInjectorOpen_unmeasured none (mt measures.mp measured)]
    exact
      { parameters := parameters
        openingSeen := rfl
        thisOpening := rfl
        engineCycle := by rw [if_neg measured]; exact congrArg UInt32.toNat none
        openCeiling := by rw [ceilingOf, if_neg measured, parameters]
        countdown := by rw [parameters]; rfl }

end Opening

section Closing

variable (ordered : (train.pulse index).opening ≤ (train.pulse index).closing)
  (near : (train.pulse index).closing < (train.pulse index).opening + 2 ^ 32)
include ordered near

/-- The filter accepts the pulses that it should accept. -/
theorem Opened.accepted_iff (opened : train.Opened index ticks capture.injectorSide) :
    let interval := Clock.interval capture.thisOpening (train.pulse index).closing.toUInt32
    (capture.parameters.settleCycles ≤ interval ∧
        interval - capture.parameters.settleCycles < capture.openCeiling ↔
      train.accepted index = true) ∧
    (train.accepted index = true →
      (interval - capture.parameters.settleCycles).toNat = train.duration index) := by
  intro interval
  have parameters : capture.parameters = train.parameters := opened.parameters
  have thisOpening : capture.thisOpening = (train.pulse index).opening.toUInt32 :=
    opened.thisOpening
  have openCeiling : capture.openCeiling.toNat = train.ceilingOf (train.measured index) index :=
    opened.openCeiling
  have length : interval.toNat = train.length index := by
    unfold interval
    rw [thisOpening]
    exact toNat_interval UInt32.toNat_ofNat' UInt32.toNat_ofNat' ordered near
  have duration (settled : train.parameters.settleCycles ≤ interval) :
      (interval - train.parameters.settleCycles).toNat = train.duration index := by
    rw [UInt32.toNat_sub_of_le _ _ settled, length, Train.duration]
  have settled_iff : train.parameters.settleCycles ≤ interval ↔
      train.parameters.settleCycles.toNat ≤ train.length index := by
    rw [UInt32.le_iff_toNat_le, length]
  rw [parameters, accepted_eq, isWithin, Bool.and_eq_true, decide_eq_true_iff, decide_eq_true_iff,
    ← settled_iff, ← openCeiling]
  constructor
  · apply and_congr_right
    intro settled
    rw [UInt32.lt_iff_toNat_lt, duration settled]
  · intro accepted
    exact duration accepted.1

/-- A closing is judged, and the side awaits the next opening; a rejected pulse is not recent. -/
theorem Opened.onInjectorClose (opened : train.Opened index ticks capture.injectorSide) :
    let now := (train.pulse index).closing.toUInt32
    (capture.judgeDuration now).1.toNat =
        (if train.accepted index then train.duration index else 0) ∧
      train.Awaiting (index + 1) (capture.onInjectorClose now).injectorSide ∧
      ((capture.onInjectorClose now).injectorCountdown.toNat + ticks =
          train.parameters.injectorResetTicks.toNat ∨
        (capture.onInjectorClose now).injectorCountdown.toNat = 0) := by
  intro now
  obtain ⟨accepted_iff, duration⟩ := opened.accepted_iff ordered near
  by_cases accepted : train.accepted index = true
  · obtain ⟨judged, side⟩ :=
      judgeDuration_accepted opened.openingSeen (if_pos (accepted_iff.mpr accepted))
    rw [← injectorSide_countdown, side, judged, if_pos accepted]
    refine ⟨duration accepted, ?_, .inl opened.countdown⟩
    exact
      { parameters := opened.parameters
        engineCycle := rfl
        goodInjector := iff_of_true rfl ⟨index.succ_pos, accepted⟩
        thisOpening := fun _ => opened.thisOpening }
  · obtain ⟨judged, side⟩ :=
      judgeDuration_rejected opened.openingSeen (if_neg (mt accepted_iff.mp accepted))
    rw [← injectorSide_countdown, side, judged, if_neg accepted]
    -- the countdown stops, so that later ticks do nothing
    refine ⟨rfl, ?_, .inr rfl⟩
    exact
      { parameters := opened.parameters
        engineCycle := rfl
        goodInjector := iff_of_false Bool.false_ne_true fun both => accepted both.2
        thisOpening := fun _ => opened.thisOpening }

end Closing

theorem Awaiting.run (awaiting : train.Awaiting index capture.injectorSide) {actions : List Action}
    (untouched : ∀ action ∈ actions, action.touchesInjector = false)
    (unlapsed : actions.countP Action.isTick < capture.injectorCountdown.toNat ∨
      capture.injectorCountdown.toNat = 0) :
    train.Awaiting index (actions.foldl Capture.act capture).injectorSide := by
  obtain ⟨left, _, ran⟩ := capture.injectorSide_run untouched unlapsed
  rw [ran]
  exact
    { parameters := awaiting.parameters
      engineCycle := awaiting.engineCycle
      goodInjector := awaiting.goodInjector
      thisOpening := awaiting.thisOpening }

theorem Opened.run (opened : train.Opened index 0 capture.injectorSide) {actions : List Action}
    (untouched : ∀ action ∈ actions, action.touchesInjector = false)
    (unlapsed : actions.countP Action.isTick < train.parameters.injectorResetTicks.toNat) :
    train.Opened index (actions.countP Action.isTick)
      (actions.foldl Capture.act capture).injectorSide := by
  have countdown : capture.injectorCountdown.toNat = train.parameters.injectorResetTicks.toNat :=
    opened.countdown
  obtain ⟨left, total, ran⟩ := capture.injectorSide_run untouched (.inl (countdown ▸ unlapsed))
  rw [ran]
  exact
    { parameters := opened.parameters
      openingSeen := opened.openingSeen
      thisOpening := opened.thisOpening
      engineCycle := opened.engineCycle
      openCeiling := opened.openCeiling
      countdown := by
        rw [countdown] at total
        exact total ▸ Nat.sub_add_cancel (Nat.le_of_lt unlapsed) }

theorem injectorCredit_eq_credit {opened total : UInt32}
    (accepted : opened.toNat = if train.accepted index then train.duration index else 0)
    (measured : total.toNat = if train.measured index then train.cycle index else 0) :
    Trip.injectorCredit opened total = train.credit index := by
  have word (cycles : UInt32) : cycles.toNat.toUInt64 = cycles.toUInt64 :=
    UInt64.ofNat_uInt32ToNat cycles
  have pulse : opened > 0 ↔ train.accepted index ∧ 0 < train.duration index := by
    have counts : opened > 0 ↔ 0 < opened.toNat := UInt32.lt_iff_toNat_lt
    rw [counts, accepted]
    split
    next yes => exact (and_iff_right yes).symm
    next no => exact iff_of_false (Nat.lt_irrefl 0) fun both => no both.1
  rw [credit, ← accepted, ← measured, word, word, Trip.injectorCredit]
  by_cases counted : opened > 0
  · rw [if_pos counted, if_pos (pulse.mp counted)]
    rfl
  · rw [if_neg counted, if_neg (mt pulse.mpr counted)]
    rfl

section Step

variable {count : Nat}

/-- The filter is ready for a closing. -/
theorem Awaiting.held (awaiting : train.Awaiting index capture.injectorSide)
    (timely : train.Timely count) (within : index < count) :
    train.Opened index ((train.pulse index).whileOpen.countP Action.isTick)
      ((train.pulse index).held capture).injectorSide := by
  have reopens : (train.pulse (index - 1)).opening ≤ (train.pulse index).opening ∧
      (train.pulse index).opening < (train.pulse (index - 1)).opening + 2 ^ 32 := by
    cases index with
    | zero => exact ⟨Nat.le_refl _, Nat.lt_add_of_pos_right (by decide)⟩
    | succ last => exact timely.reopens last within
  have opened := awaiting.onInjectorOpen reopens.1 reopens.2
  exact opened.run (timely.whileOpen index within) (timely.ticksOpen index within)

theorem Awaiting.next {tally : Tally} (awaiting : train.Awaiting index tally.capture.injectorSide)
    (timely : train.Timely count) (further : index + 1 < count) :
    train.Awaiting (index + 1) (tally.run (train.pulse index).actions).capture.injectorSide := by
  have within := Nat.lt_of_succ_lt further
  obtain ⟨ordered, near⟩ := timely.closes index within
  obtain ⟨_, awaits, countdown⟩ :=
    (awaiting.held timely within).onInjectorClose ordered near
  have ticks := timely.ticks index further
  rw [Tally.capture_pulse]
  apply awaits.run (timely.afterwards index within)
  rcases countdown with left | none
  · exact .inl (by omega)
  · exact .inr none

theorem Awaiting.credited {tally : Tally}
    (awaiting : train.Awaiting index tally.capture.injectorSide) (timely : train.Timely count)
    (within : index < count) :
    (tally.run (train.pulse index).actions).total.injectorPart =
      tally.total.injectorPart + train.credit index := by
  have holding := awaiting.held timely within
  obtain ⟨ordered, near⟩ := timely.closes index within
  obtain ⟨judged, _⟩ := holding.onInjectorClose ordered near
  have measured : ((train.pulse index).held tally.capture).engineCycle.toNat =
      if train.measured index then train.cycle index else 0 := holding.engineCycle
  rw [Tally.injectorPart_pulse, injectorCredit_eq_credit judged measured]
  · exact fun action among => Action.unclosed (timely.whileOpen index within action among)
  · exact fun action among => Action.unclosed (timely.afterwards index within action among)

end Step

/-- Before any pulse the countdown is not running, so ticks do not matter. -/
theorem awaiting_first (before : ∀ action ∈ train.before, action.touchesInjector = false) :
    train.Awaiting 0 ((Tally.new train.parameters).run train.before).capture.injectorSide := by
  have start : train.Awaiting 0 (Capture.new train.parameters).injectorSide :=
    { parameters := rfl
      engineCycle := rfl
      goodInjector := iff_of_false Bool.false_ne_true fun both => Nat.lt_irrefl 0 both.1
      thisOpening := nofun }
  rw [Tally.capture_run]
  exact start.run before (.inr rfl)

/-- What a train has credited after some of its pulses. -/
theorem Timely.credited {count : Nat} (timely : train.Timely count) {done : Nat}
    (within : done ≤ count) :
    let tally := (Tally.new train.parameters).run (train.actions done)
    tally.total.injectorPart = ∑ index ∈ range done, train.credit index ∧
      (done < count → train.Awaiting done tally.capture.injectorSide) := by
  -- the state that awaits the next opening carries the induction; after the last pulse there is none
  induction done with
  | zero =>
      have none : train.actions 0 = train.before := List.append_nil train.before
      rw [none, sum_range_zero]
      constructor
      · rw [Tally.injectorPart_run _ fun action among => Action.unclosed (timely.before action among)]
        rfl
      · exact fun _ => awaiting_first timely.before
  | succ done induction =>
      obtain ⟨credited, awaits⟩ := induction (Nat.le_of_succ_le within)
      have awaiting := awaits within
      rw [actions_succ, Tally.run_append, sum_range_succ, ← credited]
      exact ⟨awaiting.credited timely within, awaiting.next timely⟩

/-- The credits of a train, counter by counter. -/
theorem sum_credit (count : Nat) :
    ∑ index ∈ range count, train.credit index =
      { vssPulses := 0
        injectorPulses :=
          (card {index ∈ range count | train.accepted index ∧ 0 < train.duration index}).toUInt32
        vssCycles := 0
        injectorCycles := (∑ index ∈ range count with train.measured index,
          train.cycle index).toUInt64
        injectorOpenCycles := (∑ index ∈ range count with train.accepted index,
          train.duration index).toUInt64 } := by
  have pulses (first others : Nat) :
      (first + others).toUInt32 = first.toUInt32 + others.toUInt32 :=
    UInt32.ofNat_add first others
  have cycles (first others : Nat) :
      (first + others).toUInt64 = first.toUInt64 + others.toUInt64 :=
    UInt64.ofNat_add first others
  simp only [card_filter, sum_filter]
  induction count with
  | zero => rfl
  | succ count induction =>
      rw [sum_range_succ, induction]
      simp only [sum_range_succ, pulses, cycles]
      rfl

/-- Over a run of pulses that do not lapse, the injectors' counters hold the durations of the
accepted pulses, their number without those of no duration, and the engine cycles that ended a
short time after an accepted pulse. -/
theorem accepted_pulses_counted (train : Train) (count : Nat) (unfinished : List Action)
    (timely : train.Timely count)
    (unclosed : ∀ action ∈ unfinished, action.isInjectorClose = false) :
    let total := ((Tally.new train.parameters).run (train.actions count ++ unfinished)).total
    total.injectorOpenCycles =
        (∑ index ∈ range count with train.accepted index, train.duration index).toUInt64 ∧
      total.injectorPulses =
        (card {index ∈ range count | train.accepted index ∧ 0 < train.duration index}).toUInt32 ∧
      total.injectorCycles =
        (∑ index ∈ range count with train.measured index, train.cycle index).toUInt64 := by
  intro total
  have counted : total.injectorPart = ∑ index ∈ range count, train.credit index := by
    unfold total
    rw [Tally.run_append, Tally.injectorPart_run _ unclosed]
    exact (timely.credited (Nat.le_refl count)).1
  rw [sum_credit] at counted
  exact ⟨congrArg Trip.injectorOpenCycles counted, congrArg Trip.injectorPulses counted,
    congrArg Trip.injectorCycles counted⟩

/-- Three pulses around the time at which the clock wraps. -/
def threePulses : Train where
  parameters :=
    { CaptureParameters.inert with
      settleCycles := 10
      minGoodCycles := 1000
      maxGoodInjectorCycles := 500
      dutyCeiling := 512
      injectorResetTicks := 2 }
  before := [.vssEdge 4294967000, .tick 4294967040]
  pulse
    | 0 => ⟨4294967280, [.tick 4294967295], 4294967340, [.drain]⟩
    | 1 => ⟨4294967480, [], 4294967630, [.vssEdge 350, .tick 255]⟩
    | _ => ⟨4294967680, [], 4294967740, [.tick 511, .tick 767, .tick 1023]⟩

/-- The second pulse is longer than half of its engine cycle: the cycle counts all the same, and
the next one does not. -/
theorem threePulses_counted :
    let total := ((Tally.new threePulses.parameters).run
      (threePulses.actions 3 ++ [.injectorOpen 600])).total
    threePulses.Timely 3 ∧ total.injectorOpenCycles = 100 ∧ total.injectorPulses = 2 ∧
      total.injectorCycles = 200 := by
  intro total
  have timely : threePulses.Timely 3 :=
    { before := by decide
      whileOpen := by decide
      afterwards := by decide
      closes := by decide
      reopens := by
        intro index further
        have each : ∀ index < 2,
            (threePulses.pulse index).opening ≤ (threePulses.pulse (index + 1)).opening ∧
              (threePulses.pulse (index + 1)).opening <
                (threePulses.pulse index).opening + 2 ^ 32 := by decide
        exact each index (Nat.lt_of_succ_lt_succ further)
      ticksOpen := by decide
      ticks := by
        intro index further
        have each : ∀ index < 2, (threePulses.pulse index).whileOpen.countP Action.isTick +
            (threePulses.pulse index).afterwards.countP Action.isTick <
              threePulses.parameters.injectorResetTicks.toNat := by decide
        exact each index (Nat.lt_of_succ_lt_succ further) }
  obtain ⟨openCycles, pulses, cycles⟩ :=
    accepted_pulses_counted threePulses 3 [.injectorOpen 600] timely (by decide)
  refine ⟨timely, openCycles.trans ?_, pulses.trans ?_, cycles.trans ?_⟩
  · decide
  · decide
  · decide

end Train

end TripComputer.Capture
