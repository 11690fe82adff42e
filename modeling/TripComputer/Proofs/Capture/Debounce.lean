import Mathlib.Data.List.Basic
import TripComputer.Proofs.Capture.RoadSpeed

/-!
# The road-speed debounce

An edge that finds no debounce under way starts one, and the tick that ends it credits a pulse;
edges that come meanwhile are dropped.  `windowed` and `tickAt?` say the same of the edges and the
ticks of a run alone: an accepted edge keeps later ones out until the tick with a certain number,
and that tick is its pulse.  `Debouncing` ties what is left of the countdown to that number.
-/

namespace TripComputer.Capture

/-- The edges that are accepted if each keeps out later ones for as many ticks as the pause has.
Up to the tick with a number, an earlier edge keeps them out. -/
def windowed (pause : Nat) : (opens : Nat) → List Stamp → List Stamp
  | _, [] => []
  | opens, edge :: rest =>
      if opens ≤ edge.ticks then edge :: windowed pause (edge.ticks + pause) rest
      else windowed pause opens rest

/-- The ticks among some actions, which come after a number of them. -/
def tickStamps (ticks : Nat) : List Action → List Stamp
  | [] => []
  | .tick now :: rest => ⟨ticks + 1, now⟩ :: tickStamps (ticks + 1) rest
  | _ :: rest => tickStamps ticks rest

/-- The tick with a number, if it has come. -/
def tickAt? (ticks : List Stamp) (number : Nat) : Option Stamp :=
  ticks.find? fun tick => tick.ticks = number

/-- The number of ticks after an action. -/
def ticksAfter (ticks : Nat) (action : Action) : Nat :=
  if action.isTick then ticks + 1 else ticks

/-- The road-speed edges of a run that change the capture. -/
def acceptedEdges (ticks : Nat) (capture : Capture) : List Action → List Stamp
  | [] => []
  | action :: rest =>
      let others := acceptedEdges (ticksAfter ticks action) (capture.act action) rest
      match action with
      | .vssEdge now => if capture.onVssEdge now = capture then others else ⟨ticks, now⟩ :: others
      | _ => others

/-- The actions of a run that credit a road-speed pulse: the number of ticks by then, and the time
from which the next pulse is measured. -/
def creditedPulses (ticks : Nat) (tally : Tally) : List Action → List Stamp
  | [] => []
  | action :: rest =>
      let acted := tally.act action
      let others := creditedPulses (ticksAfter ticks action) acted rest
      if acted.total.vssPulses = tally.total.vssPulses then others
      else ⟨ticksAfter ticks action, acted.capture.lastVss⟩ :: others

theorem ticksAfter_tick (ticks : Nat) (now : UInt32) : ticksAfter ticks (.tick now) = ticks + 1 :=
  rfl

theorem Tally.total_onVssEdge (tally : Tally) (now : UInt32) :
    (tally.act (.vssEdge now)).total = tally.drained + (tally.capture.onVssEdge now).raw := by
  rw [total_event, handle, handleInterrupt]

theorem Tally.total_onTick (tally : Tally) (now : UInt32) :
    (tally.act (.tick now)).total = tally.drained + (tally.capture.onTick now).raw := by
  rw [total_event, handle, handleInterrupt]

theorem vssSide_lastVss (capture : Capture) : capture.vssSide.lastVss = capture.lastVss := rfl

theorem acceptedEdges_vssEdge (ticks : Nat) (capture : Capture) (now : UInt32)
    (rest : List Action) :
    acceptedEdges ticks capture (.vssEdge now :: rest) =
      if capture.onVssEdge now = capture then acceptedEdges ticks (capture.onVssEdge now) rest
      else ⟨ticks, now⟩ :: acceptedEdges ticks (capture.onVssEdge now) rest := by
  rw [acceptedEdges, act_vssEdge]
  rfl

theorem creditedPulses_of_same {ticks : Nat} {tally : Tally} {action : Action}
    (same : (tally.act action).total.vssPulses = tally.total.vssPulses) (rest : List Action) :
    creditedPulses ticks tally (action :: rest) =
      creditedPulses (ticksAfter ticks action) (tally.act action) rest :=
  if_pos same

theorem acceptedEdges_other {action : Action} (noEdge : action.isVssEdge = false) (ticks : Nat)
    (capture : Capture) (rest : List Action) :
    acceptedEdges ticks capture (action :: rest) =
      acceptedEdges (ticksAfter ticks action) (capture.act action) rest := by
  cases action with
  | event event =>
      cases event with
      | wakeRequest => rfl
      | interrupt interrupt now =>
          cases interrupt with
          | vssEdge => cases noEdge
          | timerOverflow => rfl
          | injectorOpen => rfl
          | injectorClose => rfl
          | analogSample channel value => rfl
  | install parameters => rfl
  | drain => rfl
  | takeLoopDue => rfl
  | takeEvents => rfl

theorem creditedPulses_of_ne {ticks : Nat} {tally : Tally} {action : Action}
    (credited : (tally.act action).total.vssPulses ≠ tally.total.vssPulses)
    (rest : List Action) :
    creditedPulses ticks tally (action :: rest) =
      ⟨ticksAfter ticks action, (tally.act action).capture.lastVss⟩ ::
        creditedPulses (ticksAfter ticks action) (tally.act action) rest :=
  if_neg credited

section Lists

variable {pause opens ticks : Nat}

theorem opens_le_of_mem_windowed {edges : List Stamp} {edge : Stamp}
    (accepted : edge ∈ windowed pause opens edges) : opens ≤ edge.ticks := by
  induction edges generalizing opens with
  | nil => cases accepted
  | cons first rest induction =>
      rw [windowed] at accepted
      split at accepted
      next ready =>
        rcases List.mem_cons.mp accepted with rfl | later
        · exact ready
        · have further := induction later
          omega
      next => exact induction accepted

/-- Accepted edges are at least a pause apart. -/
theorem pairwise_windowed (edges : List Stamp) :
    (windowed pause opens edges).Pairwise fun earlier later =>
      earlier.ticks + pause ≤ later.ticks := by
  induction edges generalizing opens with
  | nil => exact .nil
  | cons first rest induction =>
      rw [windowed]
      split
      · exact .cons (fun _ later => opens_le_of_mem_windowed later) induction
      · exact induction

theorem windowed_sublist (edges : List Stamp) : (windowed pause opens edges).Sublist edges := by
  induction edges generalizing opens with
  | nil => exact .slnil
  | cons first rest induction =>
      rw [windowed]
      split
      · exact .cons_cons first induction
      · exact .cons first induction

theorem tickStamps_cons {action : Action} (noTick : action.isTick = false) (rest : List Action) :
    tickStamps ticks (action :: rest) = tickStamps ticks rest := by
  cases action with
  | event event =>
      cases event with
      | wakeRequest => rfl
      | interrupt interrupt now =>
          cases interrupt with
          | timerOverflow => cases noTick
          | vssEdge => rfl
          | injectorOpen => rfl
          | injectorClose => rfl
          | analogSample channel value => rfl
  | install parameters => rfl
  | drain => rfl
  | takeLoopDue => rfl
  | takeEvents => rfl

theorem le_of_mem_vssStamps {actions : List Action} {edge : Stamp}
    (seen : edge ∈ vssStamps ticks actions) : ticks ≤ edge.ticks := by
  induction actions generalizing ticks with
  | nil => cases seen
  | cons action rest induction =>
      cases action using Action.vssCases with
      | edge now =>
          rcases List.mem_cons.mp seen with rfl | later
          · exact Nat.le_refl ticks
          · exact induction later
      | tick now => exact Nat.le_of_succ_le (induction seen)
      | install parameters => exact induction seen
      | other action noEdge noTick fixed =>
          rw [vssStamps_cons noEdge noTick] at seen
          exact induction seen

/-- The numbers of the ticks that are to credit a pulse: the one that ends the debounce under way,
if there is one, and those that are a pause after accepted edges. -/
def dueTicks (pause opens ticks : Nat) (edges : List Stamp) : List Nat :=
  (if ticks < opens then [opens] else []) ++ edges.map fun edge => edge.ticks + pause

/-- The pulses of ticks that are due, as far as these have come. -/
def duePulses (pause opens ticks : Nat) (actions : List Action) : List Stamp :=
  (dueTicks pause opens ticks (windowed pause opens (vssStamps ticks actions))).filterMap
    (tickAt? (tickStamps ticks actions))

variable {rest : List Action} {now : UInt32}

theorem duePulses_nil : duePulses pause opens ticks [] = [] :=
  List.filterMap_eq_nil_iff.mpr fun _ _ => rfl

theorem duePulses_vssEdge_accepted (ready : opens ≤ ticks) (pausing : 0 < pause) :
    duePulses pause opens ticks (.vssEdge now :: rest) =
      duePulses pause (ticks + pause) ticks rest := by
  have edges : windowed pause opens (vssStamps ticks (.vssEdge now :: rest)) =
      ⟨ticks, now⟩ :: windowed pause (ticks + pause) (vssStamps ticks rest) := if_pos ready
  rw [duePulses, edges, dueTicks, if_neg (Nat.not_lt.mpr ready), duePulses, dueTicks,
    if_pos (Nat.lt_add_of_pos_right pausing)]
  rfl

theorem duePulses_vssEdge_dropped (closed : ticks < opens) :
    duePulses pause opens ticks (.vssEdge now :: rest) = duePulses pause opens ticks rest := by
  have edges : windowed pause opens (vssStamps ticks (.vssEdge now :: rest)) =
      windowed pause opens (vssStamps ticks rest) := if_neg (Nat.not_le.mpr closed)
  rw [duePulses, edges]
  rfl

theorem duePulses_other {action : Action} (noEdge : action.isVssEdge = false)
    (noTick : action.isTick = false) :
    duePulses pause opens ticks (action :: rest) = duePulses pause opens ticks rest := by
  rw [duePulses, vssStamps_cons noEdge noTick, tickStamps_cons noTick, duePulses]

/-- No tick that is due has a number of one that has come. -/
theorem lt_of_mem_dueTicks {edges : List Stamp} (pausing : 0 < pause)
    (later : ∀ edge ∈ edges, ticks ≤ edge.ticks) {number : Nat}
    (due : number ∈ dueTicks pause opens ticks edges) : ticks < number := by
  rw [dueTicks, List.mem_append] at due
  rcases due with pending | accepted
  · split at pending
    next closed => rwa [List.mem_singleton.mp pending]
    next => cases pending
  · obtain ⟨edge, seen, rfl⟩ := List.mem_map.mp accepted
    have after := later edge seen
    omega

theorem dueTicks_succ (edges : List Stamp) :
    dueTicks pause opens ticks edges =
      (if opens = ticks + 1 then [ticks + 1] else []) ++
        dueTicks pause opens (ticks + 1) edges := by
  rw [dueTicks, dueTicks, ← List.append_assoc]
  congr 1
  by_cases ends : opens = ticks + 1
  · subst ends
    rw [if_pos (Nat.lt_succ_self ticks), if_pos rfl, if_neg (Nat.lt_irrefl _), List.append_nil]
  · rw [if_neg ends, List.nil_append]
    exact if_congr (by omega) rfl rfl

theorem duePulses_tick (pausing : 0 < pause) :
    duePulses pause opens ticks (.tick now :: rest) =
      (if opens = ticks + 1 then [⟨ticks + 1, now⟩] else []) ++
        duePulses pause opens (ticks + 1) rest := by
  have later (number : Nat)
      (due : number ∈ dueTicks pause opens (ticks + 1)
        (windowed pause opens (vssStamps (ticks + 1) rest))) :
      tickAt? (tickStamps ticks (.tick now :: rest)) number =
        tickAt? (tickStamps (ticks + 1) rest) number := by
    have after : ticks + 1 < number := lt_of_mem_dueTicks pausing
      (fun edge accepted => le_of_mem_vssStamps ((windowed_sublist _).mem accepted)) due
    exact List.find?_cons_of_neg (by simpa using Nat.ne_of_lt after)
  have first : tickAt? (tickStamps ticks (.tick now :: rest)) (ticks + 1) =
      some ⟨ticks + 1, now⟩ := List.find?_cons_of_pos (by simp)
  rw [duePulses, vssStamps, dueTicks_succ, List.filterMap_append, List.filterMap_congr later,
    duePulses]
  congr 1
  split
  · rw [List.filterMap_cons_some first, List.filterMap_nil]
  · rfl

end Lists

/-- The debounce of the road-speed side, which lets edges in again from a tick on. -/
structure Debouncing (pause opens ticks : Nat) (side : VssSide) : Prop where
  pauses : side.parameters.vssPauseTicks.toNat = pause
  debounces : side.debounceCountdown.toNat = opens - ticks

section Handlers

variable (capture : Capture) (now : UInt32)

theorem ageDebounce_of_one (ends : capture.debounceCountdown.toNat = 1) :
    capture.ageDebounce now = ({ capture with debounceCountdown := 0 } : Capture).creditVss now := by
  have counting : capture.debounceCountdown > 0 :=
    UInt32.lt_iff_toNat_lt.mpr (by rw [ends]; decide)
  have last : capture.debounceCountdown - 1 = 0 := (pred_eq_zero_iff counting).mpr ends
  unfold ageDebounce
  rw [if_pos counting, last]
  rfl

theorem ageDebounce_of_ne_one (goesOn : capture.debounceCountdown.toNat ≠ 1) :
    ∃ left : UInt32, left.toNat = capture.debounceCountdown.toNat - 1 ∧
      capture.ageDebounce now = { capture with debounceCountdown := left } := by
  unfold ageDebounce
  by_cases counting : capture.debounceCountdown > 0
  · have more : ¬capture.debounceCountdown - 1 = 0 :=
      fun zero => goesOn ((pred_eq_zero_iff counting).mp zero)
    rw [if_pos counting]
    exact ⟨_, toNat_pred counting, if_neg more⟩
  · have zero := toNat_eq_zero counting
    rw [if_neg counting, zero]
    exact ⟨_, zero, rfl⟩

variable {capture} (debounced : capture.parameters.vssPauseTicks ≠ 0)

include debounced

theorem onVssEdge_of_settled (settled : capture.debounceCountdown = 0) :
    capture.onVssEdge now =
      { capture with debounceCountdown := capture.parameters.vssPauseTicks } := by
  rw [onVssEdge, if_neg debounced, if_pos settled]

/-- An edge is ignored where a debounce is under way, and starts one otherwise. -/
theorem onVssEdge_eq_self_iff : capture.onVssEdge now = capture ↔ capture.debounceCountdown ≠ 0 := by
  constructor
  · intro ignored settled
    rw [onVssEdge_of_settled now debounced settled] at ignored
    exact debounced ((congrArg Capture.debounceCountdown ignored).trans settled)
  · intro running
    rw [onVssEdge, if_neg debounced, if_neg running]

end Handlers

theorem pulses_ne (trip : Trip) (cycles : UInt32) :
    (trip + Trip.vssCredit cycles).vssPulses ≠ trip.vssPulses := by
  intro same
  have one : (1 : UInt32) = 0 := UInt32.add_eq_left.mp same
  exact absurd one (by decide)

section Steps

variable {pause opens reset ticks : Nat} {last : Option Stamp} {capture : Capture}

theorem Debouncing.debounced (debouncing : Debouncing pause opens ticks capture.vssSide)
    (pausing : 0 < pause) : capture.parameters.vssPauseTicks ≠ 0 := by
  intro zero
  have none : pause = 0 := debouncing.pauses.symm.trans (congrArg UInt32.toNat zero)
  omega

/-- Before the debounce is looked at, a tick ages what pulses are measured with. -/
theorem Measuring.onTick (measuring : Measuring reset ticks last capture.vssSide) (now : UInt32) :
    ∃ aged : Capture, Measuring reset (ticks + 1) last aged.vssSide ∧
      aged.parameters = capture.parameters ∧
      aged.debounceCountdown = capture.debounceCountdown ∧ aged.raw = capture.raw ∧
      (capture.onTick now).vssSide = (aged.ageDebounce now).vssSide ∧
      (capture.onTick now).raw = (aged.ageDebounce now).raw := by
  have timed : Measuring reset ticks last (capture.countSystemCycles now).ageInjector.vssSide := by
    rw [vssSide_ageInjector]
    exact measuring
  have injector := Wanes.ageInjector (capture.countSystemCycles now)
  have vss := Wanes.ageVss (capture.countSystemCycles now).ageInjector
  refine ⟨_, timed.ageVss, ?_, ?_, ?_, ?_, ?_⟩
  · rw [parameters_ageVss, parameters_ageInjector]
    rfl
  · exact vss.debounceCountdown.trans injector.debounceCountdown
  · exact vss.raw.trans injector.raw
  · rw [Capture.onTick, (sides_schedule _).2]
  · exact ((Wanes.ageLoop _).trans ((Wanes.ageSleep _).trans (.answerWake _))).raw

theorem Measuring.debounces (measuring : Measuring reset ticks last capture.vssSide)
    (left : UInt32) :
    Measuring reset ticks last ({ capture with debounceCountdown := left } : Capture).vssSide where
  resets := measuring.resets
  past := measuring.past
  lastVss := measuring.lastVss
  countdown := measuring.countdown
  goodVss := measuring.goodVss

/-- Pulses are measured, and edges debounced. -/
structure Pulsing (pause opens reset ticks : Nat) (last : Option Stamp) (side : VssSide) : Prop
    extends Measuring reset ticks last side, Debouncing pause opens ticks side

namespace Pulsing

theorem start {parameters : CaptureParameters} :
    Pulsing parameters.vssPauseTicks.toNat 0 parameters.vssResetTicks.toNat 0 none
      (Capture.new parameters).vssSide where
  resets := rfl
  past := nofun
  lastVss := nofun
  countdown := rfl
  goodVss := iff_of_false Bool.false_ne_true (Nat.lt_irrefl 0)
  pauses := rfl
  debounces := rfl

/-- An edge that no debounce keeps out starts one. -/
theorem onVssEdge_ready (pulsing : Pulsing pause opens reset ticks last capture.vssSide)
    (pausing : 0 < pause) (ready : opens ≤ ticks) (now : UInt32) :
    capture.onVssEdge now ≠ capture ∧ (capture.onVssEdge now).raw = capture.raw ∧
      Pulsing pause (ticks + pause) reset ticks last (capture.onVssEdge now).vssSide := by
  have debounced := pulsing.debounced pausing
  have settled : capture.debounceCountdown = 0 :=
    UInt32.toNat_inj.mp (pulsing.debounces.trans (Nat.sub_eq_zero_of_le ready))
  refine ⟨fun ignored => (onVssEdge_eq_self_iff now debounced).mp ignored settled, ?_⟩
  rw [onVssEdge_of_settled now debounced settled]
  refine ⟨rfl, pulsing.toMeasuring.debounces _, pulsing.pauses, ?_⟩
  exact pulsing.pauses.trans (Nat.add_sub_cancel_left ..).symm

/-- An edge that a debounce keeps out is ignored. -/
theorem onVssEdge_closed (pulsing : Pulsing pause opens reset ticks last capture.vssSide)
    (pausing : 0 < pause) (closed : ticks < opens) (now : UInt32) :
    capture.onVssEdge now = capture := by
  refine (onVssEdge_eq_self_iff now (pulsing.debounced pausing)).mpr fun settled => ?_
  have ended : opens - ticks = 0 := pulsing.debounces.symm.trans (congrArg UInt32.toNat settled)
  omega

/-- The tick that an accepted edge has waited for credits its pulse. -/
theorem onTick_due (pulsing : Pulsing pause opens reset ticks last capture.vssSide)
    (lapsing : 0 < reset) (due : opens = ticks + 1) (now : UInt32) :
    (capture.onTick now).raw =
        capture.raw + Trip.vssCredit (cyclesSince reset last ⟨ticks + 1, now⟩) ∧
      Pulsing pause opens reset (ticks + 1) (some ⟨ticks + 1, now⟩)
        (capture.onTick now).vssSide := by
  obtain ⟨aged, measuring, parameters, countdown, raw, side, ticked⟩ :=
    pulsing.toMeasuring.onTick now
  have ends : aged.debounceCountdown.toNat = 1 := by
    rw [countdown]
    exact pulsing.debounces.trans (by omega)
  rw [ageDebounce_of_one aged now ends] at side ticked
  have settled := measuring.debounces 0
  refine ⟨?_, ?_⟩
  · rw [ticked, settled.raw_creditVss, ← raw]
  · rw [side]
    refine ⟨settled.creditVss lapsing now, ?_, ?_⟩
    · exact (congrArg (·.vssPauseTicks.toNat) parameters).trans pulsing.pauses
    · rw [due, Nat.sub_self]
      rfl

/-- Any other tick credits nothing. -/
theorem onTick_early (pulsing : Pulsing pause opens reset ticks last capture.vssSide)
    (early : opens ≠ ticks + 1) (now : UInt32) :
    (capture.onTick now).raw = capture.raw ∧
      Pulsing pause opens reset (ticks + 1) last (capture.onTick now).vssSide := by
  obtain ⟨aged, measuring, parameters, countdown, raw, side, ticked⟩ :=
    pulsing.toMeasuring.onTick now
  have before : capture.debounceCountdown.toNat = opens - ticks := pulsing.debounces
  obtain ⟨left, counted, kept⟩ := ageDebounce_of_ne_one aged now (by rw [countdown]; omega)
  rw [kept] at side ticked
  refine ⟨ticked.trans raw, ?_⟩
  rw [side]
  refine ⟨measuring.debounces left, ?_, ?_⟩
  · exact (congrArg (·.vssPauseTicks.toNat) parameters).trans pulsing.pauses
  · rw [countdown] at counted
    exact counted.trans (by omega)

end Pulsing

/-- What a run accepts, credits and counts, from a capture that may have a debounce under way. -/
structure Windows (pause opens reset ticks : Nat) (last : Option Stamp) (tally : Tally)
    (actions : List Action) : Prop where
  accepted :
    acceptedEdges ticks tally.capture actions = windowed pause opens (vssStamps ticks actions)
  credited : creditedPulses ticks tally actions = duePulses pause opens ticks actions
  counted : (tally.run actions).total.vssPart =
    tally.total.vssPart + countedAfter reset last (duePulses pause opens ticks actions)

namespace Windows

variable {tally : Tally} {rest : List Action} {now : UInt32}

theorem nil : Windows pause opens reset ticks last tally [] where
  accepted := rfl
  credited := duePulses_nil.symm
  counted := by
    rw [duePulses_nil, countedAfter_nil, add_zero]
    rfl

theorem vssEdge_ready
    (pulsing : Pulsing pause opens reset ticks last tally.capture.vssSide) (pausing : 0 < pause)
    (ready : opens ≤ ticks)
    (later : Windows pause (ticks + pause) reset ticks last (tally.act (.vssEdge now)) rest) :
    Windows pause opens reset ticks last tally (.vssEdge now :: rest) := by
  obtain ⟨accepted, raw, _⟩ := pulsing.onVssEdge_ready pausing ready now
  have same : (tally.act (.vssEdge now)).total = tally.total := by
    rw [tally.total_onVssEdge, raw, Tally.total]
  have edges := later.accepted
  rw [Tally.capture_act, act_vssEdge] at edges
  have due : duePulses pause opens ticks (.vssEdge now :: rest) =
      duePulses pause (ticks + pause) ticks rest := duePulses_vssEdge_accepted ready pausing
  exact
    { accepted := by
        rw [acceptedEdges_vssEdge, if_neg accepted, edges]
        exact (if_pos ready).symm
      credited := by
        rw [due, creditedPulses_of_same (congrArg Trip.vssPulses same)]
        exact later.credited
      counted := by rw [due, Tally.run_cons, later.counted, same] }

theorem vssEdge_closed
    (pulsing : Pulsing pause opens reset ticks last tally.capture.vssSide) (pausing : 0 < pause)
    (closed : ticks < opens)
    (later : Windows pause opens reset ticks last (tally.act (.vssEdge now)) rest) :
    Windows pause opens reset ticks last tally (.vssEdge now :: rest) := by
  have ignored := pulsing.onVssEdge_closed pausing closed now
  have same : (tally.act (.vssEdge now)).total = tally.total := by
    rw [tally.total_onVssEdge, ignored, Tally.total]
  have edges := later.accepted
  rw [Tally.capture_act, act_vssEdge] at edges
  have due : duePulses pause opens ticks (.vssEdge now :: rest) =
      duePulses pause opens ticks rest := duePulses_vssEdge_dropped closed
  exact
    { accepted := by
        rw [acceptedEdges_vssEdge, if_pos ignored, edges]
        exact (if_neg (Nat.not_le.mpr closed)).symm
      credited := by
        rw [due, creditedPulses_of_same (congrArg Trip.vssPulses same)]
        exact later.credited
      counted := by rw [due, Tally.run_cons, later.counted, same] }

theorem tick_due (pulsing : Pulsing pause opens reset ticks last tally.capture.vssSide)
    (pausing : 0 < pause) (lapsing : 0 < reset) (due : opens = ticks + 1)
    (later : Windows pause opens reset (ticks + 1) (some ⟨ticks + 1, now⟩)
      (tally.act (.tick now)) rest) :
    Windows pause opens reset ticks last tally (.tick now :: rest) := by
  obtain ⟨raw, pulsed⟩ := pulsing.onTick_due lapsing due now
  have credit : (tally.act (.tick now)).total =
      tally.total + Trip.vssCredit (cyclesSince reset last ⟨ticks + 1, now⟩) := by
    rw [tally.total_onTick, raw, Tally.total, add_assoc]
  have pulse : (tally.act (.tick now)).capture.lastVss = now := by
    rw [Tally.capture_act, act_tick, ← vssSide_lastVss]
    exact pulsed.lastVss _ rfl
  have one : (tally.act (.tick now)).total.vssPulses ≠ tally.total.vssPulses := by
    rw [credit]
    exact pulses_ne _ _
  have pulses : duePulses pause opens ticks (.tick now :: rest) =
      ⟨ticks + 1, now⟩ :: duePulses pause opens (ticks + 1) rest := by
    rw [duePulses_tick pausing, if_pos due]
    rfl
  exact
    { accepted := by
        rw [acceptedEdges_other rfl, ticksAfter_tick, ← Tally.capture_act, later.accepted,
          vssStamps]
      credited := by
        rw [pulses, creditedPulses_of_ne one, pulse, ticksAfter_tick, later.credited]
      counted := by
        rw [pulses, Tally.run_cons, later.counted, credit, Trip.vssPart_add_vssCredit,
          countedAfter_cons, add_assoc] }

theorem tick_early (pulsing : Pulsing pause opens reset ticks last tally.capture.vssSide)
    (pausing : 0 < pause) (early : opens ≠ ticks + 1)
    (later : Windows pause opens reset (ticks + 1) last (tally.act (.tick now)) rest) :
    Windows pause opens reset ticks last tally (.tick now :: rest) := by
  have same : (tally.act (.tick now)).total = tally.total := by
    rw [tally.total_onTick, (pulsing.onTick_early early now).1, Tally.total]
  have pulses : duePulses pause opens ticks (.tick now :: rest) =
      duePulses pause opens (ticks + 1) rest := by
    rw [duePulses_tick pausing, if_neg early]
    rfl
  exact
    { accepted := by
        rw [acceptedEdges_other rfl, ticksAfter_tick, ← Tally.capture_act, later.accepted,
          vssStamps]
      credited := by
        rw [pulses, creditedPulses_of_same (congrArg Trip.vssPulses same), ticksAfter_tick,
          later.credited]
      counted := by rw [pulses, Tally.run_cons, later.counted, same] }

theorem other {action : Action} (noEdge : action.isVssEdge = false)
    (noTick : action.isTick = false)
    (later : Windows pause opens reset ticks last (tally.act action) rest) :
    Windows pause opens reset ticks last tally (action :: rest) := by
  have part : (tally.act action).total.vssPart = tally.total.vssPart :=
    tally.vssPart_act noEdge noTick
  have here : ticksAfter ticks action = ticks := by rw [ticksAfter, noTick]; rfl
  have pulses : duePulses pause opens ticks (action :: rest) = duePulses pause opens ticks rest :=
    duePulses_other noEdge noTick
  exact
    { accepted := by
        rw [acceptedEdges_other noEdge, here, vssStamps_cons noEdge noTick]
        exact later.accepted
      credited := by
        have same : (tally.act action).total.vssPulses = tally.total.vssPulses :=
          congrArg (·.vssPulses) part
        rw [pulses, creditedPulses_of_same same, here]
        exact later.credited
      counted := by rw [pulses, Tally.run_cons, later.counted, part] }

end Windows

theorem Pulsing.run {tally : Tally}
    (pulsing : Pulsing pause opens reset ticks last tally.capture.vssSide) (pausing : 0 < pause)
    (lapsing : 0 < reset) (actions : List Action)
    (fixed : ∀ action ∈ actions, action.isInstall = false) :
    Windows pause opens reset ticks last tally actions := by
  -- an accepted edge moves the tick from which edges are let in, and a pulse becomes the last one
  induction actions generalizing opens ticks last tally with
  | nil => exact .nil
  | cons action rest induction =>
      obtain ⟨first, others⟩ := List.forall_mem_cons.mp fixed
      cases action using Action.vssCases with
      | edge now =>
          by_cases ready : opens ≤ ticks
          · have armed := (pulsing.onVssEdge_ready pausing ready now).2.2
            rw [← act_vssEdge, ← Tally.capture_act] at armed
            exact .vssEdge_ready pulsing pausing ready (induction armed others)
          · have closed := Nat.lt_of_not_le ready
            have ignored : Pulsing pause opens reset ticks last
                (tally.act (.vssEdge now)).capture.vssSide := by
              rw [Tally.capture_act, act_vssEdge, pulsing.onVssEdge_closed pausing closed now]
              exact pulsing
            exact .vssEdge_closed pulsing pausing closed (induction ignored others)
      | tick now =>
          by_cases due : opens = ticks + 1
          · have credited := (pulsing.onTick_due lapsing due now).2
            rw [← act_tick, ← Tally.capture_act] at credited
            exact .tick_due pulsing pausing lapsing due (induction credited others)
          · have aged := (pulsing.onTick_early due now).2
            rw [← act_tick, ← Tally.capture_act] at aged
            exact .tick_early pulsing pausing due (induction aged others)
      | install parameters => cases first
      | other action noEdge noTick fixed =>
          have kept : Pulsing pause opens reset ticks last (tally.act action).capture.vssSide := by
            rw [Tally.capture_act, vssSide_act tally.capture noEdge noTick fixed]
            exact pulsing
          exact .other noEdge noTick (induction kept others)

end Steps

theorem Action.exists_of_isTick {action : Action} (ticking : action.isTick = true) :
    ∃ now, action = .tick now := by
  cases action using Action.vssCases with
  | tick now => exact ⟨now, rfl⟩
  | edge now => cases ticking
  | install parameters => cases ticking
  | other action noEdge noTick fixed =>
      rw [noTick] at ticking
      cases ticking

/-- Ticks have consecutive numbers. -/
theorem map_ticks_tickStamps (ticks : Nat) (actions : List Action) :
    (tickStamps ticks actions).map Stamp.ticks =
      List.range' (ticks + 1) (actions.countP Action.isTick) := by
  induction actions generalizing ticks with
  | nil => rfl
  | cons action rest induction =>
      cases ticking : action.isTick with
      | false =>
          rw [tickStamps_cons ticking, List.countP_cons_of_neg (by rw [ticking]; decide), induction]
      | true =>
          obtain ⟨now, rfl⟩ := Action.exists_of_isTick ticking
          rw [tickStamps, List.map_cons, induction, List.countP_cons_of_pos ticking,
            List.range'_succ]

theorem isSome_tickAt? (actions : List Action) (number : Nat) :
    (tickAt? (tickStamps 0 actions) number).isSome =
      decide (1 ≤ number ∧ number ≤ actions.countP Action.isTick) := by
  have numbers : number ∈ (tickStamps 0 actions).map Stamp.ticks ↔
      1 ≤ number ∧ number ≤ actions.countP Action.isTick := by
    rw [map_ticks_tickStamps, List.mem_range'_1]
    omega
  rw [tickAt?, Bool.eq_iff_iff, List.find?_isSome, decide_eq_true_iff, ← numbers, List.mem_map]
  simp

theorem ticks_of_tickAt? {ticks : List Stamp} {number : Nat} {tick : Stamp}
    (found : tickAt? ticks number = some tick) : tick.ticks = number := by
  simpa using List.find?_some found

/-- The pulses of edges that are a pause apart are a pause apart too. -/
theorem pairwise_pulses {pause : Nat} {edges : List Stamp} (ticks : List Stamp)
    (apart : edges.Pairwise fun earlier later => earlier.ticks + pause ≤ later.ticks) :
    (edges.filterMap fun edge => tickAt? ticks (edge.ticks + pause)).Pairwise
      fun earlier later => earlier.ticks + pause ≤ later.ticks := by
  refine List.pairwise_filterMap.mpr (apart.imp ?_)
  intro earlier later spaced first one second two
  rw [ticks_of_tickAt? one, ticks_of_tickAt? two]
  exact Nat.add_le_add_right spaced pause

/-- There are as many pulses as edges whose pause is over. -/
theorem length_pulses {pause : Nat} (pausing : 1 ≤ pause) (actions : List Action)
    (edges : List Stamp) :
    (edges.filterMap fun edge => tickAt? (tickStamps 0 actions) (edge.ticks + pause)).length =
      edges.countP fun edge => edge.ticks + pause ≤ actions.countP Action.isTick := by
  rw [List.length_filterMap_eq_countP, List.countP_congr]
  intro edge _
  rw [isSome_tickAt?, decide_eq_true_iff, decide_eq_true_iff]
  omega

/-- The edges of a run that the debounce accepts are those that come when the pause of the last
accepted one is over.  Each becomes one pulse, on the tick that ends its pause and at its time, once
that tick has come.  So pulses are at least a pause apart, they are counted once each, and
the cycles between two of them are counted if the later one comes before the earlier one lapses. -/
theorem debounced_edges_windowed (parameters : CaptureParameters) (actions : List Action)
    (pausing : 1 ≤ parameters.vssPauseTicks.toNat) (lapsing : 1 ≤ parameters.vssResetTicks.toNat)
    (fixed : ∀ action ∈ actions, action.isInstall = false) :
    let pause := parameters.vssPauseTicks.toNat
    let reset := parameters.vssResetTicks.toNat
    let start := Tally.new parameters
    let final := start.run actions
    let edges := windowed pause 0 (vssStamps 0 actions)
    let pulses := edges.filterMap fun edge => tickAt? (tickStamps 0 actions) (edge.ticks + pause)
    (∀ now, final.capture.onVssEdge now = final.capture ↔ final.capture.debounceCountdown ≠ 0) ∧
      acceptedEdges 0 start.capture actions = edges ∧
      creditedPulses 0 start actions = pulses ∧
      (pulses.Pairwise fun earlier later => earlier.ticks + pause ≤ later.ticks) ∧
      final.total.vssPulses =
        (edges.countP fun edge => edge.ticks + pause ≤ actions.countP Action.isTick).toUInt32 ∧
      final.total.vssCycles = (cyclesBetween reset pulses).toUInt64 := by
  intro pause reset start final edges pulses
  have windows : Windows pause 0 reset 0 none start actions :=
    Pulsing.start.run pausing lapsing actions fixed
  have due : duePulses pause 0 0 actions = pulses :=
    List.filterMap_map ..
  have counted : final.total.vssPart = countedAfter reset none pulses := by
    rw [← due]
    exact windows.counted.trans (zero_add _)
  have debounced : final.capture.parameters.vssPauseTicks ≠ 0 := by
    rw [Tally.capture_run, parameters_run _ fixed]
    intro none
    exact absurd (congrArg UInt32.toNat none) (Nat.ne_of_gt pausing)
  refine ⟨fun now => onVssEdge_eq_self_iff now debounced, windows.accepted,
    windows.credited.trans due, pairwise_pulses _ (pairwise_windowed _), ?_,
    congrArg Trip.vssCycles counted⟩
  rw [← length_pulses pausing]
  exact congrArg Trip.vssPulses counted

/-- Of five edges one is dropped and one still waits.  The clock wraps between the first two pulses,
and the second has just lapsed when the third comes. -/
theorem three_pulses_of_five_edges :
    let parameters := { CaptureParameters.inert with vssPauseTicks := 2, vssResetTicks := 3 }
    let actions : List Action :=
      [.vssEdge 4294966700, .vssEdge 4294966710, .tick 4294966784, .drain, .tick 4294967040,
        .vssEdge 4294967100, .tick 0, .injectorOpen 10, .tick 256, .tick 512, .vssEdge 600,
        .tick 768, .tick 1024, .vssEdge 1030, .tick 1280]
    let start := Tally.new parameters
    let final := start.run actions
    1 ≤ parameters.vssPauseTicks.toNat ∧ 1 ≤ parameters.vssResetTicks.toNat ∧
      (∀ action ∈ actions, action.isInstall = false) ∧
      acceptedEdges 0 start.capture actions =
        [⟨0, 4294966700⟩, ⟨2, 4294967100⟩, ⟨5, 600⟩, ⟨7, 1030⟩] ∧
      creditedPulses 0 start actions = [⟨2, 4294967040⟩, ⟨4, 256⟩, ⟨7, 1024⟩] ∧
      final.total.vssPulses = 3 ∧ final.total.vssCycles = 512 ∧
      final.capture.onVssEdge 1300 = final.capture := by
  intro parameters actions start final
  have pausing : 1 ≤ parameters.vssPauseTicks.toNat := by decide
  have lapsing : 1 ≤ parameters.vssResetTicks.toNat := by decide
  have fixed : ∀ action ∈ actions, action.isInstall = false := by decide
  have running : final.capture.debounceCountdown ≠ 0 := by decide +kernel
  obtain ⟨ignores, accepted, credited, _, pulses, cycles⟩ :=
    debounced_edges_windowed parameters actions pausing lapsing fixed
  exact ⟨pausing, lapsing, fixed, accepted, credited, pulses, cycles,
    (ignores 1300).mpr running⟩

end TripComputer.Capture
