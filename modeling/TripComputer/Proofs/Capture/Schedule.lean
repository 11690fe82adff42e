import Mathlib.Data.List.DropRight
import TripComputer.Proofs.Capture.Debounce

/-!
# The schedule of the main loop and of sleep

Edges leave the schedule alone; they can only ask for a wake.  `Ticked` says all that a tick does to
the schedule, and it follows that both countdowns are functions of the number of ticks: `Looping`
ties the one to the multiples of the loop's period, `Sleeping` the other to the latest tick that
answered a wake request.
-/

namespace TripComputer.Capture

/-- What the tick schedules the main loop and sleep with. -/
structure Schedule where
  parameters : CaptureParameters
  loopCountdown : UInt32
  loopDue : Bool
  awake : Bool
  sleepCountdown : UInt32
  events : TickEvents

/-- Whether the countdown to sleep is over, and the next tick is to act on it. -/
def Schedule.expiring (schedule : Schedule) : Bool :=
  schedule.awake && schedule.sleepCountdown = 0

def schedule (capture : Capture) : Schedule where
  parameters := capture.parameters
  loopCountdown := capture.loopCountdown
  loopDue := capture.loopDue
  awake := capture.awake
  sleepCountdown := capture.sleepCountdown
  events := capture.events

theorem schedule_awake (capture : Capture) : capture.schedule.awake = capture.awake := rfl

theorem schedule_events (capture : Capture) : capture.schedule.events = capture.events := rfl

/-- Whether an action asks for a wake.  A credited pulse does, and an injector edge that is accepted:
an opening soon enough after the last one, or a closing after an acceptable duration. -/
def stirs (capture : Capture) : Action → Bool
  | .vssEdge now => (capture.onVssEdge now).raw.vssPulses ≠ capture.raw.vssPulses
  | .tick now => (capture.onTick now).raw.vssPulses ≠ capture.raw.vssPulses
  | .injectorOpen now =>
      capture.fresh.goodInjector &&
        Clock.interval capture.thisOpening now < capture.parameters.minGoodCycles
  | .injectorClose now => capture.fresh.openingSeen && (capture.acceptedDuration? now).isSome
  | .event .wakeRequest => true
  | _ => false

/-- Whether an action is a tick that answers a wake request: one that it finds, or its own. -/
def wakes (capture : Capture) (action : Action) : Bool :=
  action.isTick && (capture.wakeRequested || capture.stirs action)

section Edges

variable (capture : Capture) (now : UInt32)

theorem schedule_onVssEdge : (capture.onVssEdge now).schedule = capture.schedule := by
  unfold onVssEdge
  split_ifs <;> rfl

theorem schedule_onInjectorOpen : (capture.onInjectorOpen now).schedule = capture.schedule := by
  unfold onInjectorOpen measureEngineCycle
  dsimp only
  split_ifs <;> rfl

theorem schedule_onInjectorClose : (capture.onInjectorClose now).schedule = capture.schedule := by
  unfold onInjectorClose judgeDuration
  split_ifs
  · cases capture.acceptedDuration? now <;> rfl
  · rfl

/-- The actions that the schedule answers to, and the others, which leave it alone. -/
@[elab_as_elim]
theorem Action.scheduleCases {motive : Action → Prop} (action : Action)
    (tick : ∀ now, motive (.tick now)) (install : ∀ parameters, motive (.install parameters))
    (takeLoopDue : motive .takeLoopDue) (takeEvents : motive .takeEvents)
    (other : ∀ action : Action, action.isTick = false → action ≠ .takeLoopDue →
      (∀ capture : Capture, (capture.act action).schedule = capture.schedule) → motive action) :
    motive action := by
  cases action with
  | event event =>
      cases event with
      | wakeRequest => exact other _ rfl nofun fun _ => rfl
      | interrupt interrupt now =>
          cases interrupt with
          | timerOverflow => exact tick now
          | vssEdge => exact other _ rfl nofun fun capture => schedule_onVssEdge capture now
          | injectorOpen =>
              exact other _ rfl nofun fun capture => schedule_onInjectorOpen capture now
          | injectorClose =>
              exact other _ rfl nofun fun capture => schedule_onInjectorClose capture now
          | analogSample channel value => exact other _ rfl nofun fun _ => rfl
  | install parameters => exact install parameters
  | drain => exact other _ rfl nofun fun _ => rfl
  | takeLoopDue => exact takeLoopDue
  | takeEvents => exact takeEvents

theorem raw_creditVss_pulses (capture : Capture) (now : UInt32) :
    (capture.creditVss now).raw.vssPulses ≠ capture.raw.vssPulses := by
  have credited : (capture.creditVss now).raw = _ := Trip.creditVss_eq_add _ _
  rw [credited]
  exact pulses_ne _ _

theorem stirs_vssEdge : capture.stirs (.vssEdge now) =
    decide ((capture.onVssEdge now).raw.vssPulses ≠ capture.raw.vssPulses) := rfl

theorem stirs_tick : capture.stirs (.tick now) =
    decide ((capture.onTick now).raw.vssPulses ≠ capture.raw.vssPulses) := rfl

theorem wakeRequested_onVssEdge :
    (capture.onVssEdge now).wakeRequested =
      (capture.wakeRequested || capture.stirs (.vssEdge now)) := by
  rw [stirs_vssEdge]
  rcases onVssEdge_cases capture now with ignored | atOnce | ⟨_, pause, _, held⟩
  · rw [ignored, decide_eq_false (absurd rfl), Bool.or_false]
  · rw [atOnce, decide_eq_true (raw_creditVss_pulses capture now), Bool.or_true]
    rfl
  · rw [held, decide_eq_false (absurd rfl), Bool.or_false]

theorem wakeRequested_onInjectorOpen :
    (capture.onInjectorOpen now).wakeRequested =
      (capture.wakeRequested || capture.stirs (.injectorOpen now)) := by
  unfold onInjectorOpen measureEngineCycle stirs
  dsimp only
  split_ifs <;> simp [*]

theorem wakeRequested_onInjectorClose :
    (capture.onInjectorClose now).wakeRequested =
      (capture.wakeRequested || capture.stirs (.injectorClose now)) := by
  unfold onInjectorClose judgeDuration stirs
  by_cases seen : capture.fresh.openingSeen = true
  · cases accepted : capture.acceptedDuration? now <;> simp [seen, accepted]
  · simp [seen]

end Edges

section Tick

variable (capture : Capture) (now : UInt32)

theorem schedule_ageInjector : capture.ageInjector.schedule = capture.schedule ∧
    capture.ageInjector.wakeRequested = capture.wakeRequested := by
  unfold ageInjector
  dsimp only
  split_ifs <;> exact ⟨rfl, rfl⟩

theorem schedule_ageVss : capture.ageVss.schedule = capture.schedule ∧
    capture.ageVss.wakeRequested = capture.wakeRequested := by
  unfold ageVss
  dsimp only
  split_ifs <;> exact ⟨rfl, rfl⟩

theorem schedule_ageDebounce : (capture.ageDebounce now).schedule = capture.schedule ∧
    (capture.ageDebounce now).wakeRequested =
      (capture.wakeRequested ||
        (capture.ageDebounce now).raw.vssPulses ≠ capture.raw.vssPulses) := by
  by_cases ends : capture.debounceCountdown.toNat = 1
  · have credited := raw_creditVss_pulses { capture with debounceCountdown := 0 } now
    rw [ageDebounce_of_one capture now ends, decide_eq_true credited, Bool.or_true]
    exact ⟨rfl, rfl⟩
  · obtain ⟨left, _, counted⟩ := ageDebounce_of_ne_one capture now ends
    rw [counted]
    exact ⟨rfl, by rw [decide_eq_false (absurd rfl), Bool.or_false]⟩

/-- Before anything is scheduled, a tick makes its own wake request. -/
theorem onTick_aged :
    ∃ aged : Capture, aged.schedule = capture.schedule ∧
      aged.wakeRequested = capture.wakes (.tick now) ∧
      capture.onTick now = aged.ageLoop.ageSleep.answerWake := by
  obtain ⟨injector, injectorWake⟩ := schedule_ageInjector (capture.countSystemCycles now)
  obtain ⟨vss, vssWake⟩ := schedule_ageVss (capture.countSystemCycles now).ageInjector
  obtain ⟨debounce, debounceWake⟩ :=
    schedule_ageDebounce (capture.countSystemCycles now).ageInjector.ageVss now
  have raw : (capture.countSystemCycles now).ageInjector.ageVss.raw = capture.raw :=
    (Wanes.ageVss _).raw.trans (Wanes.ageInjector _).raw
  have ticked : (capture.onTick now).raw =
      ((capture.countSystemCycles now).ageInjector.ageVss.ageDebounce now).raw :=
    ((Wanes.ageLoop _).trans ((Wanes.ageSleep _).trans (.answerWake _))).raw
  refine ⟨_, debounce.trans (vss.trans injector), ?_, rfl⟩
  rw [debounceWake, vssWake, injectorWake, raw, wakes, stirs_tick, ticked]
  rfl

theorem toNat_pred_or_zero (count : UInt32) :
    (if count > 0 then count - 1 else 0).toNat = count.toNat - 1 := by
  split
  next positive => exact toNat_pred positive
  next none => rw [toNat_eq_zero none, UInt32.toNat_zero]

/-- The loop is due at the end of its countdown, which then starts again. -/
theorem ageLoop_spec :
    ∃ left : UInt32,
      left.toNat = (if capture.loopCountdown.toNat ≤ 1 then
        max capture.parameters.loopTicks.toNat 1 else capture.loopCountdown.toNat - 1) ∧
      capture.ageLoop = { capture with
        loopCountdown := left
        loopDue := capture.loopDue || capture.loopCountdown.toNat ≤ 1 } := by
  have counted := toNat_pred_or_zero capture.loopCountdown
  unfold ageLoop
  dsimp only
  generalize (if capture.loopCountdown > 0 then capture.loopCountdown - 1 else 0) = left
    at counted ⊢
  by_cases ends : capture.loopCountdown.toNat ≤ 1
  · have zero : left = 0 := UInt32.toNat_inj.mp (counted.trans (by rw [UInt32.toNat_zero]; omega))
    rw [if_pos zero, if_pos ends, decide_eq_true ends, Bool.or_true]
    exact ⟨_, UInt32.toNat_max _ 1, rfl⟩
  · have more : left ≠ 0 := fun zero => by
      rw [zero, UInt32.toNat_zero] at counted
      omega
    rw [if_neg more, if_neg ends, decide_eq_false ends, Bool.or_false]
    exact ⟨left, counted, rfl⟩

/-- Awake, the computer falls asleep on the tick after the end of its countdown. -/
theorem ageSleep_spec :
    ∃ left : UInt32, left.toNat = capture.sleepCountdown.toNat - 1 ∧
      capture.ageSleep = { capture with
        sleepCountdown := left
        awake := capture.awake && !capture.schedule.expiring
        events := { capture.events with
          fellAsleep := capture.events.fellAsleep || capture.schedule.expiring } } := by
  have expiring : capture.schedule.expiring = (capture.awake && capture.sleepCountdown = 0) := rfl
  unfold ageSleep
  by_cases counting : capture.sleepCountdown > 0
  · have more : capture.sleepCountdown ≠ 0 := fun zero => by
      rw [zero] at counting
      exact absurd counting (by decide)
    rw [if_pos counting, expiring, decide_eq_false more, Bool.and_false, Bool.not_false,
      Bool.and_true, Bool.or_false]
    exact ⟨_, toNat_pred counting, rfl⟩
  · have none := toNat_eq_zero counting
    have zero : capture.sleepCountdown = 0 := UInt32.toNat_inj.mp none
    refine ⟨capture.sleepCountdown, by rw [none], ?_⟩
    rw [if_neg counting, expiring, decide_eq_true zero, Bool.and_true, Bool.and_not_self]
    split
    next awake => rw [awake, Bool.or_true]
    next asleep =>
      rw [Bool.eq_false_iff.mpr asleep, Bool.or_false, ← Bool.eq_false_iff.mpr asleep]

/-- A wake request is answered at once: the computer is awake, and its countdown starts again. -/
theorem answerWake_spec :
    capture.answerWake = { capture with
      wakeRequested := false
      sleepCountdown :=
        if capture.wakeRequested then capture.parameters.sleepTicks else capture.sleepCountdown
      awake := capture.awake || capture.wakeRequested
      events := { capture.events with
        woke := capture.events.woke || capture.wakeRequested && !capture.awake } } := by
  unfold answerWake
  split
  next requested => rw [requested, Bool.or_true, Bool.true_and]
  next unasked =>
    have none : capture.wakeRequested = false := Bool.eq_false_iff.mpr unasked
    rw [none, Bool.or_false, Bool.false_and, Bool.or_false, ← none]

/-- What a tick does to the schedule, when it answers a wake request or when it does not. -/
structure Ticked (waking : Bool) (before after : Schedule) : Prop where
  parameters : after.parameters = before.parameters
  loopCountdown : after.loopCountdown.toNat =
    if before.loopCountdown.toNat ≤ 1 then max before.parameters.loopTicks.toNat 1
    else before.loopCountdown.toNat - 1
  loopDue : after.loopDue = (before.loopDue || before.loopCountdown.toNat ≤ 1)
  awake : after.awake = (before.awake && !before.expiring || waking)
  sleepCountdown : after.sleepCountdown.toNat =
    if waking then before.parameters.sleepTicks.toNat else before.sleepCountdown.toNat - 1
  fellAsleep : after.events.fellAsleep = (before.events.fellAsleep || before.expiring)
  woke : after.events.woke =
    (before.events.woke || waking && !(before.awake && !before.expiring))

theorem onTick_ticked :
    Ticked (capture.wakes (.tick now)) capture.schedule (capture.onTick now).schedule ∧
      (capture.onTick now).wakeRequested = false := by
  obtain ⟨aged, same, waking, ticked⟩ := onTick_aged capture now
  obtain ⟨loops, looped, loop⟩ := ageLoop_spec aged
  obtain ⟨sleeps, slept, sleep⟩ := ageSleep_spec aged.ageLoop
  rw [ticked, answerWake_spec, sleep, loop, ← same, ← waking]
  rw [loop] at slept
  refine ⟨⟨rfl, looped, rfl, rfl, ?_, rfl, rfl⟩, rfl⟩
  cases aged.wakeRequested with
  | true => rfl
  | false => exact slept

end Tick

/-- A wake request stays from the action that makes it to the next tick. -/
theorem wakeRequested_act (capture : Capture) (action : Action) :
    (capture.act action).wakeRequested =
      (!action.isTick && (capture.wakeRequested || capture.stirs action)) := by
  have kept : capture.wakeRequested = (capture.wakeRequested || false) := (Bool.or_false _).symm
  cases action with
  | event event =>
      cases event with
      | wakeRequest => exact (Bool.or_true _).symm
      | interrupt interrupt now =>
          cases interrupt with
          | timerOverflow => exact (onTick_ticked capture now).2
          | vssEdge => exact wakeRequested_onVssEdge capture now
          | injectorOpen => exact wakeRequested_onInjectorOpen capture now
          | injectorClose => exact wakeRequested_onInjectorClose capture now
          | analogSample channel value => exact kept
  | install parameters => exact kept
  | drain => exact kept
  | takeLoopDue => exact kept
  | takeEvents => exact kept

/-- Whether something has asked for a wake since the last tick of a run, where something may have
done so before the run. -/
def stirred (capture : Capture) (before : Bool) : List Action → Bool
  | [] => before
  | action :: rest =>
      (capture.act action).stirred (!action.isTick && (before || capture.stirs action)) rest

/-- A wake request is pending when something has asked for it since the last tick. -/
theorem wakeRequested_run (capture : Capture) (actions : List Action) :
    (actions.foldl act capture).wakeRequested = capture.stirred capture.wakeRequested actions := by
  induction actions generalizing capture with
  | nil => rfl
  | cons action rest induction =>
      rw [List.foldl_cons, induction, wakeRequested_act, stirred]

/-- The numbers of the ticks of a run that answer a wake request. -/
def wakingTicks (ticks : Nat) (capture : Capture) : List Action → List Nat
  | [] => []
  | action :: rest =>
      let others := wakingTicks (ticksAfter ticks action) (capture.act action) rest
      if capture.wakes action then (ticks + 1) :: others else others

/-- The number of ticks before the main loop last took its flag, zero where it has not. -/
def ticksTaken (actions : List Action) : Nat :=
  (actions.rdropWhile fun action => action ≠ .takeLoopDue).countP Action.isTick

/-- How long the computer has been without activity, and how much longer it may be. -/
structure Sleeping (sleep latest ticks : Nat) (schedule : Schedule) : Prop where
  sleeps : schedule.parameters.sleepTicks.toNat = sleep
  past : latest ≤ ticks
  awake : schedule.awake = true ↔ ticks - latest ≤ sleep
  sleepCountdown : schedule.sleepCountdown.toNat = sleep - (ticks - latest)

/-- The loop counts down to the next multiple of its period, and has been due since its flag was
taken if there has been one. -/
structure Looping (period taken ticks : Nat) (schedule : Schedule) : Prop where
  loops : max schedule.parameters.loopTicks.toNat 1 = period
  past : taken ≤ ticks
  counting : 0 < schedule.loopCountdown.toNat
  bounded : schedule.loopCountdown.toNat ≤ period
  divides : period ∣ ticks + schedule.loopCountdown.toNat
  due : schedule.loopDue = true ↔ ∃ number, taken < number ∧ number ≤ ticks ∧ period ∣ number

section Runs

variable {sleep latest period taken ticks : Nat} {waking : Bool} {before after : Schedule}

theorem Sleeping.start (parameters : CaptureParameters) :
    Sleeping parameters.sleepTicks.toNat 0 0 (Capture.new parameters).schedule where
  sleeps := rfl
  past := Nat.le_refl 0
  awake := iff_of_true rfl (Nat.zero_le _)
  sleepCountdown := rfl

theorem Looping.start (parameters : CaptureParameters) :
    Looping (max parameters.loopTicks.toNat 1) 0 0 (Capture.new parameters).schedule := by
  have counted : (Capture.new parameters).schedule.loopCountdown.toNat =
      max parameters.loopTicks.toNat 1 := UInt32.toNat_max _ 1
  exact
    { loops := rfl
      past := Nat.le_refl 0
      counting := by omega
      bounded := Nat.le_of_eq counted
      divides := by rw [counted, Nat.zero_add]
      due := iff_of_false Bool.false_ne_true fun ⟨_, after, before, _⟩ =>
        Nat.not_lt.mpr before after }

theorem Sleeping.ticked (sleeping : Sleeping sleep latest ticks before)
    (ticked : Ticked waking before after) :
    Sleeping sleep (if waking then ticks + 1 else latest) (ticks + 1) after := by
  have past := sleeping.past
  have counted := sleeping.sleepCountdown
  have slept := ticked.sleepCountdown
  have sleeps : after.parameters.sleepTicks.toNat = sleep := by
    rw [ticked.parameters, sleeping.sleeps]
  cases waking with
  | true =>
      rw [if_pos rfl] at slept ⊢
      exact
        { sleeps
          past := Nat.le_refl _
          awake := by simp [ticked.awake]
          sleepCountdown := by rw [slept, sleeping.sleeps]; omega }
  | false =>
      rw [if_neg Bool.false_ne_true] at slept ⊢
      have expiring : before.sleepCountdown = 0 ↔ sleep - (ticks - latest) = 0 := by
        rw [← UInt32.toNat_inj, counted, UInt32.toNat_zero]
      have awake : after.awake = true ↔ before.awake = true ∧ before.sleepCountdown ≠ 0 := by
        rw [ticked.awake, Bool.or_false, Schedule.expiring]
        cases before.awake <;> simp
      exact
        { sleeps
          past := Nat.le_succ_of_le past
          awake := by
            rw [awake, sleeping.awake, Ne, expiring]
            omega
          sleepCountdown := by rw [slept, counted]; omega }

theorem Looping.ticked (looping : Looping period taken ticks before)
    (ticked : Ticked waking before after) : Looping period taken (ticks + 1) after := by
  have positive := looping.counting
  have bounded := looping.bounded
  have counted := ticked.loopCountdown
  rw [looping.loops] at counted
  have ends : before.loopCountdown.toNat ≤ 1 ↔ period ∣ ticks + 1 := by
    constructor
    · intro one
      have last : before.loopCountdown.toNat = 1 := by omega
      exact last ▸ looping.divides
    · intro multiple
      -- no two multiples are closer than a period
      have between := Nat.dvd_sub looping.divides multiple
      rw [Nat.add_sub_add_left] at between
      by_contra more
      have long := Nat.le_of_dvd (by omega) between
      omega
  have loops : max after.parameters.loopTicks.toNat 1 = period := by
    rw [ticked.parameters, looping.loops]
  have due : after.loopDue = true ↔
      ∃ number, taken < number ∧ number ≤ ticks + 1 ∧ period ∣ number := by
    rw [ticked.loopDue, Bool.or_eq_true, looping.due, decide_eq_true_iff, ends]
    constructor
    · rintro (⟨number, since, come, multiple⟩ | multiple)
      · exact ⟨number, since, Nat.le_succ_of_le come, multiple⟩
      · exact ⟨ticks + 1, Nat.lt_succ_of_le looping.past, Nat.le_refl _, multiple⟩
    · rintro ⟨number, since, come, multiple⟩
      rcases Nat.le_succ_iff.mp come with earlier | rfl
      · exact .inl ⟨number, since, earlier, multiple⟩
      · exact .inr multiple
  have past := Nat.le_succ_of_le looping.past
  by_cases ended : before.loopCountdown.toNat ≤ 1
  · rw [if_pos ended] at counted
    exact
      { loops, past, due
        counting := by omega
        bounded := Nat.le_of_eq counted
        divides := by
          rw [counted]
          exact Nat.dvd_add (ends.mp ended) (Nat.dvd_refl period) }
  · rw [if_neg ended] at counted
    exact
      { loops, past, due
        counting := by omega
        bounded := by omega
        divides := by
          rw [counted, Nat.add_assoc, Nat.add_sub_cancel' positive]
          exact looping.divides }

theorem Looping.take (looping : Looping period taken ticks before) :
    Looping period ticks ticks { before with loopDue := false } where
  loops := looping.loops
  past := Nat.le_refl ticks
  counting := looping.counting
  bounded := looping.bounded
  divides := looping.divides
  due := iff_of_false Bool.false_ne_true fun ⟨_, since, come, _⟩ => Nat.not_lt.mpr come since

variable {capture : Capture} {action : Action}

theorem Sleeping.act (sleeping : Sleeping sleep latest ticks capture.schedule)
    (fixed : action.isInstall = false) :
    Sleeping sleep (if capture.wakes action then ticks + 1 else latest) (ticksAfter ticks action)
      (capture.act action).schedule := by
  cases action using Action.scheduleCases with
  | tick now =>
      rw [act_tick]
      exact sleeping.ticked (onTick_ticked capture now).1
  | install parameters => cases fixed
  | takeLoopDue => exact ⟨sleeping.sleeps, sleeping.past, sleeping.awake, sleeping.sleepCountdown⟩
  | takeEvents => exact ⟨sleeping.sleeps, sleeping.past, sleeping.awake, sleeping.sleepCountdown⟩
  | other action noTick undue kept =>
      rw [kept, wakes, ticksAfter, noTick]
      exact sleeping

theorem Looping.act (looping : Looping period taken ticks capture.schedule)
    (fixed : action.isInstall = false) :
    Looping period (if action = .takeLoopDue then ticks else taken) (ticksAfter ticks action)
      (capture.act action).schedule := by
  cases action using Action.scheduleCases with
  | tick now =>
      rw [act_tick]
      exact looping.ticked (onTick_ticked capture now).1
  | install parameters => cases fixed
  | takeLoopDue => exact looping.take
  | takeEvents =>
      exact ⟨looping.loops, looping.past, looping.counting, looping.bounded, looping.divides,
        looping.due⟩
  | other action noTick undue kept =>
      rw [kept, if_neg undue, ticksAfter, noTick]
      exact looping

theorem getLastD_wakingTicks (rest : List Action) :
    (wakingTicks ticks capture (action :: rest)).getLastD latest =
      (wakingTicks (ticksAfter ticks action) (capture.act action) rest).getLastD
        (if capture.wakes action then ticks + 1 else latest) := by
  rw [wakingTicks]
  split
  · rw [List.getLastD_cons]
  · rfl

theorem ticksAfter_eq : ticksAfter ticks action = ticks + [action].countP Action.isTick := by
  rw [ticksAfter, List.countP_singleton]
  split <;> rfl

theorem ticksAfter_add (rest : List Action) :
    ticksAfter ticks action + rest.countP Action.isTick =
      ticks + (action :: rest).countP Action.isTick := by
  rw [ticksAfter_eq, Nat.add_assoc, ← List.countP_append]
  rfl

/-- The ticks that answer a wake request, with what comes before them. -/
theorem mem_wakingTicks {number : Nat} {actions : List Action} :
    number ∈ wakingTicks ticks capture actions ↔
      ∃ before now rest, actions = before ++ .tick now :: rest ∧
        number = ticks + before.countP Action.isTick + 1 ∧
        (before.foldl act capture).wakes (.tick now) = true := by
  induction actions generalizing ticks capture with
  | nil => exact iff_of_false List.not_mem_nil fun ⟨_, _, _, same, _⟩ => by simp at same
  | cons action rest induction =>
      have first : number ∈ wakingTicks ticks capture (action :: rest) ↔
          capture.wakes action = true ∧ number = ticks + 1 ∨
            number ∈ wakingTicks (ticksAfter ticks action) (capture.act action) rest := by
        rw [wakingTicks]
        split
        next waking => simp [waking]
        next idle => simp [idle]
      rw [first, induction]
      constructor
      · rintro (⟨waking, rfl⟩ | ⟨before, now, after, rfl, rfl, waking⟩)
        · obtain ⟨now, rfl⟩ := Action.exists_of_isTick (Bool.and_eq_true_iff.mp waking).1
          exact ⟨[], now, rest, rfl, rfl, waking⟩
        · exact ⟨action :: before, now, after, rfl, by rw [ticksAfter_add], waking⟩
      · rintro ⟨before, now, after, same, rfl, waking⟩
        cases before with
        | nil =>
            obtain ⟨rfl, rfl⟩ := List.cons.inj same
            exact .inl ⟨waking, rfl⟩
        | cons earlier before =>
            obtain ⟨rfl, rfl⟩ := List.cons.inj same
            exact .inr ⟨before, now, after, rfl, by rw [ticksAfter_add], waking⟩

theorem ticksTaken_concat (actions : List Action) :
    ticksTaken (actions ++ [action]) =
      if action = .takeLoopDue then actions.countP Action.isTick else ticksTaken actions := by
  rw [ticksTaken, List.rdropWhile_concat]
  split
  next other => rw [if_neg (of_decide_eq_true other), ticksTaken]
  next took =>
    obtain rfl : action = .takeLoopDue := by simpa using took
    rw [if_pos rfl, List.countP_append]
    rfl

/-- A run wakes and falls asleep by the number of ticks since the latest wake request. -/
theorem Sleeping.run (sleeping : Sleeping sleep latest ticks capture.schedule)
    (actions : List Action) (fixed : ∀ action ∈ actions, action.isInstall = false) :
    Sleeping sleep ((wakingTicks ticks capture actions).getLastD latest)
      (ticks + actions.countP Action.isTick) (actions.foldl Capture.act capture).schedule := by
  induction actions generalizing latest ticks capture with
  | nil => exact sleeping
  | cons action rest induction =>
      obtain ⟨first, others⟩ := List.forall_mem_cons.mp fixed
      have ran := induction (sleeping.act first) others
      rwa [← getLastD_wakingTicks, ticksAfter_add] at ran

/-- The flag of the main loop stands for the multiples of its period since it was last taken. -/
theorem Looping.run (parameters : CaptureParameters) (actions : List Action)
    (fixed : ∀ action ∈ actions, action.isInstall = false) :
    Looping (max parameters.loopTicks.toNat 1) (ticksTaken actions)
      (actions.countP Action.isTick) (actions.foldl Capture.act (.new parameters)).schedule := by
  induction actions using List.reverseRecOn with
  | nil => exact .start parameters
  | append_singleton actions action induction =>
      obtain ⟨before, last⟩ := List.forall_mem_append.mp fixed
      have acted := (induction before).act (last action (List.mem_singleton_self action))
      rw [← ticksTaken_concat, ticksAfter_eq, ← List.countP_append] at acted
      rw [List.foldl_concat]
      exact acted

end Runs

/-- The schedule is a function of the tick numbers.  The computer is awake as long as no more than
the sleep ticks have passed since the latest tick that answered a wake request, or since the start;
a tick answers one where something has asked for it since the tick before, or where its own pulse
does.  The main loop is due if the number of a tick since it was last asked is a multiple of the
loop ticks, of which there is at least one. -/
theorem scheduled_by_tick_numbers (parameters : CaptureParameters) (actions : List Action)
    (fixed : ∀ action ∈ actions, action.isInstall = false) :
    let fresh := Capture.new parameters
    let final := actions.foldl act fresh
    let ticks := actions.countP Action.isTick
    let waking := wakingTicks 0 fresh actions
    let latest := waking.getLastD 0
    latest ≤ ticks ∧
      (∀ number, number ∈ waking ↔
        ∃ before now rest, actions = before ++ .tick now :: rest ∧
          number = before.countP Action.isTick + 1 ∧
          (fresh.stirred false before || (before.foldl act fresh).stirs (.tick now)) = true) ∧
      (final.awake = true ↔ ticks - latest ≤ parameters.sleepTicks.toNat) ∧
      (final.takeLoopDue.1 = true ↔
        ∃ number, ticksTaken actions < number ∧ number ≤ ticks ∧
          max parameters.loopTicks.toNat 1 ∣ number) := by
  intro fresh final ticks waking latest
  have sleeping : Sleeping parameters.sleepTicks.toNat latest ticks final.schedule := by
    have ran := (Sleeping.start parameters).run actions fixed
    rwa [Nat.zero_add] at ran
  have looping := Looping.run parameters actions fixed
  refine ⟨sleeping.past, fun number => ?_, sleeping.awake, looping.due⟩
  have asked (before : List Action) (now : UInt32) :
      (before.foldl act fresh).wakes (.tick now) =
        (fresh.stirred false before || (before.foldl act fresh).stirs (.tick now)) :=
    congrArg (· || _) (fresh.wakeRequested_run before)
  refine mem_wakingTicks.trans ?_
  simp only [Nat.zero_add, asked]

/-- A debounced pulse on the second tick keeps the computer awake up to the fourth.  On that tick the
loop is due again, after it has been asked on the second. -/
theorem asleep_and_due_after_five_ticks :
    let parameters :=
      { CaptureParameters.inert with vssPauseTicks := 2, loopTicks := 2, sleepTicks := 2 }
    let actions : List Action :=
      [.vssEdge 10, .tick 256, .tick 512, .takeLoopDue, .tick 768, .drain, .tick 1024, .takeEvents,
        .tick 1280]
    let final := actions.foldl act (.new parameters)
    (∀ action ∈ actions, action.isInstall = false) ∧
      wakingTicks 0 (.new parameters) actions = [2] ∧
      final.awake = false ∧ final.takeLoopDue.1 = true := by
  intro parameters actions final
  have fixed : ∀ action ∈ actions, action.isInstall = false := by decide
  have waking : wakingTicks 0 (.new parameters) actions = [2] := by decide +kernel
  obtain ⟨_, _, awake, due⟩ := scheduled_by_tick_numbers parameters actions fixed
  rw [waking] at awake
  refine ⟨fixed, waking, Bool.eq_false_iff.mpr fun still => ?_, due.mpr ⟨4, ?_⟩⟩
  · exact absurd (awake.mp still) (by decide)
  · decide +kernel

end TripComputer.Capture
