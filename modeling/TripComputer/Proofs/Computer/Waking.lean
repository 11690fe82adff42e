import TripComputer.Computer.Setup
import TripComputer.Proofs.Capture.Schedule
import TripComputer.Proofs.Computer.Pass

/-!
# Activity and sleep

A tick that follows activity leaves the computer awake.  Where the time without activity ends with
that very tick, though, it also reports that the computer has fallen asleep, before it answers the
wake request.  On every other tick with activity it reports no such thing, and the main loop neither
saves trips nor empties the current one on account of it.
-/

namespace TripComputer

namespace Capture

/-- What a tick raises, whatever has been raised before it. -/
def raised (capture : Capture) (now : UInt32) : TickEvents :=
  (capture.takeEvents.2.onTick now).events

variable (capture : Capture) (now : UInt32)

/-- A tick credits the same, whatever has been raised before it. -/
theorem wakes_takeEvents :
    capture.takeEvents.2.wakes (.tick now) = capture.wakes (.tick now) := by
  have quiet : capture.takeEvents.2 = capture.adding 0 0 capture.loopDue ⟨false, false⟩ := by
    simp only [takeEvents, adding, add_zero]
  obtain ⟨due, later, ticked⟩ := onTick_adding capture 0 0 capture.loopDue ⟨false, false⟩ now
  have raw : (capture.takeEvents.2.onTick now).raw = (capture.onTick now).raw := by
    rw [quiet, ticked]
    exact add_zero _
  rw [wakes, stirs_tick, raw, wakes, stirs_tick]
  rfl

theorem events_onTick :
    (capture.onTick now).events =
      ⟨capture.events.woke ||
          capture.wakes (.tick now) && (!capture.awake || capture.schedule.expiring),
        capture.events.fellAsleep || capture.schedule.expiring⟩ := by
  have ticked := (onTick_ticked capture now).1
  have woke := ticked.woke
  have fellAsleep := ticked.fellAsleep
  rw [schedule_events, schedule_events] at woke fellAsleep
  rw [Bool.not_and, Bool.not_not] at woke
  generalize (capture.onTick now).events = events at woke fellAsleep
  cases events
  exact congrArg₂ TickEvents.mk woke fellAsleep

/-- A tick that answers a wake request leaves the computer awake. -/
theorem awake_onTick (waking : capture.wakes (.tick now) = true) :
    (capture.onTick now).awake = true := by
  have awake := (onTick_ticked capture now).1.awake
  rwa [schedule_awake, waking, Bool.or_true] at awake

/-- A tick reports the end of the time without activity, and a wake where it finds the computer
asleep or has just reported that. -/
theorem raised_eq :
    capture.raised now =
      ⟨capture.wakes (.tick now) && (!capture.awake || capture.schedule.expiring),
        capture.schedule.expiring⟩ := by
  rw [raised, events_onTick, wakes_takeEvents]
  rfl

end Capture

namespace Computer

/-- Nothing has been stored, and the counts of the current trip, of the raw trip and in hand are
together what they were, unless a wake may have emptied the current trip. -/
structure Carries (initial : Computer) (inHand _inHandIdle : Trip) (computer : Computer) : Prop where
  store : computer.store = initial.store
  counts : (initial.pendingWake || initial.capture.events.woke) = false →
    computer.trips.get .current + inHand + computer.capture.raw =
      initial.trips.get .current + initial.capture.raw

theorem Carries.balance (initial : Computer) : Balance (Carries initial) where
  beside carries beside :=
    { store := beside.store.trans carries.store
      counts := by
        intro unwoken
        obtain ⟨loopDue, events, same⟩ := beside.capture
        rw [beside.trips .current rfl, same]
        exact carries.counts unwoken }
  drain carries :=
    { store := carries.store
      counts := by
        intro unwoken
        rw [← carries.counts unwoken, add_zero]
        exact add_zero _ }
  merge {_ _ computer} carries :=
    { store := carries.store
      counts := by
        intro unwoken
        obtain ⟨_, merged, _⟩ := Trips.get_merge computer.trackIdle _ _ computer.trips
        rw [merged, add_zero]
        exact carries.counts unwoken }

/-- The flags of the scheduler have been taken, and a pass has yet to look whether it follows a
wake. -/
structure Answered (initial computer : Computer) : Prop extends Carries initial 0 0 computer where
  pendingWake : computer.pendingWake = (initial.pendingWake || initial.capture.events.woke)

theorem Answered.meets_runCycle (initial : Computer) :
    Meets (Answered initial) runCycle (fun _ => Carries initial 0 0) (Carries initial 0 0) := by
  refine (Carries.balance initial).meets_runCycle (fun _ answered => answered.toCarries) ?_
  intro computer answered woken changed carries
  refine ⟨carries.store, fun unwoken => absurd ?_ (Bool.eq_false_iff.mp unwoken)⟩
  rw [← answered.pendingWake]
  exact (Bool.and_eq_true_iff.mp woken).1

/-- A poll that does not find the computer fallen asleep stores nothing.  Where it has not been
woken either, it loses no count of the current trip. -/
theorem poll_of_sleepless {computer : Computer}
    (sleepless : computer.capture.events.fellAsleep = false) :
    (afterTask poll computer).store = computer.store ∧
      ((computer.pendingWake || computer.capture.events.woke) = false →
        (afterTask poll computer).trips.get .current + (afterTask poll computer).capture.raw =
          computer.trips.get .current + computer.capture.raw) := by
  have polls : Meets (· = computer) poll (fun _ => Carries computer 0 0) (Carries computer 0 0) := by
    refine meets_poll ?_ ?_ ?_ (Answered.meets_runCycle computer) fun _ answered =>
      answered.toCarries
    · rintro _ rfl
      exact ⟨⟨rfl, fun _ => by rw [add_zero]; rfl⟩, rfl⟩
    · rintro _ rfl asleep
      exact absurd asleep (Bool.eq_false_iff.mp sleepless)
    · exact fun _ answered => ⟨⟨answered.store, answered.counts⟩, answered.pendingWake⟩
  have carries : Carries computer 0 0 (afterTask poll computer) := polls.afterTask rfl
  refine ⟨carries.store, fun unwoken => ?_⟩
  rw [← carries.counts unwoken, add_zero]

/-- Whatever has happened to a capture, a tick reports that the computer has fallen asleep exactly
when it finds it awake with no time left, be there activity or not; with activity it reports a wake
as well.  A tick with activity and with time left reports no sleep and leaves the computer awake.  A
poll after it stores nothing and, unless it has to answer a wake, loses no count of the current
trip. -/
theorem active_tick_sleeps_iff_expiring (parameters : CaptureParameters) (actions : List Capture.Action)
    (now : UInt32) :
    let fresh := Capture.new parameters
    let capture := actions.foldl Capture.act fresh
    let ticked := capture.onTick now
    let active := fresh.stirred false actions || capture.stirs (.tick now)
    let expiring := capture.awake && capture.sleepCountdown = 0
    let raised := capture.raised now
    ticked.events = ⟨capture.events.woke || raised.woke,
        capture.events.fellAsleep || raised.fellAsleep⟩ ∧
      raised.fellAsleep = expiring ∧
      raised.woke = (active && (!capture.awake || expiring)) ∧
      (raised.fellAsleep && raised.woke) = (active && expiring) ∧
      (active = true → expiring = false →
        raised.fellAsleep = false ∧ ticked.awake = true ∧
          ∀ computer : Computer, computer.capture = ticked → capture.events = ⟨false, false⟩ →
            let polled := afterTask poll computer
            polled.store = computer.store ∧
              (capture.awake = true → computer.pendingWake = false →
                polled.trips.get .current + polled.capture.raw =
                  computer.trips.get .current + ticked.raw)) := by
  intro fresh capture ticked active expiring raised
  have wakes : capture.wakes (.tick now) = active :=
    congrArg (· || capture.stirs (.tick now)) (fresh.wakeRequested_run actions)
  have raises : raised = ⟨active && (!capture.awake || expiring), expiring⟩ := by
    rw [← wakes]
    exact capture.raised_eq now
  have events : ticked.events = ⟨capture.events.woke || active && (!capture.awake || expiring),
      capture.events.fellAsleep || expiring⟩ := by
    rw [← wakes]
    exact capture.events_onTick now
  have both : (expiring && (active && (!capture.awake || expiring))) = (active && expiring) := by
    cases expiring with
    | false => rw [Bool.false_and, Bool.and_false]
    | true => rw [Bool.or_true, Bool.true_and]
  rw [raises]
  refine ⟨events, rfl, rfl, both, fun moving timely => ⟨timely, ?_, ?_⟩⟩
  · exact capture.awake_onTick now (wakes.trans moving)
  · intro computer same quiet polled
    have sleepless : computer.capture.events.fellAsleep = false := by
      rw [same, events, quiet, timely]
      rfl
    obtain ⟨stores, carries⟩ := poll_of_sleepless sleepless
    refine ⟨stores, fun awake answered => ?_⟩
    rw [← same]
    refine carries ?_
    rw [same, events, quiet, answered, awake, timely, Bool.not_true, Bool.or_false, Bool.and_false]
    rfl

/-- A pulse before the tick that would be the last one of the time without activity. -/
theorem pulse_before_last_tick :
    let parameters := { CaptureParameters.inert with sleepTicks := 3 }
    let actions : List Capture.Action := [.tick 256, .tick 512, .vssEdge 600]
    let fresh := Capture.new parameters
    let capture := actions.foldl Capture.act fresh
    let computer :=
      { Setup.reference.initialComputer (Store.ofCells []) .defaults false with
        capture := capture.onTick 768 }
    (fresh.stirred false actions || capture.stirs (.tick 768)) = true ∧
      (capture.awake && capture.sleepCountdown = 0) = false ∧
      computer.capture = capture.onTick 768 ∧ capture.events = ⟨false, false⟩ ∧
      capture.awake = true ∧ computer.pendingWake = false ∧
      (capture.raised 768).fellAsleep = false ∧
      (afterTask poll computer).store = Store.ofCells [] ∧
      (afterTask poll computer).trips.get .current + (afterTask poll computer).capture.raw =
        ⟨1, 0, 0, 0, 0⟩ := by
  intro parameters actions fresh capture computer
  have active : (fresh.stirred false actions || capture.stirs (.tick 768)) = true := by
    decide +kernel
  have timely : (capture.awake && capture.sleepCountdown = 0) = false := by decide +kernel
  have quiet : capture.events = ⟨false, false⟩ := by decide +kernel
  have awake : capture.awake = true := by decide +kernel
  have same : computer.capture = capture.onTick 768 := by dsimp only [computer]
  obtain ⟨_, _, _, _, prevents⟩ := active_tick_sleeps_iff_expiring parameters actions 768
  obtain ⟨sleepless, _, polls⟩ := prevents active timely
  obtain ⟨stores, carries⟩ := polls computer same quiet
  have counts : computer.trips.get .current + (capture.onTick 768).raw = ⟨1, 0, 0, 0, 0⟩ := by
    decide +kernel
  have carried := carries awake rfl
  rw [counts] at carried
  exact ⟨active, timely, same, quiet, awake, rfl, sleepless, stores, carried⟩

/-- The same pulse one tick later does not keep the computer from falling asleep.  With the default
settings, a poll then saves the current trip and empties it. -/
theorem pulse_before_expiring_tick :
    let parameters := { CaptureParameters.inert with sleepTicks := 3 }
    let actions : List Capture.Action := [.tick 256, .tick 512, .tick 768, .vssEdge 900]
    let fresh := Capture.new parameters
    let capture := actions.foldl Capture.act fresh
    let started :=
      Setup.reference.initialComputer (Store.ofCells (List.replicate 2048 255)) .defaults false
    let computer :=
      { started with
        trips := started.trips.put .current ⟨5, 0, 0, 0, 0⟩
        capture := capture.onTick 1024 }
    let polled := afterTask poll computer
    (fresh.stirred false actions || capture.stirs (.tick 1024)) = true ∧
      capture.events = ⟨false, false⟩ ∧ computer.pendingWake = false ∧
      capture.raised 1024 = ⟨true, true⟩ ∧
      polled.store ≠ computer.store ∧
      polled.trips.get .current + polled.capture.raw = ⟨1, 0, 0, 0, 0⟩ := by
  decide +kernel

end Computer

end TripComputer
