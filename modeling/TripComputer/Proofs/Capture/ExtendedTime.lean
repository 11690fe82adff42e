import Mathlib.Data.List.Basic
import TripComputer.Proofs.Capture.Tally

/-!
# The clock loses no time

The hardware counter is narrow, the extended time is a word, and the system time is a double word.
`Moment` puts a front end beside the number of cycles that the counter has really advanced, and
`Exact` ties all three to it: the base of the clock and the counter, with one range more while an
overflow waits, are the cycles modulo the width of a word, and the system time is the number of
cycles from the first overflow that has been serviced to the last one.
-/

namespace TripComputer

namespace Timer

/-- The counter is about to wrap again, and its last overflow still waits. -/
def isOverdue (timer : Timer) : Bool :=
  timer.overflowPending && timer.counter == timer.range - 1

/-- The timer one cycle later.  From the end of its range the counter starts again, and asks for
the overflow interrupt. -/
def advance (timer : Timer) : Timer :=
  if timer.counter = timer.range - 1 then { timer with counter := 0, overflowPending := true }
  else { timer with counter := timer.counter + 1 }

/-- What the counter has counted beyond the overflows that have been serviced. -/
def ahead (timer : Timer) : Nat :=
  (if timer.overflowPending then timer.range.toNat else 0) + timer.counter.toNat

end Timer

/-- The overflow that waits is serviced: its flag is cleared, and its interrupt is handled. -/
def FrontEnd.service (frontEnd : FrontEnd) : FrontEnd :=
  { frontEnd with clock := frontEnd.clock.setPending false }.handle .timerOverflow

/-- A front end in the course of time. -/
structure Moment where
  frontEnd : FrontEnd
  /-- Cycles that the hardware counter has advanced. -/
  cycles : Nat
  /-- The cycles at which overflows have been serviced, the earliest first. -/
  services : List Nat
deriving DecidableEq

namespace Moment

/-- A clock and a capture state in which nothing has happened. -/
def start (range : UInt32) (parameters : CaptureParameters) : Moment :=
  ⟨⟨.new (.new range), .new parameters⟩, 0, []⟩

/-- What happens from one moment to another. -/
inductive Step where
  | advance
  | service
  /-- The capture state is worked on beside the clock. -/
  | act (action : Capture.Action)
deriving DecidableEq, Repr

def timer (moment : Moment) : Timer :=
  moment.frontEnd.clock.timer

/-- The extended time that is read. -/
def now (moment : Moment) : UInt32 :=
  moment.frontEnd.clock.now

/-- The counter advances. -/
def advance (moment : Moment) : Moment where
  frontEnd :=
    { moment.frontEnd with clock := { moment.frontEnd.clock with timer := moment.timer.advance } }
  cycles := moment.cycles + 1
  services := moment.services

/-- The overflow that waits is serviced. -/
def service (moment : Moment) : Moment where
  frontEnd := moment.frontEnd.service
  cycles := moment.cycles
  services := moment.services ++ [moment.cycles]

/-- Something is done to the capture state. -/
def act (moment : Moment) (action : Capture.Action) : Moment :=
  { moment with
    frontEnd := { moment.frontEnd with capture := moment.frontEnd.capture.act action } }

/-- The moment after a step, if the step can be taken: the counter never wraps while an overflow
waits, an overflow is serviced when it waits, and the capture state has its ticks from there. -/
def take? (moment : Moment) : Step → Option Moment
  | .advance => if moment.timer.isOverdue then none else some moment.advance
  | .service => if moment.timer.overflowPending then some moment.service else none
  | .act action => if action.isTick then none else some (moment.act action)

def run? (moment : Moment) (steps : List Step) : Option Moment :=
  steps.foldlM take? moment

end Moment

namespace Capture

/-- The system time, and the time of the tick from which it is counted on. -/
def systemTime (capture : Capture) : UInt64 × Option UInt32 :=
  (capture.systemCycles, capture.lastTick)

variable (capture : Capture) (now : UInt32)

theorem systemTime_onVssEdge : (capture.onVssEdge now).systemTime = capture.systemTime := by
  unfold onVssEdge
  split_ifs <;> rfl

theorem systemTime_onInjectorOpen :
    (capture.onInjectorOpen now).systemTime = capture.systemTime := by
  unfold onInjectorOpen measureEngineCycle
  dsimp only
  split_ifs <;> rfl

theorem systemTime_onInjectorClose :
    (capture.onInjectorClose now).systemTime = capture.systemTime := by
  unfold onInjectorClose judgeDuration
  split_ifs
  · cases capture.acceptedDuration? now <;> rfl
  · rfl

theorem systemTime_ageInjector : capture.ageInjector.systemTime = capture.systemTime := by
  unfold ageInjector
  split <;> rfl

theorem systemTime_ageVss : capture.ageVss.systemTime = capture.systemTime := by
  unfold ageVss
  split <;> rfl

theorem systemTime_ageDebounce : (capture.ageDebounce now).systemTime = capture.systemTime := by
  unfold ageDebounce
  dsimp only
  split_ifs <;> rfl

theorem systemTime_ageLoop : capture.ageLoop.systemTime = capture.systemTime := by
  unfold ageLoop
  dsimp only
  split_ifs <;> rfl

theorem systemTime_ageSleep : capture.ageSleep.systemTime = capture.systemTime := by
  unfold ageSleep
  split_ifs <;> rfl

theorem systemTime_answerWake : capture.answerWake.systemTime = capture.systemTime := by
  unfold answerWake
  split <;> rfl

/-- A tick adds the time since the last one. -/
theorem systemTime_onTick : (capture.onTick now).systemTime =
    (capture.systemCycles +
      (capture.lastTick.map fun last => (Clock.interval last now).toUInt64).getD 0, some now) := by
  rw [onTick, systemTime_answerWake, systemTime_ageSleep, systemTime_ageLoop,
    systemTime_ageDebounce, systemTime_ageVss, systemTime_ageInjector]
  rfl

/-- Nothing but a tick counts system time. -/
theorem systemTime_act {action : Action} (noTick : action.isTick = false) :
    (capture.act action).systemTime = capture.systemTime := by
  cases action with
  | event event =>
      cases event with
      | wakeRequest => rfl
      | interrupt interrupt now =>
          cases interrupt with
          | timerOverflow => cases noTick
          | vssEdge => exact systemTime_onVssEdge capture now
          | injectorOpen => exact systemTime_onInjectorOpen capture now
          | injectorClose => exact systemTime_onInjectorClose capture now
          | analogSample channel value => rfl
  | install parameters | drain | takeLoopDue | takeEvents => rfl

end Capture

namespace Moment

/-- The clock and the system time are those of the cycles that have passed. -/
structure Exact (range : UInt32) (moment : Moment) : Prop where
  ranged : moment.timer.range = range
  inside : moment.timer.counter.toNat < range.toNat
  time : moment.cycles % 2 ^ 32 =
    (moment.frontEnd.clock.base.toNat + moment.timer.ahead) % 2 ^ 32
  unserviced : moment.services = [] → moment.frontEnd.capture.systemTime = (0, none)
  serviced : ∀ last, moment.services.getLast? = some last →
    moment.frontEnd.capture.systemTime =
        ((last - moment.services.headD 0).toUInt64, some last.toUInt32) ∧
      moment.services.headD 0 ≤ last ∧ last ≤ moment.cycles ∧
      moment.cycles ≤ last + moment.timer.ahead

variable {range : UInt32} {moment next : Moment}

theorem capture_service (moment : Moment) :
    moment.service.frontEnd.capture = moment.frontEnd.capture.onTick moment.service.now := by
  simp only [service, now, FrontEnd.service, FrontEnd.handle]

theorem toNat_last (positive : 0 < range) : (range - 1).toNat = range.toNat - 1 := by
  have one : (1 : UInt32) ≤ range := UInt32.le_iff_toNat_le.mpr (UInt32.lt_iff_toNat_lt.mp positive)
  rw [UInt32.toNat_sub_of_le _ _ one]
  rfl

theorem lt_last {counter : UInt32} (inside : counter.toNat < range.toNat)
    (before : counter ≠ range - 1) : counter < range - 1 := by
  have last := toNat_last (UInt32.lt_iff_toNat_lt.mpr (Nat.zero_lt_of_lt inside))
  have apart : counter.toNat ≠ range.toNat - 1 := fun same =>
    before (UInt32.toNat_inj.mp (same.trans last.symm))
  rw [UInt32.lt_iff_toNat_lt, last]
  omega

/-- What a step that can be taken has found, and where it leads. -/
theorem take?_cases {step : Step} (taken : moment.take? step = some next) :
    (step = .advance ∧ moment.timer.isOverdue = false ∧ next = moment.advance) ∨
    (step = .service ∧ moment.timer.overflowPending = true ∧ next = moment.service) ∨
    ∃ action, step = .act action ∧ action.isTick = false ∧ next = moment.act action := by
  cases step with
  | advance =>
      obtain ⟨ready, same⟩ := Option.ite_none_left_eq_some.mp taken
      exact .inl ⟨rfl, Bool.eq_false_iff.mpr ready, (Option.some.inj same).symm⟩
  | service =>
      obtain ⟨pending, same⟩ := Option.ite_none_right_eq_some.mp taken
      exact .inr (.inl ⟨rfl, pending, (Option.some.inj same).symm⟩)
  | act action =>
      obtain ⟨noTick, same⟩ := Option.ite_none_left_eq_some.mp taken
      exact .inr (.inr ⟨action, rfl, Bool.eq_false_iff.mpr noTick, (Option.some.inj same).symm⟩)

theorem exact_start (parameters : CaptureParameters) (positive : 0 < range) :
    Exact range (start range parameters) where
  ranged := rfl
  inside := UInt32.lt_iff_toNat_lt.mp positive
  time := rfl
  unserviced := fun _ => rfl
  serviced := nofun

/-- Unless the counter is about to wrap too early, advancing it keeps it in its range and counts
one cycle more. -/
theorem advance_spec {timer : Timer} (positive : 0 < timer.range)
    (inside : timer.counter.toNat < timer.range.toNat) (ready : timer.isOverdue = false) :
    timer.advance.range = timer.range ∧ timer.advance.counter.toNat < timer.range.toNat ∧
      timer.advance.ahead = timer.ahead + 1 := by
  have last := toNat_last positive
  unfold Timer.advance
  split
  next ends =>
    have idle : timer.overflowPending = false := by
      simpa [Timer.isOverdue, ends] using ready
    refine ⟨rfl, UInt32.lt_iff_toNat_lt.mp positive, ?_⟩
    simp only [Timer.ahead, idle, if_true, Bool.false_eq_true, if_false, UInt32.toNat_zero, ends,
      last]
    omega
  next goesOn =>
    have below := UInt32.lt_iff_toNat_lt.mp (lt_last inside goesOn)
    rw [last] at below
    have counted : (timer.counter + 1).toNat = timer.counter.toNat + 1 := by
      rw [UInt32.toNat_add]
      exact Nat.mod_eq_of_lt (by have := timer.range.toNat_lt; simp; omega)
    refine ⟨rfl, ?_, ?_⟩
    · simp only [counted]
      omega
    · simp only [Timer.ahead, counted]
      omega

/-- Unless its timer is overdue, the clock reads its base and what the timer is ahead of it. -/
theorem toNat_now {clock : Clock}
    (inside : clock.timer.counter.toNat < clock.timer.range.toNat)
    (ready : clock.timer.isOverdue = false) :
    clock.now.toNat = (clock.base.toNat + clock.timer.ahead) % 2 ^ 32 := by
  have before (pending : clock.timer.overflowPending = true) :
      clock.timer.counter < clock.timer.range - 1 :=
    lt_last inside (by simpa [Timer.isOverdue, pending] using ready)
  unfold Clock.now Timer.ahead
  cases pending : clock.timer.overflowPending with
  | false => simp [UInt32.toNat_add]
  | true =>
      simp only [Bool.true_and, decide_eq_true (before pending), if_true, UInt32.toNat_add]
      omega

/-- Servicing an overflow moves a range from what the timer is ahead to the base. -/
theorem service_spec {clock : Clock} (pending : clock.timer.overflowPending = true) :
    let serviced := (clock.setPending false).onOverflow
    serviced.timer.ahead = clock.timer.counter.toNat ∧
      (serviced.base.toNat + serviced.timer.ahead) % 2 ^ 32 =
        (clock.base.toNat + clock.timer.ahead) % 2 ^ 32 := by
  simp only [Clock.setPending, Clock.onOverflow, Timer.ahead, pending, Bool.false_eq_true, if_true,
    if_false, UInt32.toNat_add]
  omega

namespace Exact

theorem now (exact : Exact range moment)
    (ready : moment.timer.isOverdue = false) : moment.now.toNat = moment.cycles % 2 ^ 32 := by
  obtain ⟨rfl, inside, time, _⟩ := exact
  rw [time]
  exact toNat_now inside ready

theorem advance (exact : Exact range moment) (positive : 0 < range)
    (ready : moment.timer.isOverdue = false) : Exact range moment.advance := by
  obtain ⟨rfl, inside, time, unserviced, serviced⟩ := exact
  obtain ⟨ranged, counted, ahead⟩ := advance_spec positive inside ready
  have further : moment.advance.timer.ahead = moment.timer.ahead + 1 := ahead
  refine ⟨ranged, counted, ?_, unserviced, fun last found => ?_⟩
  · rw [further]
    show (moment.cycles + 1) % 2 ^ 32 = (moment.frontEnd.clock.base.toNat + _) % 2 ^ 32
    omega
  · obtain ⟨system, ordered, passed, bound⟩ := serviced last found
    refine ⟨system, ordered, Nat.le_succ_of_le passed, ?_⟩
    rw [further]
    exact Nat.succ_le_succ bound

theorem act (exact : Exact range moment) {action : Capture.Action}
    (noTick : action.isTick = false) : Exact range (moment.act action) := by
  have same : (moment.act action).frontEnd.capture.systemTime =
      moment.frontEnd.capture.systemTime := Capture.systemTime_act _ noTick
  refine ⟨exact.ranged, exact.inside, exact.time, fun none => ?_, fun last found => ?_⟩
  · exact same.trans (exact.unserviced none)
  · obtain ⟨system, bounds⟩ := exact.serviced last found
    exact ⟨same.trans system, bounds⟩

/-- Once an overflow has been serviced, the system time runs from the first one to the last, and no
more has passed since than the timer is ahead. -/
theorem exists_last (exact : Exact range moment) {first : Nat} {rest : List Nat}
    (services : moment.services = first :: rest) : ∃ last,
      moment.frontEnd.capture.systemTime = ((last - first).toUInt64, some last.toUInt32) ∧
      first ≤ last ∧ last ≤ moment.cycles ∧ moment.cycles ≤ last + moment.timer.ahead := by
  have found : moment.services.getLast? = some (rest.getLast?.getD first) := by
    rw [services, List.getLast?_cons]
  have served := exact.serviced _ found
  rw [services, List.headD_cons] at served
  exact ⟨_, served⟩

/-- A tick adds the cycles since the overflow that was serviced last, of which there are fewer than
a word can count. -/
theorem systemTime_onTick (exact : Exact range moment) (fits : range.toNat ≤ 2 ^ 31) :
    (moment.frontEnd.capture.onTick moment.cycles.toUInt32).systemTime =
      ((moment.cycles - moment.service.services.headD 0).toUInt64,
        some moment.cycles.toUInt32) := by
  rw [Capture.systemTime_onTick, service]
  cases services : moment.services with
  | nil =>
      obtain ⟨system, last⟩ := Prod.mk.inj (exact.unserviced services)
      simp [system, last]
  | cons first rest =>
      obtain ⟨last, system, ordered, passed, bound⟩ := exact.exists_last services
      obtain ⟨counted, ticked⟩ := Prod.mk.inj system
      have short : moment.cycles - last < 2 ^ 32 := by
        have inside := exact.inside
        rw [Timer.ahead, exact.ranged] at bound
        split at bound <;> omega
      have since : Clock.interval last.toUInt32 moment.cycles.toUInt32 =
          (moment.cycles - last).toUInt32 := (UInt32.ofNat_sub passed).symm
      rw [counted, ticked, Option.map_some, Option.getD_some, since, List.cons_append,
        List.headD_cons]
      congr 1
      apply UInt64.toNat_inj.mp
      simp only [UInt64.toNat_add, UInt32.toNat_toUInt64, Nat.toUInt64_eq, Nat.toUInt32_eq,
        UInt64.toNat_ofNat', UInt32.toNat_ofNat']
      omega

theorem service (exact : Exact range moment) (positive : 0 < range) (fits : range.toNat ≤ 2 ^ 31)
    (pending : moment.timer.overflowPending = true) : Exact range moment.service := by
  have system := exact.systemTime_onTick fits
  have ordered : moment.service.services.headD 0 ≤ moment.cycles := by
    cases services : moment.services with
    | nil => simp [Moment.service, services]
    | cons first rest =>
        obtain ⟨last, -, before, passed, -⟩ := exact.exists_last services
        simpa [Moment.service, services] using Nat.le_trans before passed
  obtain ⟨rfl, inside, time, _, _⟩ := exact
  have whole : (moment.service.frontEnd.clock.base.toNat + moment.service.timer.ahead) % 2 ^ 32 =
      (moment.frontEnd.clock.base.toNat + moment.timer.ahead) % 2 ^ 32 := (service_spec pending).2
  have stamped : moment.service.now.toNat =
      (moment.service.frontEnd.clock.base.toNat + moment.service.timer.ahead) % 2 ^ 32 :=
    toNat_now inside rfl
  have now : moment.cycles.toUInt32 = moment.service.now := by
    apply UInt32.toNat_inj.mp
    rw [Nat.toUInt32_eq, UInt32.toNat_ofNat', time, stamped, whole]
  rw [now] at system
  have found : moment.service.services.getLast? = some moment.cycles := List.getLast?_concat
  refine ⟨rfl, inside, ?_, fun none => ?_, fun last latest => ?_⟩
  · exact time.trans whole.symm
  · rw [none] at found
    cases found
  · cases found.symm.trans latest
    refine ⟨?_, ordered, le_rfl, Nat.le_add_right _ _⟩
    rw [capture_service, now]
    exact system

/-- Every step keeps the clock and the system time exact. -/
theorem take (exact : Exact range moment) (positive : 0 < range) (fits : range.toNat ≤ 2 ^ 31)
    {step : Step} (taken : moment.take? step = some next) : Exact range next := by
  obtain ⟨-, ready, rfl⟩ | ⟨-, pending, rfl⟩ | ⟨action, -, noTick, rfl⟩ := take?_cases taken
  · exact exact.advance positive ready
  · exact exact.service positive fits pending
  · exact exact.act noTick

/-- So does every run. -/
theorem run (exact : Exact range moment) (positive : 0 < range) (fits : range.toNat ≤ 2 ^ 31)
    {steps : List Step} (reached : moment.run? steps = some next) : Exact range next := by
  induction steps generalizing moment with
  | nil =>
      cases reached
      exact exact
  | cons step steps induction =>
      obtain ⟨between, taken, further⟩ := Option.bind_eq_some_iff.mp reached
      exact induction (exact.take positive fits taken) further

/-- The system time runs from the first overflow that has been serviced to the last one. -/
theorem systemCycles (exact : Exact range moment) : moment.frontEnd.capture.systemCycles =
    (moment.services.getLastD 0 - moment.services.headD 0).toUInt64 := by
  rw [List.getLastD_eq_getLast?]
  cases found : moment.services.getLast? with
  | none =>
      have empty := List.getLast?_eq_none_iff.mp found
      rw [empty]
      exact (Prod.mk.inj (exact.unserviced empty)).1
  | some last => exact (Prod.mk.inj (exact.serviced last found).1).1

end Exact

/-- The cycles that pass are the steps that advance the counter. -/
theorem cycles_run {steps : List Step} (reached : moment.run? steps = some next) :
    next.cycles = moment.cycles + steps.count .advance := by
  induction steps generalizing moment with
  | nil =>
      cases reached
      rfl
  | cons step steps induction =>
      obtain ⟨between, taken, further⟩ := Option.bind_eq_some_iff.mp reached
      rw [induction further]
      obtain ⟨rfl, -, rfl⟩ | ⟨rfl, -, rfl⟩ | ⟨action, rfl, -, rfl⟩ := take?_cases taken
      · rw [List.count_cons_self]
        exact Nat.succ_add_eq_add_succ _ _
      · rw [List.count_cons_of_ne (by decide)]
        rfl
      · rw [List.count_cons_of_ne (by nofun)]
        rfl

/-- Whenever the counter is not about to wrap while an overflow waits, the clock reads the cycles
that have passed, modulo the width of a word: two readings less than a word apart are the true
number of cycles apart, and the later one is smaller only where the word wraps in between.  The
system time is the number of cycles from the first overflow serviced to the last. -/
theorem clock_loses_no_time {parameters : CaptureParameters} {steps more : List Step}
    {first second : Moment} (positive : 0 < range) (fits : range.toNat ≤ 2 ^ 31)
    (reached : (start range parameters).run? steps = some first)
    (later : first.run? more = some second) :
    (first.cycles = steps.count .advance ∧
      second.cycles = first.cycles + more.count .advance) ∧
    (first.timer.isOverdue = false → first.now.toNat = first.cycles % 2 ^ 32) ∧
    (first.timer.isOverdue = false → second.timer.isOverdue = false →
      (second.cycles - first.cycles < 2 ^ 32 →
        (Clock.interval first.now second.now).toNat = second.cycles - first.cycles) ∧
      (first.cycles / 2 ^ 32 = second.cycles / 2 ^ 32 → first.now ≤ second.now)) ∧
    first.frontEnd.capture.systemCycles =
      (first.services.getLastD 0 - first.services.headD 0).toUInt64 := by
  have exact := (exact_start parameters positive).run positive fits reached
  have exactLater := exact.run positive fits later
  have passed := cycles_run later
  have counted : first.cycles = steps.count .advance := by
    simpa [start] using cycles_run reached
  refine ⟨⟨counted, passed⟩, exact.now, fun ready readyLater => ?_, exact.systemCycles⟩
  have readFirst := exact.now ready
  have readSecond := exactLater.now readyLater
  have ordered : first.cycles ≤ second.cycles := passed ▸ Nat.le_add_right _ _
  refine ⟨fun near => Capture.toNat_interval readFirst readSecond ordered (by omega), fun same => ?_⟩
  rw [UInt32.le_iff_toNat_le, readFirst, readSecond]
  omega

/-- A counter of four cycles wraps four times, and its overflows are serviced late: the second one
where the third wrap has nearly come, and the last one not yet. -/
theorem three_services_of_four_wraps :
    let steps : List Step :=
      .replicate 6 .advance ++ [.service] ++ .replicate 5 .advance ++ [.service]
    let more : List Step := [.advance, .act (.vssEdge 12), .service] ++ .replicate 6 .advance
    ∃ first second : Moment, (start 4 .inert).run? steps = some first ∧
      first.run? more = some second ∧ first.services = [6, 11] ∧ second.services = [6, 11, 12] ∧
      second.timer.overflowPending = true ∧ first.now.toNat = 11 ∧
      (Clock.interval first.now second.now).toNat = 7 ∧
      first.frontEnd.capture.systemCycles = 5 := by
  intro steps more
  let first := ((start 4 .inert).run? steps).getD (start 4 .inert)
  let second := (first.run? more).getD first
  have reached : (start 4 .inert).run? steps = some first := by decide +kernel
  have later : first.run? more = some second := by decide +kernel
  have serviced : first.services = [6, 11] := by decide +kernel
  obtain ⟨⟨passed, further⟩, read, apart, system⟩ :=
    clock_loses_no_time (by decide) (by decide) reached later
  have between : second.cycles - first.cycles = 7 := by
    rw [further, Nat.add_sub_cancel_left]
    decide
  refine ⟨first, second, reached, later, serviced, by decide +kernel, by decide +kernel, ?_, ?_, ?_⟩
  · rw [read (by decide +kernel), passed]
    decide
  · rw [(apart (by decide +kernel) (by decide +kernel)).1 (by omega), between]
  · rw [system, serviced]
    decide

end Moment

end TripComputer
