import TripComputer.Computer.Setup
import TripComputer.Proofs.Computer.Sections

/-!
# No count is lost between the interrupt side and the main loop

`Accounts` compares a computer that is polled now and then with the capture state that the
same events lead to without a poll: the raw trips of the latter hold what the former has in
its raw trips, in its hands between draining and merging, and in its kept trips.  Events
credit both alike, and every section of a poll keeps the balance, whether it fails or not.  So no
count is lost where events interrupt a poll, and what is known of uninterrupted polls is a case of
that.
-/

namespace TripComputer.Computer

/-- Where the counts of a capture state without polls are in a computer with polls, some of
them drained and not yet merged. -/
structure Accounts (initial : Computer) (unpolled : Capture) (inHand inHandIdle : Trip)
    (computer : Computer) : Prop where
  settings : computer.settings = initial.settings
  trackIdle : computer.trackIdle = initial.trackIdle
  counts : ∃ merged mergedIdle loopDue events,
    unpolled = computer.capture.adding (merged + inHand) (mergedIdle + inHandIdle) loopDue
      events ∧
    computer.trips.get .tank = initial.trips.get .tank + merged ∧
    (initial.trackIdle = true →
      computer.trips.get .idleTank = initial.trips.get .idleTank + mergedIdle) ∧
    (initial.settings.get .wakeupResetCurrent = 0 →
      computer.trips.get .current = initial.trips.get .current + merged)

variable {initial : Computer} {unpolled : Capture} {inHand inHandIdle : Trip}

namespace Accounts

theorem start (computer : Computer) : Accounts computer computer.capture 0 0 computer where
  settings := rfl
  trackIdle := rfl
  counts := by
    refine ⟨0, 0, computer.capture.loopDue, computer.capture.events, ?_, ?_, ?_, ?_⟩
    · simp only [Capture.adding, add_zero]
    · rw [add_zero]
    · exact fun _ => (add_zero _).symm
    · exact fun _ => (add_zero _).symm

/-- An event credits the computer and the capture state alike. -/
theorem handle {computer : Computer}
    (accounts : Accounts initial unpolled inHand inHandIdle computer) (event : Capture.Event) :
    Accounts initial (unpolled.handle event) inHand inHandIdle
      { computer with capture := computer.capture.handle event } := by
  obtain ⟨settings, trackIdle, merged, mergedIdle, loopDue, events, whole, trips⟩ := accounts
  obtain ⟨due, later, credited⟩ := Capture.handle_adding computer.capture (merged + inHand)
    (mergedIdle + inHandIdle) loopDue events event
  refine ⟨settings, trackIdle, merged, mergedIdle, due, later, ?_, trips⟩
  rw [whole, credited]

theorem aside {computer changed : Computer}
    (accounts : Accounts initial unpolled inHand inHandIdle computer)
    (aside : Aside computer changed) : Accounts initial unpolled inHand inHandIdle changed := by
  obtain ⟨settings, trackIdle, merged, mergedIdle, loopDue, events, whole, tank, idleTank,
    current⟩ := accounts
  obtain ⟨sameSettings, sameTrackIdle, ⟨due, later, sameCapture⟩, sameTrips⟩ := aside
  refine ⟨sameSettings.trans settings, sameTrackIdle.trans trackIdle, merged, mergedIdle, loopDue,
    events, ?_, ?_, ?_, ?_⟩
  · rw [whole, sameCapture]
    rfl
  · rw [sameTrips .tank rfl, tank]
  · rw [sameTrips .idleTank rfl]
    exact idleTank
  · rw [sameTrips .current rfl]
    exact current

/-- The raw trips are empty once they have been drained, and what they held is in hand. -/
theorem drain {computer : Computer} (accounts : Accounts initial unpolled 0 0 computer) :
    Accounts initial unpolled computer.capture.raw computer.capture.rawIdle
      { computer with capture := computer.capture.drain.2 } := by
  obtain ⟨settings, trackIdle, merged, mergedIdle, loopDue, events, whole, trips⟩ := accounts
  refine ⟨settings, trackIdle, merged, mergedIdle, loopDue, events, ?_, trips⟩
  have moved : ∀ taken undrained : Trip, undrained + (taken + 0) = Trip.zero + (taken + undrained) := by
    intro taken undrained
    change _ = 0 + (taken + undrained)
    rw [add_zero, zero_add, add_comm]
  rw [whole]
  simp only [Capture.adding, Capture.drain, moved merged, moved mergedIdle]

theorem merge {computer : Computer}
    (accounts : Accounts initial unpolled inHand inHandIdle computer) :
    Accounts initial unpolled 0 0
      { computer with trips := Computer.merge computer.trackIdle inHand inHandIdle computer.trips } := by
  obtain ⟨settings, trackIdle, merged, mergedIdle, loopDue, events, whole, tank, idleTank,
    current⟩ := accounts
  obtain ⟨tankMerged, currentMerged, idleTankMerged⟩ :=
    Trips.get_merge computer.trackIdle inHand inHandIdle computer.trips
  refine ⟨settings, trackIdle, merged + inHand, mergedIdle + inHandIdle, loopDue, events, ?_,
    ?_, ?_, ?_⟩
  · rw [whole, add_zero, add_zero]
  · rw [tankMerged, tank, add_assoc]
  · intro tracked
    rw [idleTankMerged (trackIdle.trans tracked), idleTank tracked, add_assoc]
  · intro unreset
    rw [currentMerged, current unreset, add_assoc]

theorem resetCurrent {computer : Computer}
    (accounts : Accounts initial unpolled inHand inHandIdle computer)
    (reset : initial.settings.get .wakeupResetCurrent ≠ 0) :
    Accounts initial unpolled inHand inHandIdle
      { computer with trips := computer.trips.reset .current } := by
  obtain ⟨settings, trackIdle, merged, mergedIdle, loopDue, events, whole, tank, idleTank, _⟩ :=
    accounts
  refine ⟨settings, trackIdle, merged, mergedIdle, loopDue, events, whole, ?_, ?_, ?_⟩
  · exact (Trips.get_put_of_ne computer.trips _ (by decide)).trans tank
  · intro tracked
    exact (Trips.get_put_of_ne computer.trips _ (by decide)).trans (idleTank tracked)
  · exact fun unreset => absurd unreset reset

theorem balance : Balance (Accounts initial unpolled) where
  beside accounts beside := accounts.aside beside.toAside
  drain accounts := accounts.drain
  merge accounts := accounts.merge

end Accounts

/-- A section of a poll keeps the balance, whatever it does and however it ends: what it drains,
it merges. -/
theorem keeps_proceed (stage : PollStage) : Keeps (Accounts initial unpolled 0 0) stage.proceed := by
  cases stage with
  | idle =>
      have answers : Keeps (Accounts initial unpolled 0 0) answerScheduler := by
        intro computer accounts
        rw [answerScheduler_eq]
        exact accounts.aside ⟨rfl, rfl, ⟨_, _, rfl⟩, fun _ _ => rfl⟩
      exact answers.bind fun _ => Meets.read fun _ accounts =>
        Meets.pure fun _ same => same ▸ accounts
  | saving left =>
      cases left with
      | nil =>
          have asks : Keeps (Accounts initial unpolled 0 0)
              (takeFromCapture Capture.takeLoopDue) :=
            Meets.updateGet fun _ accounts =>
              accounts.aside ⟨rfl, rfl, ⟨_, _, rfl⟩, fun _ _ => rfl⟩
          exact asks.bind fun _ => Meets.pure fun _ kept => kept
      | cons first left =>
          have saves : Keeps (Accounts initial unpolled 0 0) (saveTrip first.1 first.2) :=
            keeps_saveTrip_of_store (fun _ _ accounts =>
              accounts.aside ⟨rfl, rfl, ⟨_, _, rfl⟩, fun _ _ => rfl⟩) _ _
          exact saves.bind fun _ => Meets.pure fun _ kept => kept
  | due =>
      refine (Accounts.balance.meets_beginPass (fun _ accounts => accounts) ?_).bind fun _ =>
        Meets.pure fun _ kept => kept
      intro computer accounts woken changed later
      refine later.resetCurrent ?_
      rw [← accounts.settings]
      simpa [Settings.flag] using (Bool.and_eq_true_iff.mp woken).2
  | passing awake economy =>
      exact (Accounts.balance.keeps_endPass awake economy).bind fun _ =>
        Meets.pure fun _ kept => kept

theorem Accounts.move {loop : MainLoop} (accounts : Accounts initial unpolled 0 0 loop.computer)
    (moves : List Move) :
    Accounts initial ((moves.filterMap Move.event?).foldl Capture.handle unpolled) 0 0
      (moves.foldl MainLoop.move loop).computer := by
  induction moves generalizing unpolled loop with
  | nil => exact accounts
  | cons first rest induction =>
      cases first with
      | captured event => exact induction (accounts.handle event)
      | advance =>
          have kept : Accounts initial unpolled 0 0 loop.advance.computer := by
            rw [MainLoop.computer_advance]
            exact keeps_iff.mp (keeps_proceed loop.stage) loop.computer accounts
          exact induction kept

/-- Wherever events come between the sections of polls, what the polls have added to a kept trip
and what is still in the raw trip are together what the raw trip would hold if the same events had
come without a poll. -/
theorem conserved_between_sections (loop : MainLoop) (moves : List Move) :
    let computer := loop.computer
    let final := (moves.foldl MainLoop.move loop).computer
    let unpolled := (moves.filterMap Move.event?).foldl Capture.handle computer.capture
    (final.trips.get .tank - computer.trips.get .tank) + final.capture.raw = unpolled.raw ∧
      (computer.trackIdle = true →
        (final.trips.get .idleTank - computer.trips.get .idleTank) + final.capture.rawIdle =
          unpolled.rawIdle) ∧
      (computer.settings.get .wakeupResetCurrent = 0 →
        (final.trips.get .current - computer.trips.get .current) + final.capture.raw =
          unpolled.raw) := by
  intro computer final unpolled
  obtain ⟨_, _, merged, mergedIdle, loopDue, events, whole, tank, idleTank, current⟩ :=
    (Accounts.start computer).move moves
  have raw : unpolled.raw = final.capture.raw + (merged + 0) := congrArg Capture.raw whole
  have rawIdle : unpolled.rawIdle = final.capture.rawIdle + (mergedIdle + 0) :=
    congrArg Capture.rawIdle whole
  refine ⟨?_, fun tracked => ?_, fun unreset => ?_⟩
  · rw [raw, tank, add_sub_cancel_left, add_zero, add_comm]
  · rw [rawIdle, idleTank tracked, add_sub_cancel_left, add_zero, add_comm]
  · rw [raw, current unreset, add_sub_cancel_left, add_zero, add_comm]

/-- What happens to a computer: an event on the interrupt side, or a poll of the main loop. -/
inductive Activity where
  | captured (event : Capture.Event)
  | poll
deriving DecidableEq, Repr

def Activity.event? : Activity → Option Capture.Event
  | .captured event => some event
  | .poll => none

/-- The computer after an activity.  A poll that fails keeps what it changed before. -/
def undergo (computer : Computer) : Activity → Computer
  | .captured event => { computer with capture := computer.capture.handle event }
  | .poll => afterTask poll computer

/-- Polls that are not interrupted are so many sections. -/
theorem exists_moves (computer : Computer) (activities : List Activity) :
    ∃ moves : List Move, moves.filterMap Move.event? = activities.filterMap Activity.event? ∧
      moves.foldl MainLoop.move ⟨computer, .idle⟩ = ⟨activities.foldl undergo computer, .idle⟩ := by
  induction activities generalizing computer with
  | nil => exact ⟨[], rfl, rfl⟩
  | cons first rest induction =>
      obtain ⟨moves, same, ends⟩ := induction (undergo computer first)
      cases first with
      | captured event => exact ⟨.captured event :: moves, congrArg (event :: ·) same, ends⟩
      | poll =>
          obtain ⟨count, finished⟩ := MainLoop.finishes computer .idle
          refine ⟨List.replicate (count + 1) .advance ++ moves, ?_, ?_⟩
          · rw [List.filterMap_append, List.filterMap_replicate_of_none rfl]
            exact same
          · rw [List.foldl_append, finished]
            exact ends

/-- Whatever the interleaving of events and polls, what the polls have added to a kept trip
and what is still in the raw trip are together what the raw trip would hold if the same
events had come without a poll. -/
theorem counts_conserved (computer : Computer) (activities : List Activity) :
    let final := activities.foldl undergo computer
    let unpolled := (activities.filterMap Activity.event?).foldl Capture.handle computer.capture
    (final.trips.get .tank - computer.trips.get .tank) + final.capture.raw = unpolled.raw ∧
      (computer.trackIdle = true →
        (final.trips.get .idleTank - computer.trips.get .idleTank) + final.capture.rawIdle =
          unpolled.rawIdle) ∧
      (computer.settings.get .wakeupResetCurrent = 0 →
        (final.trips.get .current - computer.trips.get .current) + final.capture.raw =
          unpolled.raw) := by
  intro final unpolled
  obtain ⟨moves, events, ends⟩ := exists_moves computer activities
  have conserved := conserved_between_sections ⟨computer, .idle⟩ moves
  rwa [ends, events] at conserved

/-- Two pulses around a poll that fails, because there is no room to save a trip. -/
theorem two_pulses_around_failed_poll :
    let settings := Settings.defaults.put .wakeupResetCurrent 0
    let computer : Computer :=
      { Setup.reference.initialComputer (Store.ofCells []) settings false with
        capture := .new { CaptureParameters.inert with trackIdle := true } }
    let activities : List Activity :=
      [.captured (.interrupt .vssEdge 5), .captured (.interrupt .timerOverflow 6), .poll,
        .captured (.interrupt .vssEdge 9), .poll]
    computer.trackIdle = true ∧ computer.settings.get .wakeupResetCurrent = 0 ∧
      ((activities.foldl undergo computer).trips.get .idleTank - computer.trips.get .idleTank) +
        (activities.foldl undergo computer).capture.rawIdle = ⟨2, 0, 4, 0, 0⟩ ∧
      ((activities.foldl undergo computer).trips.get .current - computer.trips.get .current) +
        (activities.foldl undergo computer).capture.raw = ⟨2, 0, 4, 0, 0⟩ := by
  intro settings computer activities
  have tracked : computer.trackIdle = true := rfl
  have unreset : computer.settings.get .wakeupResetCurrent = 0 :=
    Settings.get_put_self _ _ _
  have raw : ((activities.filterMap Activity.event?).foldl Capture.handle computer.capture).raw =
      ⟨2, 0, 4, 0, 0⟩ := by decide +kernel
  have rawIdle :
      ((activities.filterMap Activity.event?).foldl Capture.handle computer.capture).rawIdle =
        ⟨2, 0, 4, 0, 0⟩ := by decide +kernel
  obtain ⟨_, idleTank, current⟩ := counts_conserved computer activities
  exact ⟨tracked, unreset, (idleTank tracked).trans rawIdle, (current unreset).trans raw⟩

end TripComputer.Computer
