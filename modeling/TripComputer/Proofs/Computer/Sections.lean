import TripComputer.Proofs.Capture.Event
import TripComputer.Proofs.Computer.Pass

/-!
# A poll in sections

A poll looks at what it shares with the interrupt side several times, and an interrupt may come
between any two of these looks.  `PollStage.proceed` makes the part of a poll that begins with the
next look and ends before the one after it.  Made one after another without an interrupt between
them, these parts are the poll.
-/

namespace TripComputer.Computer

/-- Where the main loop stands in a poll. -/
inductive PollStage where
  | idle
  /-- The scheduler has been answered.  Trips may still have to be saved before it is asked for a
  pass. -/
  | saving (left : List (TripName × Nat))
  /-- A pass is to begin. -/
  | due
  /-- A pass has begun and has yet to drain the raw trips. -/
  | passing (awake : Bool) (economy : Option Reading)

/-- What a section of a poll comes to. -/
inductive PollProgress where
  | goesOn (stage : PollStage)
  | ends (report : Option CycleReport)

namespace PollStage

/-- One section of a poll, which begins with a look at what is shared. -/
def proceed : PollStage → Task PollProgress
  | .idle => do
      let asleep ← answerScheduler
      let computer ← get
      return .goesOn (.saving (if asleep then computer.autosaveSlots else []))
  | .saving ((trip, slot) :: left) => do
      saveTrip trip slot
      return .goesOn (.saving left)
  | .saving [] => do
      let due ← takeFromCapture Capture.takeLoopDue
      return if due then .goesOn .due else .ends none
  | .due => do
      let (awake, economy) ← beginPass
      return .goesOn (.passing awake economy)
  | .passing awake economy => do
      let report ← endPass awake economy
      return .ends (some report)

/-- What is left of a poll that is not interrupted any more. -/
def rest : PollStage → Task (Option CycleReport)
  | .idle => poll
  | .saving left => do
      left.forM fun (trip, slot) => saveTrip trip slot
      if ← takeFromCapture Capture.takeLoopDue then
        return some (← runCycle)
      else return none
  | .due => return some (← runCycle)
  | .passing awake economy => return some (← endPass awake economy)

end PollStage

/-- What is left of a poll after a section. -/
def PollProgress.rest : PollProgress → Task (Option CycleReport)
  | .goesOn stage => stage.rest
  | .ends report => pure report

/-- What is left of a poll is its next section, and what is left then. -/
theorem PollStage.rest_eq (stage : PollStage) : stage.rest = stage.proceed >>= PollProgress.rest := by
  cases stage with
  | idle =>
      simp only [rest, proceed, poll, bind_assoc, pure_bind, PollProgress.rest]
      refine congrArg (answerScheduler >>= ·) (funext fun asleep => ?_)
      cases asleep with
      | false => rfl
      | true => simp only [if_true, autosave, bind_assoc]
  | saving left =>
      cases left with
      | nil =>
          simp only [rest, proceed, bind_assoc, pure_bind]
          rw [List.forM_eq_forM, List.forM_nil, pure_bind]
          refine congrArg (takeFromCapture Capture.takeLoopDue >>= ·) (funext fun due => ?_)
          cases due <;> rfl
      | cons first left =>
          simp only [rest, proceed, bind_assoc, pure_bind, PollProgress.rest]
          rw [List.forM_eq_forM, List.forM_cons, bind_assoc]
  | due => simp only [rest, proceed, runCycle, bind_assoc, pure_bind, PollProgress.rest]
  | passing awake economy => simp only [rest, proceed, bind_assoc, pure_bind, PollProgress.rest]

/-- A stage of a poll, and the one that a section of it may lead to. -/
inductive PollStage.Precedes : PollStage → PollStage → Prop where
  | answered (left : List (TripName × Nat)) : Precedes .idle (.saving left)
  | saved (first : TripName × Nat) (left : List (TripName × Nat)) :
      Precedes (.saving (first :: left)) (.saving left)
  | asked : Precedes (.saving []) .due
  | begun (awake : Bool) (economy : Option Reading) : Precedes .due (.passing awake economy)

theorem PollStage.meets_proceed (stage : PollStage) :
    Meets (fun _ => True) stage.proceed
      (fun progress _ => ∀ later, progress = .goesOn later → stage.Precedes later)
      fun _ => True := by
  cases stage with
  | idle =>
      refine (Meets.trivial _).bind fun asleep => Meets.read fun computer _ => Meets.pure ?_
      rintro _ _ later ⟨⟩
      exact .answered _
  | saving left =>
      cases left with
      | nil =>
          refine (Meets.trivial _).bind fun due => Meets.pure ?_
          rintro _ _ later same
          cases due with
          | false => cases same
          | true =>
              cases same
              exact .asked
      | cons first left =>
          refine (Meets.trivial _).bind fun _ => Meets.pure ?_
          rintro _ _ later ⟨⟩
          exact .saved first left
  | due =>
      refine (Meets.trivial _).bind fun begun => Meets.pure ?_
      rintro _ _ later ⟨⟩
      exact .begun _ _
  | passing awake economy =>
      refine (Meets.trivial _).bind fun report => Meets.pure ?_
      rintro _ _ later ⟨⟩

/-- A computer, and where its main loop stands. -/
structure MainLoop where
  computer : Computer
  stage : PollStage

/-- What happens next: an event on the interrupt side, or a section of a poll. -/
inductive Move where
  | captured (event : Capture.Event)
  | advance

def Move.event? : Move → Option Capture.Event
  | .captured event => some event
  | .advance => none

namespace MainLoop

/-- The main loop after a section.  A poll that fails is over, and keeps what it changed before. -/
def advance (loop : MainLoop) : MainLoop :=
  match loop.stage.proceed loop.computer with
  | .ok (.goesOn stage) changed => ⟨changed, stage⟩
  | .ok (.ends _) changed => ⟨changed, .idle⟩
  | .error _ changed => ⟨changed, .idle⟩

def move (loop : MainLoop) : Move → MainLoop
  | .captured event =>
      { loop with
        computer := { loop.computer with capture := loop.computer.capture.handle event } }
  | .advance => loop.advance

theorem computer_advance (loop : MainLoop) :
    loop.advance.computer = afterTask loop.stage.proceed loop.computer := by
  unfold advance afterTask
  split <;> simp only [*]

/-- Some sections, of which there is at least one, are what is left of a poll. -/
def Finishes (loop : MainLoop) : Prop :=
  ∃ count, (List.replicate (count + 1) Move.advance).foldl move loop =
    ⟨afterTask loop.stage.rest loop.computer, .idle⟩

/-- A section either is all that is left, or another stage follows it. -/
theorem finishes_of_later {computer : Computer} {stage : PollStage}
    (later : ∀ next changed, stage.Precedes next → Finishes ⟨changed, next⟩) :
    Finishes ⟨computer, stage⟩ := by
  have met := stage.meets_proceed computer True.intro
  cases outcome : stage.proceed computer with
  | error failure changed =>
      refine ⟨0, ?_⟩
      simp only [List.replicate, List.foldl, move, advance, outcome, afterTask, stage.rest_eq,
        bind_of_error outcome]
  | ok progress changed =>
      rw [outcome] at met
      cases progress with
      | ends report =>
          refine ⟨0, ?_⟩
          simp only [List.replicate, List.foldl, move, advance, outcome, afterTask, stage.rest_eq,
            bind_of_ok outcome]
          rfl
      | goesOn next =>
          obtain ⟨count, finished⟩ := later next changed (met next rfl)
          refine ⟨count + 1, ?_⟩
          have onward : move ⟨computer, stage⟩ .advance = ⟨changed, next⟩ := by
            simp only [move, advance, outcome]
          have left : afterTask stage.rest computer = afterTask next.rest changed := by
            simp only [afterTask, stage.rest_eq, bind_of_ok outcome]
            rfl
          rw [List.replicate_succ, List.foldl_cons, onward, finished, left]

theorem finishes (computer : Computer) (stage : PollStage) : Finishes ⟨computer, stage⟩ := by
  have passing (awake economy) (computer : Computer) :
      Finishes ⟨computer, .passing awake economy⟩ :=
    finishes_of_later fun _ _ precedes => nomatch precedes
  have due (computer : Computer) : Finishes ⟨computer, .due⟩ := by
    refine finishes_of_later ?_
    rintro _ changed ⟨⟩
    exact passing _ _ changed
  have saving (left : List (TripName × Nat)) (computer : Computer) :
      Finishes ⟨computer, .saving left⟩ := by
    induction left generalizing computer with
    | nil =>
        refine finishes_of_later ?_
        rintro _ changed ⟨⟩
        exact due changed
    | cons first left induction =>
        refine finishes_of_later ?_
        rintro _ changed ⟨⟩
        exact induction changed
  cases stage with
  | idle =>
      refine finishes_of_later ?_
      rintro _ changed ⟨⟩
      exact saving _ changed
  | saving left => exact saving left computer
  | due => exact due computer
  | passing awake economy => exact passing awake economy computer

end MainLoop

end TripComputer.Computer
