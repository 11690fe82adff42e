import TripComputer.Proofs.Catalog.SpeedBand
import TripComputer.Proofs.Computer.Fresh
import TripComputer.Proofs.Computer.Passes

/-!
# The speed graph partitions what has been counted

A waking pass counts the trip that it drains in at most one bar of the speed graph, the one that
it reports, before the window filter replaces the instant trip.  Nothing else touches the bars, so
that each of them is the sum of the trips that were counted in it.
-/

namespace TripComputer.Computer

open Catalog

/-- Whether a pass has counted its trip in a bar of the speed graph. -/
def countedIn (band : Fin speedBandCount) (pass : CycleReport × Trip) : Bool :=
  pass.1.awake && pass.1.band == some band

/-- The sum of the trips that passes have counted in a bar. -/
def tally (band : Fin speedBandCount) (passes : List (CycleReport × Trip)) : Trip :=
  ((passes.filter (countedIn band)).map (·.2)).sum

theorem tally_append (band : Fin speedBandCount) (first second : List (CycleReport × Trip)) :
    tally band (first ++ second) = tally band first + tally band second := by
  rw [tally, List.filter_append, List.map_append, List.sum_append]
  rfl

theorem tally_singleton (band : Fin speedBandCount) (pass : CycleReport × Trip) :
    tally band [pass] = if countedIn band pass then pass.2 else 0 := by
  rw [tally, List.filter_cons]
  split <;> simp

variable {computer changed : Computer} {report : CycleReport} (band : Fin speedBandCount)

/-- The instant trip is counted in one bar, and in no other. -/
theorem get_countInBar (trips : Trips) (band? : Option (Fin speedBandCount)) :
    (countInBar trips band?).get (.speedBand band) =
      trips.get (.speedBand band) + if band? = some band then trips.get .instant else 0 := by
  cases band? with
  | none => simp [countInBar]
  | some other =>
      rw [countInBar, Trips.get_update]
      by_cases same : other = band
      · simp [same]
      · have different : band ≠ other := fun equal => same equal.symm
        simp [same, different]

theorem Classified.get_speedBand {band? : Option (Fin speedBandCount)}
    (classified : Classified computer band? changed) :
    changed.trips.get (.speedBand band) = computer.trips.get (.speedBand band) +
      if band? = some band then computer.trips.get .instant else 0 := by
  cases classified with
  | counted => exact get_countInBar band computer.trips _

/-- A pass counts what it drains in the bar that it reports. -/
theorem Passed.get_speedBand (passed : Passed computer report changed) :
    changed.trips.get (.speedBand band) =
      computer.trips.get (.speedBand band) + tally band [(report, computer.capture.raw)] := by
  cases passed with
  | asleep =>
      rw [get_finished (.speedBand band) nofun rfl, drained, Trips.get_merge_speedBand,
        get_answered (.speedBand band) nofun, tally_singleton]
      exact (add_zero _).symm
  | awake _ samples classifies =>
      obtain ⟨_, capture, trips⟩ := samples.only
      rw [get_finished (.speedBand band) nofun rfl, classifies.get_speedBand, drained,
        Trips.get_merge_speedBand, Trips.get_merge_instant, trips (.speedBand band) nofun,
        get_answered (.speedBand band) nofun, capture, tally_singleton]
      simp [countedIn, answered]

/-- An activity adds to a bar what its pass has counted in it. -/
theorem Undergone.get_speedBand {pass? : Option (CycleReport × Trip)}
    (undergone : Undergone computer pass? changed) :
    changed.trips.get (.speedBand band) =
      computer.trips.get (.speedBand band) + tally band pass?.toList := by
  cases undergone with
  | still => exact (add_zero _).symm
  | passed scheduled passed =>
      rw [passed.get_speedBand, scheduled.trips, scheduled.raw]
      rfl

theorem get_speedBand_run (computer : Computer) (activities : List Activity) :
    (activities.foldl undergo computer).trips.get (.speedBand band) =
      computer.trips.get (.speedBand band) + tally band (passes computer activities) := by
  -- on the activities, for every computer that they may start from
  induction activities generalizing computer with
  | nil => exact (add_zero _).symm
  | cons first rest induction =>
      rw [List.foldl_cons, induction, (undergone computer first).get_speedBand band, passes,
        tally_append, add_assoc]

/-- A pass reports the bar of the speed that the trip which it drained is displayed with, on the
settings and the clock of a computer. -/
def ReportsSpeed (computer : Computer) (pass : CycleReport × Trip) : Prop :=
  ∃ (ready : Computer) (speed : UInt64), Tuned computer ready ∧
    ready.trips.get .instant = pass.2 ∧
    (∀ calculator : Calculator,
      (calculator.evaluate ready.surroundings .speed TripName.instant.index).1 =
        .ok ⟨.speed, speed⟩) ∧
    pass.1.band = barAt (bandOf (computer.settings.get .barLowSpeed).toNat
      (computer.settings.get .barSpeedQuantum).toNat speed.toNat)

theorem ReportsSpeed.of_tuned {pass : CycleReport × Trip} (tuned : Tuned computer changed)
    (reports : ReportsSpeed changed pass) : ReportsSpeed computer pass := by
  obtain ⟨ready, speed, later, counted, moving, band⟩ := reports
  rw [tuned.settings] at band
  exact ⟨ready, speed, tuned.trans later, counted, moving, band⟩

theorem Passed.reportsSpeed (passed : Passed computer report changed)
    (quantum : computer.settings.get .barSpeedQuantum ≠ 0) (awake : report.awake = true) :
    ReportsSpeed computer (report, computer.capture.raw) := by
  cases passed with
  | asleep => cases awake
  | @awake _ _ sampled _ _ samples classifies =>
      have tuned : Tuned computer (drained sampled) :=
        ⟨samples.only.settings, samples.only.cyclesPerSecond⟩
      have counted : (drained sampled).trips.get .instant = computer.capture.raw := by
        rw [drained, Trips.get_merge_instant, samples.only.capture]
        rfl
      cases classifies with
      | counted _ gives =>
          rw [← tuned.settings] at quantum
          obtain ⟨speed, place, moving, classified, bar⟩ :=
            Calculator.speedBand_classifies (drained sampled).surroundings TripName.instant.index
              ((drained sampled).trips.get .instant) (fun _ => rfl) quantum
          refine ⟨drained sampled, speed, tuned, counted, moving, ?_⟩
          cases (gives (.new .native)).symm.trans (classified (.new .native))
          rw [bar, ← tuned.settings]
          rfl

theorem Undergone.reportsSpeed {pass : CycleReport × Trip}
    (undergone : Undergone computer (some pass) changed)
    (quantum : computer.settings.get .barSpeedQuantum ≠ 0) (awake : pass.1.awake = true) :
    ReportsSpeed computer pass := by
  cases undergone with
  | passed scheduled passed =>
      rw [← scheduled.tuned.settings] at quantum
      rw [← scheduled.raw]
      exact (passed.reportsSpeed quantum awake).of_tuned scheduled.tuned

theorem reportsSpeed_of_mem_passes {activities : List Activity} {pass : CycleReport × Trip}
    (quantum : computer.settings.get .barSpeedQuantum ≠ 0)
    (member : pass ∈ passes computer activities) (awake : pass.1.awake = true) :
    ReportsSpeed computer pass := by
  -- on the activities, as every computer of a run is tuned like the first one
  induction activities generalizing computer with
  | nil => cases member
  | cons first rest induction =>
      have step := undergone computer first
      rcases List.mem_append.mp member with now | later
      · rw [Option.mem_toList.mp now] at step
        exact step.reportsSpeed quantum awake
      · rw [← step.tuned.settings] at quantum
        exact (induction quantum later).of_tuned step.tuned

/-- The bar that the program answers with is that of the displayed speed.  From a freshly built
computer on, each bar of the speed graph is the sum of what exactly those waking passes drained
that report it, each of which reports the bar of the speed of what it drained. -/
theorem speed_graph_partitions_counts :
    (∀ (σ : Type) [Environment σ] (environment : σ) (index : UInt8) (trip : Trip),
      (∀ counter, Environment.counter? environment index counter = some (trip.get counter)) →
      Environment.setting environment .barSpeedQuantum ≠ 0 →
      ∃ speed place : UInt64,
        (∀ calculator : Calculator,
          (calculator.evaluate environment .speed index).1 = .ok ⟨.speed, speed⟩) ∧
        (∀ calculator : Calculator,
          (calculator.call environment .speedBand index 0).result = .ok place) ∧
        place.toNat = bandOf (Environment.setting environment .barLowSpeed).toNat
          (Environment.setting environment .barSpeedQuantum).toNat speed.toNat) ∧
    ∀ (setup : Setup) (computer : Computer), setup.build = .ok computer →
      ∀ activities : List Activity,
        (∀ band, (activities.foldl undergo computer).trips.get (.speedBand band) =
          tally band (passes computer activities)) ∧
        (computer.settings.get .barSpeedQuantum ≠ 0 →
          ∀ pass ∈ passes computer activities, pass.1.awake = true →
            ReportsSpeed computer pass) := by
  constructor
  · intro σ _ environment index trip counted quantum
    exact Calculator.speedBand_classifies environment index trip counted quantum
  · intro setup computer built activities
    refine ⟨fun band => ?_, fun quantum pass member awake =>
      reportsSpeed_of_mem_passes quantum member awake⟩
    have empty : computer.trips.get (.speedBand band) = 0 :=
      (Setup.fresh_of_build built).trips (.speedBand band) rfl
    rw [get_speedBand_run, empty, zero_add]

/-- Two passes on a slow clock, of which the second one drains a trip that is too slow for the
graph.  What the first one has drained is in the third bar, and classifies as that. -/
theorem third_bar_after_two_passes :
    let setup : Setup := { Setup.reference with
      store := some (.erased Image.length)
      settings := some .defaults
      cyclesPerSecond := 20000
      tickCycles := 1024 }
    let ticks (first : Nat) : List Activity := (List.range 9).map fun tick =>
      .captured (.interrupt .timerOverflow (1024 * (first + tick)).toUInt32)
    let activities : List Activity :=
      [.captured (.interrupt .vssEdge 100), .captured (.interrupt .vssEdge 500)] ++ ticks 1 ++
        [.poll, .captured (.interrupt .vssEdge 10000), .captured (.interrupt .vssEdge 12000)] ++
        ticks 12 ++ [.poll]
    ∃ computer, setup.build = .ok computer ∧
      let final := activities.foldl undergo computer
      (passes computer activities).map (·.1.band) = [some 2, none] ∧
        final.trips.get (.speedBand 2) = ⟨2, 0, 400, 0, 0⟩ ∧
        (∀ pass ∈ passes computer activities, pass.1.awake = true → ReportsSpeed computer pass) ∧
        ∃ speed : UInt64,
          (∀ calculator : Calculator, (calculator.evaluate final.surroundings .speed
            (TripName.speedBand 2).index).1 = .ok ⟨.speed, speed⟩) ∧
          bandOf 25000 5000 speed.toNat = 2 := by
  intro setup ticks activities
  let graph (computer : Computer) : Bool :=
    let final := activities.foldl undergo computer
    (passes computer activities).map (·.1.band) == [some 2, none] &&
      tally 2 (passes computer activities) == ⟨2, 0, 400, 0, 0⟩ &&
      computer.settings.get .barSpeedQuantum == 5000 &&
      final.settings.get .barLowSpeed == 25000 && final.settings.get .barSpeedQuantum == 5000 &&
      ((Calculator.new .native).call final.surroundings .speedBand
        (TripName.speedBand 2).index 0).result.toOption == some 2
  have run : (match setup.build with
      | .ok computer => graph computer
      | .error _ => false) = true := by
    decide +kernel
  split at run
  next computer built =>
    simp only [graph, Bool.and_eq_true, beq_iff_eq] at run
    obtain ⟨⟨⟨⟨⟨bands, drained⟩, wide⟩, low⟩, quantum⟩, answer⟩ := run
    obtain ⟨classifies, partitions⟩ := speed_graph_partitions_counts
    obtain ⟨counts, reports⟩ := partitions setup computer built activities
    have classified (ready : Computer) (low : ready.settings.get .barLowSpeed = 25000)
        (quantum : ready.settings.get .barSpeedQuantum = 5000) :
        ∃ speed place : UInt64,
          (∀ calculator : Calculator, (calculator.evaluate ready.surroundings .speed
            (TripName.speedBand 2).index).1 = .ok ⟨.speed, speed⟩) ∧
          (∀ calculator : Calculator, (calculator.call ready.surroundings .speedBand
            (TripName.speedBand 2).index 0).result = .ok place) ∧
          place.toNat = bandOf 25000 5000 speed.toNat := by
      have divides : ready.settings.get .barSpeedQuantum ≠ 0 := by
        rw [quantum]
        decide
      have bar := classifies Surroundings ready.surroundings (TripName.speedBand 2).index
        (ready.trips.get (.speedBand 2)) (fun _ => rfl) divides
      have low : Environment.setting ready.surroundings .barLowSpeed = 25000 := low
      have quantum : Environment.setting ready.surroundings .barSpeedQuantum = 5000 := quantum
      rw [low, quantum] at bar
      exact bar
    obtain ⟨speed, place, moving, answers, bar⟩ := classified _ low quantum
    rw [answers (.new .native)] at answer
    have second : place = 2 := Option.some.inj answer
    rw [second] at bar
    refine ⟨computer, built, bands, (counts 2).trans drained, reports ?_, speed, moving, bar.symm⟩
    rw [wide]
    decide
  next => cases run

end TripComputer.Computer
