import Mathlib.Data.List.DropRight
import TripComputer.Proofs.Computer.Fresh
import TripComputer.Proofs.Computer.Passes
import TripComputer.Proofs.Machine.Sight

/-!
# The history of fuel economy

Every so many waking passes the main loop takes a sample of fuel economy.  It does so before it
drains what the pass itself has to count, so that a sample stands for the passes from the last one
that has taken a sample on, waking or not, up to the one before it.  `Sampling` says where the
period, the trip of the period and the history are after a list of passes, and `SamplesRightly`
what a pass does behind such a list.
-/

namespace TripComputer

theorem Catalog.tripwise_fuelEconomy (arithmetic : Arithmetic) :
    (table arithmetic).Tripwise .fuelEconomy := by
  let programs : List Program :=
    [.fuelEconomy, .mulDivRound, .divideRound, .toMicros, .multiply, .divide, .adjust, .overflow]
  refine ProgramTable.tripwise_of_closed (show .fuelEconomy ∈ programs from List.mem_cons_self) ?_
  cases arithmetic <;> decide +kernel

namespace Computer

/-- The surroundings of a computer with one trip in the place of all of its own. -/
def surroundingsOf (computer : Computer) (trip : Trip) : Surroundings :=
  { computer.surroundings with trip? := fun _ => some trip }

/-- The sample is the fuel economy of a trip on the settings and the clock of a computer. -/
def EconomyOf (computer : Computer) (trip : Trip) (sample : Reading) : Prop :=
  ∃ raw, sample = .ofRaw raw ∧
    Gives (computer.surroundingsOf trip) .fuelEconomy TripName.period.index raw

/-- The number of waking passes. -/
def wakings (passes : List (CycleReport × Trip)) : Nat :=
  passes.countP (·.1.awake)

/-- The samples that passes have taken. -/
def samples (passes : List (CycleReport × Trip)) : List Reading :=
  passes.filterMap (·.1.economy)

/-- What has been drained by the last pass that has taken a sample, and by those after it.  Without
such a pass, it is what all passes have drained. -/
def sinceSample (passes : List (CycleReport × Trip)) : Trip :=
  passes.foldl
    (fun counted pass => if pass.1.economy.isSome then pass.2 else counted + pass.2) 0

/-- Where sampling is after passes from an initial computer. -/
structure Sampling (initial : Computer) (passes : List (CycleReport × Trip))
    (computer : Computer) : Prop where
  tuned : Tuned initial computer
  counted : computer.trips.get .period = sinceSample passes
  waited : computer.periodCycles = wakings passes % samplePeriod initial.settings
  history : computer.history = (samples passes).rtake historyLength

/-- Behind earlier passes, a pass samples when it wakes as the last one of a period, and it samples
what has been counted in that period. -/
structure SamplesRightly (initial : Computer) (earlier : List (CycleReport × Trip))
    (pass : CycleReport × Trip) : Prop where
  due : pass.1.economy.isSome = true ↔
    pass.1.awake = true ∧ samplePeriod initial.settings ∣ wakings (earlier ++ [pass])
  sample : ∀ sample ∈ pass.1.economy, EconomyOf initial (sinceSample earlier) sample

theorem wakings_concat (passes : List (CycleReport × Trip)) (pass : CycleReport × Trip) :
    wakings (passes ++ [pass]) = wakings passes + if pass.1.awake then 1 else 0 := by
  simp [wakings, List.countP_append, List.countP_cons]

theorem samples_concat (passes : List (CycleReport × Trip)) (pass : CycleReport × Trip) :
    samples (passes ++ [pass]) = samples passes ++ pass.1.economy.toList := by
  cases economy : pass.1.economy <;> simp [samples, economy]

theorem sinceSample_concat (passes : List (CycleReport × Trip)) (pass : CycleReport × Trip) :
    sinceSample (passes ++ [pass]) =
      if pass.1.economy.isSome then pass.2 else sinceSample passes + pass.2 := by
  rw [sinceSample, List.foldl_concat]
  rfl

/-- The history keeps the latest samples. -/
theorem remember_rtake (taken : List Reading) (sample : Reading) :
    remember (taken.rtake historyLength) sample = (taken ++ [sample]).rtake historyLength := by
  have kept : (taken ++ [sample]).rtake historyLength =
      taken.rtake (historyLength - 1) ++ [sample] := List.rtake_concat_succ _ _ _
  have most : historyLength = 15 := rfl
  rw [kept, remember]
  congr 1
  unfold List.rtake
  split
  next room =>
    rw [List.length_drop] at room
    congr 1
    omega
  next full =>
    rw [List.length_drop] at full
    rw [List.drop_drop]
    congr 1
    omega

variable {initial computer changed : Computer} {earlier : List (CycleReport × Trip)}
  {report : CycleReport}

/-- The program of fuel economy sees of a computer what it sees of the trip of its period. -/
theorem economyOf_of_gives {raw : UInt64} (tuned : Tuned initial computer)
    (gives : Gives computer.surroundings .fuelEconomy TripName.period.index raw) :
    EconomyOf initial (computer.trips.get .period) (.ofRaw raw) := by
  have same : Environment.SameSight TripName.period.index computer.surroundings
      (initial.surroundingsOf (computer.trips.get .period)) := by
    refine ⟨congrArg Settings.metric tuned.settings, tuned.cyclesPerSecond, fun name => ?_,
      fun _ => rfl⟩
    exact congrArg (Settings.get · name) tuned.settings
  exact ⟨raw, rfl, fun calculator =>
    (Machine.run_under (Catalog.tripwise_fuelEconomy _) _ same).trans (gives calculator)⟩

theorem Classified.get_period {band? : Option (Fin speedBandCount)}
    (classified : Classified computer band? changed) :
    changed.trips.get .period = computer.trips.get .period := by
  cases classified with
  | @counted place =>
      dsimp only
      cases barAt place.toNat with
      | none => rfl
      | some band => exact Trips.get_put_of_ne _ _ nofun

/-- A pass adds what it drains to the trip of the period. -/
theorem get_period_drained (computer : Computer) :
    (drained computer).trips.get .period = computer.trips.get .period + computer.capture.raw :=
  Trips.get_merge_period _ _ _ _

/-- A sample that is taken or awaited behind earlier passes. -/
structure SampledBehind (initial : Computer) (earlier : List (CycleReport × Trip))
    (economy : Option Reading) (sampled : Computer) : Prop where
  due : economy.isSome = true ↔ samplePeriod initial.settings ∣ wakings earlier + 1
  waited : sampled.periodCycles = (wakings earlier + 1) % samplePeriod initial.settings
  history : sampled.history = (samples earlier ++ economy.toList).rtake historyLength
  counted : sampled.trips.get .period = if economy.isSome then 0 else sinceSample earlier
  sample : ∀ sample ∈ economy, EconomyOf initial (sinceSample earlier) sample

theorem Sampling.sampled {economy : Option Reading} (sampling : Sampling initial earlier computer)
    (periodic : samplePeriod initial.settings ≠ 0) (sampled : Sampled computer economy changed) :
    SampledBehind initial earlier economy changed := by
  obtain ⟨tuned, counted, waited, history⟩ := sampling
  have within : computer.periodCycles < samplePeriod initial.settings :=
    waited.trans_lt (Nat.mod_lt _ (Nat.pos_of_ne_zero periodic))
  have next : (wakings earlier + 1) % samplePeriod initial.settings =
      (computer.periodCycles + 1) % samplePeriod initial.settings := by
    rw [waited, Nat.mod_add_mod]
  rw [← tuned.settings] at periodic within next
  cases sampled with
  | off unsampled => exact absurd unsampled periodic
  | waiting _ early =>
      rw [Nat.mod_eq_of_lt early, tuned.settings] at next
      refine ⟨⟨nofun, fun divides => ?_⟩, next.symm, ?_, counted, nofun⟩
      · rw [Nat.dvd_iff_mod_eq_zero, next] at divides
        cases divides
      · exact history.trans (congrArg (List.rtake · _) (List.append_nil _).symm)
  | due _ due gives =>
      have ends : computer.periodCycles + 1 = samplePeriod computer.settings := by omega
      rw [ends, Nat.mod_self, tuned.settings] at next
      refine ⟨⟨fun _ => Nat.dvd_of_mod_eq_zero next, fun _ => rfl⟩, next.symm, ?_, ?_, ?_⟩
      · exact (congrArg (remember · _) history).trans (remember_rtake _ _)
      · rw [Trips.get_reset, if_pos rfl]
        rfl
      · rintro _ ⟨⟩
        rw [← counted]
        exact economyOf_of_gives tuned gives

theorem Sampling.answered (sampling : Sampling initial earlier computer) :
    Sampling initial earlier (answered computer) :=
  ⟨sampling.tuned.trans ⟨rfl, rfl⟩, (get_answered .period nofun).trans sampling.counted,
    sampling.waited, sampling.history⟩

theorem Sampling.scheduled (sampling : Sampling initial earlier computer)
    (scheduled : Scheduled computer changed) : Sampling initial earlier changed := by
  obtain ⟨_, _, _, _, rfl⟩ := scheduled
  exact ⟨sampling.tuned.trans ⟨rfl, rfl⟩, sampling.counted, sampling.waited, sampling.history⟩

/-- A pass samples rightly, and adds what it drains to what has been counted. -/
theorem Passed.sampling (passed : Passed computer report changed)
    (periodic : samplePeriod initial.settings ≠ 0) (sampling : Sampling initial earlier computer) :
    SamplesRightly initial earlier (report, computer.capture.raw) ∧
      Sampling initial (earlier ++ [(report, computer.capture.raw)]) changed := by
  have tuned := sampling.tuned.trans passed.tuned
  cases passed with
  | asleep asleep =>
      refine ⟨⟨⟨nofun, nofun⟩, nofun⟩, tuned, ?_, ?_, ?_⟩
      · rw [get_finished .period nofun rfl, get_period_drained, sampling.answered.counted,
          sinceSample_concat]
        rfl
      · rw [wakings_concat]
        exact sampling.waited
      · rw [samples_concat]
        exact sampling.history.trans (congrArg (List.rtake · _) (List.append_nil _).symm)
  | @awake economy band sampled graphed awake samples classifies =>
      obtain ⟨due, waited, history, counted, sample⟩ := sampling.answered.sampled periodic samples
      have kept : (finished graphed true).periodCycles = sampled.periodCycles ∧
          (finished graphed true).history = sampled.history := by
        cases classifies with
        | counted => exact ⟨rfl, rfl⟩
      refine ⟨⟨?_, sample⟩, tuned, ?_, ?_, ?_⟩
      · rw [wakings_concat, if_pos rfl]
        exact due.trans (and_iff_right rfl).symm
      · rw [get_finished .period nofun rfl, classifies.get_period, get_period_drained, counted,
          samples.only.capture, sinceSample_concat]
        cases economy with
        | none => rfl
        | some sample => exact zero_add _
      · rw [wakings_concat, if_pos rfl]
        exact kept.1.trans waited
      · rw [samples_concat]
        exact kept.2.trans history

/-- So does an activity, if it makes a pass. -/
theorem Undergone.sampling {pass? : Option (CycleReport × Trip)}
    (undergone : Undergone computer pass? changed) (periodic : samplePeriod initial.settings ≠ 0)
    (sampling : Sampling initial earlier computer) :
    (∀ pass ∈ pass?, SamplesRightly initial earlier pass) ∧
      Sampling initial (earlier ++ pass?.toList) changed := by
  cases undergone with
  | still =>
      refine ⟨nofun, ?_⟩
      rw [Option.toList_none, List.append_nil]
      exact ⟨sampling.tuned.trans ⟨rfl, rfl⟩, sampling.counted, sampling.waited, sampling.history⟩
  | passed scheduled passed =>
      obtain ⟨rightly, after⟩ := passed.sampling periodic (sampling.scheduled scheduled)
      rw [scheduled.raw] at rightly after
      refine ⟨?_, after⟩
      rintro _ ⟨⟩
      exact rightly

/-- Every pass of a run samples rightly behind those before it. -/
theorem Sampling.run (periodic : samplePeriod initial.settings ≠ 0)
    (sampling : Sampling initial earlier computer) (activities : List Activity) :
    (∀ before pass, before ++ [pass] <+: passes computer activities →
      SamplesRightly initial (earlier ++ before) pass) ∧
      Sampling initial (earlier ++ passes computer activities) (activities.foldl undergo computer) := by
  -- on the activities, for whatever passes have been made before them
  induction activities generalizing computer earlier with
  | nil =>
      refine ⟨fun before pass starts => ?_, ?_⟩
      · cases List.append_ne_nil_of_right_ne_nil before (List.cons_ne_nil pass [])
          (List.prefix_nil.mp starts)
      · rwa [passes, List.append_nil]
  | cons first rest induction =>
      obtain ⟨rightly, next⟩ := (undergone computer first).sampling periodic sampling
      obtain ⟨others, final⟩ := induction next
      rw [passes, ← List.append_assoc]
      refine ⟨fun before pass starts => ?_, final⟩
      cases made : pass? computer first with
      | none =>
          rw [made] at others starts
          simpa using others before pass starts
      | some firstPass =>
          rw [made] at others starts
          cases before with
          | nil =>
              cases (List.cons_prefix_cons.mp starts).1
              rw [List.append_nil]
              exact rightly _ made
          | cons head tail =>
              obtain ⟨same, later⟩ := List.cons_prefix_cons.mp starts
              cases same
              simpa using others tail pass later

/-- From a freshly built computer on, exactly the last waking passes of the periods sample fuel
economy, and each of them samples the fuel economy of what has been drained from the pass that
sampled before it on, waking or not, up to the pass before it.  The history is that of the latest
fifteen samples. -/
theorem economy_sampled_over_time {setup : Setup} {computer : Computer}
    (built : setup.build = .ok computer) (sampled : computer.settings.get .economyPeriod ≠ 0)
    (activities : List Activity) :
    (∀ earlier pass, earlier ++ [pass] <+: passes computer activities →
      (pass.1.economy.isSome = true ↔ pass.1.awake = true ∧
        2 * (computer.settings.get .economyPeriod).toNat ∣ wakings (earlier ++ [pass])) ∧
      ∀ sample ∈ pass.1.economy, EconomyOf computer (sinceSample earlier) sample) ∧
    (activities.foldl undergo computer).history =
      (samples (passes computer activities)).rtake 15 := by
  have period : samplePeriod computer.settings =
      2 * (computer.settings.get .economyPeriod).toNat := Nat.mul_comm _ _
  have positive : (computer.settings.get .economyPeriod).toNat ≠ 0 := fun none =>
    sampled (UInt32.toNat_inj.mp none)
  have periodic : samplePeriod computer.settings ≠ 0 := by omega
  have fresh := Setup.fresh_of_build built
  have start : Sampling computer [] computer :=
    ⟨⟨rfl, rfl⟩, fresh.trips .period rfl, fresh.periodCycles, fresh.history⟩
  obtain ⟨rightly, final⟩ := start.run periodic activities
  refine ⟨fun earlier pass starts => ?_, final.history⟩
  obtain ⟨due, sample⟩ := rightly earlier pass starts
  rw [period] at due
  exact ⟨due, sample⟩

/-- Five passes on a slow clock with a period of two, of which the third one sleeps.  The last one
is the fourth that wakes, and samples what the three before it have drained. -/
theorem second_sample_after_sleep :
    let setup : Setup := { Setup.reference with
      store := some (.erased Image.length)
      settings := some ((Settings.defaults.put .economyPeriod 1).put .activityTimeout 1)
      cyclesPerSecond := 20000
      tickCycles := 1024 }
    let ticks (first : Nat) : List Activity := (List.range 9).map fun tick =>
      .captured (.interrupt .timerOverflow (1024 * (first + tick)).toUInt32)
    let edges (times : List UInt32) : List Activity := times.map fun time =>
      .captured (.interrupt .vssEdge time)
    let injected (first : UInt32) : List Activity :=
      [.captured (.interrupt .injectorOpen first),
        .captured (.interrupt .injectorClose (first + 100)),
        .captured (.interrupt .injectorOpen (first + 900)),
        .captured (.interrupt .injectorClose (first + 1000))]
    let activities : List Activity :=
      edges [100, 500] ++ injected 10 ++ ticks 1 ++ [.poll] ++ ticks 10 ++ [.poll] ++ ticks 19 ++
        [.poll] ++ edges [30000, 31000, 33000] ++ injected 30100 ++ ticks 28 ++ [.poll] ++
        ticks 37 ++ [.poll]
    ∃ computer, setup.build = .ok computer ∧ computer.settings.get .economyPeriod ≠ 0 ∧
      (passes computer activities).map (·.1.awake) = [true, true, false, true, true] ∧
      (passes computer activities).map (·.1.economy) =
        [none, some (.value 2995), none, none, some (.value 4492)] ∧
      EconomyOf computer ⟨3, 2, 3000, 900, 178⟩ (.value 4492) ∧
      (activities.foldl undergo computer).history = [.value 2995, .value 4492] := by
  intro setup ticks edges injected activities
  let sampled (computer : Computer) : Bool :=
    let made := passes computer activities
    computer.settings.get .economyPeriod == 1 &&
      made.map (·.1.awake) == [true, true, false, true, true] &&
      made.map (·.1.economy) == [none, some (.value 2995), none, none, some (.value 4492)] &&
      made.getLast?.map (·.1.economy) == some (some (.value 4492)) &&
      sinceSample made.dropLast == ⟨3, 2, 3000, 900, 178⟩
  have run : (match setup.build with
      | .ok computer => sampled computer
      | .error _ => false) = true := by
    decide +kernel
  split at run
  next computer built =>
    simp only [sampled, Bool.and_eq_true, beq_iff_eq] at run
    obtain ⟨⟨⟨⟨period, wakes⟩, economies⟩, latest⟩, counted⟩ := run
    have periodic : computer.settings.get .economyPeriod ≠ 0 := by
      rw [period]
      decide
    obtain ⟨rightly, history⟩ := economy_sampled_over_time built periodic activities
    obtain ⟨pass, last, economy⟩ := Option.map_eq_some_iff.mp latest
    have whole : (passes computer activities).dropLast ++ [pass] <+: passes computer activities := by
      rw [List.dropLast_append_getLast? pass last]
    obtain ⟨_, sample⟩ := rightly _ pass whole
    rw [counted] at sample
    have taken : samples (passes computer activities) = [.value 2995, .value 4492] := by
      have split : samples (passes computer activities) =
          ((passes computer activities).map (·.1.economy)).filterMap id := by
        rw [List.filterMap_map]
        rfl
      rw [split, economies]
      rfl
    rw [taken] at history
    exact ⟨computer, built, periodic, wakes, economies, sample _ economy, history⟩
  next => cases run

end Computer

end TripComputer
