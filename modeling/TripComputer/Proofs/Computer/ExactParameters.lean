import TripComputer.Computer.Setup
import TripComputer.Proofs.Catalog.Nearest
import TripComputer.Proofs.Computer.Derived
import TripComputer.Proofs.Settings.Block

/-!
# Capture parameters in whole numbers

`CaptureParameters.Exact` says what the capture parameters are by the formulas that they come
from, on numbers of any size, and only then cut to 32 bits.  The widths of the settings leave
the programs that derive them room for every product, for any clock, and so the parameters that
a computer derives are exact.
-/

namespace TripComputer

open Catalog Machine

theorem toNat_saturated (value : Nat) : (saturated value).toNat = min value 0xFFFFFFFF :=
  Nat.mod_eq_of_lt (Nat.lt_of_le_of_lt (Nat.min_le_right _ _) (by decide))

theorem toNat_max (first second : UInt32) :
    (max first second).toNat = max first.toNat second.toNat := by
  show (if first ≤ second then second else first).toNat = _
  split
  case isTrue atMost => rw [Nat.max_eq_right (UInt32.le_iff_toNat_le.mp atMost)]
  case isFalse above =>
    rw [Nat.max_eq_left (Nat.le_of_not_le (mt UInt32.le_iff_toNat_le.mpr above))]

namespace CaptureParameters

/-- Length of an engine cycle at the lowest speed of a running engine, where that is not zero. -/
def exactCycle (settings : Settings) (rate : Nat) : Nat :=
  nearest (60 * (settings.get .crankRevs).toNat * rate) (settings.get .minGoodRpm).toNat

/-- The parameters are the nearest whole numbers to what they stand for, cut to 32 bits. -/
structure Exact (settings : Settings) (rate tick : Nat) (parameters : CaptureParameters) :
    Prop where
  settle : parameters.settleCycles.toNat =
    min (nearest ((settings.get .injectorSettle).toNat * rate) 1000000) 0xFFFFFFFF
  cycle : settings.get .minGoodRpm ≠ 0 →
    parameters.minGoodCycles.toNat = min (exactCycle settings rate) 0xFFFFFFFF
  opening : settings.get .minGoodRpm ≠ 0 →
    parameters.maxGoodInjectorCycles.toNat =
      min (nearest (exactCycle settings rate * (settings.get .injectorDutyCeiling).toNat) 1024)
        0xFFFFFFFF
  /-- Without a lowest speed there is no limit. -/
  unlimited : settings.get .minGoodRpm = 0 →
    parameters.minGoodCycles.toNat = 0xFFFFFFFF ∧
      parameters.maxGoodInjectorCycles.toNat = 0xFFFFFFFF
  duty : parameters.dutyCeiling = settings.get .injectorDutyCeiling
  reset : parameters.injectorResetTicks.toNat =
    min (parameters.minGoodCycles.toNat / tick + 2) 0xFFFFFFFF
  sleep : parameters.sleepTicks.toNat =
    min (nearest ((settings.get .activityTimeout).toNat * rate) tick) 0xFFFFFFFF
  pause : parameters.vssPauseTicks.toNat =
    min (nearest (nearest ((settings.get .vssPause).toNat * rate) 1000) tick) 0xFFFFFFFF
  vssReset : parameters.vssResetTicks = parameters.loopTicks
  loop : parameters.loopTicks.toNat = max 1 (rate / (2 * tick))

section

variable {settings : Settings} (inRange : settings.InRange) (rate : UInt32)

/-- A factor of up to 32 bits leaves room for the clock. -/
theorem mul_rate_lt {value : Nat} (small : value ≤ 2 ^ 32) : value * rate.toNat < 2 ^ 64 := by
  have scaled : value * rate.toNat ≤ 2 ^ 32 * rate.toNat := Nat.mul_le_mul_right _ small
  have narrow := rate.toNat_lt
  omega

include inRange

theorem settle_fits : (settings.get .injectorSettle).toNat * rate.toNat < 2 ^ 64 := by
  have narrow : (settings.get .injectorSettle).toNat < 2 ^ 16 := inRange.lt .injectorSettle
  exact mul_rate_lt rate (by omega)

theorem sleep_fits : (settings.get .activityTimeout).toNat * rate.toNat < 2 ^ 64 := by
  have narrow : (settings.get .activityTimeout).toNat < 2 ^ 16 := inRange.lt .activityTimeout
  exact mul_rate_lt rate (by omega)

theorem pause_fits : (settings.get .vssPause).toNat * rate.toNat < 2 ^ 64 := by
  have narrow : (settings.get .vssPause).toNat < 2 ^ 8 := inRange.lt .vssPause
  exact mul_rate_lt rate (by omega)

theorem seconds_lt : (settings.get .crankRevs).toNat * 60 < 2 ^ 14 := by
  have narrow : (settings.get .crankRevs).toNat < 2 ^ 8 := inRange.lt .crankRevs
  omega

theorem cycles_lt : 60 * (settings.get .crankRevs).toNat * rate.toNat < 2 ^ 46 := by
  have seconds := seconds_lt inRange
  calc 60 * (settings.get .crankRevs).toNat * rate.toNat
      ≤ 2 ^ 14 * rate.toNat := Nat.mul_le_mul_right _ (by omega)
    _ < 2 ^ 14 * 2 ^ 32 := Nat.mul_lt_mul_of_pos_left rate.toNat_lt (by decide)

theorem seconds_mod : (settings.get .crankRevs).toNat * 60 % 2 ^ 64 =
    60 * (settings.get .crankRevs).toNat := by
  have seconds := seconds_lt inRange
  omega

theorem longestCycle_eq (running : settings.get .minGoodRpm ≠ 0) :
    longestCycle settings rate = exactCycle settings rate.toNat := by
  have turning := Settings.toNat_get_pos running
  have cycles := cycles_lt inRange rate
  rw [longestCycle, if_neg (Nat.ne_of_gt turning), seconds_mod inRange,
    scaled_eq_nearest turning (by omega), exactCycle]

theorem share_fits : exactCycle settings rate.toNat *
    (settings.get .injectorDutyCeiling).toNat < 2 ^ 64 := by
  have narrow : (settings.get .injectorDutyCeiling).toNat < 2 ^ 10 :=
    inRange.lt .injectorDutyCeiling
  have cycle : exactCycle settings rate.toNat < 2 ^ 46 :=
    Nat.lt_of_le_of_lt (nearest_le _ _) (cycles_lt inRange rate)
  calc exactCycle settings rate.toNat * (settings.get .injectorDutyCeiling).toNat
      < 2 ^ 46 * 2 ^ 10 := Nat.mul_lt_mul'' cycle narrow
    _ ≤ 2 ^ 64 := by decide

theorem longestOpening_eq (running : settings.get .minGoodRpm ≠ 0) :
    longestOpening settings rate = nearest (exactCycle settings rate.toNat *
      (settings.get .injectorDutyCeiling).toNat) 1024 := by
  have turning := Settings.toNat_get_pos running
  rw [longestOpening, if_neg (Nat.ne_of_gt turning), longestCycle_eq inRange rate running,
    scaled_eq_nearest (by decide) (share_fits inRange rate)]

end

theorem toNat_loopTicks (rate : UInt32) {tick : UInt32} (ticking : 0 < tick.toNat)
    (short : tick.toNat ≤ 2 ^ 30) :
    (Board.loopTicks rate tick).toNat = max 1 (rate.toNat / (2 * tick.toNat)) := by
  have doubled : (Board.loopsPerSecond * max tick 1).toNat = 2 * tick.toNat := by
    have atLeast : max tick.toNat (1 : UInt32).toNat = tick.toNat := Nat.max_eq_left ticking
    rw [UInt32.toNat_mul, toNat_max, atLeast]
    exact Nat.mod_eq_of_lt (show 2 * tick.toNat < 2 ^ 32 by omega)
  rw [Board.loopTicks, toNat_max, UInt32.toNat_div, doubled]
  exact Nat.max_comm _ _

/-- What belongs to a table of settings that fit their widths is exact. -/
theorem exact_derived {settings : Settings} (inRange : settings.InRange) (rate : UInt32)
    {tick : UInt32} (ticking : 0 < tick.toNat) (short : tick.toNat ≤ 2 ^ 30) (trackIdle : Bool) :
    Exact settings rate.toNat tick.toNat (derived settings rate tick trackIdle) where
  settle := by
    rw [← scaled_eq_nearest (by decide) (settle_fits inRange rate)]
    exact toNat_saturated _
  cycle running := by
    rw [← longestCycle_eq inRange rate running]
    exact toNat_saturated _
  opening running := by
    rw [← longestOpening_eq inRange rate running]
    exact toNat_saturated _
  unlimited stopped := by
    simp [derived, longestCycle, longestOpening, stopped, toNat_saturated]
  duty := rfl
  reset := toNat_saturated _
  sleep := by
    rw [← scaled_eq_nearest ticking (sleep_fits inRange rate)]
    exact toNat_saturated _
  pause := by
    rw [← scaled_eq_nearest (by decide) (pause_fits inRange rate), ← rounded_eq_nearest ticking]
    exact toNat_saturated _
  vssReset := rfl
  loop := toNat_loopTicks rate ticking short

end CaptureParameters

namespace Computer

/-- The programs that the capture parameters are derived with. -/
def derivations : List Program :=
  [.settleCycles, .minGoodRpmCycles, .injectorCeilingCycles, .sleepTicks, .vssPauseTicks]

open CaptureParameters in
/-- No derivation enters a multiplication whose product does not fit. -/
theorem derivations_fit (surroundings : Surroundings) (inRange : surroundings.settings.InRange)
    (arithmetic : Arithmetic) (index : UInt8) (registers : Registers) {program : Program}
    (derives : program ∈ derivations) :
    ∃ Post, Leads (table arithmetic) index (Multiplying (· < 2 ^ 64)) surroundings program 0
      registers Post := by
  have seconds := seconds_lt inRange
  have cycles := cycles_lt inRange surroundings.cyclesPerSecond
  rw [← seconds_mod inRange] at cycles
  simp only [derivations, List.mem_cons, List.not_mem_nil, or_false] at derives
  rcases derives with rfl | rfl | rfl | rfl | rfl
  · exact ⟨_, settleCycles_leads _ (settle_fits inRange _)⟩
  · exact ⟨_, minGoodRpmCycles_leads _ (by omega) (by omega)⟩
  · refine ⟨_, injectorCeilingCycles_leads _ (by omega) (by omega) fun turning => ?_⟩
    have running : surroundings.settings.get .minGoodRpm ≠ 0 := fun none =>
      turning (congrArg UInt32.toNat none)
    rw [longestCycle_eq inRange _ running]
    exact share_fits inRange _
  · exact ⟨_, sleepTicks_leads _ (sleep_fits inRange _)⟩
  · exact ⟨_, vssPauseTicks_leads _ (pause_fits inRange _)⟩

/-- A computer whose settings fit their widths derives its capture parameters without failing,
installs them, and they are exact, for any clock and any tick of up to 2^30 cycles.  None of the
programs multiplies anything on the way whose product does not fit in a word. -/
theorem derives_exact_parameters {computer : Computer} (inRange : computer.settings.InRange)
    (ticking : 0 < computer.tickCycles.toNat) (short : computer.tickCycles.toNat ≤ 2 ^ 30) :
    (∃ parameters changed, applyDerived computer = .ok parameters changed ∧
      changed.capture.parameters = parameters ∧
      parameters.Exact computer.settings computer.cyclesPerSecond.toNat
        computer.tickCycles.toNat) ∧
    ∀ program ∈ derivations, ∀ (machine : Machine) (count : Nat) (state : State Surroundings),
      Reaches (table computer.calculator.arithmetic) 0 count
          (machine.start computer.surroundings program) state →
        Entering (table computer.calculator.arithmetic) state .multiply →
          state.registers.r2.toNat * state.registers.r1.toNat < 2 ^ 64 := by
  constructor
  · obtain ⟨calculator, derives⟩ := applyDerived_eq computer
    exact ⟨_, _, derives, rfl,
      CaptureParameters.exact_derived inRange _ ticking short computer.trackIdle⟩
  · intro program derives machine count state reached entering
    obtain ⟨_, _, returns, _⟩ := derivations_fit computer.surroundings inRange
      computer.calculator.arithmetic 0 machine.registers derives
    exact returns.allowed (ranked_table _) machine (height_le_stackDepth program) reached entering

/-- On the reference board with the default settings, where the longest opening is rounded up. -/
theorem exact_parameters_at_reference :
    let computer := Setup.reference.initialComputer (.erased Image.length) .defaults true
    ∃ parameters changed, applyDerived computer = .ok parameters changed ∧
      changed.capture.parameters = parameters ∧
      parameters.settleCycles.toNat = 172 ∧ parameters.minGoodCycles.toNat = 375000 ∧
      parameters.maxGoodInjectorCycles.toNat = 299927 ∧
      parameters.injectorResetTicks.toNat = 1466 ∧ parameters.sleepTicks.toNat = 146484 ∧
      parameters.vssPauseTicks.toNat = 2 ∧ parameters.loopTicks.toNat = 610 := by
  intro computer
  have inRange : computer.settings.InRange := Settings.inRange_defaults
  obtain ⟨⟨parameters, changed, derives, installed, exact⟩, _⟩ :=
    derives_exact_parameters inRange (by decide) (by decide)
  refine ⟨parameters, changed, derives, installed, exact.settle.trans (by decide),
    (exact.cycle (by decide)).trans (by decide), (exact.opening (by decide)).trans (by decide),
    ?_, exact.sleep.trans (by decide), exact.pause.trans (by decide),
    exact.loop.trans (by decide)⟩
  rw [exact.reset, exact.cycle (by decide)]
  decide

end Computer

end TripComputer
