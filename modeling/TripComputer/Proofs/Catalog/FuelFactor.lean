import TripComputer.Config
import TripComputer.Proofs.Catalog.Nearest
import TripComputer.Proofs.Settings.Block
import TripComputer.Proofs.Word.Root

/-!
# The fuel factor

The flow of the injectors comes from their number and size and from the root of the pressure
ratio, and takes at most 46 binary digits.  In metric units the fuel factor is derived from it as
it is.  In imperial units it is first converted to gallons, and the product of that conversion
need not fit in a word: what the program computes is `storedFlow`, which is `unitFlow` only where
it does.
-/

namespace TripComputer

open Catalog Machine

namespace Settings

/-- The root of the pressure ratio, in 4096ths. -/
def pressureRoot (settings : Settings) : Nat :=
  Nat.sqrt (min (nearest ((settings.get .systemFuelPressure).toNat * 4096)
    (settings.get .referenceFuelPressure).toNat) 0xFFFFFFFF * 4096)

/-- The flow of all injectors, in 4096ths of a millilitre a minute. -/
def flow (settings : Settings) : Nat :=
  settings.pressureRoot * (settings.get .injectorCount).toNat * (settings.get .injectorSize).toNat

/-- The flow in thousandths of the unit of volume. -/
def unitFlow (settings : Settings) (metric : Bool) : Nat :=
  if metric then settings.flow else nearest (settings.flow * 1000000000) 3785411784

/-- The flow that the fuel factor is computed from. -/
def storedFlow (settings : Settings) (metric : Bool) : Nat :=
  if metric then settings.flow else nearest (settings.flow * 1000000000 % 2 ^ 64) 3785411784

theorem storedFlow_eq {settings : Settings} {metric : Bool}
    (fits : metric = false → settings.flow * 1000000000 < 2 ^ 64) :
    settings.storedFlow metric = settings.unitFlow metric := by
  rw [storedFlow, unitFlow]
  split
  case isTrue => rfl
  case isFalse imperial => rw [Nat.mod_eq_of_lt (fits (Bool.eq_false_iff.mpr imperial))]

theorem flow_lt {settings : Settings} (inRange : settings.InRange) : settings.flow < 2 ^ 46 := by
  have count : (settings.get .injectorCount).toNat < 2 ^ 8 := inRange.lt .injectorCount
  have size : (settings.get .injectorSize).toNat < 2 ^ 16 := inRange.lt .injectorSize
  have root : settings.pressureRoot < 2 ^ 22 := Word.sqrt_scaled_lt _
  calc settings.flow < 2 ^ 22 * 2 ^ 8 * 2 ^ 16 :=
        Nat.mul_lt_mul'' (Nat.mul_lt_mul'' root count) size
    _ = 2 ^ 46 := by decide

theorem storedFlow_le {settings : Settings} (inRange : settings.InRange) (metric : Bool) :
    settings.storedFlow metric ≤ 2 ^ 63 := by
  rw [storedFlow]
  split
  case isTrue => exact Nat.le_of_lt (Nat.lt_trans (flow_lt inRange) (by decide))
  case isFalse =>
    have wrapped := Nat.mod_lt (settings.flow * 1000000000) (show 0 < 2 ^ 64 by decide)
    rw [nearest]
    omega

/-- Microseconds in which a flow makes one unit of volume. -/
def openTime (flow : Nat) : Nat :=
  nearest (60 * 10 ^ 6 * 1000 * 4096) flow

/-- The table with the fuel factor of a flow.  Without a flow there is none to store. -/
def withFuelFactor (settings : Settings) (flow : Nat) : Settings :=
  if flow = 0 then settings
  else settings.put .microsPerQuantity (min (2 ^ 32 - 1) (openTime flow)).toUInt32

theorem storedFlow_of_no_reference {settings : Settings}
    (none : settings.get .referenceFuelPressure = 0) (metric : Bool) :
    settings.storedFlow metric = 0 := by
  have noFlow : settings.flow = 0 := by simp [flow, pressureRoot, nearest, none]
  cases metric <;> simp [storedFlow, noFlow, nearest]

end Settings

namespace Catalog

section

variable {index : UInt8} {surroundings : Surroundings} {registers : Registers}

/-- From a position on, the program stores the fuel factor of a flow.  Without flow it ends with
the overflow sentinel and stores nothing. -/
def StoresFactor (index : UInt8) (surroundings : Surroundings) (pc : Nat) (registers : Registers)
    (flow : Nat) : Prop :=
  ∃ later, Returns (table .native) index .fuelFactor pc registers surroundings later
      { surroundings with settings := surroundings.settings.withFuelFactor flow } ∧
    (flow = 0 → later.r2.toNat = 2 ^ 64 - 1)

theorem storesFactor_of_overflow {pc : Nat} {entering : Registers}
    (returns : ∀ later, Returns (table .native) index .overflow 0 entering surroundings later
        surroundings →
      Returns (table .native) index .fuelFactor pc registers surroundings later surroundings) :
    StoresFactor index surroundings pc registers 0 := by
  obtain ⟨later, overflows, result⟩ : Answers (table .native) index surroundings .overflow 0
      entering (2 ^ 64 - 1) := overflow_answers
  exact ⟨later, returns later overflows, fun _ => result⟩

/-- From the test for no flow on. -/
theorem storesFactor_of_flow {flow : Nat} (holds : registers.r2.toNat = flow)
    (moderate : flow ≤ 2 ^ 63) : StoresFactor index surroundings 14 registers flow := by
  subst holds
  by_cases noFlow : registers.r2 = 0
  · rw [noFlow]
    apply storesFactor_of_overflow
    intro later overflows
    refine .taken rfl rfl rfl ?_ (.jump rfl trivial overflows)
    simp [skips, Registers.get, Word.isZero, noFlow]
  · have positive : 0 < registers.r2.toNat := Word.toNat_pos noFlow
    obtain ⟨later, divides, result⟩ : Answers (table .native) index surroundings .divideRound 0
        ⟨registers.r2, 60 * 1000000 * 1000 * 4096, registers.r3, registers.r4, registers.r5⟩
        (rounded (60 * 10 ^ 6 * 1000 * 4096) registers.r2.toNat) :=
      divideRound_answers rfl rfl moderate
    refine ⟨later, ?_, fun none => absurd none (Nat.ne_of_gt positive)⟩
    have stored : surroundings.settings.store .microsPerQuantity later.r2 =
        surroundings.settings.withFuelFactor registers.r2.toNat := by
      rw [Settings.store_eq, result, rounded_eq_nearest positive, Settings.withFuelFactor,
        if_neg (Nat.ne_of_gt positive)]
      rfl
    rw [← stored]
    refine .passed rfl rfl (Word.isZero_of_ne_zero noFlow) ?_
    refine .data rfl rfl rfl (.data rfl rfl rfl ?_)
    exact .call rfl trivial divides (.data rfl rfl rfl (.done rfl))

/-- From the test for the unit system on. -/
theorem storesFactor_of_metric (inRange : surroundings.settings.InRange)
    (holds : registers.r2.toNat = surroundings.settings.flow) :
    StoresFactor index surroundings 10 registers
      (surroundings.settings.storedFlow (Environment.metric surroundings)) := by
  have moderate := Settings.storedFlow_le inRange (Environment.metric surroundings)
  cases mode : Environment.metric surroundings with
  | true =>
      have metric : surroundings.settings.storedFlow true = surroundings.settings.flow := if_pos rfl
      rw [mode, metric] at moderate
      rw [metric]
      obtain ⟨later, rest, result⟩ := storesFactor_of_flow holds moderate
      exact ⟨later, .taken rfl rfl rfl mode rest, result⟩
  | false =>
      have imperial : scaled surroundings.settings.flow 1000000000 3785411784 =
          surroundings.settings.storedFlow false := by
        rw [scaled, rounded_eq_nearest (by decide), Settings.storedFlow, if_neg (by decide)]
      obtain ⟨gallons, converts, converted⟩ : Answers (table .native) index surroundings
          .mulDivRound 0 ⟨1000000000, registers.r2, 3785411784, registers.r4, registers.r5⟩
          (scaled surroundings.settings.flow 1000000000 3785411784) :=
        mulDivRound_answers holds rfl rfl (by decide)
      rw [mode] at moderate
      obtain ⟨later, rest, result⟩ := storesFactor_of_flow (converted.trans imperial) moderate
      refine ⟨later, .passed rfl rfl mode ?_, result⟩
      exact .data rfl rfl rfl (.data rfl rfl rfl (.call rfl trivial converts rest))

/-- What the program makes of the pressures is the root of their ratio. -/
theorem toNat_rootQ12_ratio {settings : Settings} {ratio : UInt64}
    (reference : settings.get .referenceFuelPressure ≠ 0)
    (divided : ratio.toNat = scaled (settings.get .systemFuelPressure).toNat 4096
      (settings.get .referenceFuelPressure).toNat) :
    (Word.rootQ12 ratio).toNat = settings.pressureRoot := by
  have positive := Settings.toNat_get_pos reference
  have narrow := (settings.get .systemFuelPressure).toNat_lt
  rw [Word.toNat_rootQ12, divided, scaled_eq_nearest positive (by omega), Settings.pressureRoot]

/-- From the beginning, where there is a reference pressure. -/
theorem storesFactor_of_reference (inRange : surroundings.settings.InRange)
    (reference : surroundings.settings.get .referenceFuelPressure ≠ 0) :
    StoresFactor index surroundings 0 registers
      (surroundings.settings.storedFlow (Environment.metric surroundings)) := by
  let settings := surroundings.settings
  obtain ⟨ratio, divides, divided⟩ : Answers (table .native) index surroundings .mulDivRound 0
      ⟨4096, (settings.get .systemFuelPressure).toUInt64,
        (settings.get .referenceFuelPressure).toUInt64, registers.r4, registers.r5⟩
      (scaled (settings.get .systemFuelPressure).toNat 4096
        (settings.get .referenceFuelPressure).toNat) :=
    mulDivRound_answers rfl rfl rfl (toNat_le_half _)
  have root := toNat_rootQ12_ratio reference divided
  obtain ⟨counted, counts, countedFlow⟩ : Answers (table .native) index surroundings .multiply 0
      ⟨(settings.get .injectorCount).toUInt64, Word.rootQ12 ratio.r2, ratio.r3, ratio.r4,
        ratio.r5⟩ (settings.pressureRoot * (settings.get .injectorCount).toNat % 2 ^ 64) :=
    multiply_answers root rfl
  obtain ⟨sized, sizes, sizedFlow⟩ : Answers (table .native) index surroundings .multiply 0
      ⟨(settings.get .injectorSize).toUInt64, counted.r2, counted.r3, counted.r4, counted.r5⟩
      (settings.pressureRoot * (settings.get .injectorCount).toNat % 2 ^ 64 *
        (settings.get .injectorSize).toNat % 2 ^ 64) :=
    multiply_answers countedFlow rfl
  have flow : sized.r2.toNat = settings.flow := by
    rw [sizedFlow, Nat.mod_mul_mod]
    exact Nat.mod_eq_of_lt (Nat.lt_trans (Settings.flow_lt inRange) (by decide))
  have nonzero : (settings.get .referenceFuelPressure).toUInt64 ≠ 0 := fun none =>
    reference (UInt32.toNat_inj.mp (congrArg UInt64.toNat none))
  obtain ⟨later, rest, result⟩ := storesFactor_of_metric inRange flow
  refine ⟨later, ?_, result⟩
  refine .data rfl rfl rfl (.passed rfl rfl (Word.isZero_of_ne_zero nonzero) ?_)
  refine .data rfl rfl rfl (.data rfl rfl rfl (.call rfl trivial divides ?_))
  refine .data rfl rfl rfl (.data rfl rfl rfl (.call rfl trivial counts ?_))
  exact .data rfl rfl rfl (.call rfl trivial sizes rest)

/-- The program stores the fuel factor of the flow, whatever flow that is. -/
theorem storesFactor (index : UInt8) (inRange : surroundings.settings.InRange)
    (registers : Registers) :
    StoresFactor index surroundings 0 registers
      (surroundings.settings.storedFlow (Environment.metric surroundings)) := by
  by_cases reference : surroundings.settings.get .referenceFuelPressure = 0
  · rw [Settings.storedFlow_of_no_reference reference]
    apply storesFactor_of_overflow
    intro later overflows
    refine .data rfl rfl rfl (.taken rfl rfl rfl ?_ (.jump rfl trivial overflows))
    show Word.isZero (surroundings.settings.get .referenceFuelPressure).toUInt64 = true
    rw [reference]
    rfl
  · exact storesFactor_of_reference inRange reference

end

/-- What a run of the program has done where the flow is a given one: it has stored the nearest
whole number to the fuel factor, cut to 32 bits, and nothing else. -/
structure FactorStored (surroundings : Surroundings) (flow : Nat) (run : Run Surroundings) :
    Prop where
  ended : ∃ raw, run.result = .ok raw ∧ (flow = 0 → raw.toNat = 2 ^ 64 - 1)
  stored : 0 < flow → run.environment = { surroundings with
    settings := surroundings.settings.put .microsPerQuantity
      (min (2 ^ 32 - 1) (Settings.openTime flow)).toUInt32 }
  kept : flow = 0 → run.environment = surroundings

theorem factorStored {surroundings : Surroundings} (inRange : surroundings.settings.InRange)
    (arithmetic : Arithmetic) (machine : Machine) (index : UInt8) :
    FactorStored surroundings (surroundings.settings.storedFlow (Environment.metric surroundings))
      (machine.run (table arithmetic) surroundings .fuelFactor index) := by
  obtain ⟨later, returns, result⟩ := storesFactor index inRange machine.registers
  obtain ⟨ended, _, changed⟩ := run_of_native arithmetic machine returns
  constructor
  · exact ⟨later.r2, ended, result⟩
  · intro flows
    rw [changed, Settings.withFuelFactor, if_neg (Nat.ne_of_gt flows)]
  · intro noFlow
    rw [changed, Settings.withFuelFactor, if_pos noFlow]

/-- In metric units, and in imperial units where the conversion of the flow to gallons fits in a
word, a run of the program stores the fuel factor of the flow and nothing else.  Without a
reference pressure, or without flow, it ends with the overflow sentinel and stores nothing.
Where the conversion does not fit, the factor is that of the flow that is left of it. -/
theorem fuelFactor_exact_unless_wrapped {surroundings : Surroundings}
    (inRange : surroundings.settings.InRange) (arithmetic : Arithmetic) (machine : Machine)
    (index : UInt8) :
    let settings := surroundings.settings
    let metric := Environment.metric surroundings
    let run := machine.run (table arithmetic) surroundings .fuelFactor index
    ((metric = false → settings.flow * 1000000000 < 2 ^ 64) →
      FactorStored surroundings (settings.unitFlow metric) run) ∧
    FactorStored surroundings (settings.storedFlow metric) run ∧
    (settings.get .referenceFuelPressure = 0 →
      (∃ raw, run.result = .ok raw ∧ raw.toNat = 2 ^ 64 - 1) ∧ run.environment = surroundings) := by
  intro settings metric run
  have stored : FactorStored surroundings (settings.storedFlow metric) run :=
    factorStored inRange arithmetic machine index
  refine ⟨fun fits => ?_, stored, fun noReference => ?_⟩
  · rwa [← Settings.storedFlow_eq fits]
  · have noFlow := Settings.storedFlow_of_no_reference noReference metric
    obtain ⟨raw, ended, sentinel⟩ := stored.ended
    exact ⟨⟨raw, ended, sentinel noFlow⟩, stored.kept noFlow⟩

/-- Six injectors of 284 millilitres a minute, in imperial units. -/
theorem fuelFactor_of_defaults :
    let surroundings : Surroundings :=
      { settings := .defaults, cyclesPerSecond := Board.cyclesPerSecond,
        tickCycles := Board.tickCycles, metricOverride := none, trip? := fun _ => none,
        tankFuel := 0, reading? := fun _ => none }
    surroundings.settings.InRange ∧
      (Machine.initial.run (table .primitive) surroundings .fuelFactor 0).environment =
        { surroundings with settings := Settings.defaults.put .microsPerQuantity 133289149 } := by
  intro surroundings
  have inRange : surroundings.settings.InRange := Settings.inRange_defaults
  have flow : surroundings.settings.unitFlow false = 1843811 := by decide +kernel
  obtain ⟨exact, _⟩ := fuelFactor_exact_unless_wrapped inRange .primitive Machine.initial 0
  have stored := (exact fun _ => by decide +kernel).stored
  have factor : (min (2 ^ 32 - 1) (Settings.openTime 1843811)).toUInt32 = 133289149 := by decide
  refine ⟨inRange, ?_⟩
  rw [← factor, ← flow]
  exact stored (flow ▸ by decide)

/-- The number and size of injectors may be the largest that their settings take, and a
configuration that says so is valid.  In imperial units the conversion of their flow does not fit
in a word, and the factor that is stored is not the one of the flow. -/
theorem fuelFactor_of_largest_injectors :
    let config : Config :=
      { Config.empty with injectors := ⟨some 255, some 65535, none, none, none, none⟩ }
    let surroundings : Surroundings :=
      { settings := (Settings.defaults.put .injectorCount 255).put .injectorSize 65535,
        cyclesPerSecond := Board.cyclesPerSecond, tickCycles := Board.tickCycles,
        metricOverride := none, trip? := fun _ => none, tankFuel := 0, reading? := fun _ => none }
    config.isValid = true ∧ config.overrides = [(.injectorCount, 255), (.injectorSize, 65535)] ∧
      surroundings.settings.InRange ∧ Environment.metric surroundings = false ∧
      surroundings.settings.unitFlow false = 18082576139 ∧
      ∀ arithmetic,
        (Machine.initial.run (table arithmetic) surroundings .fuelFactor 0).environment.settings.get
            .microsPerQuantity = 70963 ∧
        ¬FactorStored surroundings (surroundings.settings.unitFlow false)
          (Machine.initial.run (table arithmetic) surroundings .fuelFactor 0) := by
  intro config surroundings
  have inRange : surroundings.settings.InRange :=
    (Settings.inRange_defaults.put (by decide)).put (by decide)
  have flow : surroundings.settings.unitFlow false = 18082576139 := by decide +kernel
  have left : surroundings.settings.storedFlow false = 3463233415 := by decide +kernel
  refine ⟨by decide, rfl, inRange, by decide, flow, fun arithmetic => ?_⟩
  let run := Machine.initial.run (table arithmetic) surroundings .fuelFactor 0
  have value : run.environment.settings.get .microsPerQuantity = 70963 := by
    have changed : FactorStored surroundings (surroundings.settings.storedFlow false) run :=
      factorStored inRange arithmetic Machine.initial 0
    rw [left] at changed
    rw [changed.stored (by decide), Settings.get_put_self]
    decide
  refine ⟨value, fun exact => ?_⟩
  rw [flow] at exact
  rw [exact.stored (by decide), Settings.get_put_self] at value
  exact absurd value (by decide)

end Catalog

end TripComputer
