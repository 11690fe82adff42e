import TripComputer.Proofs.Catalog.Formulas
import TripComputer.Proofs.Catalog.Nearest

/-!
# How far the displayed ratios are off

Speed and imperial fuel economy are quotients of quotients.  Each of them is rounded, and the
error of an inner one is carried along by what it is multiplied with.  Where the product of the
second quotient fits in a word, nothing else is lost on the way.
-/

namespace TripComputer

namespace Catalog

/-- Errors add up, each in the units of what it is multiplied with. -/
theorem error_add {first second bound other : Int} (weight factor : Nat)
    (outer : 2 * |first| ≤ bound) (inner : 2 * |second| ≤ other) :
    2 * |first * weight + second * factor| ≤ bound * weight + other * factor := by
  have sum := abs_add_le (first * weight) (second * factor)
  rw [abs_mul, abs_mul, Nat.abs_cast, Nat.abs_cast] at sum
  calc 2 * |first * weight + second * factor|
      ≤ 2 * (|first| * weight + |second| * factor) := mul_le_mul_of_nonneg_left sum (by decide)
    _ = 2 * |first| * weight + 2 * |second| * factor := by ring
    _ ≤ bound * weight + other * factor := by gcongr

/-- The error of a quotient that is multiplied and divided again. -/
theorem nearest_nearest_error (dividend factor : Nat) {divisor second : Nat}
    (positive : 0 < divisor) (positiveToo : 0 < second) :
    2 * |(nearest (nearest dividend divisor * factor) second * second * divisor -
      dividend * factor : Int)| ≤ divisor * (second + factor) := by
  have inner := nearest_error dividend positive
  have outer := nearest_error (nearest dividend divisor * factor) positiveToo
  generalize nearest (nearest dividend divisor * factor) second = last at outer ⊢
  generalize nearest dividend divisor = between at inner outer ⊢
  push_cast at outer
  have parted : (last * second * divisor - dividend * factor : Int) =
      (last * second - between * factor) * divisor + (between * divisor - dividend) * factor := by
    ring
  rw [parted]
  calc _ ≤ (second * divisor + divisor * factor : Int) := error_add divisor factor outer inner
    _ = divisor * (second + factor) := by ring

end Catalog

namespace Figures

open Catalog

variable (figures : Figures)

theorem speed_error (distance : 0 < figures.pulsesPerDistance) (moving : 0 < figures.roadCycles)
    (narrow : figures.roadPulses * 3600000 < 2 ^ 64)
    (fits : nearest (figures.roadPulses * 3600000) figures.pulsesPerDistance *
      figures.cyclesPerSecond < 2 ^ 64) :
    2 * |(figures.speed * figures.roadCycles * figures.pulsesPerDistance -
      3600000 * figures.roadPulses * figures.cyclesPerSecond : Int)| ≤
        figures.pulsesPerDistance * (figures.roadCycles + figures.cyclesPerSecond) := by
  have quotients : figures.speed = nearest (nearest (figures.roadPulses * 3600000)
      figures.pulsesPerDistance * figures.cyclesPerSecond) figures.roadCycles := by
    rw [speed, if_neg (Nat.ne_of_gt distance), if_neg (Nat.ne_of_gt moving),
      scaled_eq_nearest distance narrow, scaled_eq_nearest moving fits]
  have error := nearest_nearest_error (figures.roadPulses * 3600000) figures.cyclesPerSecond
    distance moving
  rw [← quotients] at error
  push_cast at error
  rwa [mul_comm (3600000 : Int)]

theorem reach_error (distance : 0 < figures.pulsesPerDistance) (flowing : 0 < figures.openCycles)
    (narrow : figures.roadPulses * figures.microsPerQuantity < 2 ^ 64)
    (fits : nearest (figures.roadPulses * figures.microsPerQuantity) figures.pulsesPerDistance *
      figures.cyclesPerSecond < 2 ^ 64) :
    2 * |(figures.reach * figures.openCycles * figures.pulsesPerDistance -
      figures.roadPulses * figures.microsPerQuantity * figures.cyclesPerSecond : Int)| ≤
        figures.pulsesPerDistance * (figures.openCycles + figures.cyclesPerSecond) := by
  have quotients : figures.reach = nearest (nearest (figures.roadPulses *
      figures.microsPerQuantity) figures.pulsesPerDistance * figures.cyclesPerSecond)
        figures.openCycles := by
    rw [reach, scaled_eq_nearest distance narrow, scaled_eq_nearest flowing fits]
  have error := nearest_nearest_error (figures.roadPulses * figures.microsPerQuantity)
    figures.cyclesPerSecond distance flowing
  rw [← quotients] at error
  exact_mod_cast error

/-- The last quotient, by a thousand, adds half a thousand to the error. -/
theorem fuelEconomy_error (imperial : figures.metric = false)
    (distance : 0 < figures.pulsesPerDistance) (flowing : 0 < figures.openCycles)
    (narrow : figures.roadPulses * figures.microsPerQuantity < 2 ^ 64)
    (fits : nearest (figures.roadPulses * figures.microsPerQuantity) figures.pulsesPerDistance *
      figures.cyclesPerSecond < 2 ^ 64) :
    2 * |(1000 * figures.fuelEconomy * figures.openCycles * figures.pulsesPerDistance -
      figures.roadPulses * figures.microsPerQuantity * figures.cyclesPerSecond : Int)| ≤
        figures.pulsesPerDistance * (1001 * figures.openCycles + figures.cyclesPerSecond) := by
  have quotient : figures.fuelEconomy = nearest figures.reach 1000 := by
    rw [fuelEconomy, imperial, if_neg (by decide), if_neg (by omega),
      rounded_eq_nearest (by decide)]
  have carried := figures.reach_error distance flowing narrow fits
  have last := nearest_error figures.reach (show 0 < 1000 by decide)
  rw [← quotient] at last
  generalize figures.fuelEconomy = economy at last ⊢
  generalize figures.reach = reach at last carried
  have parted : (1000 * economy * figures.openCycles * figures.pulsesPerDistance -
      figures.roadPulses * figures.microsPerQuantity * figures.cyclesPerSecond : Int) =
        (economy * (1000 : Nat) - reach) * (figures.openCycles * figures.pulsesPerDistance : Nat) +
          (reach * figures.openCycles * figures.pulsesPerDistance -
            figures.roadPulses * figures.microsPerQuantity * figures.cyclesPerSecond) *
              (1 : Nat) := by
    push_cast
    ring
  rw [parted]
  refine le_trans (error_add _ _ last carried) (le_of_eq ?_)
  push_cast
  ring

end Figures

namespace Calculator

open Catalog

/-- Evaluating a quantity gives what its program answers. -/
theorem evaluate_of_answers {σ : Type} [Environment σ] {environment : σ} {index : UInt8}
    {value : Nat} (calculator : Calculator) (quantity : Quantity)
    (answers : ∀ registers, Machine.Answers (table .native) index environment
      quantity.program 0 registers value) :
    ∃ raw, (calculator.evaluate environment quantity index).1 = .ok ⟨quantity, raw⟩ ∧
      raw.toNat = value := by
  obtain ⟨raw, ended, result, _⟩ := run_of_answers calculator.arithmetic
    (calculator.machine.setRegister .r2 0) (answers _)
  refine ⟨raw, ?_, result⟩
  rw [evaluate, call]
  exact congrArg (Except.map _) ended

/-- Where the second product of a ratio fits in a word, the displayed ratio is within the rounding
of the true one: of pulses per cycle, scaled, for speed, and of pulses per open cycle, scaled, for
fuel economy in imperial units. -/
theorem evaluate_within_rounding {σ : Type} [Environment σ] (calculator : Calculator)
    (environment : σ) (index : UInt8) (trip : Trip)
    (counted : ∀ counter, Environment.counter? environment index counter = some (trip.get counter))
    (distance : 0 < Environment.setting environment .pulsesPerDistance) :
    let rate := (Environment.cyclesPerSecond environment).toNat
    let perDistance := (Environment.setting environment .pulsesPerDistance).toNat
    let micros := (Environment.setting environment .microsPerQuantity).toNat
    let pulses := trip.vssPulses.toNat
    let cycles := trip.vssCycles.toNat
    let opened := trip.injectorOpenCycles.toNat
    (0 < cycles → cycles ≤ 2 ^ 63 →
      nearest (pulses * 3600000) perDistance * rate < 2 ^ 64 →
      ∃ raw, (calculator.evaluate environment .speed index).1 = .ok ⟨.speed, raw⟩ ∧
        2 * |(raw.toNat * cycles * perDistance - 3600000 * pulses * rate : Int)| ≤
          perDistance * (cycles + rate)) ∧
    (Environment.metric environment = false → 0 < opened → opened ≤ 2 ^ 63 →
      nearest (pulses * micros) perDistance * rate < 2 ^ 64 →
      ∃ raw, (calculator.evaluate environment .fuelEconomy index).1 = .ok ⟨.fuelEconomy, raw⟩ ∧
        2 * |(1000 * raw.toNat * opened * perDistance - pulses * micros * rate : Int)| ≤
          perDistance * (1001 * opened + rate)) := by
  intro rate perDistance micros pulses cycles opened
  have positive : 0 < perDistance := UInt32.lt_iff_toNat_lt.mp distance
  have fewPulses : pulses < 2 ^ 32 := trip.vssPulses.toNat_lt
  constructor
  · intro moving moderate fits
    obtain ⟨raw, evaluated, value⟩ := evaluate_of_answers calculator .speed
      (fun _ => speed_answers counted moderate)
    refine ⟨raw, evaluated, ?_⟩
    rw [value]
    exact Figures.speed_error (.observed environment trip) positive moving
      (show pulses * 3600000 < 2 ^ 64 by omega) fits
  · intro imperial flowing moderate fits
    have narrow : pulses * micros < 2 ^ 64 :=
      Nat.mul_lt_mul'' (c := 2 ^ 32) (d := 2 ^ 32) fewPulses
        (Environment.setting environment .microsPerQuantity).toNat_lt
    obtain ⟨raw, evaluated, value⟩ := evaluate_of_answers calculator .fuelEconomy
      (fun _ => fuelEconomy_answers counted moderate)
    refine ⟨raw, evaluated, ?_⟩
    rw [value]
    exact Figures.fuelEconomy_error (.observed environment trip) imperial positive
      flowing narrow fits

/-- Seven pulses in ten million cycles and 4099 open cycles: the true ratios are 78.75 and 7111.78,
and only one whole number is that close to each. -/
theorem seven_pulses_within_rounding :
    let trip : Trip := ⟨7, 0, 10000000, 0, 4099⟩
    let surroundings : Surroundings :=
      ⟨.defaults, 312500, 256, none, fun _ => some trip, 0, fun _ => none⟩
    (∃ raw, ((new .primitive).evaluate surroundings .speed 3).1 = .ok ⟨.speed, raw⟩ ∧
      raw.toNat = 79) ∧
    ∃ raw, ((new .primitive).evaluate surroundings .fuelEconomy 3).1 = .ok ⟨.fuelEconomy, raw⟩ ∧
      raw.toNat = 7112 := by
  intro trip surroundings
  obtain ⟨speed, economy⟩ := evaluate_within_rounding (new .primitive) surroundings 3 trip
    (fun _ => rfl) (by decide)
  obtain ⟨speedRaw, speedShown, speedClose⟩ := speed (by decide) (by decide) (by decide)
  obtain ⟨economyRaw, economyShown, economyClose⟩ :=
    economy (by decide) (by decide) (by decide) (by decide)
  refine ⟨⟨speedRaw, speedShown, ?_⟩, economyRaw, economyShown, ?_⟩
  · have close : 2 * |(speedRaw.toNat * 10000000 * 10000 - 3600000 * 7 * 312500 : Int)| ≤
        10000 * (10000000 + 312500) := speedClose
    have bounds := abs_le.mp (show |(speedRaw.toNat * 10000000 * 10000 -
      3600000 * 7 * 312500 : Int)| ≤ 10000 * (10000000 + 312500) / 2 by omega)
    omega
  · have close : 2 * |(1000 * economyRaw.toNat * 4099 * 10000 - 7 * 133262651 * 312500 : Int)| ≤
        10000 * (1001 * 4099 + 312500) := economyClose
    have bounds := abs_le.mp (show |(1000 * economyRaw.toNat * 4099 * 10000 -
      7 * 133262651 * 312500 : Int)| ≤ 10000 * (1001 * 4099 + 312500) / 2 by omega)
    omega

end Calculator

end TripComputer
