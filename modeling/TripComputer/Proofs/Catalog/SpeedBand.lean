import TripComputer.Proofs.Catalog.Demand
import TripComputer.Proofs.Catalog.Sentinel

/-!
# The bars of the speed graph

The program that classifies a trip calls the one for its speed, and divides what is above the
lowest speed of the graph by the width of a bar.  It sees the speed that is displayed, the
overflow sentinel included, which is above every bar.
-/

namespace TripComputer

namespace Catalog

open Machine

/-- The bar of a speed, in a graph from a lowest speed on with bars of a width; 255 stands for
none. -/
def bandOf (low quantum speed : Nat) : Nat :=
  if low ≤ speed then
    if (speed - low) / quantum ≤ 14 then (speed - low) / quantum else 255
  else 255

variable {σ : Type} [Environment σ] {index : UInt8} {environment : σ} {registers : Registers}

theorem speedBand_answers {speed : Nat}
    (quantum : Environment.setting environment .barSpeedQuantum ≠ 0)
    (called : Answers (table .native) index environment .speed 0 registers speed) :
    Answers (table .native) index environment .speedBand 0 registers
      (bandOf (Environment.setting environment .barLowSpeed).toNat
        (Environment.setting environment .barSpeedQuantum).toNat speed) := by
  let low := Environment.setting environment .barLowSpeed
  let width := Environment.setting environment .barSpeedQuantum
  have positive : width.toUInt64.toNat ≠ 0 := fun none => quantum (UInt32.toNat_inj.mp none)
  refine .call rfl called fun r1 r2 r3 r4 r5 moving => ?_
  refine .data rfl rfl rfl ?_
  refine .ifAtMost rfl rfl rfl moving (fun inGraph => ?_) (fun _ => .data rfl rfl rfl (.done rfl rfl))
  have bar : (Word.divide (Word.subtract r2 low.toUInt64) width.toUInt64).1.toNat =
      (speed - low.toNat) / width.toNat := by
    rw [← moving] at inGraph ⊢
    have above : low.toUInt64.toNat ≤ r2.toNat := inGraph
    rw [toNat_divide, if_neg positive, toNat_subtract above]
    rfl
  refine .data rfl rfl rfl (.data rfl rfl rfl ?_)
  refine .callOf rfl (divide_returns _ _ _ _ _) (.data rfl rfl rfl ?_)
  refine .ifAtMost rfl rfl bar rfl (fun _ => .done rfl bar) (fun _ => ?_)
  exact .data rfl rfl rfl (.done rfl rfl)

end Catalog

namespace Calculator

open Catalog Machine

variable {σ : Type} [Environment σ]

/-- The program answers with the bar that the speed of the trip falls into, and with 255 where the
speed is below the graph or beyond its fifteen bars, and it sees the speed that is displayed. -/
theorem speedBand_classifies (environment : σ) (index : UInt8) (trip : Trip)
    (counted : ∀ counter, Environment.counter? environment index counter = some (trip.get counter))
    (quantum : Environment.setting environment .barSpeedQuantum ≠ 0) :
    ∃ speed place : UInt64,
      (∀ calculator : Calculator,
        (calculator.evaluate environment .speed index).1 = .ok ⟨.speed, speed⟩) ∧
      (∀ calculator : Calculator,
        (calculator.call environment .speedBand index 0).result = .ok place) ∧
      place.toNat = bandOf (Environment.setting environment .barLowSpeed).toNat
        (Environment.setting environment .barSpeedQuantum).toNat speed.toNat := by
  let some := new .native
  let registers := (some.machine.setRegister .r2 0).registers
  -- a division by zero is no obstacle to coming back
  have honest : Honest .native index environment .speed 0 registers False := speed_honest counted
  obtain ⟨later, returns, _⟩ := honest.resolve_right fun never => never.1
  have answers : Answers (table .native) index environment .speed 0 registers later.r2.toNat :=
    ⟨later, returns.mono fun _ _ _ => trivial, rfl⟩
  obtain ⟨speed, moving, value, _⟩ := run_of_answers .native
    (some.machine.setRegister .r2 0) answers
  obtain ⟨place, classified, bar, _⟩ := run_of_answers .native
    (some.machine.setRegister .r2 0) (speedBand_answers quantum answers)
  rw [← value] at bar
  refine ⟨speed, place, fun calculator => ?_, fun calculator => ?_, bar⟩
  · exact congrArg (Except.map _) ((calculator.call_result_eq some environment rfl index).trans moving)
  · exact (calculator.call_result_eq some environment rfl index).trans classified

end Calculator

end TripComputer
