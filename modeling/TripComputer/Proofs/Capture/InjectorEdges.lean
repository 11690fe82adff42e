import TripComputer.Proofs.Capture.Sides

/-!
# Injector edges

What an opening and a closing make of the injector side, case by case, and the words in them as
natural numbers.
-/

namespace TripComputer.Capture

section Edges

variable {capture : Capture} {now : UInt32}

/-- An opening that ends the cycle of a running engine. -/
theorem injectorSide_onInjectorOpen_measured (good : capture.fresh.goodInjector = true)
    (running : Clock.interval capture.thisOpening now < capture.parameters.minGoodCycles) :
    (capture.onInjectorOpen now).injectorSide =
      { capture.injectorSide with
        openingSeen := true
        thisOpening := now
        engineCycle := Clock.interval capture.thisOpening now
        openCeiling := dutyCeilingOf (Clock.interval capture.thisOpening now)
          capture.parameters.dutyCeiling
        countdown := capture.parameters.injectorResetTicks } := by
  simp only [onInjectorOpen, measureEngineCycle, injectorSide, good, running, if_true]

/-- Any other opening, where no cycle is pending. -/
theorem injectorSide_onInjectorOpen_unmeasured (none : capture.engineCycle = 0)
    (unmeasured : ¬(capture.fresh.goodInjector = true ∧
      Clock.interval capture.thisOpening now < capture.parameters.minGoodCycles)) :
    (capture.onInjectorOpen now).injectorSide =
      { capture.injectorSide with
        goodInjector := false
        openingSeen := true
        thisOpening := now
        openCeiling := capture.parameters.maxGoodInjectorCycles
        countdown := capture.parameters.injectorResetTicks } := by
  by_cases good : capture.fresh.goodInjector = true
  · have stopped : ¬Clock.interval capture.thisOpening now < capture.parameters.minGoodCycles :=
      fun running => unmeasured ⟨good, running⟩
    simp only [onInjectorOpen, measureEngineCycle, injectorSide, good, stopped, none, if_true,
      if_false, Bool.false_eq_true]
  · simp only [onInjectorOpen, measureEngineCycle, injectorSide, good, none, if_false,
      Bool.false_eq_true]

theorem judgeDuration_accepted {opened : UInt32} (seen : capture.fresh.openingSeen = true)
    (accepted : capture.acceptedDuration? now = some opened) :
    (capture.judgeDuration now).1 = opened ∧
      (capture.onInjectorClose now).injectorSide =
        { capture.injectorSide with
          goodInjector := true
          openingSeen := false
          engineCycle := 0 } := by
  unfold onInjectorClose judgeDuration
  rw [if_pos seen, accepted]
  exact ⟨rfl, rfl⟩

theorem judgeDuration_rejected (seen : capture.fresh.openingSeen = true)
    (rejected : capture.acceptedDuration? now = none) :
    (capture.judgeDuration now).1 = 0 ∧
      (capture.onInjectorClose now).injectorSide =
        { capture.injectorSide with
          goodInjector := false
          openingSeen := false
          engineCycle := 0
          countdown := 0 } := by
  unfold onInjectorClose judgeDuration
  rw [if_pos seen, rejected]
  exact ⟨rfl, rfl⟩

end Edges

theorem toNat_dutyCeilingOf (engineCycle dutyCeiling : UInt32) :
    (dutyCeilingOf engineCycle dutyCeiling).toNat =
      min (2 ^ 32 - 1) (engineCycle.toNat * dutyCeiling.toNat / 1024) := by
  have product : engineCycle.toNat * dutyCeiling.toNat < 2 ^ 64 := by
    calc engineCycle.toNat * dutyCeiling.toNat
      _ < 2 ^ 32 * 2 ^ 32 := Nat.mul_lt_mul_of_lt_of_lt engineCycle.toNat_lt dutyCeiling.toNat_lt
      _ = 2 ^ 64 := rfl
  have share : ((engineCycle.toUInt64 * dutyCeiling.toUInt64) >>> 10).toNat =
      engineCycle.toNat * dutyCeiling.toNat / 1024 := by
    rw [UInt64.toNat_shiftRight, UInt64.toNat_mul, UInt32.toNat_toUInt64, UInt32.toNat_toUInt64,
      Nat.mod_eq_of_lt product]
    exact Nat.shiftRight_eq_div_pow _ 10
  have largest : (0xFFFFFFFF : UInt64).toNat = 2 ^ 32 - 1 := rfl
  unfold dutyCeilingOf
  dsimp only
  split
  next fits =>
    have bound := UInt64.le_iff_toNat_le.mp fits
    rw [share] at bound
    rw [UInt64.toNat_toUInt32, share]
    omega
  next exceeds =>
    have bound := Nat.lt_of_not_le fun le => exceeds (UInt64.le_iff_toNat_le.mpr le)
    rw [share, largest] at bound
    exact (Nat.min_eq_left (Nat.le_of_lt bound)).symm

end TripComputer.Capture
