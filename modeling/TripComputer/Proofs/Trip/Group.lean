import Mathlib.Algebra.Group.Defs
import Mathlib.Algebra.Group.Basic
import Mathlib.Tactic.Abel
import TripComputer.Trip

/-!
# Trips form a group

The counters wrap at their width, so trips form a commutative group under addition.  Credits
of single pulses are additions, and commute with those of whole trips.
-/

namespace TripComputer.Trip

theorem add_def (trip other : Trip) : trip + other = trip.add other := rfl

theorem sub_def (trip other : Trip) : trip - other = trip.sub other := rfl

theorem zero_def : (0 : Trip) = ⟨0, 0, 0, 0, 0⟩ := rfl

instance : Neg Trip := ⟨fun trip => 0 - trip⟩

theorem neg_def (trip : Trip) : -trip = 0 - trip := rfl

instance : AddCommGroup Trip where
  add_assoc first second third := by
    simp only [add_def, Trip.add, UInt32.add_assoc, UInt64.add_assoc]
  zero_add trip := by
    simp only [add_def, Trip.add, zero_def, UInt32.zero_add, UInt64.zero_add]
  add_zero trip := by
    simp only [add_def, Trip.add, zero_def, UInt32.add_zero, UInt64.add_zero]
  add_comm first second := by
    simp only [add_def, Trip.add, UInt32.add_comm, UInt64.add_comm]
  neg_add_cancel trip := by
    simp only [neg_def, add_def, sub_def, Trip.add, Trip.sub, zero_def, UInt32.sub_add_cancel,
      UInt64.sub_add_cancel]
  sub_eq_add_neg trip other := by
    simp only [neg_def, add_def, sub_def, Trip.add, Trip.sub, zero_def,
      UInt32.sub_eq_add_neg, UInt64.sub_eq_add_neg, UInt32.zero_add, UInt64.zero_add]
  nsmul := nsmulRec
  zsmul := zsmulRec

/-- What one road-speed pulse adds. -/
def vssCredit (cycles : UInt32) : Trip :=
  ⟨1, 0, cycles.toUInt64, 0, 0⟩

/-- What one injector event adds. -/
def injectorCredit (opened total : UInt32) : Trip :=
  ⟨0, if opened > 0 then 1 else 0, 0, total.toUInt64, opened.toUInt64⟩

theorem creditVss_eq_add (trip : Trip) (cycles : UInt32) :
    trip.creditVss cycles = trip + vssCredit cycles := by
  simp [creditVss, vssCredit, add_def, Trip.add]

theorem creditInjector_eq_add (trip : Trip) (opened total : UInt32) :
    trip.creditInjector opened total = trip + injectorCredit opened total := by
  by_cases accepted : opened > 0
  · simp [creditInjector, injectorCredit, accepted, add_def, Trip.add]
  · have rejected : opened = 0 := by
      apply UInt32.toNat_inj.mp
      simpa [UInt32.lt_iff_toNat_lt] using accepted
    simp [creditInjector, injectorCredit, rejected, add_def, Trip.add]

end TripComputer.Trip
