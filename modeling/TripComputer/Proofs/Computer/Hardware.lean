import TripComputer.Proofs.Computer.Coherence
import TripComputer.Proofs.Computer.Editing

/-!
# What a computer is built into

The clock of a computer, whether it counts idling, and the size of its store are given by its
setup, and stay what they are whatever is done to it.
-/

namespace TripComputer

theorem Image.capacity_of_saveTrip {store saved : Store} {slot : Nat} {trip : Trip}
    {timestamp : UInt32} (wrote : Image.saveTrip store slot trip timestamp = .ok saved) :
    saved.capacity = store.capacity := by
  obtain ⟨address, _, wrote⟩ := Image.saveTrip_eq_ok_iff.mp wrote
  exact Store.capacity_write wrote

namespace Computer

/-- The surroundings that a computer is built into. -/
structure Hardware where
  cyclesPerSecond : UInt32
  tickCycles : UInt32
  trackIdle : Bool
  /-- Cells of the store. -/
  capacity : Nat

def hardware (computer : Computer) : Hardware where
  cyclesPerSecond := computer.cyclesPerSecond
  tickCycles := computer.tickCycles
  trackIdle := computer.trackIdle
  capacity := computer.store.capacity

/-- A computer is built into certain hardware. -/
def BuiltInto (hardware : Hardware) (computer : Computer) : Prop :=
  computer.hardware = hardware

variable {hardware : Hardware}

theorem robust_builtInto : Robust (BuiltInto hardware) where
  basis := by
    rintro computer changed rfl same
    rw [BuiltInto, Computer.hardware, Computer.hardware, same.cyclesPerSecond, same.tickCycles,
      same.trackIdle, same.store]
  savesTrip := by
    rintro computer saved slot trip timestamp rfl wrote
    rw [BuiltInto, Computer.hardware, Computer.hardware, Image.capacity_of_saveTrip wrote]

theorem unedited_builtInto : Unedited (BuiltInto hardware) where
  table built _ _ := built
  parameters built _ := built
  store := by
    rintro computer rfl store same
    rw [BuiltInto, Computer.hardware, Computer.hardware, same]

theorem BuiltInto.operate {computer : Computer} (built : BuiltInto hardware computer)
    (operation : Operation) : BuiltInto hardware (computer.operate operation) :=
  robust_builtInto.operate unedited_builtInto.keeps_setSetting
    unedited_builtInto.keeps_deriveFuelFactor built operation

end Computer

namespace Setup

open Computer

/-- The hardware that a setup gives, with its store. -/
def hardware (setup : Setup) (store : Store) : Hardware where
  cyclesPerSecond := setup.cyclesPerSecond
  tickCycles := setup.tickCycles
  trackIdle := setup.trackIdle
  capacity := store.capacity

theorem builtInto_of_build {setup : Setup} {store : Store} {computer : Computer}
    (found : setup.store = some store) (built : setup.build = .ok computer) :
    BuiltInto (setup.hardware store) computer := by
  obtain ⟨_, settings, firstBoot, same, _, _, _, applied⟩ := exists_of_build built
  cases found.symm.trans same
  have kept := keeps_iff.mp
    (setup.keeps_apply firstBoot unedited_builtInto robust_builtInto.keeps_restore)
    (setup.initialComputer store settings firstBoot) (rfl : _ = setup.hardware store)
  rwa [afterTask, applied] at kept

end Setup

end TripComputer
