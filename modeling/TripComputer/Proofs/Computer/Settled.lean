import TripComputer.Proofs.Computer.Derived
import TripComputer.Proofs.Computer.MainLoop
import TripComputer.Proofs.Settings.Block

/-!
# Settled computers

The values of the settings are kept in three places: in the table, in the settings block of
the store, and in the capture parameters that are derived from them.  A computer is settled
when the three agree, which the main loop keeps as it changes none of them.
-/

namespace TripComputer.Computer

/-- The settings block holds the table. -/
def Saved (computer : Computer) : Prop :=
  Image.loadSettings computer.store = .ok (.stored computer.settings)

/-- The table, the settings block and the capture parameters agree. -/
structure Settled (computer : Computer) : Prop where
  saved : Saved computer
  parameters : computer.capture.parameters = computer.derived

theorem Saved.inRange {computer : Computer} (saved : Saved computer) :
    computer.settings.InRange :=
  (Image.loadSettings_eq_stored_iff.mp saved).1

theorem Saved.room {computer : Computer} (saved : Saved computer) :
    Image.settingsLength ≤ computer.store.capacity :=
  Image.capacity_of_stored saved

/-- Trips are saved behind the settings block. -/
theorem robust_settled : Robust Settled where
  basis := by
    rintro computer changed ⟨saved, parameters⟩ same
    constructor
    · rw [Saved, same.store, same.settings]
      exact saved
    · rw [same.parameters, parameters, derived, derived, same.settings, same.cyclesPerSecond,
        same.tickCycles, same.trackIdle]
  savesTrip := fun settled wrote =>
    ⟨Image.stored_of_saveTrip settled.saved wrote, settled.parameters⟩

end TripComputer.Computer
