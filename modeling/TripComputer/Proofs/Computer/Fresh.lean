import TripComputer.Proofs.Computer.Coherence
import TripComputer.Proofs.Computer.Editing

/-!
# Computers that have just been built

Building a computer works on its settings, and may load trips that were saved on falling asleep.
Nothing has been counted, and every trip that cannot be loaded is empty.
-/

namespace TripComputer

namespace Computer

/-- Nothing has been counted, apart from what the kept trips may have been loaded with. -/
structure Fresh (computer : Computer) : Prop where
  trips : ∀ name : TripName, name.isKept = false → computer.trips.get name = 0
  raw : computer.capture.raw = 0
  history : computer.history = []
  periodCycles : computer.periodCycles = 0
  cycles : computer.cycles = 0

theorem unedited_fresh : Unedited Fresh where
  table fresh _ _ := ⟨fresh.trips, fresh.raw, fresh.history, fresh.periodCycles, fresh.cycles⟩
  parameters fresh _ := ⟨fresh.trips, fresh.raw, fresh.history, fresh.periodCycles, fresh.cycles⟩
  store fresh _ _ := ⟨fresh.trips, fresh.raw, fresh.history, fresh.periodCycles, fresh.cycles⟩

theorem Fresh.keeps_modifyTrips {change : Trips → Trips}
    (others : ∀ (trips : Trips) (name : TripName), name.isKept = false →
      (change trips).get name = trips.get name) : Keeps Fresh (modifyTrips change) :=
  Meets.update fun computer fresh =>
    { fresh with
      trips := fun name notKept => (others computer.trips name notKept).trans
        (fresh.trips name notKept) }

theorem Fresh.keeps_loadTrip (slot : Nat) {trip : TripName} (kept : trip.isKept = true) :
    Keeps Fresh (loadTrip slot trip) := by
  have puts (saved : Trip) : Keeps Fresh (modifyTrips (·.put trip saved)) :=
    Fresh.keeps_modifyTrips fun trips name notKept =>
      Trips.get_put_of_ne trips saved (TripName.ne_of_isKept kept notKept).symm
  unfold loadTrip
  refine (puts Trip.zero).bind fun _ => Meets.read fun computer fresh => ?_
  split
  next => exact fun _ same => same ▸ fresh
  next => exact Meets.pure fun _ same => same ▸ fresh
  next saved _ =>
    exact ((puts saved).bind fun _ => Meets.pure fun _ loaded => loaded).weaken
      fun _ same => same ▸ fresh

theorem isKept_of_mem_autosaveSlots {computer : Computer} :
    ∀ pair ∈ computer.autosaveSlots, pair.1.isKept = true := by
  have every : ∀ active idle : Bool,
      ∀ pair ∈ (if active then [(TripName.tank, 0), (.current, 1)] else []) ++
        (if idle then [(TripName.idleTank, 2), (.idleCurrent, 3)] else []),
        pair.1.isKept = true := by
    decide
  exact every _ _

theorem Fresh.keeps_restore : Keeps Fresh restore :=
  Meets.read fun _ fresh =>
    (Meets.forM fun _ member =>
      (Fresh.keeps_loadTrip _ (isKept_of_mem_autosaveSlots _ member)).bind fun _ =>
        Meets.pure fun _ fresh => fresh).weaken fun _ same => same ▸ fresh

end Computer

namespace Setup

open Computer

theorem fresh_of_build {setup : Setup} {computer : Computer}
    (built : setup.build = .ok computer) : Fresh computer := by
  obtain ⟨store, settings, firstBoot, _, _, _, _, applied⟩ := exists_of_build built
  have blank : Fresh (setup.initialComputer store settings firstBoot) :=
    ⟨fun _ _ => Vector.getElem_replicate _, rfl, rfl, rfl, rfl⟩
  have kept := keeps_iff.mp (setup.keeps_apply firstBoot unedited_fresh Fresh.keeps_restore) _ blank
  rwa [afterTask, applied] at kept

end Setup

end TripComputer
