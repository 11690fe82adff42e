import TripComputer.Trip
import TripComputer.TripName

/-!
# The trips of the computer

All trips together with the fill of the window filter, which smooths the instant trip over
its last four values.
-/

namespace TripComputer

/-- The trips that the main loop maintains. -/
structure Trips where
  values : Vector Trip tripCount
  /-- Number of samples that the window filter holds. -/
  windowFill : Nat
  /-- Window element that the next sample goes to. -/
  windowNext : Fin windowLength
deriving DecidableEq

namespace Trips

/-- The window element that is filled first. -/
def firstSlot : Fin windowLength := ⟨0, by decide⟩

/-- The window element that is filled after another; the last is followed by the first. -/
def slotAfter (slot : Fin windowLength) : Fin windowLength :=
  ⟨(slot.val + 1) % windowLength, Nat.mod_lt _ (by decide)⟩

/-- Every trip zero and the window filter empty. -/
def empty : Trips where
  values := Vector.replicate tripCount Trip.zero
  windowFill := 0
  windowNext := firstSlot

instance : Inhabited Trips := ⟨empty⟩

def get (trips : Trips) (name : TripName) : Trip :=
  trips.values[name.position]

/-- The trips with one of them replaced. -/
def put (trips : Trips) (name : TripName) (trip : Trip) : Trips :=
  { trips with values := trips.values.set name.position.val trip name.position.isLt }

/-- The trip at a context index. -/
def byIndex? (trips : Trips) (index : UInt8) : Option Trip :=
  trips.values[index.toNat]?

/-- Trips with their names, in order of position. -/
def toList (trips : Trips) : List (TripName × Trip) :=
  TripName.all.map fun name => (name, trips.get name)

def reset (trips : Trips) (name : TripName) : Trips :=
  trips.put name Trip.zero

/-- Overwrites one trip with another. -/
def transfer (trips : Trips) (target source : TripName) : Trips :=
  trips.put target (trips.get source)

/-- Adds one trip into another. -/
def update (trips : Trips) (target source : TripName) : Trips :=
  trips.put target (trips.get target + trips.get source)

/-- Empties the window filter. -/
def resetWindow (trips : Trips) : Trips :=
  { TripName.windows.foldl reset (trips.reset .windowSum) with
    windowFill := 0
    windowNext := firstSlot }

/-- Folds the instant trip into the window and replaces it by the sum of the window.

An instant trip without injector open time (engine off, or coasting) empties the window
instead, so that stale samples do not reach into the next acceleration. -/
def applyWindowFilter (trips : Trips) : Trips :=
  if (trips.get .instant).injectorOpenCycles = 0 then trips.resetWindow
  else
    let slot := TripName.window trips.windowNext
    let evicted :=
      if trips.windowFill < windowLength then { trips with windowFill := trips.windowFill + 1 }
      else trips.put .windowSum (trips.get .windowSum - trips.get slot)
    let summed := evicted.update .windowSum .instant
    let kept := summed.transfer slot .instant
    let shown := kept.transfer .instant .windowSum
    { shown with windowNext := slotAfter trips.windowNext }

@[simp]
theorem get_put_self (trips : Trips) (name : TripName) (trip : Trip) :
    (trips.put name trip).get name = trip := by
  simp [get, put]

theorem get_put_of_ne (trips : Trips) {name other : TripName} (trip : Trip)
    (different : other ≠ name) : (trips.put name trip).get other = trips.get other := by
  have apart : name.position.val ≠ other.position.val := fun same =>
    different (TripName.position_injective (Fin.ext same.symm))
  simp [get, put, Vector.getElem_set_ne _ _ apart]

end Trips

end TripComputer
