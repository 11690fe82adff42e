import TripComputer.Computer
import TripComputer.Proofs.Trip.Group

/-!
# The trips that a pass adds to

A pass of the main loop puts the drained counts into the instant trips and adds them to the
trips that accumulate.  The window filter and the speed graph work on the instant trip and
on trips of their own, and leave those that accumulate as they are.
-/

namespace TripComputer

/-- The trips that accumulate until they are reset by name. -/
def TripName.isKept : TripName → Bool
  | .current | .tank | .idleCurrent | .idleTank => true
  | _ => false

theorem TripName.ne_of_isKept {name other : TripName} (kept : name.isKept = true)
    (notKept : other.isKept = false) : name ≠ other := by
  rintro rfl
  rw [kept] at notKept
  cases notKept

/-- The trips that hold samples of the window filter, and their sum. -/
def TripName.isWindow : TripName → Bool
  | .windowSum | .window _ => true
  | _ => false

namespace Trips

theorem get_put (trips : Trips) (name other : TripName) (trip : Trip) :
    (trips.put name trip).get other = if other = name then trip else trips.get other := by
  by_cases same : other = name
  · rw [if_pos same, same, get_put_self]
  · rw [if_neg same, get_put_of_ne trips trip same]

theorem get_update (trips : Trips) (target source other : TripName) :
    (trips.update target source).get other =
      if other = target then trips.get target + trips.get source else trips.get other :=
  get_put trips target other _

theorem get_transfer (trips : Trips) (target source other : TripName) :
    (trips.transfer target source).get other =
      if other = target then trips.get source else trips.get other :=
  get_put trips target other _

theorem get_reset (trips : Trips) (target other : TripName) :
    (trips.reset target).get other = if other = target then 0 else trips.get other :=
  get_put trips target other _

section Window

variable (trips : Trips)

theorem get_resetSlots (slots : List (Fin windowLength)) (name : TripName) :
    ((slots.map TripName.window).foldl reset trips).get name =
      if name ∈ slots.map TripName.window then 0 else trips.get name := by
  induction slots generalizing trips with
  | nil => rfl
  | cons slot slots induction =>
      rw [List.map_cons, List.foldl_cons, induction, get_reset]
      by_cases later : name ∈ slots.map TripName.window
      · rw [if_pos later, if_pos (List.mem_cons_of_mem _ later)]
      · rw [if_neg later]
        exact if_congr (by simp [later]) rfl rfl

/-- The trips of the window are cleared, and no other trip is. -/
theorem get_resetWindow_eq (name : TripName) :
    trips.resetWindow.get name = if name.isWindow then 0 else trips.get name := by
  have cleared : trips.resetWindow.get name =
      if name ∈ TripName.windows then 0 else (trips.reset .windowSum).get name :=
    get_resetSlots (trips.reset .windowSum) [0, 1, 2, 3] name
  have every : ∀ slot : Fin windowLength, .window slot ∈ TripName.windows := by decide
  rw [cleared, get_reset]
  cases name with
  | window slot => exact if_pos (every slot)
  | _ => simp [TripName.windows, TripName.isWindow]

/-- The trips once the sample that the next one takes the place of is off the sum. -/
def evicted : Trips :=
  if trips.windowFill < windowLength then { trips with windowFill := trips.windowFill + 1 }
  else trips.put .windowSum (trips.get .windowSum - trips.get (.window trips.windowNext))

theorem windowFill_evicted :
    trips.evicted.windowFill =
      if trips.windowFill < windowLength then trips.windowFill + 1 else trips.windowFill := by
  unfold evicted
  split <;> rfl

theorem get_evicted_windowSum :
    trips.evicted.get .windowSum =
      if trips.windowFill < windowLength then trips.get .windowSum
      else trips.get .windowSum - trips.get (.window trips.windowNext) := by
  unfold evicted
  split
  · rfl
  · exact get_put_self _ _ _

theorem get_evicted_of_ne {name : TripName} (other : name ≠ .windowSum) :
    trips.evicted.get name = trips.get name := by
  unfold evicted
  split
  · rfl
  · exact get_put_of_ne _ _ other

variable {trips} (flowing : (trips.get .instant).injectorOpenCycles ≠ 0)

include flowing

/-- An instant trip with injector open time is added to the sum, kept, and replaced by it. -/
theorem applyWindowFilter_of_flowing :
    trips.applyWindowFilter =
      { ((trips.evicted.update .windowSum .instant).transfer (.window trips.windowNext)
          .instant).transfer .instant .windowSum with
        windowNext := slotAfter trips.windowNext } :=
  if_neg flowing

theorem get_applyWindowFilter_of_flowing (name : TripName) :
    trips.applyWindowFilter.get name =
      if name = .instant ∨ name = .windowSum then
        trips.evicted.get .windowSum + trips.get .instant
      else if name = .window trips.windowNext then trips.get .instant
      else trips.get name := by
  have instant : trips.evicted.get .instant = trips.get .instant :=
    trips.get_evicted_of_ne (by decide)
  have shown : trips.applyWindowFilter.get name =
      (((trips.evicted.update .windowSum .instant).transfer (.window trips.windowNext)
        .instant).transfer .instant .windowSum).get name := by
    rw [applyWindowFilter_of_flowing flowing]
    rfl
  rw [shown, ← instant]
  by_cases first : name = .instant
  · simp [first, get_transfer, get_update]
  · by_cases sum : name = .windowSum
    · simp [sum, get_transfer, get_update]
    · simp [first, sum, get_transfer, get_update, get_evicted_of_ne trips sum]

end Window

variable {name : TripName}

/-- The filter touches the instant trip and those of the window. -/
theorem get_applyWindowFilter_of_other (trips : Trips) (other : name ≠ .instant)
    (outside : name.isWindow = false) : trips.applyWindowFilter.get name = trips.get name := by
  have notInWindow : ¬name.isWindow = true := Bool.eq_false_iff.mp outside
  by_cases empty : (trips.get .instant).injectorOpenCycles = 0
  · rw [applyWindowFilter, if_pos empty, get_resetWindow_eq, if_neg notInWindow]
  · have notSum : name ≠ .windowSum := fun same => notInWindow (same ▸ rfl)
    have notSlot : name ≠ .window trips.windowNext := fun same => notInWindow (same ▸ rfl)
    rw [get_applyWindowFilter_of_flowing empty, if_neg (not_or.mpr ⟨other, notSum⟩),
      if_neg notSlot]

theorem get_applyWindowFilter (trips : Trips) (kept : name.isKept = true) :
    trips.applyWindowFilter.get name = trips.get name := by
  apply get_applyWindowFilter_of_other trips (TripName.ne_of_isKept kept rfl)
  cases name with
  | windowSum | window => cases kept
  | _ => rfl

theorem get_merge (trackIdle : Bool) (raw rawIdle : Trip) (trips : Trips) :
    let merged := Computer.merge trackIdle raw rawIdle trips
    merged.get .tank = trips.get .tank + raw ∧
      merged.get .current = trips.get .current + raw ∧
      (trackIdle = true → merged.get .idleTank = trips.get .idleTank + rawIdle) := by
  cases trackIdle with
  | false => simp [Computer.merge, get_put, get_update]
  | true => simp [Computer.merge, get_put, get_update]

theorem get_merge_instant (trackIdle : Bool) (raw rawIdle : Trip) (trips : Trips) :
    (Computer.merge trackIdle raw rawIdle trips).get .instant = raw := by
  cases trackIdle <;> simp [Computer.merge, get_put, get_update]

theorem get_merge_period (trackIdle : Bool) (raw rawIdle : Trip) (trips : Trips) :
    (Computer.merge trackIdle raw rawIdle trips).get .period = trips.get .period + raw := by
  cases trackIdle <;> simp [Computer.merge, get_put, get_update]

theorem get_merge_speedBand (trackIdle : Bool) (raw rawIdle : Trip) (trips : Trips)
    (band : Fin speedBandCount) :
    (Computer.merge trackIdle raw rawIdle trips).get (.speedBand band) =
      trips.get (.speedBand band) := by
  cases trackIdle <;> simp [Computer.merge, get_put, get_update]

end Trips

end TripComputer
