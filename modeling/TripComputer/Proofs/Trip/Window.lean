import Mathlib.Algebra.BigOperators.Group.List.Basic
import Mathlib.Data.List.DropRight
import TripComputer.Proofs.Trip.Kept

/-!
# The window filter is a sliding sum

The elements of the window are a ring.  Read from the element that is filled next, it holds the
trips applied since the window was last emptied, the most recent at its end, behind as many zero
trips as there are elements still to fill.  The running sum is the sum of the ring, whichever part
of it is filled: taking away the trip that the next one replaces, and adding the next one, is what
moving on by one element does to that sum.
-/

namespace TripComputer

/-- One use of the window filter. -/
inductive WindowStep where
  | reset
  /-- A trip becomes the instant trip, and the filter is applied. -/
  | apply (trip : Trip)
deriving DecidableEq, Repr

namespace WindowStep

/-- A trip without injector open time empties the window, as a reset does. -/
def empties : WindowStep → Bool
  | reset => true
  | apply trip => trip.injectorOpenCycles = 0

def trip? : WindowStep → Option Trip
  | reset => none
  | apply trip => some trip

/-- The trips that have been applied since the last step that emptied the window. -/
def applied (steps : List WindowStep) : List Trip :=
  (steps.rtakeWhile fun step => !step.empties).filterMap trip?

variable {steps : List WindowStep} {step : WindowStep}

theorem applied_concat_of_empties (empties : step.empties = true) :
    applied (steps ++ [step]) = [] := by
  rw [applied, List.rtakeWhile_concat_neg _ _ _ (by rw [empties]; decide)]
  rfl

theorem applied_concat_apply {trip : Trip} (flowing : trip.injectorOpenCycles ≠ 0) :
    applied (steps ++ [.apply trip]) = applied steps ++ [trip] := by
  have goesOn : (!(apply trip).empties) = true := by simpa [empties] using flowing
  rw [applied, List.rtakeWhile_concat_pos (fun step : WindowStep => !step.empties) _ _ goesOn,
    List.filterMap_append]
  rfl

end WindowStep

namespace Trips

/-- The elements of the window in the order in which they are filled, from one of them on. -/
def slotsFrom (slot : Fin windowLength) : List (Fin windowLength) :=
  List.iterate slotAfter slot windowLength

/-- The trips in the window, from the element that is filled next. -/
def ring (trips : Trips) : List Trip :=
  (slotsFrom trips.windowNext).map fun slot => trips.get (.window slot)

/-- The trips in the filled elements of the window, the most recent last. -/
def held (trips : Trips) : List Trip :=
  trips.ring.rtake trips.windowFill

/-- Moving on by one element takes the first one to the end. -/
theorem slotsFrom_slotAfter (slot : Fin windowLength) :
    slotsFrom (slotAfter slot) = (slotsFrom slot).tail ++ [slot] ∧
      slot ∉ (slotsFrom slot).tail := by
  revert slot
  decide

variable (trips : Trips)

theorem ring_eq_cons : trips.ring = trips.get (.window trips.windowNext) :: trips.ring.tail := rfl

theorem ring_of_cleared (cleared : ∀ slot, trips.get (.window slot) = 0) :
    trips.ring = List.replicate windowLength 0 := by
  have zeros : trips.ring = (slotsFrom trips.windowNext).map fun _ => 0 :=
    List.map_congr_left fun slot _ => cleared slot
  rw [zeros, List.map_const']
  rfl

theorem ring_putInstant (trip : Trip) : (trips.put .instant trip).ring = trips.ring :=
  List.map_congr_left fun _ _ => get_put_of_ne trips trip nofun

theorem get_empty (name : TripName) : empty.get name = 0 :=
  Vector.getElem_replicate name.position.isLt

/-- The ring moves on by one element: its first trip makes room for the instant one. -/
theorem ring_applyWindowFilter (flowing : (trips.get .instant).injectorOpenCycles ≠ 0) :
    trips.applyWindowFilter.ring = trips.ring.tail ++ [trips.get .instant] := by
  have next : trips.applyWindowFilter.windowNext = slotAfter trips.windowNext := by
    rw [applyWindowFilter_of_flowing flowing]
  obtain ⟨moved, apart⟩ := slotsFrom_slotAfter trips.windowNext
  have kept : ∀ slot ∈ (slotsFrom trips.windowNext).tail,
      trips.applyWindowFilter.get (.window slot) = trips.get (.window slot) := by
    intro slot later
    have other : TripName.window slot ≠ .window trips.windowNext := by
      intro same
      exact apart (TripName.window.inj same ▸ later)
    rw [get_applyWindowFilter_of_flowing flowing, if_neg (by simp), if_neg other]
  have added : trips.applyWindowFilter.get (.window trips.windowNext) = trips.get .instant := by
    rw [get_applyWindowFilter_of_flowing flowing, if_neg (by simp), if_pos rfl]
  rw [ring, next, moved, List.map_append, List.map_congr_left kept, List.map_singleton, added,
    ring, List.map_tail]

/-- Uses the window filter. -/
def smooth (trips : Trips) : WindowStep → Trips
  | .reset => trips.resetWindow
  | .apply trip => (trips.put .instant trip).applyWindowFilter

/-- The trips once the window filter has been used on empty ones. -/
def smoothed (steps : List WindowStep) : Trips :=
  steps.foldl smooth empty

theorem smoothed_concat (steps : List WindowStep) (step : WindowStep) :
    smoothed (steps ++ [step]) = (smoothed steps).smooth step :=
  List.foldl_concat ..

/-- The window filter with some trips applied since it was empty. -/
structure Smooths (applied : List Trip) (trips : Trips) : Prop where
  fill : trips.windowFill = min windowLength applied.length
  ring : trips.ring = (List.replicate windowLength 0 ++ applied).rtake windowLength
  sum : trips.get .windowSum = trips.ring.sum

/-- The ring holds the most recent trips behind those that stand for elements still to fill. -/
theorem rtake_padded (applied : List Trip) :
    (List.replicate windowLength 0 ++ applied).rtake windowLength =
      List.replicate (windowLength - applied.length) 0 ++ applied.rtake windowLength := by
  rw [List.rtake, List.length_append, List.length_replicate, Nat.add_sub_cancel_left,
    List.drop_append, List.drop_replicate, List.length_replicate, List.rtake]

theorem sum_padded (applied : List Trip) :
    ((List.replicate windowLength 0 ++ applied).rtake windowLength).sum =
      (applied.rtake windowLength).sum := by
  rw [rtake_padded, List.sum_append, List.sum_replicate, nsmul_zero, zero_add]

theorem tail_rtake {trips : List Trip} {count : Nat} (long : count < trips.length) :
    (trips.rtake (count + 1)).tail = trips.rtake count := by
  have next : trips.length - (count + 1) + 1 = trips.length - count := by omega
  rw [List.rtake, List.tail_drop, next, List.rtake]

namespace Smooths

variable {trips} {applied : List Trip}

theorem cleared (fill : trips.windowFill = 0)
    (zeros : ∀ name : TripName, name.isWindow = true → trips.get name = 0) :
    Smooths [] trips where
  fill := fill
  ring := ring_of_cleared trips fun slot => zeros _ rfl
  sum := by
    rw [zeros .windowSum rfl, ring_of_cleared trips fun slot => zeros _ rfl, List.sum_replicate,
      nsmul_zero]

theorem resetWindow : Smooths [] trips.resetWindow :=
  cleared rfl fun name window => by rw [get_resetWindow_eq, if_pos window]

theorem held_eq (smooths : Smooths applied trips) : trips.held = applied.rtake windowLength := by
  have count : (applied.rtake windowLength).length = min windowLength applied.length := by
    rw [List.rtake, List.length_drop]
    omega
  have behind : (List.replicate (windowLength - applied.length) (0 : Trip)).length =
      (List.replicate (windowLength - applied.length) (0 : Trip) ++
        applied.rtake windowLength).length - min windowLength applied.length := by
    rw [List.length_append, count, Nat.add_sub_cancel]
  rw [held, smooths.ring, rtake_padded, smooths.fill, List.rtake, List.drop_left' behind]

theorem windowSum_eq (smooths : Smooths applied trips) :
    trips.get .windowSum = (applied.rtake windowLength).sum := by
  rw [smooths.sum, smooths.ring, sum_padded]

/-- Until the window is full, the element that is filled next holds nothing. -/
theorem next_eq_zero (smooths : Smooths applied trips) (room : trips.windowFill < windowLength) :
    trips.get (.window trips.windowNext) = 0 := by
  have missing : windowLength - applied.length = (windowLength - applied.length - 1) + 1 := by
    have fill := smooths.fill
    omega
  have ring := smooths.ring
  rw [rtake_padded, missing, List.replicate_succ, List.cons_append, ring_eq_cons] at ring
  exact List.head_eq_of_cons_eq ring

theorem putInstant (smooths : Smooths applied trips) (trip : Trip) :
    Smooths applied (trips.put .instant trip) where
  fill := smooths.fill
  ring := by rw [ring_putInstant, smooths.ring]
  sum := by rw [ring_putInstant, get_put_of_ne trips trip (by decide), smooths.sum]

/-- What is left of the sum, once there is room for another trip, is the rest of the ring. -/
theorem sum_evicted (smooths : Smooths applied trips) :
    trips.evicted.get .windowSum = trips.ring.tail.sum := by
  have sum := smooths.sum
  rw [ring_eq_cons, List.sum_cons] at sum
  rw [get_evicted_windowSum, sum]
  split
  next room => rw [smooths.next_eq_zero room, zero_add]
  next => exact add_sub_cancel_left _ _

/-- A trip with injector open time joins those in the window. -/
theorem applyWindowFilter (smooths : Smooths applied trips)
    (flowing : (trips.get .instant).injectorOpenCycles ≠ 0) :
    Smooths (applied ++ [trips.get .instant]) trips.applyWindowFilter where
  fill := by
    have filled : trips.applyWindowFilter.windowFill = trips.evicted.windowFill := by
      rw [applyWindowFilter_of_flowing flowing]
      rfl
    rw [filled, windowFill_evicted, smooths.fill, List.length_append, List.length_singleton]
    split <;> omega
  ring := by
    have long : 3 < (List.replicate windowLength 0 ++ applied).length := by
      rw [List.length_append, List.length_replicate]
      exact Nat.lt_add_right _ (by decide)
    rw [ring_applyWindowFilter _ flowing, smooths.ring, tail_rtake long, ← List.append_assoc,
      List.rtake_concat_succ]
  sum := by
    rw [get_applyWindowFilter_of_flowing flowing, if_pos (.inr rfl), smooths.sum_evicted,
      ring_applyWindowFilter _ flowing, List.sum_append, List.sum_singleton]

/-- An instant trip without injector open time empties the window. -/
theorem applyWindowFilter_of_empty (empty : (trips.get .instant).injectorOpenCycles = 0) :
    Smooths [] trips.applyWindowFilter := by
  rw [Trips.applyWindowFilter, if_pos empty]
  exact resetWindow

/-- What a use of the filter does to the window. -/
theorem smooth (steps : List WindowStep) (smooths : Smooths (WindowStep.applied steps) trips)
    (step : WindowStep) :
    Smooths (WindowStep.applied (steps ++ [step])) (trips.smooth step) := by
  cases step with
  | reset =>
      rw [WindowStep.applied_concat_of_empties rfl]
      exact resetWindow
  | apply trip =>
      have shown : (trips.put .instant trip).get .instant = trip := get_put_self _ _ _
      by_cases empty : trip.injectorOpenCycles = 0
      · rw [WindowStep.applied_concat_of_empties (by simpa [WindowStep.empties] using empty)]
        exact applyWindowFilter_of_empty (by rw [shown]; exact empty)
      · have flowing : ((trips.put .instant trip).get .instant).injectorOpenCycles ≠ 0 := by
          rw [shown]
          exact empty
        rw [WindowStep.applied_concat_apply empty]
        have joined := (smooths.putInstant trip).applyWindowFilter flowing
        rw [shown] at joined
        exact joined

/-- The window after any uses of the filter. -/
theorem run (steps : List WindowStep) : Smooths (WindowStep.applied steps) (smoothed steps) := by
  induction steps using List.reverseRecOn with
  | nil => exact cleared rfl fun name _ => get_empty name
  | append_singleton steps step induction =>
      rw [smoothed_concat]
      exact induction.smooth steps step

end Smooths

theorem get_smooth_of_other {name : TripName} {step : WindowStep}
    (other : name ≠ .instant ∨ step = .reset) (outside : name.isWindow = false) :
    (trips.smooth step).get name = trips.get name := by
  cases step with
  | reset => rw [smooth, get_resetWindow_eq, if_neg (Bool.eq_false_iff.mp outside)]
  | apply trip =>
      have different : name ≠ .instant := other.resolve_right nofun
      rw [smooth, get_applyWindowFilter_of_other _ different outside]
      exact get_put_of_ne trips trip different

/-- Once a trip with injector open time has been applied, the instant trip and the sum of the
window are the sum of the last trips applied since the window was empty, at most as many as it has
elements, and these are what it holds.  A trip without injector open time stays as it is and
leaves the window empty.  No other trip changes, nor does a reset change the instant trip. -/
theorem window_sums_recent (steps : List WindowStep) (trip : Trip) :
    let trips := smoothed (steps ++ [.apply trip])
    let applied := WindowStep.applied (steps ++ [.apply trip])
    let recent := applied.rtake windowLength
    (trip.injectorOpenCycles ≠ 0 →
      trips.get .instant = recent.sum ∧ trips.get .windowSum = recent.sum ∧
        trips.held = recent ∧ trips.windowFill = min windowLength applied.length) ∧
    (trip.injectorOpenCycles = 0 →
      trips.get .instant = trip ∧ trips.get .windowSum = 0 ∧
        (∀ slot, trips.get (.window slot) = 0) ∧ trips.windowFill = 0) ∧
    ∀ (step : WindowStep) (name : TripName), name ≠ .instant ∨ step = .reset →
      name.isWindow = false →
      (smoothed (steps ++ [step])).get name = (smoothed steps).get name := by
  intro trips applied recent
  have smooths : Smooths applied trips := .run (steps ++ [.apply trip])
  have last : trips = ((smoothed steps).put .instant trip).applyWindowFilter :=
    smoothed_concat steps (.apply trip)
  have placed : ((smoothed steps).put .instant trip).get .instant = trip := get_put_self _ _ _
  refine ⟨fun flowing => ?_, fun none => ?_, fun step name other outside => ?_⟩
  · rw [← placed] at flowing
    have shown : trips.get .instant = trips.get .windowSum := by
      rw [last, get_applyWindowFilter_of_flowing flowing, get_applyWindowFilter_of_flowing flowing]
      rfl
    exact ⟨shown.trans smooths.windowSum_eq, smooths.windowSum_eq, smooths.held_eq, smooths.fill⟩
  · have emptied : trips = ((smoothed steps).put .instant trip).resetWindow := by
      rw [last, applyWindowFilter, placed, if_pos none]
    rw [emptied]
    refine ⟨?_, get_resetWindow_eq _ .windowSum, fun slot => get_resetWindow_eq _ (.window slot), rfl⟩
    exact (get_resetWindow_eq _ .instant).trans placed
  · rw [smoothed_concat]
    exact get_smooth_of_other _ other outside

/-- Of five samples since a reset the window holds the last four, and their sum wraps in two
counters.  A sample without injector open time in place of the last one empties it. -/
theorem window_of_last_four :
    let sample (pulses : UInt32) (opened : UInt64) : Trip := ⟨pulses, 1, 10, 20, opened⟩
    let steps : List WindowStep :=
      [.apply (sample 1 5), .apply (sample 2 0), .apply (sample 3 5), .apply (sample 4 5),
        .reset, .apply (sample 5 5), .apply (sample 6 5), .apply (sample 4294967295 5),
        .apply (sample 7 5)]
    let last := sample 8 18446744073709551615
    let trips := smoothed (steps ++ [.apply last])
    let coasting := smoothed (steps ++ [.apply (sample 9 0)])
    last.injectorOpenCycles ≠ 0 ∧
      trips.get .instant = ⟨20, 4, 40, 80, 14⟩ ∧ trips.get .windowSum = ⟨20, 4, 40, 80, 14⟩ ∧
      trips.held = [sample 6 5, sample 4294967295 5, sample 7 5, last] ∧ trips.windowFill = 4 ∧
      (sample 9 0).injectorOpenCycles = 0 ∧ coasting.get .instant = sample 9 0 ∧
      coasting.windowFill = 0 ∧
      (TripName.tank ≠ .instant ∨ WindowStep.apply (sample 9 0) = .reset) ∧
      TripName.tank.isWindow = false ∧
      coasting.get .tank = (smoothed steps).get .tank := by
  intro sample steps last trips coasting
  have flowing : last.injectorOpenCycles ≠ 0 := by decide
  have empty : (sample 9 0).injectorOpenCycles = 0 := rfl
  have total : ((WindowStep.applied (steps ++ [.apply last])).rtake windowLength).sum =
      ⟨20, 4, 40, 80, 14⟩ := by decide
  obtain ⟨sum, _, _⟩ := window_sums_recent steps last
  obtain ⟨instant, windowSum, held, fill⟩ := sum flowing
  obtain ⟨_, cleared, frame⟩ := window_sums_recent steps (sample 9 0)
  obtain ⟨kept, _, _, none⟩ := cleared empty
  have other : TripName.tank ≠ .instant ∨ WindowStep.apply (sample 9 0) = .reset :=
    .inl (by decide)
  exact ⟨flowing, instant.trans total, windowSum.trans total, held, fill, empty, kept, none, other,
    rfl, frame _ .tank other rfl⟩

end Trips

end TripComputer
