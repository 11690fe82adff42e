/-!
# Names of trips

The computer keeps twenty-seven trips.  A trip's position is the context index under which
programs read it.
-/

namespace TripComputer

/-- Depth of the window filter over instant trips. -/
abbrev windowLength : Nat := 4

/-- Number of bars in the graph of fuel economy against speed. -/
abbrev speedBandCount : Nat := 15

/-- Number of trips. -/
abbrev tripCount : Nat := 8 + windowLength + speedBandCount

/-- One of the trips that the computer keeps. -/
inductive TripName where
  | instant
  | current
  | tank
  | idleInstant
  | idleCurrent
  | idleTank
  /-- What was counted since the last sample of fuel economy over time. -/
  | period
  /-- Sum of the elements of the window filter. -/
  | windowSum
  /-- An element of the window filter. -/
  | window (slot : Fin windowLength)
  /-- What was counted at speeds within one bar of the speed graph. -/
  | speedBand (band : Fin speedBandCount)
deriving DecidableEq, Repr

namespace TripName

/-- The trips that a user can select for display. -/
def selectable : List TripName :=
  [instant, current, tank, idleInstant, idleCurrent, idleTank]

/-- The elements of the window filter. -/
def windows : List TripName :=
  [0, 1, 2, 3].map window

/-- Every trip, in order of position. -/
def all : List TripName :=
  selectable ++ [period, windowSum] ++ windows ++
    [0, 1, 2, 3, 4, 5, 6, 7, 8, 9, 10, 11, 12, 13, 14].map speedBand

def position : TripName → Fin tripCount
  | instant => 0
  | current => 1
  | tank => 2
  | idleInstant => 3
  | idleCurrent => 4
  | idleTank => 5
  | period => 6
  | windowSum => 7
  | window slot => ⟨8 + slot, by simp only [tripCount, windowLength, speedBandCount] at *; omega⟩
  | speedBand band => ⟨8 + windowLength + band, by simp only [tripCount]; omega⟩

/-- The context index under which programs read the trip. -/
def index (trip : TripName) : UInt8 :=
  trip.position.val.toUInt8

def ofIndex? (index : UInt8) : Option TripName :=
  all[index.toNat]?

def name : TripName → String
  | instant => "instant"
  | current => "current"
  | tank => "tank"
  | idleInstant => "idle-instant"
  | idleCurrent => "idle-current"
  | idleTank => "idle-tank"
  | period => "period"
  | windowSum => "window-sum"
  | window slot => s!"window-{slot.val}"
  | speedBand band => s!"fe-speed-{band.val}"

/-- The selectable trip called `text`; the case of ASCII letters is ignored. -/
def ofName? (text : String) : Option TripName :=
  selectable.find? (·.name == text.map Char.toLower)

theorem all_getElem?_position (trip : TripName) : all[trip.position.val]? = some trip := by
  cases trip with
  | window slot => revert slot; decide
  | speedBand band => revert band; decide
  | _ => rfl

theorem position_injective {first second : TripName}
    (same : first.position = second.position) : first = second := by
  have found := all_getElem?_position first
  rw [same, all_getElem?_position second] at found
  exact (Option.some.inj found).symm

end TripName

end TripComputer
