import TripComputer.Computer

/-!
# Building a computer

A setup says what a computer is built from.  Building loads the settings, lays the pinned
values over them, saves the table if it has to, and installs the capture parameters.
-/

namespace TripComputer

/-- What a computer is built from. -/
structure Setup where
  store : Option Store
  /-- Settings to use instead of the stored ones. -/
  settings : Option Settings
  /-- Values to lay over the settings, in order. -/
  overrides : List (Setting × UInt32)
  cyclesPerSecond : UInt32
  tickCycles : UInt32
  arithmetic : Arithmetic
  trackIdle : Bool
  /-- Load the trips that were saved on falling asleep. -/
  restore : Bool

namespace Setup

/-- A setup without a store, on the reference board. -/
def reference : Setup where
  store := none
  settings := none
  overrides := []
  cyclesPerSecond := Board.cyclesPerSecond
  tickCycles := Board.tickCycles
  arithmetic := .native
  trackIdle := true
  restore := false

instance : Inhabited Setup := ⟨reference⟩

/-- Whether a number is a power of two. -/
def isPowerOfTwo (number : UInt32) : Bool :=
  number != 0 && number &&& (number - 1) == 0

/-- Whether a timer can have this many counts: a power of two, and at least two. -/
def isTickLength (cycles : UInt32) : Bool :=
  cycles ≥ 2 && isPowerOfTwo cycles

/-- The settings to start from, and whether the store held none. -/
def initialSettings (setup : Setup) (store : Store) : Except Failure (Settings × Bool) :=
  match setup.settings with
  | some settings => .ok (settings, false)
  | none =>
      match Image.loadSettings store with
      | .error error => .error (.storage error)
      | .ok (.stored settings) => .ok (settings, false)
      | .ok (.defaulted settings) => .ok (settings, true)

/-- The computer before anything has been applied to it. -/
def initialComputer (setup : Setup) (store : Store) (settings : Settings) (firstBoot : Bool) :
    Computer where
  settings := settings
  trips := Trips.empty
  calculator := Calculator.new setup.arithmetic
  capture := Capture.new .inert
  store := store
  cyclesPerSecond := setup.cyclesPerSecond
  tickCycles := setup.tickCycles
  trackIdle := setup.trackIdle
  history := []
  periodCycles := 0
  cycles := 0
  pendingWake := false
  firstBoot := firstBoot

/-- What is done to the computer before it is ready. -/
def apply (setup : Setup) (firstBoot : Bool) : Computer.Task Unit := do
  let changed ← Computer.applyOverrides setup.overrides
  if setup.settings.isSome || firstBoot || changed then
    Computer.saveSettings
  let _ ← Computer.applyDerived
  if setup.restore then
    Computer.restore

/-- Builds the computer. -/
def build (setup : Setup) : Except Failure Computer := do
  let some store := setup.store | .error (.build .missingStorage)
  if setup.cyclesPerSecond = 0 then .error (.build .zeroCycleRate)
  if !isTickLength setup.tickCycles then
    .error (.build (.badTickLength setup.tickCycles))
  let (settings, firstBoot) ← setup.initialSettings store
  match setup.apply firstBoot (setup.initialComputer store settings firstBoot) with
  | .ok _ computer => .ok computer
  | .error failure _ => .error failure

end Setup

end TripComputer
