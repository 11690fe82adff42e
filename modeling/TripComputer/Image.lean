import TripComputer.Settings
import TripComputer.Store
import TripComputer.Trip.Image

/-!
# Layout of the non-volatile image

The settings block comes first: a signature word and one word per setting.  Ten slots for
saved trips follow.  A settings block with a foreign signature, or with a value too wide for
its setting, counts as missing, and the defaults stand in for all of it.
-/

namespace TripComputer.Image

/-- First word of a valid settings block.  It changes with the layout of the table. -/
def settingsSignature : UInt32 := 0x4D504701

/-- Bytes of the settings block. -/
abbrev settingsLength : Nat := 4 + 4 * Setting.count

/-- Number of slots for saved trips. -/
abbrev slotCount : Nat := 10

/-- Bytes of a complete image. -/
def length : Nat := 1024

end TripComputer.Image

namespace TripComputer

/-- Why something could not be saved or loaded. -/
inductive StorageError where
  | access (error : StoreError)
  | slotOutOfRange (slot : Nat)
deriving DecidableEq, Repr

namespace StorageError

def message : StorageError → String
  | access error => s!"storage error: {error.message}"
  | slotOutOfRange slot => s!"trip slot {slot} out of range (0..{Image.slotCount})"

end StorageError

end TripComputer

namespace TripComputer.Image

/-- What the settings block held. -/
inductive LoadedSettings where
  | stored (settings : Settings)
  /-- No valid block was found, and these are the defaults. -/
  | defaulted (settings : Settings)
deriving DecidableEq

namespace LoadedSettings

def settings : LoadedSettings → Settings
  | stored settings | defaulted settings => settings

end LoadedSettings

/-- Address of a setting's word. -/
def settingAddress (setting : Setting) : Nat :=
  4 + 4 * setting.position.val

/-- Address of a trip slot. -/
def slotAddress (slot : Nat) : Except StorageError Nat :=
  if slot < slotCount then .ok (settingsLength + slot * Trip.imageLength)
  else .error (.slotOutOfRange slot)

/-- Reads the words of the given settings into a table; none when one is too wide. -/
def loadValues (store : Store) (settings : Settings) :
    List Setting → Except StorageError (Option Settings)
  | [] => .ok (some settings)
  | setting :: rest => do
      let value ← (store.readWord (settingAddress setting)).mapError .access
      match settings.set setting value with
      | .error _ => .ok none
      | .ok settings => loadValues store settings rest

/-- Reads the settings block. -/
def loadSettings (store : Store) : Except StorageError LoadedSettings := do
  let found ← (store.readWord 0).mapError .access
  if found ≠ settingsSignature then return .defaulted Settings.defaults
  match ← loadValues store Settings.defaults Setting.all with
  | none => return .defaulted Settings.defaults
  | some settings => return .stored settings

/-- The bytes of the settings block. -/
def settingsBytes (settings : Settings) : List UInt8 :=
  (settingsSignature :: settings.toList.map (·.2)).flatMap BigEndian.encode

/-- Writes the settings block. -/
def putSettings (settings : Settings) : Store.Access StorageError Unit :=
  (Store.put 0 (settingsBytes settings)).adaptExcept .access

/-- Writes a trip, with the time in seconds, to a slot. -/
def putTrip (slot : Nat) (trip : Trip) (timestamp : UInt32) : Store.Access StorageError Unit := do
  let address ← MonadExcept.ofExcept (slotAddress slot)
  (Store.put address (trip.encode timestamp)).adaptExcept .access

/-- The store with the settings block written. -/
def saveSettings (store : Store) (settings : Settings) : Except StorageError Store :=
  (putSettings settings).outcome store

/-- The store with a trip written to a slot. -/
def saveTrip (store : Store) (slot : Nat) (trip : Trip) (timestamp : UInt32) :
    Except StorageError Store :=
  (putTrip slot trip timestamp).outcome store

/-- Reads the trip in a slot; none when the slot holds no valid image. -/
def loadTrip (store : Store) (slot : Nat) : Except StorageError (Option (UInt32 × Trip)) := do
  let address ← slotAddress slot
  let image ← (store.read address Trip.imageLength).mapError .access
  return Trip.decode? image

end TripComputer.Image
