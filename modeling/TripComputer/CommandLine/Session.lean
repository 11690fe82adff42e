import TripComputer.CommandLine.Failure
import TripComputer.Config
import TripComputer.Place
import TripComputer.Rig

/-!
# Sessions

What a command does on a computer.  A session keeps the computer when it fails, because what it
has written to the store by then stays written.
-/

namespace TripComputer.CommandLine

/-- A computation of a command on a computer. -/
abbrev Session (α : Type) := EStateM CommandFailure Computer α

/-- What a finished session leaves: its answer, and the store as it is then. -/
structure Ended (α : Type) where
  answer : Except CommandFailure α
  store : Store

namespace Session

/-- A task of the computer as part of a session. -/
def task {α : Type} (task : Computer.Task α) : Session α := fun computer =>
  match task computer with
  | .ok result computer => .ok result computer
  | .error failure computer => .error (.computer failure) computer

/-- A check that involves no computer. -/
def check {α : Type} : Except CommandFailure α → Session α
  | .ok result => pure result
  | .error failure => throw failure

/-- The store that a configuration names, or one in memory. -/
def openStore (config : Config) (place : String → Place) : Except CommandFailure Store :=
  match config.storage.image with
  | some path => ((place path).openStore Image.length).mapError .image
  | none => .ok (Store.erased Image.length)

/-- What is done to a new computer: where the store was empty, and the configuration does not
pin the fuel factor, it is derived from the injector settings. -/
def start (config : Config) : Session Unit := do
  if (← get).firstBoot && config.vehicle.microsPerQuantity.isNone then
    let _ ← task Computer.deriveFuelFactor

/-- Runs a session on the computer that a configuration describes. -/
def run {α : Type} (config : Config) (store : Store) (session : Session α) : Ended α :=
  match ({ Setup.reference with store := some store }.withConfig config).build with
  | .error failure => ⟨.error (.computer failure), store⟩
  | .ok computer =>
      match (do start config; session : Session α) computer with
      | .ok answer computer => ⟨.ok answer, computer.store⟩
      | .error failure computer => ⟨.error failure, computer.store⟩

/-- An evaluation of a quantity with its text. -/
def evaluate (quantity : Quantity) (trip : TripName) : Session (Evaluation × String) := do
  let evaluation ← task (Computer.evaluate quantity trip)
  let text ← task (Computer.format evaluation)
  return (evaluation, text)

end Session

/-- The trip that a user's name selects. -/
def findTrip (name : String) : Except CommandFailure TripName :=
  (TripName.ofName? name).elim (.error (.unknownName .trip name)) .ok

/-- A reading as a document; an overflow is null. -/
def readingJson (reading : Reading) : Json :=
  .optional (fun raw => .number raw.toNat) reading.value?

end TripComputer.CommandLine
