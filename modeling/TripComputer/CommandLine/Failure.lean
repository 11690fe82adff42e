import TripComputer.CommandLine.LogFilter
import TripComputer.Computer
import TripComputer.Instruction.Packed
import TripComputer.Json

/-!
# Failures of commands

Why a command failed, how this is explained to the user, and the exit code that stands for it.
-/

namespace TripComputer.CommandLine

/-- What a name was expected to be the name of. -/
inductive Named where
  | trip
  | quantity
  | program
  | setting
deriving DecidableEq, Repr

namespace Named

def text : Named → String
  | trip => "trip"
  | quantity => "quantity"
  | program => "program"
  | setting => "setting"

end Named

/-- Why a command failed. -/
inductive CommandFailure where
  | invalidConfig (complaint : String)
  | unknownName (kind : Named) (name : String)
  | badAssignment (text : String)
  | selfCheck (faults : Nat)
  /-- The storage image could not be opened. -/
  | image (error : StoreError)
  | computer (failure : Failure)
  | unreadableConfig (path : String) (error : FileError)
  /-- A filter was refused; `source` says where it stands. -/
  | logFilter (source : String) (error : LogFilter.FilterError)
  | logFile (path : String)
  | packing (activity : String) (error : PackError)
  | changedByPacking (program : Program)
  | faultyCatalog (arithmetic : Arithmetic) (fault : Fault)
  /-- The events of the drive do not come to an end. -/
  | endlessDrive

namespace CommandFailure

/-- What failed, the widest activity first and the cause last. -/
def chain : CommandFailure → List String
  | invalidConfig complaint => [s!"invalid configuration: {complaint}"]
  | unknownName kind name => [s!"unknown {kind.text} '{name}'"]
  | badAssignment text => [s!"expected NAME=VALUE, got '{text}'"]
  | selfCheck faults => [s!"self-check found {faults} fault(s)"]
  | image error => [error.message]
  | computer failure => failure.chain
  | unreadableConfig path error => [s!"read config {path}", error.message]
  | logFilter source error => [source, error.message]
  | logFile path => [s!"logging.file '{path}' has no file name"]
  | packing activity error => [activity, error.message]
  | changedByPacking program => [s!"{program.name} does not round-trip through the codec"]
  | faultyCatalog arithmetic fault => [s!"{arithmetic.name.capitalize} catalog: {fault.message}"]
  | endlessDrive => ["the simulated drive has no end"]

/-- The explanation of a failure of the storage layer. -/
def explainStorage (error : StorageError) : String :=
  s!"What happened: {error.message}.\nLikely causes: The storage image could not be read or " ++
    "written, or a trip slot number is outside 0..9.\nHow to fix: Check storage.image and the " ++
    "--save slot, then rerun."

/-- The explanation of a failure that is not one of the expected ones. -/
def explainChain : List String → String
  | [] => "Something went wrong.\nHow to fix: Re-run with --log-level=debug for details."
  | outermost :: causes =>
      let cause := (causes.head?.map fun cause => s!" Cause: {cause}").getD ""
      s!"Something went wrong.{cause}\nHow to fix: Re-run with --log-level=debug for details. " ++
        s!"Original: {outermost}"

/-- What happened, likely causes and how to fix it. -/
def explanation (failure : CommandFailure) : String :=
  match failure with
  | invalidConfig complaint =>
      s!"What happened: Invalid configuration ({complaint}).\nLikely causes: A misspelled key, " ++
        "a wrong type, or an out-of-range value in the TOML.\nHow to fix: Edit the config file, " ++
        "then rerun."
  | unknownName kind name =>
      s!"What happened: There is no {kind.text} called '{name}'.\nHow to fix: Run " ++
        "`mpg programs` or see `mpg --help` for valid names."
  | badAssignment text =>
      s!"What happened: Could not parse '{text}' as a setting assignment.\nHow to fix: Use " ++
        "NAME=VALUE with the stored (x1000) value, e.g. --set tank_size=15000."
  | selfCheck faults =>
      s!"What happened: {faults} catalog evaluation(s) faulted.\nLikely causes: A program table " ++
        "edit left a bad skip or call.\nHow to fix: Re-run with --log-level=debug to see each " ++
        "fault."
  | computer (.build .missingStorage) =>
      "What happened: No non-volatile store was provided to the computer.\nHow to fix: Give the " ++
        "computer a store."
  | computer (.build error) =>
      s!"What happened: Invalid clock parameters ({error.message}).\nHow to fix: Check [engine] " ++
        "cycles_per_second and tick_cycles in the config."
  | computer (.setting error) =>
      s!"What happened: {error.message}.\nLikely causes: The value is outside the setting's " ++
        "storage width.\nHow to fix: Run `mpg settings` to see current values and choose a " ++
        "smaller one."
  | image error =>
      s!"What happened: Storage image problem ({error.message}).\nLikely causes: The [storage] " ++
        "image path points at a foreign or truncated file.\nHow to fix: Point storage.image at " ++
        "a fresh path or remove the bad image."
  | computer (.storage error) | computer (.savingSettings error) => explainStorage error
  | other => explainChain other.chain

/-- The exit code that stands for a failure. -/
def exitCode : CommandFailure → UInt8
  | unknownName _ _ | badAssignment _ => 2
  | invalidConfig _ | computer (.build _) => 3
  | image _ => 4
  | selfCheck _ => 5
  | _ => 1

/-- The word for a failure in a JSON report. -/
def reason : CommandFailure → String
  | invalidConfig _ | computer (.build _) => "InvalidConfig"
  | unknownName _ _ => "UnknownName"
  | badAssignment _ => "BadAssignment"
  | selfCheck _ => "SelfCheckFailed"
  | computer (.setting _) => "Setting"
  | image _ => "Storage"
  | _ => "Error"

/-- The failure as a document. -/
def json (failure : CommandFailure) : Json :=
  .record [("reason", .string failure.reason), ("code", .number failure.exitCode.toNat),
    ("message", .string failure.explanation)]

end CommandFailure

end TripComputer.CommandLine
