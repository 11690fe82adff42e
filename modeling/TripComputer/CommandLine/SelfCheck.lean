import TripComputer.CommandLine.Session

/-!
# The command `self-check`

Every program of the catalog, under both arithmetics and both unit systems, on a sample trip.
-/

namespace TripComputer.CommandLine

/-- Counters that take every program through its main path. -/
def sampleTrip : Trip :=
  ⟨10016, 2400, 187500000, 187400000, 484375⟩

/-- One round of the self-check. -/
structure CheckRound where
  arithmetic : Arithmetic
  metric : Bool
  faults : Nat
deriving DecidableEq, Repr

/-- Puts the sample into every selectable trip. -/
def fillTrips (trips : Trips) : Trips :=
  TripName.selectable.foldl (fun trips name => trips.put name sampleTrip) trips

/-- The rounds of one computer: the number of faults under a unit system. -/
def checkUnits (metric : Bool) : Computer.Task Nat := do
  if (← get).settings.metric ≠ metric then
    Computer.setSetting .metricMode (Config.switch metric)
  Computer.modifyTrips fillTrips
  return (← Computer.checkCatalog).length

/-- A round on a computer with a store of its own. -/
def checkRound (config : Config) (arithmetic : Arithmetic) (metric : Bool) :
    Except CommandFailure CheckRound := do
  let described :=
    { Setup.reference with store := some (Store.erased Image.length) }.withConfig config
  let setup := { described with arithmetic := arithmetic, restore := false }
  let computer ← setup.build.mapError .computer
  match checkUnits metric computer with
  | .ok faults _ => return ⟨arithmetic, metric, faults⟩
  | .error failure _ => .error (.computer failure)

/-- Number of programs that change when they are packed and read back. -/
def packingFaults (table : ProgramTable) : Except CommandFailure Nat := do
  let changed ← Program.all.mapM fun program => do
    let packed ← (Packed.encode (table program)).mapError fun error =>
      .packing error.message error
    let decoded ← (Packed.decode packed).mapError fun error => .packing error.message error
    return decoded != table program
  return changed.count true

/-- The rounds of one arithmetic, and the faults found in its catalog. -/
def checkArithmetic (config : Config) (arithmetic : Arithmetic) :
    Except CommandFailure (List CheckRound × Nat) := do
  let table := Catalog.table arithmetic
  table.validate.mapError (.faultyCatalog arithmetic)
  let faults ← packingFaults table
  let rounds ← [false, true].mapM (checkRound config arithmetic)
  return (rounds, faults)

/-- What a self-check found. -/
structure CheckReport where
  rounds : List CheckRound
  faults : Nat

namespace CheckReport

/-- The self-check of a configuration. -/
def make (config : Config) : Except CommandFailure CheckReport := do
  let parts ← Arithmetic.all.mapM (checkArithmetic config)
  let rounds := parts.flatMap (·.1)
  let faults := parts.map (·.2) ++ rounds.map (·.faults)
  return ⟨rounds, faults.foldl (· + ·) 0⟩

def lines (report : CheckReport) : List String :=
  (report.rounds.map fun round =>
    let units := if round.metric then Units.metric else .us
    s!"{Text.Column.left 10 round.arithmetic.name} {Text.Column.left 7 units.name} " ++
      s!"{round.faults} fault(s)") ++
    if report.faults = 0 then ["self-check ok"] else []

def json (report : CheckReport) : Json :=
  .record [
    ("ok", .boolean (report.faults == 0)),
    ("runs", .array (report.rounds.map fun round => .record [
      ("arithmetic", .string round.arithmetic.name),
      ("metric", .boolean round.metric),
      ("faults", .number round.faults)]))]

end CheckReport

end TripComputer.CommandLine
