import TripComputer.CommandLine.Arguments
import TripComputer.CommandLine.Session

/-!
# The command `simulate`

A drive of some seconds, then some seconds at rest, replayed through the interrupt handlers.  The
report shows the quantities of the dashboard for each trip asked for.
-/

namespace TripComputer.CommandLine

/-- The quantities shown for each trip. -/
def dashboard : List Quantity :=
  [.fuelEconomy, .speed, .distance, .fuelUsed, .fuelRate, .engineSpeed, .engineRunTime,
    .timeToEmpty, .distanceToEmpty]

/-- Ticks in a number of seconds. -/
def ticksIn (computer : Computer) (seconds : Nat) : Nat :=
  seconds * computer.cyclesPerSecond.toNat / computer.tickCycles.toNat

/-- The drive that an order describes, and then the time at rest. -/
def wholeDrive (order : DriveOrder) : Rig.Bench Stretch := do
  let rig ← get
  let driven ← Rig.replay Rig.drive (ticksIn rig.computer order.seconds) .empty
  if order.park = 0 then return driven
  modify fun rig => { rig with simulator := rig.simulator.setProfile .parked }
  Rig.replay Rig.drive (ticksIn rig.computer order.park) driven

/-- The profile that an order describes. -/
def DriveOrder.profile (order : DriveOrder) (settings : Settings) : DriveProfile :=
  .steady order.speed (settings.get .pulsesPerDistance) order.rpm (settings.get .crankRevs)
    order.pulseMicros

/-- Replays a drive in a session. -/
def replay (order : DriveOrder) : Session Stretch := fun computer =>
  match wholeDrive order (.new computer (order.profile computer.settings)) with
  | .ok stretch rig => .ok stretch rig.computer
  | .error (.computer failure) rig => .error (.computer failure) rig.computer
  | .error .endless rig => .error .endlessDrive rig.computer

/-- The columns of the report: a trip, a quantity and its value, which is set to the right. -/
def dashboardLine (trip quantity value : String) : String :=
  " ".intercalate
    [Text.Column.left 14 trip, Text.Column.left 22 quantity, Text.Column.right 10 value]

/-- A row of the report. -/
structure DashboardRow where
  trip : TripName
  evaluation : Evaluation
  text : String

namespace DashboardRow

def line (row : DashboardRow) : String :=
  dashboardLine row.trip.name row.evaluation.quantity.name row.text

def json (row : DashboardRow) : Json :=
  .record [("raw", .number row.evaluation.raw.toNat),
    ("value", readingJson row.evaluation.reading),
    ("text", .string (Text.Blank.trimString row.text))]

end DashboardRow

/-- What a simulation reports. -/
structure DriveReport where
  seconds : Nat
  stretch : Stretch
  awake : Bool
  history : List Reading
  rows : List DashboardRow

namespace DriveReport

/-- Passes of the main loop. -/
def passes (report : DriveReport) : Nat :=
  report.stretch.latest.length

def lines (report : DriveReport) : List String :=
  let counts := report.stretch.counts
  [s!"simulated {report.seconds}s: {counts.ticks} ticks, {counts.vssEdges} vss edges, " ++
      s!"{counts.injectorPulses} injector pulses, {report.passes} loop cycles",
    dashboardLine "trip" "quantity" "value"] ++
    report.rows.map DashboardRow.line

/-- The rows of one trip. -/
def tripJson (report : DriveReport) (trip : TripName) : Json :=
  .record ((report.rows.filter (·.trip == trip)).map fun row =>
    (row.evaluation.quantity.name, row.json))

def json (report : DriveReport) : Json :=
  .record [
    ("ticks", .number report.stretch.counts.ticks),
    ("vss_edges", .number report.stretch.counts.vssEdges),
    ("injector_pulses", .number report.stretch.counts.injectorPulses),
    ("loop_cycles", .number report.passes),
    ("awake", .boolean report.awake),
    ("fe_history", .array (report.history.map readingJson)),
    ("trips", .record (report.rows.map fun row => (row.trip.name, report.tripJson row.trip)))]

end DriveReport

/-- The trips that an order asks for. -/
def DriveOrder.reported (order : DriveOrder) : Except CommandFailure (List TripName) :=
  if order.trips.isEmpty then .ok [.instant, .current, .tank] else order.trips.mapM findTrip

/-- A simulation with its report on the given trips. -/
def simulate (order : DriveOrder) (trips : List TripName) : Session DriveReport := do
  let stretch ← replay order
  if let some slot := order.save then
    Session.task (Computer.saveTrip .tank slot)
  let rows ← (trips.flatMap fun trip => dashboard.map fun quantity => (trip, quantity)).mapM
    fun (trip, quantity) => do
      let (evaluation, text) ← Session.evaluate quantity trip
      return ⟨trip, evaluation, text⟩
  let computer ← get
  return {
    seconds := order.seconds + order.park
    stretch := stretch
    awake := computer.capture.awake
    history := computer.history
    rows := rows }

end TripComputer.CommandLine
