import TripComputer.CommandLine.Arguments
import TripComputer.CommandLine.Session

/-!
# The commands `evaluate`, `trips` and `settings`

One quantity on counters given by hand, the saved trips of the store, and the settings.
-/

namespace TripComputer.CommandLine

/-! ## Evaluation -/

/-- The quantity that a user's name selects. -/
def findQuantity (name : String) : Except CommandFailure Quantity :=
  (Quantity.ofName? name).elim (.error (.unknownName .quantity name)) .ok

/-- The result of the command `evaluate`. -/
structure EvaluationReport where
  trip : TripName
  evaluation : Evaluation
  text : String

namespace EvaluationReport

def line (report : EvaluationReport) : String :=
  s!"{report.evaluation.quantity.name} ({report.trip.name}): {report.text}"

def json (report : EvaluationReport) : Json :=
  .record [
    ("quantity", .string report.evaluation.quantity.name),
    ("trip", .string report.trip.name),
    ("raw", .number report.evaluation.raw.toNat),
    ("value", readingJson report.evaluation.reading),
    ("overflow", .boolean report.evaluation.reading.isOverflow),
    ("text", .string report.text)]

end EvaluationReport

/-- The trips with the counters of an order. -/
def EvaluationOrder.fill (order : EvaluationOrder) (trip : TripName) (trips : Trips) : Trips :=
  let filled := trips.put trip order.counters
  match order.tankOpenCycles with
  | none => filled
  | some cycles => filled.put .tank { filled.get .tank with injectorOpenCycles := cycles }

/-- Evaluates a quantity on the counters of an order. -/
def evaluate (order : EvaluationOrder) (quantity : Quantity) (trip : TripName) :
    Session EvaluationReport := do
  Session.task (Computer.modifyTrips (order.fill trip))
  let (evaluation, text) ← Session.evaluate quantity trip
  return ⟨trip, evaluation, Text.Blank.trimString text⟩

/-! ## Saved trips -/

/-- The slots of the store. -/
abbrev SavedTrips := List (Nat × Option (UInt32 × Trip))

def savedTrips : Session SavedTrips := do
  Session.check ((← get).savedTrips.mapError fun error => .computer (.storage error))

namespace SavedTrips

def lines (slots : SavedTrips) : List String :=
  slots.map fun
    | (slot, none) => s!"slot {slot}: empty"
    | (slot, some (time, trip)) =>
        s!"slot {slot}: saved at {time}s, {trip.vssPulses} vss pulses, " ++
          s!"{trip.injectorPulses} injector pulses, {trip.injectorOpenCycles} open cycles"

def tripJson (trip : Trip) : Json :=
  .record (Counter.all.map fun counter => (counter.name, .number (trip.get counter).toNat))

def json (slots : SavedTrips) : Json :=
  .array (slots.map fun (slot, saved) => .record [
    ("slot", .number slot),
    ("stamp", .optional (fun (time, _) => .number time.toNat) saved),
    ("trip", .optional (fun (_, trip) => tripJson trip) saved)])

end SavedTrips

/-! ## Settings -/

/-- The setting and the value of an assignment; blanks around either do not count. -/
def readAssignment (text : String) : Except CommandFailure (Setting × UInt32) :=
  match splitAttached text with
  | (_, none) => .error (.badAssignment text)
  | (name, some value) =>
      let name := Text.Blank.trimString name
      match Setting.ofName? name, readWord32? (Text.Blank.trimString value) with
      | none, _ => .error (.unknownName .setting name)
      | some _, none => .error (.badAssignment text)
      | some setting, some value => .ok (setting, value)

/-- Settings with their values, as programs read them. -/
abbrev SettingValues := List (Setting × UInt64)

/-- Makes assignments one after another, and reads every setting. -/
def changeSettings (assignments : List String) : Session SettingValues := do
  assignments.forM fun assignment => do
    let (setting, value) ← Session.check (readAssignment assignment)
    Session.task (Computer.setSetting setting value)
  Setting.all.mapM fun setting => do
    return (setting, ← Session.task (Computer.runProgram .readSetting setting.index))

namespace SettingValues

def lines (values : SettingValues) : List String :=
  values.map fun (setting, value) =>
    s!"{Text.Column.left 24 setting.name} {Text.Column.right 12 (toString value)}"

def json (values : SettingValues) : Json :=
  .record (values.map fun (setting, value) => (setting.name, .number value.toNat))

end SettingValues

end TripComputer.CommandLine
