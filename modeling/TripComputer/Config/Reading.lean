import TripComputer.Config
import TripComputer.Toml.Document

/-!
# Reading configurations

A configuration file is a document of sections.  A section is described by the list of its
fields; keys that are no field are ignored, and the first value that no field can hold is
reported.  A section may also be written as an array, with its fields in order, or as a date,
which has no fields.
-/

namespace TripComputer.Config

/-- Why a value cannot be held by its field. -/
inductive ValueError where
  | wrongType (found expected : String)
  | outOfRange (value : Int) (expected : String)
  | unknownName (text : String) (names : List String)
  | notThousandths (text : String)
  | negative (value : Int)
  | tooLarge (value : Int)
  /-- A floating-point number where a decimal has to be written as a string. -/
  | floatingPoint
deriving DecidableEq, Repr

namespace ValueError

/-- A list of names, as alternatives. -/
def alternatives (names : List String) : String :=
  " or ".intercalate (names.map fun name => s!"`{name}`")

def message : ValueError → String
  | wrongType found expected => s!"invalid type: {found}, expected {expected}"
  | outOfRange value expected => s!"invalid value: integer `{value}`, expected {expected}"
  | unknownName text names => s!"unknown variant `{text}`, expected {alternatives names}"
  | notThousandths text => Thousandths.refusal text
  | negative value => s!"{value} is negative"
  | tooLarge value => s!"{value} is too large"
  | floatingPoint => "write decimal values as strings, e.g. \"18.5\""

end ValueError

/-- Why a text is no configuration. -/
inductive ReadError where
  | syntaxError (error : Toml.SyntaxError)
  | value (error : ValueError)
deriving DecidableEq, Repr

namespace ReadError

def message : ReadError → String
  | syntaxError error => error.message
  | value error => error.message

end ReadError

/-- The kind of a value, for reports. -/
def kindOf : Toml.Node → String
  | .string text => s!"string \"{text}\""
  | .integer value => s!"integer `{value}`"
  | .float => "floating point number"
  | .boolean value => s!"boolean `{value}`"
  | .array _ | .tables _ => "sequence"
  | .table _ _ | .moment => "map"

def readNumber : Toml.Node → Except ValueError UInt32
  | .integer value =>
      if 0 ≤ value ∧ value.toNat < UInt32.size then .ok value.toNat.toUInt32
      else .error (.outOfRange value "u32")
  | node => .error (.wrongType (kindOf node) "u32")

def readSwitch : Toml.Node → Except ValueError Bool
  | .boolean value => .ok value
  | node => .error (.wrongType (kindOf node) "a boolean")

def readText : Toml.Node → Except ValueError String
  | .string text => .ok text
  | node => .error (.wrongType (kindOf node) "a string")

/-- A decimal: a whole number, or a string with up to three places. -/
def readDecimal : Toml.Node → Except ValueError Thousandths
  | .integer value =>
      if value < 0 then .error (.negative value)
      else (Thousandths.ofUnits? value.toNat).elim (.error (.tooLarge value)) .ok
  | .string text => (Thousandths.ofText? text).elim (.error (.notThousandths text)) .ok
  | .float => .error .floatingPoint
  | node =>
      .error (.wrongType (kindOf node) "a whole number or a decimal string such as \"18.5\"")

/-- Whether a value holds nothing. -/
def isVoid : Toml.Node → Bool
  | .array items => items.isEmpty
  | .table _ entries => entries.isEmpty
  | .tables elements => elements.isEmpty
  | _ => false

/-- One of several alternatives, by its name.  The name is a string, or the only key of a
table that holds nothing under it. -/
def readName {α : Type} (alternatives : List (String × α)) (node : Toml.Node) :
    Except ValueError α :=
  let named (text : String) : Except ValueError α :=
    match alternatives.find? (·.1 == text) with
    | some (_, value) => .ok value
    | none => .error (.unknownName text (alternatives.map (·.1)))
  match node with
  | .string text => named text
  | .table _ [(name, inner)] => do
      let value ← named name
      if isVoid inner then return value
      else .error (.wrongType (kindOf inner) "an empty table")
  | node => .error (.wrongType (kindOf node) "string or table")

def readUnits : Toml.Node → Except ValueError Units :=
  readName (Units.all.map fun units => (units.name, units))

def readArithmetic : Toml.Node → Except ValueError Arithmetic :=
  readName (Arithmetic.all.map fun arithmetic => (arithmetic.name, arithmetic))

/-- A field of a section: its key, and what a value under that key does to the section. -/
structure Field (σ : Type) where
  key : String
  change : Toml.Node → σ → Except ValueError σ

/-- The field that a reader and an assignment make. -/
def field {σ α : Type} (key : String) (read : Toml.Node → Except ValueError α)
    (assign : σ → α → σ) : Field σ where
  key := key
  change node part := (read node).map (assign part)

/-- A section from its entries, in their order. -/
def readEntries {σ : Type} (fields : List (Field σ)) (part : σ) (entries : Toml.Entries) :
    Except ValueError σ :=
  entries.foldlM (fun part (key, node) =>
    match fields.find? (·.key == key) with
    | some field => field.change node part
    | none => .ok part) part

/-- A section from values in the order of its fields. -/
def readItems {σ : Type} (fields : List (Field σ)) (part : σ) (items : List Toml.Node) :
    Except ValueError σ :=
  (fields.zip items).foldlM (fun part (field, node) => field.change node part) part

/-- A section.  Fields that are not mentioned stay as they are in `part`; a date mentions none. -/
def readSection {σ : Type} (fields : List (Field σ)) (part : σ) :
    Toml.Node → Except ValueError σ
  | .table _ entries => readEntries fields part entries
  | .array items => readItems fields part items
  | .tables elements => readItems fields part (elements.map (.table .headed))
  | .moment => .ok part
  | node => .error (.wrongType (kindOf node) "a section")

def vehicleFields : List (Field Vehicle) :=
  [field "units" readUnits fun part value => { part with units := some value },
    field "pulses_per_distance" readNumber fun part value =>
      { part with pulsesPerDistance := some value },
    field "tank_size" readDecimal fun part value => { part with tankSize := some value },
    field "vss_pause_ms" readNumber fun part value => { part with vssPauseMillis := some value },
    field "crank_revs" readNumber fun part value => { part with crankRevs := some value },
    field "min_good_rpm" readNumber fun part value => { part with minGoodRpm := some value },
    field "micros_per_quantity" readNumber fun part value =>
      { part with microsPerQuantity := some value }]

def injectorFields : List (Field Injectors) :=
  [field "count" readNumber fun part value => { part with count := some value },
    field "size_ml_min" readNumber fun part value => { part with size := some value },
    field "settle_us" readNumber fun part value => { part with settleMicros := some value },
    field "sys_pressure" readDecimal fun part value =>
      { part with systemPressure := some value },
    field "ref_pressure" readDecimal fun part value =>
      { part with referencePressure := some value },
    field "duty_ceiling" readDecimal fun part value => { part with dutyCeiling := some value }]

def behaviorFields : List (Field Behavior) :=
  [field "activity_timeout_s" readNumber fun part value =>
      { part with activityTimeout := some value },
    field "wakeup_reset_current" readSwitch fun part value =>
      { part with wakeupResetCurrent := some value },
    field "window_filter" readSwitch fun part value => { part with windowFilter := some value },
    field "fe_vs_time_period_s" readNumber fun part value =>
      { part with economyPeriod := some value },
    field "autosave_active" readSwitch fun part value =>
      { part with autosaveActive := some value },
    field "autosave_idle" readSwitch fun part value => { part with autosaveIdle := some value },
    field "bar_low_speed" readDecimal fun part value => { part with barLowSpeed := some value },
    field "bar_speed_quantum" readDecimal fun part value =>
      { part with barSpeedQuantum := some value },
    field "fuel_cost" readDecimal fun part value => { part with fuelCost := some value }]

def engineFields : List (Field Engine) :=
  [field "cycles_per_second" readNumber fun part value => { part with cyclesPerSecond := value },
    field "tick_cycles" readNumber fun part value => { part with tickCycles := value },
    field "arithmetic" readArithmetic fun part value => { part with arithmetic := value },
    field "track_idle" readSwitch fun part value => { part with trackIdle := value },
    field "restore_trips" readSwitch fun part value => { part with restoreTrips := value }]

def storageFields : List (Field Storage) :=
  [field "image" readText fun part value => { part with image := some value }]

def loggingFields : List (Field Logging) :=
  [field "file" readText fun part value => { part with file := some value },
    field "level" readText fun part value => { part with level := some value },
    field "rotation" readText fun part value => { part with rotation := some value }]

def sections : List (Field Config) :=
  [field "vehicle" (readSection vehicleFields empty.vehicle) fun config part =>
      { config with vehicle := part },
    field "injectors" (readSection injectorFields empty.injectors) fun config part =>
      { config with injectors := part },
    field "behavior" (readSection behaviorFields empty.behavior) fun config part =>
      { config with behavior := part },
    field "engine" (readSection engineFields empty.engine) fun config part =>
      { config with engine := part },
    field "storage" (readSection storageFields empty.storage) fun config part =>
      { config with storage := part },
    field "logging" (readSection loggingFields empty.logging) fun config part =>
      { config with logging := part }]

/-- The configuration that a text describes.  Its rules are not checked. -/
def read (text : String) : Except ReadError Config := do
  let entries ← (Toml.Document.read text).mapError .syntaxError
  (readEntries sections empty entries).mapError .value

end TripComputer.Config
