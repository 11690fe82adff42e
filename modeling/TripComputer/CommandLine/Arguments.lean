import TripComputer.Text.Decimal
import TripComputer.Trip

/-!
# Arguments of the command line

Options of the program, the name of a command and options of the command, in this order.  The
value of an option follows it, or is attached to it by an equals sign.
-/

namespace TripComputer.CommandLine

/-- What a simulated drive is made of. -/
structure DriveOrder where
  /-- Distances per hour. -/
  speed : Float
  /-- Revolutions per minute. -/
  rpm : Float
  pulseMicros : Float
  seconds : Nat
  /-- Seconds at rest after the drive. -/
  park : Nat
  /-- Names of the trips to report. -/
  trips : List String
  /-- Slot that the tank trip is saved to. -/
  save : Option Nat

/-- What a quantity is evaluated on. -/
structure EvaluationOrder where
  trip : String
  counters : Trip
  /-- Injector open cycles of the tank trip. -/
  tankOpenCycles : Option UInt64

/-- A command with its options. -/
inductive Command where
  | simulate (order : DriveOrder)
  | evaluate (quantity : String) (order : EvaluationOrder)
  | programs (program : Option String)
  | trips
  | settings (assignments : List String)
  | selfCheck

/-- Options that stand before the command. -/
structure Options where
  config : Option String
  json : Bool
  logLevel : String
  version : Bool

/-- What the program is asked for. -/
inductive Request where
  | version
  | run (options : Options) (command : Command)

/-- Why arguments were not understood. -/
inductive UsageError where
  | unexpected (word : String)
  | missingValue (option : String)
  | badValue (option value : String)
  | missingOption (option : String)
  | missingCommand
deriving DecidableEq, Repr

namespace UsageError

def message : UsageError → String
  | unexpected word => s!"unexpected argument '{word}' found"
  | missingValue option => s!"a value is required for '{option}' but none was supplied"
  | badValue option value => s!"invalid value '{value}' for '{option}'"
  | missingOption option => s!"the following required arguments were not provided: {option}"
  | missingCommand => "a command is required"

end UsageError

/-- An option, with its effect on what the options describe. -/
inductive OptionRule (σ : Type) where
  | flag (set : σ → σ)
  /-- An option with a value, which may be refused. -/
  | value (set : σ → String → Option σ)

/-- Options by name. -/
abbrev OptionRules (σ : Type) := List (String × OptionRule σ)

/-- A word as the name of an option and the value attached to it. -/
def splitAttached (word : String) : String × Option String :=
  let characters := word.toList
  let name := String.ofList (characters.takeWhile (· != '='))
  match characters.dropWhile (· != '=') with
  | [] => (name, none)
  | _ :: value => (name, some (String.ofList value))

/-- Takes an option's value into account. -/
def assign {σ : Type} (name : String) (set : σ → String → Option σ) (part : σ) (value : String) :
    Except UsageError σ :=
  (set part value).elim (.error (.badValue name value)) .ok

/-- Reads options up to the first word that is none; the answer has the words from there. -/
def readOptions {σ : Type} (rules : OptionRules σ) :
    σ → List String → Except UsageError (σ × List String)
  | part, [] => .ok (part, [])
  | part, word :: rest =>
      if word.toList.head? ≠ some '-' then .ok (part, word :: rest)
      else
        let (name, attached?) := splitAttached word
        let rule? : Option (OptionRule σ) := (rules.find? (·.1 == name)).map (·.2)
        match rule?, attached?, rest with
        | some (.flag set), none, rest => readOptions rules (set part) rest
        | some (.value set), some value, rest => do
            readOptions rules (← assign name set part value) rest
        | some (.value set), none, value :: rest => do
            readOptions rules (← assign name set part value) rest
        | some (.value _), none, [] => .error (.missingValue name)
        | _, _, _ => .error (.unexpected word)

/-- The options of a command, which nothing follows. -/
def readAll {σ : Type} (rules : OptionRules σ) (part : σ) (words : List String) :
    Except UsageError σ := do
  match ← readOptions rules part words with
  | (part, []) => return part
  | (_, word :: _) => .error (.unexpected word)

/-- The rule of an option whose value is read and then assigned. -/
def OptionRule.reading {σ α : Type} (read : String → Option α) (set : σ → α → σ) :
    OptionRule σ :=
  .value fun part text => (read text).map (set part)

def readFloat? (text : String) : Option Float :=
  Text.Decimal.float? text.toList

def readBounded? (bits : Nat) (text : String) : Option Nat :=
  Text.Decimal.bounded? (1 <<< bits) text.toList

def readWord32? (text : String) : Option UInt32 :=
  (readBounded? 32 text).map Nat.toUInt32

def readWord64? (text : String) : Option UInt64 :=
  (readBounded? 64 text).map Nat.toUInt64

def optionRules : OptionRules Options :=
  [("--config", .reading some fun options path => { options with config := some path }),
    ("--json", .flag fun options => { options with json := true }),
    ("--log-level", .reading some fun options level => { options with logLevel := level }),
    ("--version", .flag fun options => { options with version := true }),
    ("-V", .flag fun options => { options with version := true })]

def driveRules : OptionRules DriveOrder :=
  [("--speed", .reading readFloat? fun order speed => { order with speed := speed }),
    ("--rpm", .reading readFloat? fun order rpm => { order with rpm := rpm }),
    ("--pulse-us", .reading readFloat? fun order micros => { order with pulseMicros := micros }),
    ("--seconds", .reading (readBounded? 32) fun order seconds =>
      { order with seconds := seconds }),
    ("--park", .reading (readBounded? 32) fun order seconds => { order with park := seconds }),
    ("--trip", .reading some fun order trip => { order with trips := order.trips ++ [trip] }),
    ("--save", .reading (readBounded? 64) fun order slot => { order with save := some slot })]

/-- The options of the command `evaluate`; the quantity has to be among them. -/
abbrev EvaluationOptions := Option String × EvaluationOrder

/-- The rule of a counter, or of anything else in an order. -/
def orderRule {α : Type} (read : String → Option α) (set : EvaluationOrder → α → EvaluationOrder) :
    OptionRule EvaluationOptions :=
  .reading read fun (quantity, order) value => (quantity, set order value)

/-- The rule of one counter. -/
def counterRule {α : Type} (read : String → Option α) (set : Trip → α → Trip) :
    OptionRule EvaluationOptions :=
  orderRule read fun order value => { order with counters := set order.counters value }

def evaluationRules : OptionRules EvaluationOptions :=
  [("--quantity", .reading some fun (_, order) name => (some name, order)),
    ("--trip", orderRule some fun order name => { order with trip := name }),
    ("--vss-pulses", counterRule readWord32? fun trip pulses => { trip with vssPulses := pulses }),
    ("--vss-cycles", counterRule readWord64? fun trip cycles => { trip with vssCycles := cycles }),
    ("--inj-pulses", counterRule readWord32? fun trip pulses =>
      { trip with injectorPulses := pulses }),
    ("--inj-cycles", counterRule readWord64? fun trip cycles =>
      { trip with injectorCycles := cycles }),
    ("--inj-open-cycles", counterRule readWord64? fun trip cycles =>
      { trip with injectorOpenCycles := cycles }),
    ("--tank-open-cycles", orderRule readWord64? fun order cycles =>
      { order with tankOpenCycles := some cycles })]

def programRules : OptionRules (Option String) :=
  [("--program", .reading some fun _ name => some name)]

def settingRules : OptionRules (List String) :=
  [("--set", .reading some fun assignments text => assignments ++ [text])]

/-- A command from its name and the words behind it. -/
def readCommand : List String → Except UsageError Command
  | [] => .error .missingCommand
  | "simulate" :: words => do
      return .simulate (← readAll driveRules ⟨60, 2000, 3000, 10, 0, [], none⟩ words)
  | "evaluate" :: words => do
      match ← readAll evaluationRules (none, ⟨"current", .zero, none⟩) words with
      | (some quantity, order) => return .evaluate quantity order
      | (none, _) => .error (.missingOption "--quantity <QUANTITY>")
  | "programs" :: words => do return .programs (← readAll programRules none words)
  | "trips" :: words => do
      let () ← readAll [] () words
      return .trips
  | "settings" :: words => do return .settings (← readAll settingRules [] words)
  | "self-check" :: words => do
      let () ← readAll [] () words
      return .selfCheck
  | word :: _ => .error (.unexpected word)

/-- What arguments ask for. -/
def Request.ofArguments (arguments : List String) : Except UsageError Request := do
  let (options, words) ← readOptions optionRules ⟨none, false, "warn", false⟩ arguments
  if options.version then return .version
  return .run options (← readCommand words)

end TripComputer.CommandLine
