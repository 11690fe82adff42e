import TripComputer.CommandLine.Programs
import TripComputer.CommandLine.SelfCheck
import TripComputer.CommandLine.Simulate
import TripComputer.CommandLine.Tables
import TripComputer.Config.Reading

/-!
# The command line

A run takes its arguments and the files that they lead to, and answers with what it prints, its
exit code and the image that it has written.
-/

namespace TripComputer.CommandLine

/-- The version of the program. -/
def version : String := "0.1.0"

/-- What a run leaves behind. -/
structure Outcome where
  exitCode : UInt8
  output : String
  errors : String
  /-- Path and contents of the file that was written. -/
  written : Option (String × List UInt8)
deriving DecidableEq, Repr

/-- The answer of a command, as text and as a document. -/
structure Answer where
  lines : List String
  json : Json

/-- What a command comes to.  An answer can stand beside a failure. -/
structure Conclusion where
  answer : Option Answer
  failure : Option CommandFailure
  /-- The store as the command leaves it. -/
  store : Option Store

namespace Conclusion

def ofFailure (failure : CommandFailure) : Conclusion :=
  ⟨none, some failure, none⟩

/-- The conclusion of a command that uses no store. -/
def ofAnswer : Except CommandFailure Answer → Conclusion
  | .ok answer => ⟨some answer, none, none⟩
  | .error failure => ofFailure failure

/-- The conclusion of a session. -/
def ofEnded (ended : Ended Answer) : Conclusion :=
  { ofAnswer ended.answer with store := some ended.store }

end Conclusion

/-- The configuration that the options name. -/
def loadConfig (options : Options) (place : String → Place) : Except CommandFailure Config :=
  match options.config with
  | none => .ok .empty
  | some path => do
      let text ← (place path).text.mapError (.unreadableConfig path)
      let config ← (Config.read text).mapError fun error => .invalidConfig error.message
      match config.broken? with
      | none => return config
      | some rule => .error (.invalidConfig rule.complaint)

/-- Checks the log filters, and the log file where there is one. -/
def checkLogging (options : Options) (logging : Config.Logging) : Except CommandFailure Unit := do
  (LogFilter.check options.logLevel).mapError (.logFilter s!"--log-level '{options.logLevel}'")
  if let some file := logging.file then
    if (Place.fileName? file).isNone then .error (.logFile file)
    let level := logging.level.getD "info"
    (LogFilter.check level).mapError (.logFilter s!"logging.level '{level}'")

/-- A session on the computer of a configuration. -/
def onComputer (config : Config) (place : String → Place) (session : Session Answer) :
    Conclusion :=
  match Session.openStore config place with
  | .error failure => .ofFailure failure
  | .ok store => .ofEnded (Session.run config store session)

/-- A session that is made only when a check passes. -/
def whenPassed {α : Type} (check : Except CommandFailure α) (next : α → Conclusion) : Conclusion :=
  match check with
  | .error failure => .ofFailure failure
  | .ok found => next found

/-- Carries out a command. -/
def perform (config : Config) (place : String → Place) : Command → Conclusion
  | .simulate order =>
      whenPassed order.reported fun trips =>
        onComputer config place do
          let report ← simulate order trips
          return ⟨report.lines, report.json⟩
  | .evaluate quantity order =>
      whenPassed (findQuantity quantity) fun quantity =>
        whenPassed (findTrip order.trip) fun trip =>
          onComputer config place do
            let report ← evaluate order quantity trip
            return ⟨[report.line], report.json⟩
  | .programs none =>
      .ofAnswer do
        let sizes ← programSizes (Catalog.table config.engine.arithmetic)
        return ⟨sizeLines sizes, sizeJson sizes⟩
  | .programs (some name) =>
      .ofAnswer do
        let listing ← Listing.ofProgram (Catalog.table config.engine.arithmetic)
          (← findProgram name)
        return ⟨listing.text, listing.json⟩
  | .trips =>
      onComputer config place do
        let slots ← savedTrips
        return ⟨slots.lines, slots.json⟩
  | .settings assignments =>
      onComputer config place do
        let values ← changeSettings assignments
        return ⟨values.lines, values.json⟩
  | .selfCheck =>
      whenPassed (CheckReport.make config) fun report =>
        ⟨some ⟨report.lines, report.json⟩,
          if report.faults = 0 then none else some (.selfCheck report.faults), none⟩

/-- Lines as text. -/
def unlines (lines : List String) : String :=
  String.join (lines.map (· ++ "\n"))

/-- What a conclusion prints and writes. -/
def Conclusion.outcome (conclusion : Conclusion) (json : Bool) (image : Option String) :
    Outcome where
  exitCode := (conclusion.failure.map CommandFailure.exitCode).getD 0
  output :=
    match conclusion.answer with
    | none => ""
    | some answer => unlines (if json then [answer.json.render] else answer.lines)
  errors :=
    match conclusion.failure with
    | none => ""
    | some failure => unlines [if json then failure.json.render else failure.explanation]
  written := do
    let path ← image
    let store ← conclusion.store
    return (path, ← store.file)

/-- The path of the storage image that arguments lead to. -/
def imagePath? (place : String → Place) (arguments : List String) : Option String :=
  match Request.ofArguments arguments with
  | .ok (.run options _) => ((loadConfig options place).toOption).bind (·.storage.image)
  | _ => none

/-- The path of the configuration file that arguments name. -/
def configPath? (arguments : List String) : Option String :=
  match Request.ofArguments arguments with
  | .ok (.run options _) => options.config
  | _ => none

/-- A run of the program. -/
def run (place : String → Place) (arguments : List String) : Outcome :=
  match Request.ofArguments arguments with
  | .error error => ⟨2, "", unlines [s!"error: {error.message}"], none⟩
  | .ok .version => ⟨0, unlines [s!"mpg {version}"], "", none⟩
  | .ok (.run options command) =>
      let checked := do
        let config ← loadConfig options place
        checkLogging options config.logging
        return config
      match checked with
      | .error failure => (Conclusion.ofFailure failure).outcome options.json none
      | .ok config => (perform config place command).outcome options.json config.storage.image

end TripComputer.CommandLine
