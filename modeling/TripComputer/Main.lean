import TripComputer.CommandLine

/-!
# The program

Looks up the files that a command line leads to, runs it, writes what the run has written and
prints what it has printed.
-/

namespace TripComputer

/-- Why the system refused a file operation. -/
def FileError.ofSystem : IO.Error → FileError
  | .noFileOrDirectory .. => .notFound
  | .inappropriateType _ 21 _ => .isDirectory
  | .inappropriateType .. => .notDirectory
  | .invalidArgument _ 22 _ => .endedName
  | .invalidArgument .. => .nameTooLong
  | _ => .denied

/-- What a path leads to on this machine. -/
def Place.look (path : String) : IO Place := do
  try
    let contents ← IO.FS.readBinFile path
    return .file contents.toList
  catch error =>
    match FileError.ofSystem error with
    | .notFound => return .vacant none
    | refusal => return .refused refusal

/-- What given paths lead to.  Nothing is known of other paths. -/
def Place.lookAll (paths : List String) : IO (String → Place) := do
  let found ← paths.mapM fun path => return (path, ← Place.look path)
  return fun path => (found.lookup path).getD (.vacant none)

namespace CommandLine

/-- Writes the file that a run has written, and answers with why it could not. -/
def Outcome.save (outcome : Outcome) : IO (Option FileError) := do
  let some (path, contents) := outcome.written | return none
  try
    IO.FS.writeBinFile path ⟨contents.toArray⟩
    return none
  catch error =>
    return some (FileError.ofSystem error)

/-- Prints what a run has printed, and answers with its exit code. -/
def Outcome.print (outcome : Outcome) : IO UInt32 := do
  IO.print outcome.output
  IO.eprint outcome.errors
  return outcome.exitCode.toUInt32

/-- Runs the program.  An image that cannot be written counts as refused from the start. -/
def start (arguments : List String) : IO UInt32 := do
  let config ← Place.lookAll (configPath? arguments).toList
  let imagePath? := imagePath? config arguments
  let image ← Place.lookAll imagePath?.toList
  let place (path : String) : Place :=
    if configPath? arguments = some path then config path else image path
  let outcome := run place arguments
  match ← outcome.save with
  | none => outcome.print
  | some error =>
      let refused (path : String) : Place :=
        if imagePath? = some path then .refused error else place path
      (run refused arguments).print

end CommandLine

end TripComputer

def main (arguments : List String) : IO UInt32 :=
  TripComputer.CommandLine.start arguments
