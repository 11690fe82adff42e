import TripComputer.Store

/-!
# Places of files

What a path leads to, as far as a command is concerned: a file, nothing yet, or a refusal.  A
`Folder` is a set of files in memory, in which paths can be followed.
-/

namespace TripComputer

/-- What a path leads to. -/
inductive Place where
  | file (contents : List UInt8)
  /-- Nothing yet, and why no file can be made there, if it cannot. -/
  | vacant (obstacle : Option FileError)
  | refused (error : FileError)
deriving DecidableEq, Repr

namespace Place

/-- The contents of the file at a place. -/
def contents : Place → Except FileError (List UInt8)
  | file contents => .ok contents
  | vacant _ => .error .notFound
  | refused error => .error error

/-- The contents of the file at a place, as text. -/
def text (place : Place) : Except FileError String := do
  let bytes ← place.contents
  (String.fromUTF8? ⟨bytes.toArray⟩).elim (.error .notText) .ok

/-- Opens the store of the file at a place. -/
def openStore (place : Place) (capacity : Nat) : Except StoreError Store :=
  match place with
  | file contents => Store.openFile (some contents) capacity
  | vacant none => Store.openFile none capacity
  | vacant (some error) => .error (.file error)
  | refused error => .error (.file error)

/-- The parts of a path that lead somewhere. -/
def pathParts (path : String) : List String :=
  (path.splitOn "/").filter fun part => part != "" && part != "."

/-- The name of the file that a path ends in, if it does not end in a folder. -/
def fileName? (path : String) : Option String :=
  (pathParts path).getLast?.filter (· != "..")

end Place

/-- Files by name, the latest version of a file first.  There are no folders in a folder. -/
structure Folder where
  files : List (String × List UInt8)
deriving DecidableEq, Repr

namespace Folder

/-- The contents of a file. -/
def file? (folder : Folder) (name : String) : Option (List UInt8) :=
  folder.files.lookup name

/-- The most bytes in a name, and in a path. -/
def longestName : Nat := 255
def longestPath : Nat := 4095

/-- Where a path has led so far. -/
inductive Spot where
  | inside
  /-- A folder around the folder; nothing is known of what else it holds. -/
  | around
  /-- A folder that every system has, by the names on its path. -/
  | system (names : List String)

/-- The folders at the root of a system. -/
def systemFolders : List String :=
  ["bin", "boot", "dev", "etc", "home", "lib", "media", "mnt", "opt", "proc", "root", "run",
    "sbin", "srv", "sys", "tmp", "usr", "var"]

/-- A file that nothing can follow in a path. -/
def filePlace (contents : List UInt8) (following : List String) : Place :=
  if following.isEmpty then .file contents else .refused .notDirectory

/-- A name without a file.  With a file in mind, an empty name behind it asks for a folder. -/
def vacantPlace (following : List String) : Place :=
  if following.isEmpty then .vacant none
  else if following.all (·.isEmpty) then .vacant (some .isDirectory)
  else .vacant (some .notFound)

/-- What the names of a path lead to from a spot. -/
def follow (folder : Folder) : Spot → List String → Place
  | _, [] => .refused .isDirectory
  | spot, "" :: names | spot, "." :: names => follow folder spot names
  | .system path, ".." :: names => follow folder (.system path.dropLast) names
  | .inside, ".." :: names | .around, ".." :: names => follow folder .around names
  | spot, name :: names =>
      if longestName < name.utf8ByteSize then .refused .nameTooLong
      else
        match spot with
        | .inside =>
            match folder.file? name with
            | some contents => filePlace contents names
            | none => vacantPlace names
        | .system [] =>
            if systemFolders.contains name then follow folder (.system [name]) names
            else .refused .notFound
        | .system ["dev"] => if name = "null" then filePlace [] names else .refused .notFound
        | _ => .refused .notFound

/-- What a path that starts in the folder leads to. -/
def place (folder : Folder) (path : String) : Place :=
  if path.contains '\x00' then .refused .endedName
  else if longestPath < path.utf8ByteSize then .refused .nameTooLong
  else if path.isEmpty then .refused .notFound
  else follow folder (if path.startsWith "/" then .system [] else .inside) (path.splitOn "/")

/-- The folder with a file written.  Files elsewhere do not count. -/
def write (folder : Folder) (path : String) (contents : List UInt8) : Folder :=
  match Place.fileName? path with
  | some name => if path.startsWith "/" then folder else ⟨(name, contents) :: folder.files⟩
  | none => folder

end Folder

end TripComputer
