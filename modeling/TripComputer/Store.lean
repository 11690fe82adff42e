import TripComputer.BigEndian
import TripComputer.Text.Hex

/-!
# Non-volatile stores

A store is a row of byte cells with a fixed capacity.  A file-backed store also knows what
its file holds: opening a file pads a short image in memory only, and every write puts the
whole image into the file.

An access that may change a store leaves one whether it is refused or not.
-/

namespace TripComputer

/-- What a file operation can be refused for. -/
inductive FileError where
  | notFound
  /-- A folder where a file is asked for. -/
  | isDirectory
  /-- A file where a folder is asked for. -/
  | notDirectory
  | nameTooLong
  /-- The path holds the character that ends names. -/
  | endedName
  | denied
  | notText
deriving DecidableEq, Repr

namespace FileError

def message : FileError → String
  | notFound => "No such file or directory (os error 2)"
  | isDirectory => "Is a directory (os error 21)"
  | notDirectory => "Not a directory (os error 20)"
  | nameTooLong => "File name too long (os error 36)"
  | endedName => "file name contained an unexpected NUL byte"
  | denied => "Permission denied (os error 13)"
  | notText => "stream did not contain valid UTF-8"

end FileError

/-- Why a store refused an access, or could not be opened. -/
inductive StoreError where
  | outOfRange (address length capacity : Nat)
  | imageSize (found capacity : Nat)
  | file (error : FileError)
deriving DecidableEq, Repr

namespace StoreError

def message : StoreError → String
  | outOfRange address length capacity =>
      s!"access of {length} bytes at {Text.Hex.number address} exceeds store of {capacity} bytes"
  | imageSize found capacity => s!"image is {found} bytes, store holds {capacity}"
  | file error => s!"io: {error.message}"

end StoreError

/-- Byte cells that keep their contents without power. -/
structure Store where
  cells : List UInt8
  /-- Contents of the backing file, for a store that has one. -/
  file : Option (List UInt8)
deriving DecidableEq, Repr

namespace Store

/-- Value of an erased cell. -/
def erasedCell : UInt8 := 0xFF

/-- A store in memory, with every cell erased. -/
def erased (capacity : Nat) : Store :=
  ⟨List.replicate capacity erasedCell, none⟩

/-- A store in memory over the given cells. -/
def ofCells (cells : List UInt8) : Store :=
  ⟨cells, none⟩

instance : Inhabited Store := ⟨ofCells []⟩

/-- Opens the store of a file with the given contents.  A missing file is created erased; a
short one is padded with erased cells; a long one is refused. -/
def openFile (contents : Option (List UInt8)) (capacity : Nat) : Except StoreError Store :=
  match contents with
  | none =>
      let cells := List.replicate capacity erasedCell
      .ok ⟨cells, some cells⟩
  | some contents =>
      if contents.length > capacity then .error (.imageSize contents.length capacity)
      else
        let padding := List.replicate (capacity - contents.length) erasedCell
        .ok ⟨contents ++ padding, some contents⟩

def capacity (store : Store) : Nat :=
  store.cells.length

/-- The bytes at an address. -/
def read (store : Store) (address length : Nat) : Except StoreError (List UInt8) :=
  if address + length ≤ store.capacity then .ok ((store.cells.drop address).take length)
  else .error (.outOfRange address length store.capacity)

/-- An access that may change a store. -/
abbrev Access (ε α : Type) := EStateM ε Store α

/-- The store that an access leaves, unless it is refused. -/
def Access.outcome {ε : Type} (access : Access ε Unit) (store : Store) : Except ε Store :=
  match access store with
  | .ok _ changed => .ok changed
  | .error error _ => .error error

/-- Puts bytes at an address. -/
def put (address : Nat) (bytes : List UInt8) : Access StoreError Unit := do
  let store ← get
  if address + bytes.length ≤ store.capacity then
    let cells :=
      store.cells.take address ++ bytes ++ store.cells.drop (address + bytes.length)
    set (Store.mk cells (store.file.map fun _ => cells))
  else throw (.outOfRange address bytes.length store.capacity)

/-- The store with bytes written at an address. -/
def write (store : Store) (address : Nat) (bytes : List UInt8) : Except StoreError Store :=
  (put address bytes).outcome store

/-- The big-endian word at an address. -/
def readWord (store : Store) (address : Nat) : Except StoreError UInt32 :=
  (store.read address 4).map BigEndian.decode

/-- The store with a big-endian word written at an address. -/
def writeWord (store : Store) (address : Nat) (word : UInt32) : Except StoreError Store :=
  store.write address (BigEndian.encode word)

end Store

end TripComputer
