import TripComputer.Catalog
import TripComputer.CommandLine.Failure
import TripComputer.Text.Column

/-!
# The command `programs`

The list of the catalog's programs with their sizes, or the listing of one program.
-/

namespace TripComputer.CommandLine

/-- A line of the list of programs. -/
structure ProgramSize where
  program : Program
  instructions : Nat
  bytes : Nat

/-- The sizes of a catalog's programs. -/
def programSizes (table : ProgramTable) : Except CommandFailure (List ProgramSize) :=
  Program.all.mapM fun program => do
    let packed ← (Packed.encode (table program)).mapError (.packing s!"encode {program.name}")
    return ⟨program, (table program).length, packed.length⟩

def sizeLines (sizes : List ProgramSize) : List String :=
  let line (name instructions bytes : String) : String :=
    s!"{Text.Column.left 26 name} {Text.Column.right 6 instructions} {Text.Column.right 6 bytes}"
  line "program" "instr" "bytes" :: sizes.map fun size =>
    line size.program.name (toString size.instructions) (toString size.bytes)

def sizeJson (sizes : List ProgramSize) : Json :=
  .array (sizes.map fun size => .record [
    ("name", .string size.program.name),
    ("instructions", .number size.instructions),
    ("bytes", .number size.bytes)])

/-- A line of a listing: where an instruction starts, its bytes, and the instruction. -/
structure ListingLine where
  offset : Nat
  bytes : List UInt8
  instruction : Instruction

namespace ListingLine

def hex (line : ListingLine) : String :=
  " ".intercalate (line.bytes.map Text.Hex.byte)

end ListingLine

/-- The listing of a program. -/
structure Listing where
  program : Program
  lines : List ListingLine

namespace Listing

/-- The lines of instructions whose bytes start at an offset. -/
def linesFrom (offset : Nat) (bytes : List UInt8) : List Instruction → List ListingLine
  | [] => []
  | instruction :: rest =>
      let length := instruction.packedLength
      ⟨offset, bytes.take length, instruction⟩ ::
        linesFrom (offset + length) (bytes.drop length) rest

/-- The listing of a program of a catalog, whose byte form has to be read back. -/
def ofProgram (table : ProgramTable) (program : Program) : Except CommandFailure Listing := do
  let code := table program
  let packed ← (Packed.encode code).mapError (.packing s!"encode {program.name}")
  let decoded ← (Packed.decode packed).mapError (.packing s!"decode {program.name}")
  if decoded ≠ code then .error (.changedByPacking program)
  return ⟨program, linesFrom 0 packed code⟩

def text (listing : Listing) : List String :=
  let size := (listing.lines.flatMap (·.bytes)).length
  s!"{listing.program.name} ({listing.lines.length} instructions, {size} bytes)" ::
    listing.lines.map fun line =>
      s!"  {Text.Hex.padded 4 line.offset}  {Text.Column.left 12 line.hex} " ++
        line.instruction.mnemonic

def json (listing : Listing) : Json :=
  .record [
    ("name", .string listing.program.name),
    ("code", .array (listing.lines.map fun line => .record [
      ("offset", .number line.offset),
      ("hex", .string line.hex),
      ("mnemonic", .string line.instruction.mnemonic)]))]

end Listing

/-- The program that a user's name selects. -/
def findProgram (name : String) : Except CommandFailure Program :=
  (Program.ofName? name).elim (.error (.unknownName .program name)) .ok

end TripComputer.CommandLine
