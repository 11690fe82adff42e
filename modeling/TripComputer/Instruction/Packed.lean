import TripComputer.Instruction
import TripComputer.Text.Hex

/-!
# Packed programs

The byte form of a program, for tables stored or exchanged as data.  An instruction is an
opcode byte, then an optional selector byte, then an optional operand byte:

* bits 0 to 5 of the opcode byte hold the opcode number;
* bit 6 announces a selector byte: register `x` in the high nibble and `y` in the low one,
  as numbers from one, zero where unused;
* bit 7 announces an operand byte: an immediate value, program, constant, setting, counter,
  channel, byte position or skip distance.

`skipIfIndexBelow` carries its limit in the selector byte.  Packed skip distances are signed
byte offsets from the end of the skip, while those of `Instruction` count instructions.
-/

namespace TripComputer

/-- Why bytes are no program, or a program has no byte form.  An `offset` counts bytes and
a `position` instructions. -/
inductive PackError where
  | unknownOpcode (opcode : UInt8) (offset : Nat)
  | shapeMismatch (opcode : UInt8) (offset : Nat)
  | truncated (offset : Nat)
  | badRegister (selector : UInt8) (offset : Nat)
  | badOperand (value : UInt8) (offset : Nat)
  | badSkipTarget (position : Nat)
  | skipTooFar (position : Nat)
deriving DecidableEq, Repr

namespace PackError

def message : PackError → String
  | unknownOpcode opcode offset =>
      s!"unknown opcode {Text.Hex.markedByte opcode} at byte {offset}"
  | shapeMismatch opcode offset =>
      s!"opcode {Text.Hex.markedByte opcode} at byte {offset} has the wrong operand flags"
  | truncated offset => s!"program truncated at byte {offset}"
  | badRegister selector offset =>
      s!"bad register selector {Text.Hex.markedByte selector} at byte {offset}"
  | badOperand value offset => s!"operand {value} out of range at byte {offset}"
  | badSkipTarget position => s!"skip at instruction {position} does not land on an instruction"
  | skipTooFar position => s!"skip at instruction {position} does not fit in a signed byte"

end PackError

namespace Instruction

/-- Opcode number of an instruction with its selector and operand bytes. -/
structure Fields where
  opcode : UInt8
  selector : Option UInt8
  operand : Option UInt8
deriving DecidableEq

/-- Which bytes follow an opcode byte. -/
structure Shape where
  selector : Bool
  operand : Bool
deriving DecidableEq

namespace Shape

/-- The bits of the opcode byte that announce the shape. -/
def flags (shape : Shape) : UInt8 :=
  (if shape.selector then 0x40 else 0) ||| (if shape.operand then 0x80 else 0)

/-- The shape of the instructions with an opcode number. -/
def ofOpcode? (opcode : Nat) : Option Shape :=
  if opcode ∈ [0, 10, 11] then some ⟨false, false⟩
  else if opcode ∈ [1, 6, 8, 9] then some ⟨false, true⟩
  else if opcode ∈ [16, 18, 19, 20, 22, 24, 27, 28, 29, 30, 31, 32, 33, 34] then
    some ⟨true, false⟩
  else if opcode ∈ [2, 3, 4, 5, 7, 12, 13, 14, 15, 17, 21, 23, 25, 26] then some ⟨true, true⟩
  else none

end Shape

/-- Selector byte naming one register. -/
def selectOne (x : Register) : UInt8 :=
  x.number <<< 4

/-- Selector byte naming two registers. -/
def selectTwo (x y : Register) : UInt8 :=
  (x.number <<< 4) ||| y.number

/-- The fields of an instruction, with its skip distance as it stands. -/
def fields : Instruction → Fields
  | done => ⟨0, none, none⟩
  | skip distance => ⟨1, none, some distance.toUInt8⟩
  | skipIfZero x distance => ⟨2, some (selectOne x), some distance.toUInt8⟩
  | skipIfAtMost x y distance => ⟨3, some (selectTwo x y), some distance.toUInt8⟩
  | skipIfOdd x distance => ⟨4, some (selectOne x), some distance.toUInt8⟩
  | skipIfTopBit x distance => ⟨5, some (selectOne x), some distance.toUInt8⟩
  | skipIfMetric distance => ⟨6, none, some distance.toUInt8⟩
  | skipIfIndexBelow limit distance => ⟨7, some limit, some distance.toUInt8⟩
  | call program => ⟨8, none, some program.index⟩
  | jump program => ⟨9, none, some program.index⟩
  | traceOn => ⟨10, none, none⟩
  | traceOff => ⟨11, none, none⟩
  | loadImmediate x value => ⟨12, some (selectOne x), some value⟩
  | loadConstant x constant => ⟨13, some (selectOne x), some constant.index⟩
  | loadSetting x setting => ⟨14, some (selectOne x), some setting.index⟩
  | loadSettingIndexed x base => ⟨15, some (selectOne x), some base⟩
  | loadConvertible x => ⟨16, some (selectOne x), none⟩
  | storeSetting x setting => ⟨17, some (selectOne x), some setting.index⟩
  | storeConvertible x => ⟨18, some (selectOne x), none⟩
  | loadNumerator x => ⟨19, some (selectOne x), none⟩
  | loadDenominator x => ⟨20, some (selectOne x), none⟩
  | loadCounter x counter => ⟨21, some (selectOne x), some counter.index⟩
  | loadTankFuel x => ⟨22, some (selectOne x), none⟩
  | loadVoltage x channel => ⟨23, some (selectOne x), some channel⟩
  | copy x y => ⟨24, some (selectTwo x y), none⟩
  | loadByte x y position => ⟨25, some (selectTwo x y), some position⟩
  | storeByte x y position => ⟨26, some (selectTwo x y), some position⟩
  | swap x y => ⟨27, some (selectTwo x y), none⟩
  | add x y => ⟨28, some (selectTwo x y), none⟩
  | subtract x y => ⟨29, some (selectTwo x y), none⟩
  | multiply x y => ⟨30, some (selectTwo x y), none⟩
  | divide x y => ⟨31, some (selectTwo x y), none⟩
  | shiftLeft x => ⟨32, some (selectOne x), none⟩
  | shiftRight x => ⟨33, some (selectOne x), none⟩
  | root x => ⟨34, some (selectOne x), none⟩

/-- The bytes of an instruction, with its skip distance as it stands. -/
def bytes (instruction : Instruction) : List UInt8 :=
  let fields := instruction.fields
  let shape : Shape := ⟨fields.selector.isSome, fields.operand.isSome⟩
  (fields.opcode ||| shape.flags) :: (fields.selector.toList ++ fields.operand.toList)

/-- Number of bytes of an instruction. -/
def packedLength (instruction : Instruction) : Nat :=
  instruction.bytes.length

/-- The instruction with the given fields; a field it does not use is ignored.  Registers
are checked before operands. -/
def ofFields (opcode selector operand : UInt8) (offset : Nat) : Except PackError Instruction :=
  let register (nibble : UInt8) : Except PackError Register :=
    (Register.ofNumber? nibble).elim (.error (.badRegister selector offset)) .ok
  let operandAs {α : Type} (meaning : UInt8 → Option α) : Except PackError α :=
    (meaning operand).elim (.error (.badOperand operand offset)) .ok
  let x := register (selector >>> 4)
  let y := register (selector &&& 0x0F)
  let distance := operand.toInt8
  match opcode.toNat with
  | 0 => .ok done
  | 1 => .ok (skip distance)
  | 2 => return skipIfZero (← x) distance
  | 3 => return skipIfAtMost (← x) (← y) distance
  | 4 => return skipIfOdd (← x) distance
  | 5 => return skipIfTopBit (← x) distance
  | 6 => .ok (skipIfMetric distance)
  | 7 => .ok (skipIfIndexBelow selector distance)
  | 8 => return call (← operandAs Program.ofIndex?)
  | 9 => return jump (← operandAs Program.ofIndex?)
  | 10 => .ok traceOn
  | 11 => .ok traceOff
  | 12 => return loadImmediate (← x) operand
  | 13 => return loadConstant (← x) (← operandAs Constant.ofIndex?)
  | 14 => return loadSetting (← x) (← operandAs Setting.ofIndex?)
  | 15 => return loadSettingIndexed (← x) operand
  | 16 => return loadConvertible (← x)
  | 17 => return storeSetting (← x) (← operandAs Setting.ofIndex?)
  | 18 => return storeConvertible (← x)
  | 19 => return loadNumerator (← x)
  | 20 => return loadDenominator (← x)
  | 21 => return loadCounter (← x) (← operandAs Counter.ofIndex?)
  | 22 => return loadTankFuel (← x)
  | 23 => return loadVoltage (← x) operand
  | 24 => return copy (← x) (← y)
  | 25 => return loadByte (← x) (← y) operand
  | 26 => return storeByte (← x) (← y) operand
  | 27 => return swap (← x) (← y)
  | 28 => return add (← x) (← y)
  | 29 => return subtract (← x) (← y)
  | 30 => return multiply (← x) (← y)
  | 31 => return divide (← x) (← y)
  | 32 => return shiftLeft (← x)
  | 33 => return shiftRight (← x)
  | 34 => return root (← x)
  | _ => .error (.unknownOpcode opcode offset)

end Instruction

namespace Packed

/-- A distance as a signed byte, when it fits. -/
def narrow? (distance : Int) : Option Int8 :=
  if -128 ≤ distance ∧ distance ≤ 127 then some (Int8.ofInt distance) else none

/-- Byte offsets at which the instructions of a program start. -/
def offsets (start : Nat) : List Instruction → List Nat
  | [] => []
  | instruction :: rest => start :: offsets (start + instruction.packedLength) rest

/-- Number of bytes of the first `position` instructions. -/
def sizeBefore : (code : List Instruction) → (position : Nat) → Nat
  | instruction :: rest, position + 1 => instruction.packedLength + sizeBefore rest position
  | _, _ => 0

/-- Byte distance of the skip at `position` that spans the given number of instructions. -/
def toBytes (code : List Instruction) (position : Nat) (distance : Int8) :
    Except PackError Int8 :=
  match landing? code.length position distance with
  | none => .error (.badSkipTarget position)
  | some target =>
      match narrow? (sizeBefore code target - sizeBefore code (position + 1)) with
      | none => .error (.skipTooFar position)
      | some bytes => .ok bytes

/-- Number of instructions that the skip at `position` spans, given its byte distance. -/
def toInstructions (code : List Instruction) (starts : List Nat) (position : Nat)
    (distance : Int8) : Except PackError Int8 :=
  let target : Int := sizeBefore code (position + 1) + distance.toInt
  match starts.findIdx? fun start : Nat => Int.ofNat start == target with
  | none => .error (.badSkipTarget position)
  | some index =>
      match narrow? ((index : Int) - (position + 1)) with
      | none => .error (.skipTooFar position)
      | some count => .ok count

/-- The program with every skip distance replaced; the first refusal wins. -/
def retarget (convert : (position : Nat) → Int8 → Except PackError Int8) (position : Nat) :
    List Instruction → Except PackError (List Instruction)
  | [] => .ok []
  | instruction :: rest => do
      let converted ← match instruction.distance? with
        | none => .ok instruction
        | some distance => (convert position distance).map fun new => instruction.withDistance new
      return converted :: (← retarget convert (position + 1) rest)

/-- The byte form of a program. -/
def encode (code : List Instruction) : Except PackError (List UInt8) := do
  let packed ← retarget (toBytes code) 0 code
  return packed.flatMap Instruction.bytes

/-- The instructions in a byte string that starts at `offset`, with skip distances still in
bytes. -/
def scan (offset : Nat) : List UInt8 → Except PackError (List Instruction)
  | [] => .ok []
  | first :: rest =>
      let opcode := first &&& 0x3F
      match Instruction.Shape.ofOpcode? opcode.toNat with
      | none => .error (.unknownOpcode first offset)
      | some shape =>
          if first &&& 0xC0 ≠ shape.flags then .error (.shapeMismatch first offset)
          else
            match shape, rest with
            | ⟨false, false⟩, rest => do
                let instruction ← Instruction.ofFields opcode 0 0 offset
                return instruction :: (← scan (offset + 1) rest)
            | ⟨false, true⟩, operand :: rest => do
                let instruction ← Instruction.ofFields opcode 0 operand offset
                return instruction :: (← scan (offset + 2) rest)
            | ⟨true, false⟩, selector :: rest => do
                let instruction ← Instruction.ofFields opcode selector 0 offset
                return instruction :: (← scan (offset + 2) rest)
            | ⟨true, true⟩, selector :: operand :: rest => do
                let instruction ← Instruction.ofFields opcode selector operand offset
                return instruction :: (← scan (offset + 3) rest)
            | _, _ => .error (.truncated offset)

/-- The program that a byte string packs. -/
def decode (bytes : List UInt8) : Except PackError (List Instruction) := do
  let code ← scan 0 bytes
  retarget (toInstructions code (offsets 0 code)) 0 code

end Packed

end TripComputer
