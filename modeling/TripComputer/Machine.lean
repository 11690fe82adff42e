import TripComputer.Environment
import TripComputer.Instruction
import TripComputer.Text.Hex
import TripComputer.Word

/-!
# The register machine

The machine has five registers, a return stack of at most sixteen frames and a context index
that every call inherits.  The index selects the trip that `loadCounter` reads, the slot of
the conversion instructions and the offset of `loadSettingIndexed`.

`step` is one instruction and `execute` is a run of them within a step budget.  A run ends
with the value of register 2 or with a fault, and a faulted run reports what register 2 held.
-/

namespace TripComputer

/-- Most frames on the return stack. -/
def stackDepth : Nat := 16

/-- Most instructions in one run. -/
def stepLimit : Nat := 65536

/-- Bodies of the programs. -/
abbrev ProgramTable := Program → List Instruction

/-- The register file. -/
structure Registers where
  r1 : UInt64
  r2 : UInt64
  r3 : UInt64
  r4 : UInt64
  r5 : UInt64
deriving DecidableEq, Repr

namespace Registers

def zero : Registers := ⟨0, 0, 0, 0, 0⟩

instance : Inhabited Registers := ⟨zero⟩

def get (registers : Registers) : Register → UInt64
  | .r1 => registers.r1
  | .r2 => registers.r2
  | .r3 => registers.r3
  | .r4 => registers.r4
  | .r5 => registers.r5

def set (registers : Registers) (register : Register) (value : UInt64) : Registers :=
  match register with
  | .r1 => { registers with r1 := value }
  | .r2 => { registers with r2 := value }
  | .r3 => { registers with r3 := value }
  | .r4 => { registers with r4 := value }
  | .r5 => { registers with r5 := value }

/-- Values in register order. -/
def toList (registers : Registers) : List UInt64 :=
  Register.all.map registers.get

/-- Values in register order, as a trace shows them. -/
def text (registers : Registers) : String :=
  "[" ++ ", ".intercalate (registers.toList.map toString) ++ "]"

end Registers

/-- Why a run stopped before its end. -/
inductive Fault where
  | stackOverflow (program : Program)
  | ranOffEnd (program : Program)
  | skipOutOfRange (program : Program) (pc : Nat)
  | unknownTrip (index : UInt8)
  | unknownSetting (index : UInt8)
  | unknownConversion (index : UInt8)
  | unknownChannel (channel : UInt8)
  | bytePosition (position : UInt8)
  | stepLimit (limit : Nat)
deriving DecidableEq, Repr

namespace Fault

def message : Fault → String
  | stackOverflow program => s!"call stack overflow entering {program.name}"
  | ranOffEnd program => s!"{program.name} ran past its last instruction"
  | skipOutOfRange program pc => s!"{program.name} skip at {pc} lands outside the program"
  | unknownTrip index => s!"no trip instance at index {index}"
  | unknownSetting index => s!"no setting at index {index}"
  | unknownConversion index => s!"no conversion slot at index {index}"
  | unknownChannel channel => s!"no analog channel {channel}"
  | bytePosition position => s!"byte position {position} outside register"
  | stepLimit limit => s!"step budget of {limit} instructions exhausted"

end Fault

/-- A fault with what register 2 held when the run stopped. -/
structure ExecutionError where
  fault : Fault
  partialResult : UInt64
deriving DecidableEq, Repr

namespace ExecutionError

def message (error : ExecutionError) : String :=
  s!"{error.fault.message} (partial result {Text.Hex.number error.partialResult.toNat})"

end ExecutionError

/-- Where a call returns to. -/
structure Frame where
  program : Program
  pc : Nat
deriving DecidableEq, Repr

/-- What the machine keeps between runs. -/
structure Machine where
  registers : Registers
  stack : List Frame
  tracing : Bool
deriving DecidableEq, Repr

/-- One line of a trace: an instruction and the registers before it. -/
structure TraceLine where
  program : Program
  pc : Nat
  instruction : Instruction
  registers : Registers
deriving DecidableEq, Repr

namespace Machine

def initial : Machine := ⟨Registers.zero, [], false⟩

instance : Inhabited Machine := ⟨initial⟩

/-- The machine with one register replaced. -/
def setRegister (machine : Machine) (register : Register) (value : UInt64) : Machine :=
  { machine with registers := machine.registers.set register value }

/-- A machine in the middle of a run. -/
structure State (σ : Type) where
  registers : Registers
  /-- Frames of the callers, the latest first. -/
  stack : List Frame
  tracing : Bool
  program : Program
  /-- Position of the next instruction. -/
  pc : Nat
  environment : σ
  /-- Lines traced so far, the latest first. -/
  trace : List TraceLine

/-- What one instruction leads to. -/
inductive Progress (σ : Type) where
  | running (state : State σ)
  | finished (state : State σ)
  | faulted (fault : Fault) (state : State σ)

/-- The state with the given instruction traced, when tracing is on. -/
def State.traced {σ : Type} (state : State σ) (instruction : Instruction) : State σ :=
  if state.tracing then
    { state with
      trace := ⟨state.program, state.pc, instruction, state.registers⟩ :: state.trace }
  else state

/-- How a run ended. -/
structure Run (σ : Type) where
  result : Except ExecutionError UInt64
  machine : Machine
  environment : σ
  /-- Lines traced, the earliest first. -/
  trace : List TraceLine

/-- The run that ends in a state, with or without a fault. -/
def State.stop {σ : Type} (state : State σ) (fault? : Option Fault) : Run σ where
  result :=
    match fault? with
    | none => .ok state.registers.r2
    | some fault => .error ⟨fault, state.registers.r2⟩
  machine := ⟨state.registers, state.stack, state.tracing⟩
  environment := state.environment
  trace := state.trace.reverse

/-- The state in which a run of a program starts.  Registers are as the last run or the
caller left them; the stack is empty and tracing is off. -/
def start {σ : Type} (machine : Machine) (environment : σ) (entry : Program) : State σ where
  registers := machine.registers
  stack := []
  tracing := false
  program := entry
  pc := 0
  environment := environment
  trace := []

variable {σ : Type} [Environment σ]

/-- The conversion in a slot, or the fault of a slot that has none. -/
def conversion (index : UInt8) : Except Fault Conversion :=
  (Conversion.ofSlot? index).elim (.error (.unknownConversion index)) .ok

/-- Whether a skip is taken. -/
def skips (index : UInt8) (registers : Registers) (environment : σ) : Instruction → Bool
  | .skip _ => true
  | .skipIfZero x _ => Word.isZero (registers.get x)
  | .skipIfAtMost x y _ => Word.atMost (registers.get x) (registers.get y)
  | .skipIfOdd x _ => Word.isOdd (registers.get x)
  | .skipIfTopBit x _ => Word.hasTopBit (registers.get x)
  | .skipIfMetric _ => Environment.metric environment
  | .skipIfIndexBelow limit _ => index < limit
  | _ => false

/-- What an instruction that moves or combines data does to the registers and to the
surroundings.  The instructions of control do nothing here. -/
def perform (index : UInt8) (registers : Registers) (environment : σ) :
    Instruction → Except Fault (Registers × σ)
  | .loadImmediate x value => .ok (registers.set x value.toUInt64, environment)
  | .loadConstant x constant =>
      let value := constant.value (Environment.cyclesPerSecond environment)
        (Environment.tickCycles environment)
      .ok (registers.set x value, environment)
  | .loadSetting x setting =>
      .ok (registers.set x (Environment.setting environment setting).toUInt64, environment)
  | .loadSettingIndexed x base =>
      match Setting.ofIndex? (base + index) with
      | none => .error (.unknownSetting (base + index))
      | some setting =>
          .ok (registers.set x (Environment.setting environment setting).toUInt64, environment)
  | .loadConvertible x => do
      let slot ← conversion index
      .ok (registers.set x (Environment.setting environment slot.setting).toUInt64, environment)
  | .storeSetting x setting =>
      .ok (registers, Environment.store environment setting (registers.get x))
  | .storeConvertible x => do
      let slot ← conversion index
      .ok (registers, Environment.store environment slot.setting (registers.get x))
  | .loadNumerator x => do
      let slot ← conversion index
      .ok (registers.set x slot.numerator, environment)
  | .loadDenominator x => do
      let slot ← conversion index
      .ok (registers.set x slot.denominator, environment)
  | .loadCounter x counter =>
      match Environment.counter? environment index counter with
      | none => .error (.unknownTrip index)
      | some value => .ok (registers.set x value, environment)
  | .loadTankFuel x => .ok (registers.set x (Environment.tankFuel environment), environment)
  | .loadVoltage x channel =>
      match Environment.reading? environment channel with
      | none => .error (.unknownChannel channel)
      | some reading => .ok (registers.set x reading.toUInt64, environment)
  | .copy x y => .ok (registers.set x (registers.get y), environment)
  | .loadByte x y position =>
      match Word.byte? (registers.get y) position with
      | none => .error (.bytePosition position)
      | some byte => .ok (registers.set x byte.toUInt64, environment)
  | .storeByte x y position =>
      match Word.setByte? (registers.get y) position (registers.get x).toUInt8 with
      | none => .error (.bytePosition position)
      | some word => .ok (registers.set y word, environment)
  | .swap x y =>
      .ok ((registers.set x (registers.get y)).set y (registers.get x), environment)
  | .add x y =>
      .ok (registers.set x (Word.add (registers.get x) (registers.get y)), environment)
  | .subtract x y =>
      .ok (registers.set x (Word.subtract (registers.get x) (registers.get y)), environment)
  | .multiply x y =>
      .ok (registers.set x (Word.multiply (registers.get x) (registers.get y)), environment)
  | .divide x y =>
      let (quotient, remainder) := Word.divide (registers.get x) (registers.get y)
      .ok ((registers.set x quotient).set y remainder, environment)
  | .shiftLeft x => .ok (registers.set x (Word.shiftLeft (registers.get x)), environment)
  | .shiftRight x => .ok (registers.set x (Word.shiftRight (registers.get x)), environment)
  | .root x => .ok (registers.set x (Word.rootQ12 (registers.get x)), environment)
  | _ => .ok (registers, environment)

/-- The effect of one instruction, with `state.pc` at the instruction. -/
def apply (table : ProgramTable) (index : UInt8) (state : State σ)
    (instruction : Instruction) : Progress σ :=
  match instruction with
  | .done =>
      match state.stack with
      | [] => .finished state
      | frame :: stack =>
          .running { state with program := frame.program, pc := frame.pc, stack := stack }
  | .call program =>
      if state.stack.length < stackDepth then
        .running { state with
          program := program
          pc := 0
          stack := ⟨state.program, state.pc + 1⟩ :: state.stack }
      else .faulted (.stackOverflow program) state
  | .jump program => .running { state with program := program, pc := 0 }
  | .traceOn => .running { state with pc := state.pc + 1, tracing := true }
  | .traceOff => .running { state with pc := state.pc + 1, tracing := false }
  | instruction =>
      match instruction.distance? with
      | some distance =>
          if skips index state.registers state.environment instruction then
            match landing? (table state.program).length state.pc distance with
            | none => .faulted (.skipOutOfRange state.program state.pc) state
            | some target => .running { state with pc := target }
          else .running { state with pc := state.pc + 1 }
      | none =>
          match perform index state.registers state.environment instruction with
          | .error fault => .faulted fault state
          | .ok (registers, environment) =>
              .running { state with
                pc := state.pc + 1
                registers := registers
                environment := environment }

/-- The next instruction of a run. -/
def step (table : ProgramTable) (index : UInt8) (state : State σ) : Progress σ :=
  match (table state.program)[state.pc]? with
  | none => .faulted (.ranOffEnd state.program) state
  | some instruction => apply table index (state.traced instruction) instruction

/-- Runs from a state with a budget of `steps` instructions. -/
def execute (table : ProgramTable) (index : UInt8) : (steps : Nat) → State σ → Run σ
  | 0, state => state.stop (some (.stepLimit stepLimit))
  | steps + 1, state =>
      match step table index state with
      | .running state => execute table index steps state
      | .finished state => state.stop none
      | .faulted fault state => state.stop (some fault)

/-- Runs a program with a context index until it returns. -/
def run (machine : Machine) (table : ProgramTable) (environment : σ) (entry : Program)
    (index : UInt8) : Run σ :=
  execute table index stepLimit (machine.start environment entry)

end Machine

end TripComputer
