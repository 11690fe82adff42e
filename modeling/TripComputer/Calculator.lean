import TripComputer.Catalog
import TripComputer.Quantity

/-!
# The calculator

A machine together with the catalog it runs: what evaluates quantities and runs the helper
programs.  Registers keep their values from one run to the next.
-/

namespace TripComputer

/-- A register machine over the shipped catalog. -/
structure Calculator where
  machine : Machine
  arithmetic : Arithmetic
deriving DecidableEq, Repr

/-- The result of a quantity on one trip. -/
structure Evaluation where
  quantity : Quantity
  raw : UInt64
deriving DecidableEq, Repr

namespace Evaluation

/-- The checked view of the result. -/
def reading (evaluation : Evaluation) : Reading :=
  .ofRaw evaluation.raw

end Evaluation

namespace Calculator

def new (arithmetic : Arithmetic) : Calculator :=
  ⟨Machine.initial, arithmetic⟩

instance : Inhabited Calculator := ⟨new .native⟩

/-- Contents of a register after the last run. -/
def register (calculator : Calculator) (register : Register) : UInt64 :=
  calculator.machine.registers.get register

variable {σ : Type} [Environment σ]

/-- Runs a program with a context index and `input` in register 2. -/
def call (calculator : Calculator) (environment : σ) (program : Program) (index : UInt8)
    (input : UInt64) : Machine.Run σ :=
  (calculator.machine.setRegister .r2 input).run (Catalog.table calculator.arithmetic)
    environment program index

/-- The calculator after a run. -/
def after (calculator : Calculator) (run : Machine.Run σ) : Calculator :=
  { calculator with machine := run.machine }

/-- Runs the program of a quantity on the trip at a context index. -/
def evaluate (calculator : Calculator) (environment : σ) (quantity : Quantity) (trip : UInt8) :
    Except ExecutionError Evaluation × Calculator × σ :=
  let run := calculator.call environment quantity.program trip 0
  (run.result.map fun raw => ⟨quantity, raw⟩, calculator.after run, run.environment)

end Calculator

end TripComputer
