import TripComputer.Calculator
import TripComputer.Text.Column

/-!
# Text of results

Rounding and the extraction of digits are programs of the catalog.  Here the digits that
they leave in register 3 become characters.  Each rendering uses the calculator, and so
changes its registers.
-/

namespace TripComputer

/-- The surroundings of the formatting programs, which read no trips and no settings. -/
def Surroundings.detached : Surroundings where
  settings := Settings.defaults
  cyclesPerSecond := Board.cyclesPerSecond
  tickCycles := Board.tickCycles
  metricOverride := some false
  trip? _ := none
  tankFuel := 0
  reading? _ := none

namespace Display

/-- A computation that uses a calculator. -/
abbrev Calculation (α : Type) := EStateM ExecutionError Calculator α

/-- Shown whenever a value overflows or does not fit its field. -/
def overflowText : String := " ---- "

/-- Characters of a number. -/
def numberWidth : Nat := 6

/-- Characters of a count. -/
def countWidth : Nat := 10

/-- Context index that asks the rounding program for the value as it is. -/
def unroundedIndex : UInt8 := 4

/-- Most decimals of a number. -/
def maxDecimals : UInt8 := 3

/-- Runs a formatting program on a value; the answer is register 2. -/
def runDetached (program : Program) (index : UInt8) (value : UInt64) : Calculation UInt64 :=
  fun calculator =>
    let run := calculator.call Surroundings.detached program index value
    match run.result with
    | .ok result => .ok result (calculator.after run)
    | .error error => .error error (calculator.after run)

/-- The bytes that the last program left in register 3, the least significant first. -/
def leftBytes : Calculation (List UInt8) := do
  let calculator ← get
  return Word.bytes (calculator.register .r3)

/-- The two decimal digits of a number below a hundred. -/
def digitPair (pair : UInt8) : List Char :=
  [Char.ofNat (48 + pair.toNat / 10), Char.ofNat (48 + pair.toNat % 10)]

/-- The ten decimal digits of a value rounded at a context index; none on overflow. -/
def digits (value : UInt64) (index : UInt8) : Calculation (Option (List Char)) := do
  let result ← runDetached .formatNumber index value
  if (Reading.ofRaw result).isOverflow then return none
  let bytes ← leftBytes
  return some ((bytes.take 5).flatMap digitPair)

/-- Ten digits as seven places, a point and three decimals.  Leading zeros are blanked, save
the last one before the point. -/
def pointed (digits : List Char) : List Char :=
  let places := digits.take 7
  let zeros := ((places.take 6).takeWhile (· == '0')).length
  List.replicate zeros ' ' ++ places.drop zeros ++ '.' :: digits.drop 7

/-- The six characters of a pointed text that show it with up to `decimals` places.  Fewer
places are shown where the places before the point need the room. -/
def fit (decimals : Nat) (text : List Char) : Option (List Char) :=
  let blanks := (((text.drop 2).take decimals).takeWhile (· == ' ')).length
  if blanks = 0 then
    if text.head? = some ' ' then some ((text.drop 1).take numberWidth) else none
  else some ((text.drop (2 + blanks)).take numberWidth)

/-- A value with three implied decimals, in six characters. -/
def number (value : UInt64) (decimals : UInt8) : Calculation String := do
  let decimals := min decimals maxDecimals
  match ← digits value decimals with
  | none => return overflowText
  | some digits =>
      return (fit decimals.toNat (pointed digits)).elim overflowText String.ofList

/-- Seconds as `hh:mm:ss`, up to a hundred hours. -/
def time (seconds : UInt64) : Calculation String := do
  let result ← runDetached .formatTime 0 seconds
  if result ≠ 0 then return overflowText
  let bytes ← leftBytes
  return ":".intercalate ((bytes.take 3).map fun byte => Text.Column.zeros 2 byte.toNat)

/-- An integer of up to ten digits, aligned to the right. -/
def count (value : UInt64) : Calculation String := do
  match ← digits value unroundedIndex with
  | none => return overflowText
  | some digits =>
      let zeros := ((digits.take 9).takeWhile (· == '0')).length
      return Text.Column.right countWidth (String.ofList (digits.drop zeros))

/-- A value with three implied decimals, all places shown. -/
def unrounded (value : UInt64) : Calculation String := do
  match ← digits value unroundedIndex with
  | none => return overflowText
  | some digits => return String.ofList (pointed digits)

/-- An evaluation, in the way its quantity is written. -/
def evaluation (evaluation : Evaluation) : Calculation String :=
  match evaluation.quantity.display with
  | .number => number evaluation.raw evaluation.quantity.decimals
  | .count => count evaluation.raw
  | .time => time evaluation.raw

end Display

end TripComputer
