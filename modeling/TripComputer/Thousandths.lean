import TripComputer.Text.Blank
import TripComputer.Text.Column
import TripComputer.Text.Decimal

/-!
# Decimals with three places

A non-negative decimal held as its number of thousandths.  A written decimal has digits
before the point, up to three digits behind it, or both.
-/

namespace TripComputer

/-- A non-negative decimal with three places. -/
structure Thousandths where
  count : UInt64
deriving DecidableEq, Repr

namespace Thousandths

/-- A whole number, if its thousandths fit. -/
def ofUnits? (units : Nat) : Option Thousandths :=
  if units * 1000 < UInt64.size then some ⟨(units * 1000).toUInt64⟩ else none

/-- The largest value that a setting of the given width can hold. -/
def maxForBits (bits : Nat) : Thousandths :=
  ⟨(1 <<< bits - 1).toUInt64⟩

/-- The decimal with all its places. -/
def text (value : Thousandths) : String :=
  s!"{value.count.toNat / 1000}.{Text.Column.zeros 3 (value.count.toNat % 1000)}"

/-- The parts of a text before and behind its first point. -/
def splitPoint (text : List Char) : List Char × List Char :=
  (text.takeWhile (· != '.'), (text.dropWhile (· != '.')).drop 1)

/-- The product, if it fits a double word. -/
def times? (first second : UInt64) : Option UInt64 :=
  if first.toNat * second.toNat < UInt64.size then some (first * second) else none

/-- The sum, if it fits a double word. -/
def plus? (first second : UInt64) : Option UInt64 :=
  if first.toNat + second.toNat < UInt64.size then some (first + second) else none

/-- The value of a digit as a double word. -/
def digit (character : Char) : UInt64 :=
  (Text.Decimal.digitValue character).toUInt64

/-- A number with one more digit behind it, if it still fits. -/
def appendDigit? (number : UInt64) (character : Char) : Option UInt64 := do
  plus? (← times? number 10) (digit character)

/-- The thousandths that up to three places spell; those that are missing are zero. -/
def ofPlaces (places : List Char) : UInt64 :=
  ((places ++ List.replicate 3 '0').take 3).foldl
    (fun number character => number * 10 + digit character) 0

/-- The decimal written by a text without blanks around it. -/
def ofTrimmed? (text : List Char) : Option Thousandths :=
  let (whole, places) := splitPoint text
  if (whole.isEmpty && places.isEmpty) || places.length > 3 then none
  else if !(whole ++ places).all Text.Decimal.isDigit then none
  else do
    let units ← whole.foldlM appendDigit? 0
    let thousandths ← times? units 1000
    return ⟨← plus? thousandths (ofPlaces places)⟩

/-- The decimal written by a text; blanks around it do not count. -/
def ofText? (text : String) : Option Thousandths :=
  ofTrimmed? (Text.Blank.trim text.toList)

/-- What is reported for a text that is no decimal. -/
def refusal (text : String) : String :=
  s!"'{text}' is not a decimal with at most three places"

end Thousandths

end TripComputer
