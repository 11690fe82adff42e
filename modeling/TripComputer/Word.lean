/-!
# 64-bit words

Register values are unsigned 64-bit words with three implied decimals.  They are never
negative: a subtraction below zero wraps, and callers compare first.  The operations here
are what the instructions of the register machine do to words; every one is total, and a
division by zero answers the largest word.
-/

namespace TripComputer

/-- How the multiply and divide subroutines of the program catalog are carried out. -/
inductive Arithmetic where
  /-- One full-width multiply or divide instruction. -/
  | native
  /-- Shift-and-add multiplication and restoring long division. -/
  | primitive
deriving DecidableEq, Repr

namespace Arithmetic

def all : List Arithmetic := [native, primitive]

/-- The name under which a configuration selects the arithmetic. -/
def name : Arithmetic → String
  | .native => "native"
  | .primitive => "primitive"

/-- The arithmetic called `text`, if there is one. -/
def ofName? (text : String) : Option Arithmetic :=
  all.find? (·.name == text)

/-- What is reported for a name that selects no arithmetic. -/
def unknownMessage (text : String) : String :=
  s!"unknown arithmetic backend '{text}'"

end Arithmetic

namespace Word

/-- Sum of two words and a carry, with the carry out of the top bit. -/
def addCarry (x y : UInt64) (carry : Bool) : UInt64 × Bool :=
  let partialSum := x + y
  let sum := partialSum + carry.toUInt64
  (sum, partialSum < x || sum < partialSum)

/-- Sum modulo 2^64. -/
def add (x y : UInt64) : UInt64 :=
  (addCarry x y false).1

/-- Difference modulo 2^64, as the sum with the ones' complement and a carry. -/
def subtract (x y : UInt64) : UInt64 :=
  (addCarry x (~~~y) true).1

/-- The eight bytes of a word, least significant first. -/
def bytes (x : UInt64) : List UInt8 :=
  (List.range 8).map fun position => (x >>> (8 * position.toUInt64)).toUInt8

/-- Byte `position` of a word, counted from the least significant. -/
def byte? (x : UInt64) (position : UInt8) : Option UInt8 :=
  (bytes x)[position.toNat]?

/-- The word whose bytes, least significant first, are the given ones. -/
def ofBytes : List UInt8 → UInt64
  | [] => 0
  | low :: rest => low.toUInt64 ||| (ofBytes rest <<< 8)

/-- The word with one byte replaced, if it has a byte at that position. -/
def setByte? (x : UInt64) (position value : UInt8) : Option UInt64 :=
  if position.toNat < 8 then some (ofBytes ((bytes x).set position.toNat value)) else none

/-- Order of two byte strings of one length, most significant byte first. -/
def atMostBytes : List UInt8 → List UInt8 → Bool
  | left :: lefts, right :: rights =>
      if left = right then atMostBytes lefts rights else left < right
  | _, _ => true

/-- Whether `x ≤ y`, decided from the most significant byte down. -/
def atMost (x y : UInt64) : Bool :=
  atMostBytes (bytes x).reverse (bytes y).reverse

/-- Whether the word is zero. -/
def isZero (x : UInt64) : Bool :=
  x == 0

/-- Whether the lowest bit is set. -/
def isOdd (x : UInt64) : Bool :=
  x &&& 1 != 0

/-- Whether the highest bit is set. -/
def hasTopBit (x : UInt64) : Bool :=
  x >>> 63 != 0

/-- One place to the left; the top bit is lost. -/
def shiftLeft (x : UInt64) : UInt64 :=
  x <<< 1

/-- One place to the right; the low bit is lost. -/
def shiftRight (x : UInt64) : UInt64 :=
  x >>> 1

/-- Product modulo 2^64. -/
def multiply (x y : UInt64) : UInt64 :=
  x * y

/-- Quotient and remainder.  Nothing divided by anything is `(0, 0)`; anything else
divided by zero is the largest word, with the dividend as remainder. -/
def divide (x y : UInt64) : UInt64 × UInt64 :=
  if x = 0 then (0, 0) else if y = 0 then (0xFFFFFFFFFFFFFFFF, x) else (x / y, x % y)

/-- Digit by digit in base two: the largest root of `value` that extends `root` by
`places` more binary places. -/
def extendRoot (value : Nat) : (places root : Nat) → Nat
  | 0, root => root
  | places + 1, root =>
      let candidate := root + 1 <<< places
      extendRoot value places (if candidate * candidate ≤ value then candidate else root)

/-- Largest natural number whose square is at most `value`. -/
def floorRoot (value : Nat) : Nat :=
  extendRoot value (value.log2 / 2 + 1) 0

/-- Square root of a value with twelve binary places, rounded down.  Values wider than 32
bits count as the widest 32-bit one. -/
def rootQ12 (x : UInt64) : UInt64 :=
  (floorRoot (min x.toNat 0xFFFFFFFF * 4096)).toUInt64

/-- The nearest 32-bit value. -/
def saturate32 (x : UInt64) : UInt32 :=
  if x ≤ 0xFFFFFFFF then x.toUInt32 else 0xFFFFFFFF

end Word

end TripComputer
