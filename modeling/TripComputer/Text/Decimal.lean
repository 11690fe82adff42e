/-!
# Decimal text

Reading of numbers written in decimal digits: natural numbers within a bound, and numbers
with a point and an exponent, taken to the nearest double.
-/

namespace TripComputer.Text.Decimal

/-- An ASCII digit. -/
def isDigit (character : Char) : Bool :=
  '0' ≤ character && character ≤ '9'

/-- Value of a digit. -/
def digitValue (character : Char) : Nat :=
  character.toNat - 48

/-- The number that digits spell. -/
def ofDigits (digits : List Char) : Nat :=
  digits.foldl (fun number digit => 10 * number + digitValue digit) 0

/-- A non-empty run of digits, as a number. -/
def natural? (text : List Char) : Option Nat :=
  if !text.isEmpty && text.all isDigit then some (ofDigits text) else none

/-- A natural number below a bound, with an optional plus sign. -/
def bounded? (bound : Nat) (text : List Char) : Option Nat :=
  let digits := match text with
    | '+' :: rest => rest
    | _ => text
  (natural? digits).filter (· < bound)

/-- The largest whole exponent of two that is at most the logarithm of a positive fraction. -/
def binaryExponent (numerator denominator : Nat) : Int :=
  let estimate : Int := (Nat.log2 numerator : Int) - Nat.log2 denominator
  let atLeast :=
    if estimate < 0 then denominator ≤ numerator <<< estimate.natAbs
    else denominator <<< estimate.natAbs ≤ numerator
  if atLeast then estimate else estimate - 1

/-- Quotient rounded to the nearest number, a half to the even neighbour. -/
def divideToEven (numerator denominator : Nat) : Nat :=
  let quotient := numerator / denominator
  let doubled := 2 * (numerator % denominator)
  if denominator < doubled ∨ (doubled = denominator ∧ quotient % 2 = 1) then quotient + 1
  else quotient

/-- The double nearest to a fraction: 53 significant bits, fewer below the smallest normal
number. -/
def nearestDouble (numerator denominator : Nat) : Float :=
  if numerator = 0 then 0
  else
    let unit := max (binaryExponent numerator denominator - 52) (-1074)
    let mantissa :=
      if unit < 0 then divideToEven (numerator <<< unit.natAbs) denominator
      else divideToEven numerator (denominator <<< unit.natAbs)
    mantissa.toUInt64.toFloat.scaleB unit

/-- The double nearest to `digits * 10 ^ exponent`.  Magnitudes far outside the range of a
double need no arithmetic. -/
def scaled (digits : Nat) (exponent : Int) : Float :=
  let magnitude : Int := (Nat.log2 digits : Int) * 30103 / 100000 + exponent
  if digits = 0 ∨ magnitude < -400 then 0
  else if magnitude > 400 then 1.0 / 0.0
  else if exponent < 0 then nearestDouble digits (Nat.pow 10 exponent.natAbs)
  else nearestDouble (digits * Nat.pow 10 exponent.natAbs) 1

/-- An exponent mark with its number, or nothing. -/
def exponent? : List Char → Option Int
  | [] => some 0
  | mark :: rest =>
      if mark = 'e' ∨ mark = 'E' then
        match rest with
        | '-' :: digits => (natural? digits).map fun number => -(number : Int)
        | '+' :: digits => (natural? digits).map Int.ofNat
        | digits => (natural? digits).map Int.ofNat
      else none

/-- A number without a sign. -/
def unsignedFloat? (text : List Char) : Option Float :=
  let lower := text.map Char.toLower
  if lower = "inf".toList ∨ lower = "infinity".toList then some (1.0 / 0.0)
  else if lower = "nan".toList then some (0.0 / 0.0)
  else
    let whole := text.takeWhile isDigit
    let afterWhole := text.dropWhile isDigit
    let (decimals, rest) := match afterWhole with
      | '.' :: tail => (tail.takeWhile isDigit, tail.dropWhile isDigit)
      | _ => ([], afterWhole)
    if whole.isEmpty && decimals.isEmpty then none
    else (exponent? rest).map fun exponent =>
      scaled (ofDigits (whole ++ decimals)) (exponent - decimals.length)

/-- The double nearest to a number in decimal notation.  Infinities and what is not a number
are spelt out. -/
def float? : List Char → Option Float
  | '-' :: rest => (unsignedFloat? rest).map (-·)
  | '+' :: rest => unsignedFloat? rest
  | text => unsignedFloat? text

end TripComputer.Text.Decimal
