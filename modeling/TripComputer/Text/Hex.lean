/-!
# Hexadecimal text

Hexadecimal digits of numbers, byte strings and code points; written in lower case.
-/

namespace TripComputer.Text.Hex

/-- The shortest digits of a number, preceded by zeros up to a width. -/
def padded (width number : Nat) : String :=
  let digits := Nat.toDigits 16 number
  String.ofList (List.replicate (width - digits.length) '0' ++ digits)

/-- A number with the mark of its base. -/
def number (value : Nat) : String :=
  "0x" ++ padded 1 value

/-- Two digits. -/
def byte (value : UInt8) : String :=
  padded 2 value.toNat

/-- A byte with the mark of its base. -/
def markedByte (value : UInt8) : String :=
  "0x" ++ byte value

/-- Two digits for each byte, without separators. -/
def bytes (values : List UInt8) : String :=
  String.join (values.map byte)

/-- Value of one digit, in either case. -/
def digit? (character : Char) : Option Nat :=
  if '0' ≤ character ∧ character ≤ '9' then some (character.toNat - 48)
  else if 'a' ≤ character ∧ character ≤ 'f' then some (character.toNat - 87)
  else if 'A' ≤ character ∧ character ≤ 'F' then some (character.toNat - 55)
  else none

/-- The character with a code point written in hexadecimal digits. -/
def codePoint? (digits : List Char) : Option Char := do
  let values ← digits.mapM digit?
  let number := values.foldl (fun number digit => 16 * number + digit) 0
  if number < 0xD800 ∨ (0xDFFF < number ∧ number < 0x110000) then some (Char.ofNat number)
  else none

/-- The bytes that pairs of digits stand for. -/
def readBytes? : List Char → Option (List UInt8)
  | [] => some []
  | high :: low :: rest => do
      let high ← digit? high
      let low ← digit? low
      let following ← readBytes? rest
      return (16 * high + low).toUInt8 :: following
  | [_] => none

end TripComputer.Text.Hex
