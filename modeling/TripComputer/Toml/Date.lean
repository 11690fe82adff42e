import TripComputer.Text.Decimal

/-!
# Dates and times of TOML

The readers take a date, a time of day, or both from the front of a text and answer with the
rest of the text.  No setting is a date, so only the rest is kept.
-/

namespace TripComputer.Toml

/-- A number of exactly two digits, within bounds. -/
def takeTwo? (least most : Nat) : List Char → Option (Nat × List Char)
  | tens :: units :: rest => do
      let number ← Text.Decimal.natural? [tens, units]
      guard (least ≤ number ∧ number ≤ most)
      return (number, rest)
  | _ => none

/-- The text after a character at its front. -/
def take? (character : Char) : List Char → Option (List Char)
  | first :: rest => if first = character then some rest else none
  | [] => none

def isLeapYear (year : Nat) : Bool :=
  year % 4 == 0 && (year % 100 != 0 || year % 400 == 0)

/-- Number of days of a month. -/
def daysInMonth (year month : Nat) : Nat :=
  if month = 2 then (if isLeapYear year then 29 else 28)
  else if [4, 6, 9, 11].contains month then 30
  else 31

/-- The text after a year, a month and a day with hyphens between them. -/
def takeDate? : List Char → Option (List Char)
  | a :: b :: c :: d :: rest => do
      let year ← Text.Decimal.natural? [a, b, c, d]
      let (month, rest) ← takeTwo? 1 12 (← take? '-' rest)
      let (_, rest) ← takeTwo? 1 (daysInMonth year month) (← take? '-' rest)
      return rest
  | _ => none

/-- The text after the hours, the minutes and the seconds of a time of day, with colons between
them and perhaps parts of a second.  A minute may have a leap second. -/
def takeTime? (text : List Char) : Option (List Char) := do
  let (_, rest) ← takeTwo? 0 23 text
  let (_, rest) ← takeTwo? 0 59 (← take? ':' rest)
  let (_, rest) ← takeTwo? 0 60 (← take? ':' rest)
  match rest with
  | '.' :: digit :: rest =>
      if Text.Decimal.isDigit digit then return rest.dropWhile Text.Decimal.isDigit
      else return '.' :: digit :: rest
  | rest => return rest

/-- The text after a distance from universal time: the letter for none, or a sign with hours and
minutes. -/
def takeOffset? : List Char → Option (List Char)
  | 'Z' :: rest | 'z' :: rest => some rest
  | '+' :: rest | '-' :: rest => do
      let (_, rest) ← takeTwo? 0 23 rest
      let (_, rest) ← takeTwo? 0 59 (← take? ':' rest)
      return rest
  | _ => none

/-- The text after a time of day behind a date, with the distance from universal time where there
is one. -/
def takeTimeOfDate? : List Char → Option (List Char)
  | mark :: rest => do
      guard (['T', 't', ' '].contains mark)
      let rest ← takeTime? rest
      return (takeOffset? rest).getD rest
  | [] => none

/-- The text after a date, a date with a time of day, or a time of day. -/
def takeMoment? (text : List Char) : Option (List Char) :=
  match takeDate? text with
  | some rest => some ((takeTimeOfDate? rest).getD rest)
  | none => takeTime? text

end TripComputer.Toml
