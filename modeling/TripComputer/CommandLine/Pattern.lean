import TripComputer.CommandLine.Pattern.CharacterSet
import TripComputer.Text.Alphanumeric

/-!
# Patterns

Patterns that the values of fields are searched with: characters, sets, groups, repetitions and
alternatives.  A pattern is checked as it is read; the modes that hold at a place are known when
the place is reached, because a switch of modes holds up to the end of its group.

Patterns come out of log filters, where a closing brace ends the field.  So a repetition with a
count between braces is never complete, and an opening brace is refused.
-/

namespace TripComputer.CommandLine.Pattern

/-- What an opening parenthesis starts. -/
inductive Opening where
  /-- A switch of modes for the rest of the group. -/
  | modes (modes : Modes)
  /-- A group, with the modes in it. -/
  | group (modes : Modes) (name : Option String)

/-- Whether a character may stand in the name of a group. -/
def isNameCharacter (isFirst : Bool) (character : Char) : Bool :=
  character == '_' ||
    if isFirst then Text.Alphabetic.isAlphabetic character
    else Text.isAlphanumeric character || ['.', '[', ']'].contains character

/-- Reads the name of a group and the angle bracket behind it. -/
def readName (text : List Char) : Except PatternError (Taken String) :=
  let name := text.takeWhile (· != '>')
  match name, text.dropWhile (· != '>') with
  | first :: others, '>' :: rest =>
      if isNameCharacter true first && others.all (isNameCharacter false) then
        .ok (String.ofList name, rest)
      else .error .malformed
  | _, _ => .error .malformed

/-- Reads switches of modes, with the switches so far, the latest first.  Each may occur once;
those behind the hyphen switch off, and there has to be one. -/
def readSwitches (modes : Modes) (switches : List Char) :
    List Char → Except PatternError (Taken Opening)
  | [] => .error .malformed
  | ':' :: rest =>
      if switches.head? = some '-' then .error .malformed
      else .ok (.group modes none, rest)
  | ')' :: rest =>
      if switches.isEmpty || switches.head? = some '-' then .error .malformed
      else .ok (.modes modes, rest)
  | letter :: rest =>
      if switches.contains letter || !(letter == '-' || Modes.letters.contains letter) then
        .error .malformed
      else
        readSwitches (modes.switch letter (!switches.contains '-')) (letter :: switches) rest

/-- Reads what is behind an opening parenthesis, up to the contents of a group. -/
def readOpening (modes : Modes) (text : List Char) : Except PatternError (Taken Opening) :=
  match modes.skip text with
  | '?' :: 'P' :: '<' :: rest | '?' :: '<' :: rest =>
      (readName rest).map fun (name, rest) => (.group modes (some name), rest)
  | '?' :: rest => readSwitches modes [] rest
  | rest => .ok (.group modes none, rest)

/-- A part of a row, and whether it can be repeated. -/
structure Item where
  shape : Shape
  isRepeatable : Bool

/-- The shape of a part that stands on its own. -/
def Atom.shape (modes : Modes) : Atom → Except PatternError Shape
  | .character value asByte =>
      if modes.allowsCharacter value asByte then .ok .leaf else .error .malformed
  | .namedSet negated => if modes.allowsNamedSet negated then .ok .leaf else .error .malformed
  | .edge => .ok .leaf
  | .wordBoundary => .ok ⟨0, modes.unicode⟩

/-- The row that has been read, latest item first, as one shape. -/
def rowShape (row : List Item) : Shape :=
  Shape.gather (row.map (·.shape))

/-- The alternatives up to a closing parenthesis or the end. -/
structure Alternatives where
  shape : Shape
  /-- Names of all groups so far. -/
  names : List String

/-- Reads alternatives, with the names of groups so far, the alternatives before the one under
work, and its row so far. -/
def readAlternatives : (budget : Nat) → Modes → (names : List String) →
    (alternatives : List Shape) → (row : List Item) → List Char →
    Except PatternError (Taken Alternatives)
  | 0, _, _, _, _, _ => .error .malformed
  | budget + 1, modes, names, alternatives, row, text =>
      let next (item : Item) := readAlternatives budget modes names alternatives (item :: row)
      match modes.skip text with
      | [] => .ok (⟨Shape.gather (rowShape row :: alternatives), names⟩, [])
      | ')' :: rest => .ok (⟨Shape.gather (rowShape row :: alternatives), names⟩, ')' :: rest)
      | '|' :: rest => readAlternatives budget modes names (rowShape row :: alternatives) [] rest
      | '(' :: rest => do
          match ← readOpening modes rest with
          | (.modes modes, rest) =>
              readAlternatives budget modes names alternatives (⟨.leaf, false⟩ :: row) rest
          | (.group inner name, rest) => do
              if name.any names.contains then .error .malformed
              let (group, rest) ←
                readAlternatives budget inner (name.toList ++ names) [] [] rest
              let ')' :: rest := rest | .error .malformed
              readAlternatives budget modes group.names alternatives
                (⟨group.shape.nested, true⟩ :: row) rest
      | '[' :: rest => do
          let (set, rest) ← readSet (2 * text.length) modes rest
          next ⟨⟨set.depth, false⟩, true⟩ rest
      | '?' :: rest | '*' :: rest | '+' :: rest =>
          match row with
          | ⟨shape, true⟩ :: row =>
              let rest := match rest with
                | '?' :: rest => rest
                | rest => rest
              readAlternatives budget modes names alternatives (⟨shape.nested, true⟩ :: row) rest
          | _ => .error .malformed
      | '\x7b' :: _ => .error .malformed
      | '\x5c' :: rest => do
          let (atom, rest) ← readEscape modes rest
          next ⟨← atom.shape modes, true⟩ rest
      | '.' :: rest => if modes.unicode then next ⟨.leaf, true⟩ rest else .error .malformed
      | '^' :: rest | '$' :: rest => next ⟨.leaf, true⟩ rest
      | character :: rest => do
          next ⟨← (Atom.character character false).shape modes, true⟩ rest

/-- The deepest nesting of a pattern. -/
def nestingLimit : Nat := 250

/-- Checks that a text is a pattern to search with. -/
def check (text : List Char) : Except PatternError Unit := do
  let (found, rest) ← readAlternatives (text.length + 1) .initial [] [] [] text
  if !rest.isEmpty || nestingLimit < found.shape.depth then .error .malformed
  if found.shape.hasWordBoundary then .error .wordBoundary

end TripComputer.CommandLine.Pattern
