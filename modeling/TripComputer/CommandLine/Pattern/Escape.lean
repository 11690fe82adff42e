import TripComputer.CommandLine.Pattern.Modes
import TripComputer.Text.Hex

/-!
# Escapes in patterns

What a backslash and the characters behind it stand for.
-/

namespace TripComputer.CommandLine.Pattern

/-- A part of a pattern that is written as one character or as an escape. -/
inductive Atom where
  /-- A character, which may have been written as the number of a byte. -/
  | character (value : Char) (asByte : Bool)
  /-- Digits, blanks or word characters, or the rest of one of them. -/
  | namedSet (negated : Bool)
  /-- The start or the end of the text. -/
  | edge
  | wordBoundary
deriving DecidableEq, Repr

/-- Takes hexadecimal digits. -/
def takeDigits (modes : Modes) :
    (count : Nat) → List Char → Except PatternError (Taken (List Char))
  | 0, text => .ok ([], text)
  | count + 1, text =>
      match modes.skip text with
      | digit :: rest =>
          if (Text.Hex.digit? digit).isSome then do
            let (digits, rest) ← takeDigits modes count rest
            return (digit :: digits, rest)
          else .error .malformed
      | [] => .error .malformed

/-- A character written by its number.  Numbers between braces do not occur: a closing brace
ends the text that a pattern stands in. -/
def readNumbered (modes : Modes) (count : Nat) (text : List Char) :
    Except PatternError (Taken Atom) := do
  let (digits, rest) ← takeDigits modes count text
  match Text.Hex.codePoint? digits with
  | some character => return (.character character (count == 2), rest)
  | none => .error .malformed

/-- What a letter behind a backslash stands for. -/
def letterAtom? : Char → Option Atom
  | 'a' => some (.character '\x07' false)
  | 'f' => some (.character '\x0c' false)
  | 'n' => some (.character '\n' false)
  | 'r' => some (.character '\r' false)
  | 't' => some (.character '\t' false)
  | 'v' => some (.character '\x0b' false)
  | 'd' | 's' | 'w' => some (.namedSet false)
  | 'D' | 'S' | 'W' => some (.namedSet true)
  | 'A' | 'z' => some .edge
  | 'b' | 'B' | '<' | '>' => some .wordBoundary
  | _ => none

/-- Reads an escape behind its backslash.  Other letters and digits mean nothing, or a property
that would need a table; any other ASCII character stands for itself. -/
def readEscape (modes : Modes) : List Char → Except PatternError (Taken Atom)
  | [] => .error .malformed
  | 'x' :: rest => readNumbered modes 2 rest
  | 'u' :: rest => readNumbered modes 4 rest
  | 'U' :: rest => readNumbered modes 8 rest
  | letter :: rest =>
      match letterAtom? letter with
      | some atom => .ok (atom, rest)
      | none =>
          if letter.toNat < 0x80 && !letter.isAlphanum then .ok (.character letter false, rest)
          else .error .malformed

end TripComputer.CommandLine.Pattern
