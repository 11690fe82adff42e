import TripComputer.Text.Blank

/-!
# Modes of patterns

How the characters of a pattern are taken, and what is known of a pattern that has been read.

A pattern works on the bytes of a text and has no tables of characters at hand.  So a part that
would need one is refused, and so is a part that could match in the middle of a character.
-/

namespace TripComputer.CommandLine.Pattern

/-- Why a text is no pattern to search with. -/
inductive PatternError where
  | malformed
  /-- It asks for the bounds of words in any script. -/
  | wordBoundary
deriving DecidableEq, Repr

namespace PatternError

def message : PatternError → String
  | malformed => "error building NFA"
  | wordBoundary =>
      "unsupported regex feature for DFAs: cannot build DFAs for regexes with Unicode word " ++
        "boundaries; switch to ASCII word boundaries, or heuristically enable Unicode word " ++
        "boundaries or use a different regex engine"

end PatternError

/-- The modes that decide which patterns are accepted. -/
structure Modes where
  /-- Letters stand for both of their cases. -/
  caseless : Bool
  /-- Characters are those of every script, and not single bytes. -/
  unicode : Bool
  /-- Blanks and remarks in the pattern do not count. -/
  spaced : Bool
deriving DecidableEq, Repr

namespace Modes

/-- The modes that a pattern starts in. -/
def initial : Modes :=
  ⟨false, true, false⟩

/-- The letters that switch modes.  Those that `switch` passes over change what a pattern finds,
not whether it is one. -/
def letters : List Char :=
  ['i', 'm', 's', 'U', 'u', 'R', 'x']

/-- The modes after a letter has switched one on or off. -/
def switch (modes : Modes) (letter : Char) (on : Bool) : Modes :=
  match letter with
  | 'i' => { modes with caseless := on }
  | 'u' => { modes with unicode := on }
  | 'x' => { modes with spaced := on }
  | _ => modes

/-- The text after the blanks and remarks at its front.  A remark goes from a number sign to the
end of its line. -/
def skipRemarks : (inRemark : Bool) → List Char → List Char
  | _, [] => []
  | true, character :: rest => skipRemarks (character != '\n') rest
  | false, character :: rest =>
      if character == '#' then skipRemarks true rest
      else if Text.Blank.isBlank character then skipRemarks false rest
      else character :: rest

/-- The text after what does not count at its front. -/
def skip (modes : Modes) (text : List Char) : List Char :=
  if modes.spaced then skipRemarks false text else text

/-- Whether a character may stand for itself.  Without case it would need a table of cases, and
a byte written by its number may be part of a character only below 0x80. -/
def allowsCharacter (modes : Modes) (character : Char) (asByte : Bool) : Bool :=
  if modes.unicode then !modes.caseless else !asByte || character.toNat < 0x80

/-- Whether a character may be a member of a set.  Sets of bytes hold characters below 0x80. -/
def allowsMember (modes : Modes) (character : Char) : Bool :=
  modes.unicode || character.toNat < 0x80

/-- Whether the set of digits, of blanks or of word characters, or the rest of one, may stand.
In every script they would need a table, and the rest of a set of bytes splits characters. -/
def allowsNamedSet (modes : Modes) (negated : Bool) : Bool :=
  !modes.unicode && !negated

/-- Whether a set named in brackets may stand as a member of a set. -/
def allowsBracketedName (modes : Modes) (negated : Bool) : Bool :=
  if modes.unicode then !modes.caseless else !negated

end Modes

/-- What is known of a part of a pattern. -/
structure Shape where
  /-- Levels of nesting. -/
  depth : Nat
  /-- Whether it asks for the bounds of words in any script. -/
  hasWordBoundary : Bool
deriving DecidableEq, Repr

namespace Shape

/-- A part without parts. -/
def leaf : Shape :=
  ⟨0, false⟩

/-- A part with one part in it. -/
def nested (shape : Shape) : Shape :=
  { shape with depth := shape.depth + 1 }

/-- Parts side by side.  A single part is not nested in anything. -/
def gather : List Shape → Shape
  | [] => leaf
  | [shape] => shape
  | shapes =>
      ⟨shapes.foldl (fun depth shape => max depth shape.depth) 0 + 1,
        shapes.any (·.hasWordBoundary)⟩

end Shape

/-- What a reader took from the front of a text, with the rest of the text. -/
abbrev Taken (α : Type) := α × List Char

end TripComputer.CommandLine.Pattern
