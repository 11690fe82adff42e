import TripComputer.CommandLine.Pattern.Escape

/-!
# Sets in patterns

Sets of characters between brackets: members, ranges, named sets and sets in brackets side by
side, with operators between such rows.
-/

namespace TripComputer.CommandLine.Pattern

/-- What is known of a set. -/
structure SetShape where
  /-- Levels of nesting. -/
  depth : Nat
  /-- Whether nothing is in it, not even in the sets that it is made from. -/
  isBlank : Bool
deriving DecidableEq, Repr

namespace SetShape

/-- One member, a range or a named set. -/
def member : SetShape :=
  ⟨0, false⟩

/-- Sets side by side.  A single one is not nested in anything. -/
def gather : List SetShape → SetShape
  | [] => ⟨0, true⟩
  | [shape] => shape
  | shapes =>
      ⟨shapes.foldl (fun depth shape => max depth shape.depth) 0 + 1, shapes.all (·.isBlank)⟩

/-- Two sets with an operator between them.  Without case, both are closed under cases, for
which only a blank set needs no table. -/
def operate (modes : Modes) (left right : SetShape) : Except PatternError SetShape :=
  let isBlank := left.isBlank && right.isBlank
  if modes.unicode && modes.caseless && !isBlank then .error .malformed
  else .ok ⟨max left.depth right.depth + 1, isBlank⟩

/-- The right side of an operator, or a set without operators. -/
def join (modes : Modes) (left : Option SetShape) (items : List SetShape) :
    Except PatternError SetShape :=
  match left with
  | some left => operate modes left (gather items)
  | none => .ok (gather items)

/-- A set with brackets around it.  The rest of a set of bytes always splits characters. -/
def bracketed (modes : Modes) (negated : Bool) (content : SetShape) :
    Except PatternError SetShape :=
  let allowed := if modes.unicode then !modes.caseless || content.isBlank else !negated
  if allowed then .ok ⟨content.depth + 1, content.isBlank && !negated⟩ else .error .malformed

end SetShape

/-- The sets that have names in brackets. -/
def bracketedNames : List String :=
  ["alnum", "alpha", "ascii", "blank", "cntrl", "digit", "graph", "lower", "print", "punct",
    "space", "upper", "word", "xdigit"]

/-- Whether a set is negated that is named at the front of a text, behind the bracket that opens
it, and the text after its closing bracket. -/
def bracketedName? (text : List Char) : Option (Bool × List Char) := do
  let ':' :: text := text | none
  let (negated, text) := match text with
    | '^' :: rest => (true, rest)
    | text => (false, text)
  let ':' :: ']' :: rest := text.dropWhile (· != ':') | none
  guard (bracketedNames.contains (String.ofList (text.takeWhile (· != ':'))))
  return (negated, rest)

/-- One side of a range, or a member. -/
def readMember (modes : Modes) : List Char → Except PatternError (Taken Atom)
  | '\x5c' :: rest => readEscape modes rest
  | character :: rest => .ok (.character character false, rest)
  | [] => .error .malformed

/-- Whether a member may stand in a set. -/
def allowsAtom (modes : Modes) : Atom → Bool
  | .character value _ => modes.allowsMember value
  | .namedSet negated => modes.allowsNamedSet negated
  | .edge | .wordBoundary => false

/-- Whether two members may be the sides of a range. -/
def allowsRange (modes : Modes) : Atom → Atom → Bool
  | .character first _, .character last _ =>
      modes.allowsMember first && modes.allowsMember last && first ≤ last
  | _, _ => false

/-- Reads a member or a range.  A hyphen in front of another one, or of the closing bracket, makes
no range. -/
def readRange (modes : Modes) (text : List Char) : Except PatternError (Taken SetShape) := do
  let (first, rest) ← readMember modes text
  let single : Except PatternError (Taken SetShape) :=
    if allowsAtom modes first then .ok (.member, rest) else .error .malformed
  let '-' :: behind := modes.skip rest | single
  match modes.skip behind with
  | ']' :: _ | '-' :: _ => single
  | behind => do
      let (last, rest) ← readMember modes behind
      if allowsRange modes first last then return (.member, rest) else .error .malformed

/-- Hyphens at the front of a set, which are members. -/
def readHyphens (modes : Modes) : (budget : Nat) → List Char → List SetShape × List Char
  | budget + 1, '-' :: rest =>
      let (items, rest) := readHyphens modes budget (modes.skip rest)
      (.member :: items, rest)
  | _, text => ([], text)

/-- Reads the front of a set: whether it is negated, and the hyphens or the closing bracket that
are members only there. -/
def readFront (modes : Modes) (text : List Char) : Bool × List SetShape × List Char :=
  let (negated, text) := match modes.skip text with
    | '^' :: rest => (true, modes.skip rest)
    | text => (false, text)
  match text with
  | ']' :: rest => (negated, [.member], rest)
  | text => (negated, readHyphens modes text.length text)

mutual

/-- Reads a set behind the bracket that opens it. -/
def readSet : (budget : Nat) → Modes → List Char → Except PatternError (Taken SetShape)
  | 0, _, _ => .error .malformed
  | budget + 1, modes, text => do
      let (negated, items, rest) := readFront modes text
      let (content, rest) ← readContent budget modes none items rest
      return (← SetShape.bracketed modes negated content, rest)

/-- Reads on in a set up to its closing bracket, with what stands to the left of an operator and
the items since then. -/
def readContent : (budget : Nat) → Modes → (left : Option SetShape) → (items : List SetShape) →
    List Char → Except PatternError (Taken SetShape)
  | 0, _, _, _, _ => .error .malformed
  | budget + 1, modes, left, items, text =>
      match modes.skip text with
      | [] => .error .malformed
      | ']' :: rest => return (← SetShape.join modes left items, rest)
      | '&' :: '&' :: rest | '-' :: '-' :: rest | '~' :: '~' :: rest => do
          readContent budget modes (some (← SetShape.join modes left items)) [] rest
      | '[' :: rest =>
          match bracketedName? rest with
          | some (negated, rest) =>
              if modes.allowsBracketedName negated then
                readContent budget modes left (.member :: items) rest
              else .error .malformed
          | none => do
              let (shape, rest) ← readSet budget modes rest
              readContent budget modes left (shape :: items) rest
      | text => do
          let (shape, rest) ← readRange modes text
          readContent budget modes left (shape :: items) rest

end

end TripComputer.CommandLine.Pattern
