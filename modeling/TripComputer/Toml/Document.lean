import TripComputer.Toml.Date
import TripComputer.Toml.Scalar

/-!
# TOML documents

A document is a list of sections: assignments under the root, under a table header or under
the header of an array of tables.  `Document.read` reads the sections and builds the tree of
tables from them.

Arrays, inline tables and the names of a path nest up to a limit, so that every later walk over
the tree has a bounded depth.  The readers also count down a budget of rounds, for which the
length of the text is always enough.
-/

namespace TripComputer.Toml

/-- The number of arrays and inline tables that may enclose a value, and of names in a path. -/
def nestingLimit : Nat := 79

/-- A key or header name: a bare word or a quoted string on one line. -/
def readName : List Char → Except SyntaxError (Parsed String)
  | '\x22' :: rest => (quotedTail rest).map fun (name, rest) => (String.ofList name, rest)
  | '\x27' :: rest => (literalTail rest).map fun (name, rest) => (String.ofList name, rest)
  | text =>
      let isBare (character : Char) : Bool :=
        character.isAlphanum || character == '_' || character == '-'
      let name := text.takeWhile isBare
      if name.isEmpty then .error (.expected "a key")
      else .ok (String.ofList name, text.dropWhile isBare)

/-- Names with dots between them; blanks may stand around the dots. -/
def readNames : (budget : Nat) → List Char → Except SyntaxError (Parsed (List String))
  | 0, _ => .error (.expected "a key")
  | budget + 1, text => do
      let (name, rest) ← readName (skipBlanks text)
      match skipBlanks rest with
      | '.' :: rest => do
          let (names, rest) ← readNames budget rest
          return (name :: names, rest)
      | rest => return ([name], rest)

/-- A dotted path. -/
def readPath (text : List Char) : Except SyntaxError (Parsed (List String)) := do
  let (path, rest) ← readNames text.length text
  if path.length ≤ nestingLimit then return (path, rest) else .error .tooDeep

/-- Defines the last name of a path. -/
def definePath (entries : Entries) (path : List String) (node : Node) :
    Except SyntaxError Entries :=
  match path.getLast? with
  | none => .error (.expected "a key")
  | some key => entries.define key node path.dropLast

/-- The text after the blanks, comments and line breaks at its front. -/
def skipGap : (budget : Nat) → List Char → List Char
  | 0, text => text
  | budget + 1, text =>
      let rest := skipComment (skipBlanks text)
      match newline? rest with
      | some rest => skipGap budget rest
      | none => rest

/-- Characters of words without quotes. -/
def isWordCharacter (character : Char) : Bool :=
  character.isAlphanum || character == '_' || character == '-' || character == '+' ||
    character == '.'

mutual

/-- A value, with `room` for as many levels of nesting in it. -/
def readValue : (budget room : Nat) → List Char → Except SyntaxError (Parsed Node)
  | 0, _, _ => .error (.expected "a value")
  | budget + 1, room, text =>
      match text, room with
      | '[' :: _, 0 | '\x7b' :: _, 0 => .error .tooDeep
      | '[' :: rest, room + 1 =>
          (readItems budget room rest).map fun (items, rest) => (.array items, rest)
      | '\x7b' :: rest, room + 1 =>
          match skipBlanks rest with
          | '\x7d' :: rest => .ok (.table .inline [], rest)
          | rest =>
              (readInline budget room [] rest).map fun (entries, rest) =>
                (.table .inline entries, rest)
      | '\x22' :: _, _ | '\x27' :: _, _ =>
          (readString text).map fun (string, rest) => (.string string, rest)
      | text, _ =>
          match takeMoment? text with
          | some rest => .ok (.moment, rest)
          | none => do
              let node ← readWord (text.takeWhile isWordCharacter)
              return (node, text.dropWhile isWordCharacter)

/-- The items of an array, up to its closing bracket. -/
def readItems : (budget room : Nat) → List Char → Except SyntaxError (Parsed (List Node))
  | 0, _, _ => .error (.expected "a closing bracket")
  | budget + 1, room, text =>
      match skipGap text.length text with
      | ']' :: rest => .ok ([], rest)
      | text => do
          let (item, rest) ← readValue budget room text
          match skipGap rest.length rest with
          | ',' :: rest => do
              let (items, rest) ← readItems budget room rest
              return (item :: items, rest)
          | ']' :: rest => return ([item], rest)
          | _ => .error (.expected "a comma or a closing bracket")

/-- The entries of a table between braces, up to its closing brace. -/
def readInline :
    (budget room : Nat) → Entries → List Char → Except SyntaxError (Parsed Entries)
  | 0, _, _, _ => .error (.expected "a closing brace")
  | budget + 1, room, entries, text => do
      let (path, rest) ← readPath text
      let '=' :: rest := rest | .error (.expected "an equals sign")
      let (node, rest) ← readValue budget room (skipBlanks rest)
      let entries ← definePath entries path node
      match skipBlanks rest with
      | ',' :: rest => readInline budget room entries rest
      | '\x7d' :: rest => return (entries, rest)
      | _ => .error (.expected "a comma or a closing brace")

end

/-- What a section adds to. -/
inductive Header where
  | root
  | table (path : List String)
  | element (path : List String)
deriving DecidableEq, Repr

/-- A header with the assignments under it. -/
structure Section where
  header : Header
  assignments : List (List String × Node)

/-- The header at the front of a line that starts with a bracket. -/
def readHeader : List Char → Except SyntaxError (Parsed Header)
  | '[' :: '[' :: rest => do
      let (path, rest) ← readPath rest
      match rest with
      | ']' :: ']' :: rest => return (.element path, rest)
      | _ => .error (.expected "two closing brackets")
  | '[' :: rest => do
      let (path, rest) ← readPath rest
      match rest with
      | ']' :: rest => return (.table path, rest)
      | _ => .error (.expected "a closing bracket")
  | _ => .error (.expected "a header")

/-- The sections of a text, the first one under a given header.  Every round takes a line. -/
def readSections : (budget : Nat) → Header → List (List String × Node) → List Char →
    Except SyntaxError (List Section)
  | 0, _, _, _ => .error (.expected "the end of the text")
  | budget + 1, header, assignments, text =>
      match skipBlanks text with
      | [] => .ok [⟨header, assignments.reverse⟩]
      | '[' :: rest => do
          let (next, rest) ← readHeader ('[' :: rest)
          let rest ← endLine rest
          return ⟨header, assignments.reverse⟩ :: (← readSections budget next [] rest)
      | '#' :: _ | '\n' :: _ | '\r' :: _ => do
          readSections budget header assignments (← endLine text)
      | text => do
          let (path, rest) ← readPath text
          let '=' :: rest := rest | .error (.expected "an equals sign")
          let (node, rest) ← readValue rest.length nestingLimit (skipBlanks rest)
          readSections budget header ((path, node) :: assignments) (← endLine rest)

/-- Entries with assignments added. -/
def assign (entries : Entries) (assignments : List (List String × Node)) :
    Except SyntaxError Entries :=
  assignments.foldlM (fun entries (path, node) => definePath entries path node) entries

/-- Adds a section to the tree.  A table may be opened by a header only once, and only if so
far it was at most implied by longer headers; it then comes last among its neighbours. -/
def addSection (root : Entries) (part : Section) : Except SyntaxError Entries :=
  match part.header with
  | .root => assign root part.assignments
  | .table path =>
      let key := path.getLast?.getD ""
      root.within (fun parent =>
        match parent.nodeAt? key with
        | none => do
            return parent ++ [(key, .table .headed (← assign [] part.assignments))]
        | some (.table .implied entries) => do
            return parent.remove key ++ [(key, .table .headed (← assign entries part.assignments))]
        | some _ => .error (.duplicateKey key))
        path.dropLast
  | .element path =>
      let key := path.getLast?.getD ""
      root.within (fun parent =>
        match parent.nodeAt? key with
        | none => do
            return parent ++ [(key, .tables [← assign [] part.assignments])]
        | some (.tables elements) => do
            return parent.replace key (.tables (elements ++ [← assign [] part.assignments]))
        | some _ => .error (.duplicateKey key))
        path.dropLast

/-- The text without a byte order mark at its front. -/
def skipByteOrderMark : List Char → List Char
  | '\uFEFF' :: rest => rest
  | text => text

namespace Document

/-- The root table of a document. -/
def read (text : String) : Except SyntaxError Entries := do
  let characters := skipByteOrderMark text.toList
  let sections ← readSections (characters.length + 1) .root [] characters
  sections.foldlM addSection []

end Document

end TripComputer.Toml
