import TripComputer.Text.Hex

/-!
# JSON documents

Documents on one line, without blanks.  The keys of an object are in alphabetical order, and
of two entries with one key the later one counts.
-/

namespace TripComputer

/-- A document; numbers are natural. -/
inductive Json where
  | null
  | boolean (value : Bool)
  | number (value : Nat)
  | string (text : String)
  | array (items : List Json)
  | object (entries : List (String × Json))

namespace Json

instance : Inhabited Json := ⟨null⟩

/-- Puts an entry into sorted entries, instead of the one with its key. -/
def insert (key : String) (value : Json) : List (String × Json) → List (String × Json)
  | [] => [(key, value)]
  | (other, held) :: rest =>
      if key < other then (key, value) :: (other, held) :: rest
      else if key = other then (key, value) :: rest
      else (other, held) :: insert key value rest

/-- The object with the given entries. -/
def record (entries : List (String × Json)) : Json :=
  object (entries.foldl (fun sorted (key, value) => insert key value sorted) [])

/-- A value, or null. -/
def optional {α : Type} (write : α → Json) (value? : Option α) : Json :=
  value?.elim null write

/-- A character within quotes. -/
def escape (character : Char) : String :=
  match character with
  | '\x22' => "\\\""
  | '\x5c' => "\\\\"
  | '\n' => "\\n"
  | '\r' => "\\r"
  | '\t' => "\\t"
  | '\x08' => "\\b"
  | '\x0c' => "\\f"
  | character =>
      if character.toNat < 0x20 then "\\u" ++ Text.Hex.padded 4 character.toNat
      else character.toString

/-- A text within quotes. -/
def quoted (text : String) : String :=
  "\"" ++ String.join (text.toList.map escape) ++ "\""

mutual

/-- The document as text. -/
def render : Json → String
  | null => "null"
  | boolean value => if value then "true" else "false"
  | number value => toString value
  | string text => quoted text
  | array items => "[" ++ ",".intercalate (renderItems items) ++ "]"
  | object entries => "\x7b" ++ ",".intercalate (renderEntries entries) ++ "\x7d"

def renderItems : List Json → List String
  | [] => []
  | item :: rest => render item :: renderItems rest

def renderEntries : List (String × Json) → List String
  | [] => []
  | (key, value) :: rest => (quoted key ++ ":" ++ render value) :: renderEntries rest

end

end Json

end TripComputer
