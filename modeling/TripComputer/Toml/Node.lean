/-!
# TOML documents as trees

The values of a document, with tables as their entries in order of definition.  How a table
came about decides what may still be added to it.
-/

namespace TripComputer.Toml

/-- How a table came about. -/
inductive TableKind where
  /-- Written out between braces; nothing can be added. -/
  | inline
  /-- Opened by its own header. -/
  | headed
  /-- On the way to the table of a longer header. -/
  | implied
  /-- On the way to a dotted key. -/
  | dotted
deriving DecidableEq, Repr

/-- A value of a document. -/
inductive Node where
  | string (text : String)
  | integer (value : Int)
  /-- A floating-point number, whose value no reader asks for. -/
  | float
  /-- A date, a time of day or both, which no reader asks for either. -/
  | moment
  | boolean (value : Bool)
  | array (items : List Node)
  | table (kind : TableKind) (entries : List (String × Node))
  /-- The tables of repeated array headers. -/
  | tables (elements : List (List (String × Node)))

instance : Inhabited Node := ⟨.float⟩

/-- Keys with their values, in order of definition. -/
abbrev Entries := List (String × Node)

/-- Why a text is no document. -/
inductive SyntaxError where
  | expected (what : String)
  | numberOutOfRange (text : String)
  | duplicateKey (key : String)
  | notTable (key : String)
  /-- Values, or the names of a path, nest beyond the limit. -/
  | tooDeep
deriving DecidableEq, Repr

namespace SyntaxError

def message : SyntaxError → String
  | expected what => s!"expected {what}"
  | numberOutOfRange text => s!"number {text} is out of range"
  | duplicateKey key => s!"duplicate key {key}"
  | notTable key => s!"key {key} does not name a table"
  | tooDeep => "nested too deep"

end SyntaxError

namespace Entries

/-- The value of a key. -/
def nodeAt? (entries : Entries) (key : String) : Option Node :=
  (entries.find? (·.1 == key)).map (·.2)

/-- The entries with the value of a key replaced in its place. -/
def replace (entries : Entries) (key : String) (node : Node) : Entries :=
  entries.map fun entry => if entry.1 == key then (key, node) else entry

/-- The entries without a key. -/
def remove (entries : Entries) (key : String) : Entries :=
  entries.filter (·.1 != key)

/-- Defines the key at the end of a dotted path.  A dotted path leads only through tables
that dotted paths have made, or on through implied ones. -/
def define (key : String) (node : Node) : List String → Entries → Except SyntaxError Entries
  | [], entries =>
      if (entries.nodeAt? key).isSome then .error (.duplicateKey key)
      else .ok (entries ++ [(key, node)])
  | step :: path, entries =>
      match entries.nodeAt? step with
      | none => do
          let inner ← define key node path []
          return entries ++ [(step, .table .dotted inner)]
      | some (.table kind inner) =>
          if kind = .dotted ∨ (kind = .implied ∧ !path.isEmpty) then do
            let inner ← define key node path inner
            return entries.replace step (.table kind inner)
          else .error (.duplicateKey step)
      | some (.tables elements) =>
          match path, elements.getLast? with
          | _ :: _, some last => do
              let last ← define key node path last
              return entries.replace step (.tables (elements.dropLast ++ [last]))
          | _, _ => .error (.duplicateKey step)
      | some _ => .error (.notTable step)

/-- Changes the table at the end of a header's path, making the tables on the way. -/
def within (change : Entries → Except SyntaxError Entries) :
    List String → Entries → Except SyntaxError Entries
  | [], entries => change entries
  | step :: path, entries =>
      match entries.nodeAt? step with
      | none => do
          let inner ← within change path []
          return entries ++ [(step, .table .implied inner)]
      | some (.table .inline _) => .error (.notTable step)
      | some (.table kind inner) => do
          let inner ← within change path inner
          return entries.replace step (.table kind inner)
      | some (.tables elements) => do
          let inner ← within change path (elements.getLast?.getD [])
          return entries.replace step (.tables (elements.dropLast ++ [inner]))
      | some _ => .error (.notTable step)

end Entries

end TripComputer.Toml
