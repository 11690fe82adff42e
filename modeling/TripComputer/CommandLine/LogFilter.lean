import TripComputer.CommandLine.Pattern
import TripComputer.Text.Decimal

/-!
# Log filters

A filter is a list of directives between commas.  A directive is a level, or the name of a
target, or a name and a level with an equals sign between them; a span in brackets, with fields
in braces, may stand behind the name or in its place.
-/

namespace TripComputer.CommandLine.LogFilter

/-- Why a text is no filter. -/
inductive FilterError where
  | badDirective
  | badLevel
  /-- The pattern for the value of a field is none. -/
  | badField (error : Pattern.PatternError)
deriving DecidableEq, Repr

namespace FilterError

def message : FilterError → String
  | badDirective => "invalid filter directive"
  | badLevel =>
      "error parsing level filter: expected one of \"off\", \"error\", \"warn\", \"info\", " ++
        "\"debug\", \"trace\", or a number 0-5"
  | badField error => s!"invalid field filter: {error.message}"

end FilterError

/-- Whether a text names a level. -/
def isLevel (text : List Char) : Bool :=
  text.isEmpty ||
    ["off", "error", "warn", "info", "debug", "trace"].contains
      (String.ofList (text.map Char.toLower)) ||
    (Text.Decimal.bounded? 6 text).isSome

/-- What has been read of a directive. -/
inductive Progress where
  | start
  | name
  | span
  /-- In a field, whose text so far is given, the latest character first. -/
  | field (text : List Char)
  | fields
  /-- Behind a span, where only a level can follow. -/
  | target
  | level
deriving DecidableEq, Repr

/-- Whether a name may start with a character. -/
def startsName (character : Char) : Bool :=
  ['-', ':', '_'].contains character || Text.isAlphanumeric character

/-- The value that a field is compared with: what stands behind its first equals sign, up to the
next one. -/
def fieldValue? (field : List Char) : Option (List Char) :=
  match field.dropWhile (· != '=') with
  | _ :: value => some (value.takeWhile (· != '='))
  | [] => none

/-- Checks a field.  Its value is a number or else a pattern. -/
def checkField (field : List Char) : Except FilterError Unit :=
  match fieldValue? field with
  | none => .ok ()
  | some value =>
      if (Text.Decimal.float? value).isSome then .ok ()
      else (Pattern.check value).mapError .badField

/-- The next character of a directive.  A field takes the character `behind` it, which stands in
the same place when the blanks around the directive are counted in. -/
def advance (progress : Progress) (character behind : Char) : Except FilterError Progress :=
  match progress, character with
  | .start, '[' => .ok .span
  | .start, character => if startsName character then .ok .name else .error .badDirective
  | .name, '=' => .ok .level
  | .name, '[' => .ok .span
  | .name, _ => .ok .name
  | .span, ']' => .ok .target
  | .span, '\x7b' => .ok (.field [])
  | .span, _ => .ok .span
  | .field [], '\x7d' => .error .badDirective
  | .field text, '\x7d' => (checkField text.reverse).map fun () => .fields
  | .field text, _ => .ok (.field (behind :: text))
  | .fields, ']' => .ok .target
  | .fields, _ => .error .badDirective
  | .target, '=' => .ok .level
  | .target, _ => .error .badDirective
  | .level, _ => .ok .level

/-- Reads a directive up to its end or its level.  `behind` is what the directive holds from
the position under work on, with the blanks around it counted in. -/
def readDirective (behind : List Char) : Progress → List Char → Except FilterError Unit
  | .level, _ => if isLevel behind then .ok () else .error .badLevel
  | .name, [] | .target, [] => .ok ()
  | _, [] => .error .badDirective
  | progress, character :: rest => do
      let next ← advance progress character (behind.headD character)
      readDirective (behind.drop 1) next rest

/-- The parts of a text between commas. -/
def splitCommas : List Char → List (List Char)
  | [] => [[]]
  | ',' :: rest => [] :: splitCommas rest
  | character :: rest =>
      match splitCommas rest with
      | [] => [[character]]
      | part :: parts => (character :: part) :: parts

/-- Checks a filter; the first refusal wins.  Empty directives do not count. -/
def check (text : String) : Except FilterError Unit :=
  ((splitCommas text.toList).filter (!·.isEmpty)).forM fun directive =>
    readDirective directive .start (Text.Blank.trim directive)

end TripComputer.CommandLine.LogFilter
