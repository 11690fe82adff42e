import TripComputer.Text.Decimal
import TripComputer.Text.Hex
import TripComputer.Toml.Node

/-!
# Strings and numbers of TOML

Readers for the parts of a document below its lines.  A reader takes the characters that it
accepts from the front of a text and answers with the rest.
-/

namespace TripComputer.Toml

/-- What a reader took from the front of a text, with the rest of the text. -/
abbrev Parsed (α : Type) := α × List Char

/-- Blanks within a line. -/
def isLineBlank (character : Char) : Bool :=
  character == ' ' || character == '\t'

def skipBlanks (text : List Char) : List Char :=
  text.dropWhile isLineBlank

/-- Characters that may stand in comments and literal strings: no control characters but the
tab. -/
def isPlain (character : Char) : Bool :=
  character == '\t' || (0x20 ≤ character.toNat && character.toNat != 0x7F)

/-- The text after a line break at its front. -/
def newline? : List Char → Option (List Char)
  | '\n' :: rest => some rest
  | '\r' :: '\n' :: rest => some rest
  | _ => none

/-- The text after a comment at its front, if there is one. -/
def skipComment : List Char → List Char
  | '#' :: rest => rest.dropWhile isPlain
  | text => text

/-- The end of a line: blanks, a comment, and a line break or the end of the text. -/
def endLine (text : List Char) : Except SyntaxError (List Char) :=
  match skipComment (skipBlanks text) with
  | [] => .ok []
  | rest =>
      match newline? rest with
      | some rest => .ok rest
      | none => .error (.expected "the end of the line")

/-- The character of a one-letter escape. -/
def escaped? : Char → Option Char
  | 'b' => some '\x08'
  | 't' => some '\t'
  | 'n' => some '\n'
  | 'f' => some '\x0c'
  | 'r' => some '\r'
  | '\x22' => some '\x22'
  | '\x5c' => some '\x5c'
  | _ => none

/-- Puts a character in front of what a reader answered. -/
def prepend (character : Char) (reading : Except SyntaxError (Parsed (List Char))) :
    Except SyntaxError (Parsed (List Char)) :=
  reading.map fun (following, rest) => (character :: following, rest)

/-- The rest of a quoted string with escapes, up to its closing quote. -/
def quotedTail : List Char → Except SyntaxError (Parsed (List Char))
  | '\x22' :: rest => .ok ([], rest)
  | '\x5c' :: 'u' :: a :: b :: c :: d :: rest =>
      match Text.Hex.codePoint? [a, b, c, d] with
      | some character => prepend character (quotedTail rest)
      | none => .error (.expected "a code point")
  | '\x5c' :: 'U' :: a :: b :: c :: d :: e :: f :: g :: h :: rest =>
      match Text.Hex.codePoint? [a, b, c, d, e, f, g, h] with
      | some character => prepend character (quotedTail rest)
      | none => .error (.expected "a code point")
  | '\x5c' :: letter :: rest =>
      match escaped? letter with
      | some character => prepend character (quotedTail rest)
      | none => .error (.expected "an escape sequence")
  | character :: rest =>
      if isPlain character && character != '\x5c' then prepend character (quotedTail rest)
      else .error (.expected "a closing quote")
  | [] => .error (.expected "a closing quote")

/-- The rest of a literal string, up to its closing quote. -/
def literalTail : List Char → Except SyntaxError (Parsed (List Char))
  | '\x27' :: rest => .ok ([], rest)
  | character :: rest =>
      if isPlain character then prepend character (literalTail rest)
      else .error (.expected "a closing quote")
  | [] => .error (.expected "a closing quote")

/-- The text after the blanks and line breaks at its front. -/
def skipBlankLines : List Char → List Char
  | '\r' :: '\n' :: rest => skipBlankLines rest
  | character :: rest =>
      if isLineBlank character || character == '\n' then skipBlankLines rest
      else character :: rest
  | [] => []

/-- Number of quotes at the front of a text. -/
def leadingQuotes (quote : Char) (text : List Char) : Nat :=
  (text.takeWhile (· == quote)).length

/-- The rest of a string over several lines, up to its three closing quotes; up to two more
quotes in front of them belong to the string.  With escapes, a backslash at the end of a
line takes out the blanks and line breaks behind it. -/
def longTail (quote : Char) (escapes : Bool) :
    (budget : Nat) → List Char → Except SyntaxError (Parsed (List Char))
  | 0, _ => .error (.expected "three closing quotes")
  | budget + 1, text =>
      let quotes := leadingQuotes quote text
      if 3 ≤ quotes then
        let kept := min quotes 5 - 3
        .ok (List.replicate kept quote, text.drop (kept + 3))
      else
        match text with
        | [] => .error (.expected "three closing quotes")
        | '\r' :: '\n' :: rest => prepend '\n' (longTail quote escapes budget rest)
        | character :: rest =>
            if escapes && character == '\x5c' then
              match newline? (skipBlanks rest), rest with
              | some following, _ => longTail quote escapes budget (skipBlankLines following)
              | none, 'u' :: a :: b :: c :: d :: rest =>
                  match Text.Hex.codePoint? [a, b, c, d] with
                  | some character => prepend character (longTail quote escapes budget rest)
                  | none => .error (.expected "a code point")
              | none, 'U' :: a :: b :: c :: d :: e :: f :: g :: h :: rest =>
                  match Text.Hex.codePoint? [a, b, c, d, e, f, g, h] with
                  | some character => prepend character (longTail quote escapes budget rest)
                  | none => .error (.expected "a code point")
              | none, letter :: rest =>
                  match escaped? letter with
                  | some character => prepend character (longTail quote escapes budget rest)
                  | none => .error (.expected "an escape sequence")
              | none, [] => .error (.expected "three closing quotes")
            else if isPlain character || character == '\n' then
              prepend character (longTail quote escapes budget rest)
            else .error (.expected "three closing quotes")

/-- A string over several lines, after its three opening quotes.  A line break right behind
them does not count. -/
def longString (quote : Char) (escapes : Bool) (text : List Char) :
    Except SyntaxError (Parsed (List Char)) :=
  longTail quote escapes (text.length + 1) ((newline? text).getD text)

/-- A string value at the front of a text that starts with a quote. -/
def readString : List Char → Except SyntaxError (Parsed String)
  | '\x22' :: '\x22' :: '\x22' :: rest => asText (longString '\x22' true rest)
  | '\x27' :: '\x27' :: '\x27' :: rest => asText (longString '\x27' false rest)
  | '\x22' :: rest => asText (quotedTail rest)
  | '\x27' :: rest => asText (literalTail rest)
  | _ => .error (.expected "a string")
where
  asText (reading : Except SyntaxError (Parsed (List Char))) :
      Except SyntaxError (Parsed String) :=
    reading.map fun (characters, rest) => (String.ofList characters, rest)

/-- The digits of a number in which single underscores may stand between digits. -/
def underscored? (isDigit : Char → Bool) : List Char → Option (List Char)
  | [] => none
  | [digit] => if isDigit digit then some [digit] else none
  | digit :: '_' :: rest =>
      if isDigit digit then (underscored? isDigit rest).map (digit :: ·) else none
  | digit :: rest =>
      if isDigit digit then (underscored? isDigit rest).map (digit :: ·) else none

/-- The digits of a decimal number without leading zeros. -/
def decimalDigits? (text : List Char) : Option (List Char) :=
  match underscored? Text.Decimal.isDigit text with
  | some ('0' :: _ :: _) => none
  | digits => digits

/-- The number that digits of a base spell after the mark of the base. -/
def inBase? (base : Nat) (text : List Char) : Option Nat := do
  let digits ← underscored? (fun digit => (Text.Hex.digit? digit).any (· < base)) text
  let values ← digits.mapM Text.Hex.digit?
  return values.foldl (fun number digit => base * number + digit) 0

/-- The sign at the front of a number, as whether it is negative, and the rest. -/
def splitSign : List Char → Bool × List Char
  | '-' :: rest => (true, rest)
  | '+' :: rest => (false, rest)
  | text => (false, text)

/-- The integer that a word spells. -/
def integer? (word : List Char) : Option Int :=
  match word with
  | '0' :: 'x' :: digits => (inBase? 16 digits).map Int.ofNat
  | '0' :: 'o' :: digits => (inBase? 8 digits).map Int.ofNat
  | '0' :: 'b' :: digits => (inBase? 2 digits).map Int.ofNat
  | word =>
      let (negative, digits) := splitSign word
      (decimalDigits? digits).map fun digits =>
        let number : Int := Text.Decimal.ofDigits digits
        if negative then -number else number

/-- Whether a text is the exponent of a number. -/
def isExponent (text : List Char) : Bool :=
  match text with
  | mark :: rest =>
      (mark == 'e' || mark == 'E') &&
        (underscored? Text.Decimal.isDigit (splitSign rest).2).isSome
  | [] => false

/-- Whether a word is a floating-point number: a whole part, then decimals, an exponent or
both. -/
def isFloat (word : List Char) : Bool :=
  let unsigned := (splitSign word).2
  if unsigned = "inf".toList ∨ unsigned = "nan".toList then true
  else
    let inNumber (character : Char) : Bool := Text.Decimal.isDigit character || character == '_'
    let whole := unsigned.takeWhile inNumber
    (decimalDigits? whole).isSome &&
      match unsigned.dropWhile inNumber with
      | '.' :: rest =>
          (underscored? Text.Decimal.isDigit (rest.takeWhile inNumber)).isSome &&
            (let tail := rest.dropWhile inNumber
             tail.isEmpty || isExponent tail)
      | tail => isExponent tail

/-- Whether the number that a word spells is too large for a double. -/
def exceedsDouble (word : List Char) : Bool :=
  match Text.Decimal.float? (word.filter (· != '_')) with
  | some value => value == 1.0 / 0.0 && (splitSign word).2 != "inf".toList
  | none => false

/-- The value that a word without quotes spells. -/
def readWord (word : List Char) : Except SyntaxError Node :=
  if word = "true".toList then .ok (.boolean true)
  else if word = "false".toList then .ok (.boolean false)
  else
    match integer? word with
    | some value =>
        if -0x8000000000000000 ≤ value ∧ value < 0x8000000000000000 then .ok (.integer value)
        else .error (.numberOutOfRange (String.ofList word))
    | none =>
        if !isFloat word then .error (.expected "a value")
        else if exceedsDouble word then .error (.numberOutOfRange (String.ofList word))
        else .ok .float

end TripComputer.Toml
