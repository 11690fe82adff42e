import TripComputer.Text.Alphabetic
import TripComputer.Text.Numeric

/-!
# Letters and numbers

The characters that names are made of, in every script.
-/

namespace TripComputer.Text

def isAlphanumeric (character : Char) : Bool :=
  Alphabetic.isAlphabetic character || Numeric.isNumeric character

theorem isAlphanumeric_of_isAlphanum {character : Char}
    (alphanumeric : character.isAlphanum = true) : isAlphanumeric character = true := by
  delta Char.isAlphanum at alphanumeric
  rcases Bool.or_eq_true _ _ ▸ alphanumeric with alphabetic | digit
  · exact Bool.or_eq_true _ _ ▸ Or.inl (Alphabetic.isAlphabetic_of_isAlpha alphabetic)
  · exact Bool.or_eq_true _ _ ▸ Or.inr (Numeric.isNumeric_of_isDigit digit)

end TripComputer.Text
