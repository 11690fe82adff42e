/-!
# Columns

Text aligned within a field of fixed width.  Text wider than its field is left as it is.
-/

namespace TripComputer.Text.Column

/-- Blanks in front up to the width. -/
def right (width : Nat) (text : String) : String :=
  String.ofList (List.replicate (width - text.length) ' ') ++ text

/-- Blanks behind up to the width. -/
def left (width : Nat) (text : String) : String :=
  text ++ String.ofList (List.replicate (width - text.length) ' ')

/-- Zeros in front up to the width. -/
def zeros (width number : Nat) : String :=
  let digits := toString number
  String.ofList (List.replicate (width - digits.length) '0') ++ digits

theorem right_ofList (width : Nat) (text : List Char) :
    right width (String.ofList text) = String.ofList (text.leftpad width ' ') := by
  rw [right, String.length_ofList, List.leftpad, String.ofList_append]

theorem zeros_eq (width number : Nat) :
    zeros width number = String.ofList ((Nat.toDigits 10 number).leftpad width '0') := by
  have digits : toString number = String.ofList (Nat.toDigits 10 number) := rfl
  rw [zeros, digits, String.length_ofList, List.leftpad, String.ofList_append]

end TripComputer.Text.Column
