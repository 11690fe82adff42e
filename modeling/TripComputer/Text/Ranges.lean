/-!
# Ranges of characters

A property of characters is given by the ranges of code points that have it.
-/

namespace TripComputer.Text

/-- Whether a character lies in one of the ranges, their ends counted in. -/
def inRanges (ranges : List (Nat × Nat)) (character : Char) : Bool :=
  ranges.any fun (first, last) => first ≤ character.toNat && character.toNat ≤ last

/-- Whether ranges are in increasing order, and no two overlap or touch. -/
def areSeparated (ranges : List (Nat × Nat)) : Bool :=
  (ranges.zip ranges.tail).all fun (left, right) => left.2 + 1 < right.1

theorem inRanges_of_mem {ranges : List (Nat × Nat)} {first last : Nat} {character : Char}
    (included : (first, last) ∈ ranges) (lower : first ≤ character.toNat)
    (upper : character.toNat ≤ last) : inRanges ranges character = true :=
  List.any_eq_true.mpr ⟨_, included, by simp [lower, upper]⟩

end TripComputer.Text
