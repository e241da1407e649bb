/-!
# Stretches of code points

A property of characters is given by the stretches of code points that have
it, each as its first and its last one.
-/

namespace Rover.Text

/-- Whether the code point of a character lies in one of the stretches. -/
def isWithin (stretches : List (Nat × Nat)) (character : Char) : Bool :=
  stretches.any fun stretch =>
    stretch.1 ≤ character.toNat && character.toNat ≤ stretch.2

end Rover.Text
