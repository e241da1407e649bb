import Rover.Text.Blank

/-!
# Headings and turns

The four points of the compass, with a fifth heading for a word that names
none of them, and the two quarter turns, with a third turn for a word that
names neither.  Every map on them is total: the unknown heading stays unknown
and the unknown turn turns nothing.
-/

namespace Rover

/-- A quarter turn, or a word that names none. -/
inductive Rotation where
  | left
  | right
  | unknown
  deriving DecidableEq, Repr

namespace Rotation

/-- The turn that takes a turn back. -/
def opposite : Rotation → Rotation
  | .left => .right
  | .right => .left
  | .unknown => .unknown

/-- The word for a turn. -/
def name : Rotation → String
  | .left => "LEFT"
  | .right => "RIGHT"
  | .unknown => "UNKNOWN"

/-- The turn that a word names, whatever its case and the blanks around it. -/
def parse (word : List Char) : Rotation :=
  if Text.isKeyword "LEFT" (Text.trim word) then
    .left
  else if Text.isKeyword "RIGHT" (Text.trim word) then
    .right
  else
    .unknown

@[simp]
theorem opposite_opposite (rotation : Rotation) : rotation.opposite.opposite = rotation := by
  cases rotation <;> rfl

end Rotation

/-- A point of the compass, or a word that names none. -/
inductive Direction where
  | north
  | east
  | south
  | west
  | unknown
  deriving DecidableEq, Repr

namespace Direction

/-- The points of the compass, clockwise from north. -/
def cardinals : List Direction :=
  [.north, .east, .south, .west]

/-- The direction behind. -/
def opposite : Direction → Direction
  | .north => .south
  | .east => .west
  | .south => .north
  | .west => .east
  | .unknown => .unknown

/-- The direction after a quarter turn to the right. -/
def rightward : Direction → Direction
  | .north => .east
  | .east => .south
  | .south => .west
  | .west => .north
  | .unknown => .unknown

/-- The direction after a quarter turn to the left. -/
def leftward : Direction → Direction
  | .north => .west
  | .west => .south
  | .south => .east
  | .east => .north
  | .unknown => .unknown

/-- The direction after a turn; the unknown turn changes nothing. -/
def rotate (direction : Direction) : Rotation → Direction
  | .left => direction.leftward
  | .right => direction.rightward
  | .unknown => direction

/-- Whether a direction is a point of the compass. -/
def isKnown (direction : Direction) : Bool :=
  direction != .unknown

/-- The word for a direction. -/
def name : Direction → String
  | .north => "NORTH"
  | .east => "EAST"
  | .south => "SOUTH"
  | .west => "WEST"
  | .unknown => "UNKNOWN"

/-- The direction that a word names, whatever its case and the blanks around it. -/
def parse (word : List Char) : Direction :=
  (cardinals.find? fun direction => Text.isKeyword direction.name (Text.trim word)).getD .unknown

@[simp]
theorem opposite_opposite (direction : Direction) :
    direction.opposite.opposite = direction := by
  cases direction <;> rfl

@[simp]
theorem rotate_opposite_rotate (direction : Direction) (rotation : Rotation) :
    (direction.rotate rotation).rotate rotation.opposite = direction := by
  cases direction <;> cases rotation <;> rfl

end Direction

end Rover
